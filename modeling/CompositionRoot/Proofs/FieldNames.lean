import CompositionRoot.Proofs.GraphConsistency
import CompositionRoot.Proofs.IdentifierCharacters
import CompositionRoot.Proofs.ResolutionRules
import CompositionRoot.ServicesClass.Construction

/-! Names of fields. Each node has the first name for its implementation that no node before it
has. The escape sign of reserved words occurs in none of these names, so escaping keeps names apart
and a field name belongs to one node. -/
namespace CompositionRoot

/-- An identifier has no character that cannot stand in one, but for a space that was not dropped
and the dot of a dotted capital. -/
theorem notMem_baseIdentifier {c : Char} (hchar : ¬ isIdentifierChar c)
    (hother : c ∉ [' ', '\u0307']) (type : TypeIdentity) : c ∉ type.baseIdentifier.toList := by
  rw [TypeIdentity.baseIdentifier, String.toList_ofList]
  intro hmem
  rcases mem_identifierOf_cases hmem with hkept | rfl | ⟨_, rfl⟩
  · exact hchar hkept
  · exact hother (by simp)
  · exact hother (by simp)

theorem freshIdentifier_cases (taken : List String) (base : String) :
    freshIdentifier taken base = base ∨ ∃ k, freshIdentifier taken base = numbered base k := by
  have hfirst := firstFree_freshIdentifier taken base
  generalize freshIdentifier taken base = name at hfirst ⊢
  cases hfirst with
  | base => exact Or.inl rfl
  | @numbered k => exact Or.inr ⟨k, rfl⟩

theorem notMem_freshIdentifier {c : Char} (hchar : ¬ isIdentifierChar c) (taken : List String)
    {base : String} (h : c ∉ base.toList) : c ∉ (freshIdentifier taken base).toList := by
  rcases freshIdentifier_cases taken base with heq | ⟨k, heq⟩
  · rw [heq]
    exact h
  · rw [heq, numbered, String.toList_append, List.mem_append, not_or]
    refine ⟨h, fun hmem => hchar ?_⟩
    rw [Nat.toString_eq_repr, Nat.toList_repr] at hmem
    have hdigit := Nat.isDigit_of_mem_toDigits (by decide) (by decide) hmem
    simp [isIdentifierChar, hdigit]

namespace ServiceGraph

/-- The identifier of each node is the one that was free for it when the nodes before it had
theirs. -/
structure Named (graph : ServiceGraph) : Prop extends graph.Consistent where
  identifier_eq : ∀ id node, graph.node? id = some node → node.identifier =
    freshIdentifier ((graph.nodes.take id).map (·.identifier)).reverse
      node.implementation.baseIdentifier

variable {graph : ServiceGraph}

/-- Resolution inserts, completes and drops nodes, and each of these keeps the names right. -/
theorem graphClosed_named : Builder.GraphClosed Named where
  insert graph type implementation lifetime hnew h := by
    refine ⟨h.toConsistent.insert hnew implementation lifetime, fun id node hnode => ?_⟩
    rcases node?_insert_cases hnode with hold | ⟨rfl, rfl⟩
    · rw [nodes_insert, List.take_append_of_le_length (Nat.le_of_lt (lt_size_of_node? hold))]
      exact h.identifier_eq id node hold
    · rw [nodes_insert, size, List.take_left, ← h.identifiers_eq]
      rfl
  setDependencies graph id dependencies h := by
    refine ⟨h.toConsistent.setDependencies id dependencies, fun other node hnode => ?_⟩
    obtain ⟨old, hold, rfl⟩ := node?_setDependencies_cases hnode
    have hname := h.identifier_eq other old hold
    rw [List.map_take, map_identifier_setDependencies, ← List.map_take]
    split <;> exact hname
  truncate graph id h := by
    refine ⟨h.toConsistent.truncate id, fun other node hnode => ?_⟩
    rw [node?, ServiceGraph.truncate, List.getElem?_take] at hnode
    split at hnode
    · next hlt =>
      rw [ServiceGraph.truncate, List.take_take, Nat.min_eq_left (Nat.le_of_lt hlt)]
      exact h.identifier_eq other node hnode
    · cases hnode

theorem Named.notMem_identifier (h : graph.Named) {c : Char} (hchar : ¬ isIdentifierChar c)
    (hother : c ∉ [' ', '\u0307']) {id : NodeId} {node : ServiceNode}
    (hnode : graph.node? id = some node) : c ∉ node.identifier.toList := by
  rw [h.identifier_eq id node hnode]
  exact notMem_freshIdentifier hchar _ (notMem_baseIdentifier hchar hother _)

theorem Named.at_notMem_identifier (h : graph.Named) {id : NodeId} {node : ServiceNode}
    (hnode : graph.node? id = some node) : '@' ∉ node.identifier.toList :=
  h.notMem_identifier (by decide +kernel) (by decide) hnode

end ServiceGraph

def withoutEscape (name : String) : List Char :=
  match name.toList with
  | '@' :: rest => rest
  | chars => chars

theorem withoutEscape_of_notMem {name : String} (h : '@' ∉ name.toList) :
    withoutEscape name = name.toList := by
  unfold withoutEscape
  split
  · next hchars => simp [hchars] at h
  · rfl

theorem mem_withoutEscape_iff {c : Char} (hc : c ≠ '@') {name : String} :
    c ∈ withoutEscape name ↔ c ∈ name.toList := by
  unfold withoutEscape
  split
  · next hchars => simp [hchars, hc]
  · rfl

theorem withoutEscape_escaped (name : String) : withoutEscape ("@" ++ name) = name.toList := by
  have hchars : ("@" ++ name).toList = '@' :: name.toList := String.toList_append
  simp only [withoutEscape, hchars]

theorem ServiceNode.withoutEscape_fieldName {node : ServiceNode}
    (h : '@' ∉ node.identifier.toList) :
    withoutEscape node.fieldName = node.identifier.toList := by
  unfold fieldName
  split
  · exact withoutEscape_escaped node.identifier
  · exact withoutEscape_of_notMem h

theorem ServiceNode.identifier_eq_of_fieldName_eq {node other : ServiceNode}
    (hnode : '@' ∉ node.identifier.toList) (hother : '@' ∉ other.identifier.toList)
    (h : node.fieldName = other.fieldName) : node.identifier = other.identifier := by
  have h := congrArg withoutEscape h
  rw [withoutEscape_fieldName hnode, withoutEscape_fieldName hother] at h
  exact String.toList_inj.mp h

theorem ServiceGraph.Consistent.eq_of_identifier_eq {graph : ServiceGraph} (h : graph.Consistent)
    {id other : NodeId} {node otherNode : ServiceNode} (hnode : graph.node? id = some node)
    (hother : graph.node? other = some otherNode) (heq : node.identifier = otherNode.identifier) :
    id = other := by
  have hlt : id < (graph.nodes.map (·.identifier)).length := by
    rw [List.length_map]
    exact lt_size_of_node? hnode
  refine (List.getElem?_inj hlt h.identifiers_nodup).mp ?_
  rw [node?] at hnode hother
  rw [List.getElem?_map, List.getElem?_map, hnode, hother, Option.map_some, Option.map_some, heq]

theorem ServiceGraph.Named.eq_of_fieldName_eq {graph : ServiceGraph} (h : graph.Named)
    {id other : NodeId} {node otherNode : ServiceNode} (hnode : graph.node? id = some node)
    (hother : graph.node? other = some otherNode) (heq : node.fieldName = otherNode.fieldName) :
    id = other :=
  h.eq_of_identifier_eq hnode hother (ServiceNode.identifier_eq_of_fieldName_eq
    (h.at_notMem_identifier hnode) (h.at_notMem_identifier hother) heq)

theorem ServiceGraph.named_empty : ({} : ServiceGraph).Named :=
  ⟨consistent_empty, by simp [node?]⟩

theorem named_of_resolve {κ : Type} [TypeCatalog κ] {catalog : κ} {requests : List TypeIdentity}
    {graph : ServiceGraph} (h : ServiceGraph.resolve catalog requests = .ok graph) :
    graph.Named :=
  ServiceGraph.graphClosed_named.of_resolve ServiceGraph.named_empty h

end CompositionRoot
