import CompositionRoot.Graph.Basic
import CompositionRoot.Proofs.FreshIdentifier

/-! Graphs whose memo and identifiers are exactly those of their nodes. Such a graph is determined
by its nodes, so dropping the nodes of a failed resolution restores all three. -/
namespace CompositionRoot

theorem lookup_eq_some_iff_mem {α β : Type} [BEq α] [LawfulBEq α] {pairs : List (α × β)}
    (h : (pairs.map Prod.fst).Nodup) (key : α) (value : β) :
    pairs.lookup key = some value ↔ (key, value) ∈ pairs := by
  induction pairs with
  | nil => simp
  | cons pair pairs ih =>
    obtain ⟨hnew, hrest⟩ := List.nodup_cons.mp h
    rw [List.lookup_cons, List.mem_cons]
    by_cases hkey : key = pair.1
    · subst hkey
      have habsent : (pair.1, value) ∉ pairs := fun hmem =>
        hnew (List.mem_map.mpr ⟨_, hmem, rfl⟩)
      simp [habsent, Prod.ext_iff, eq_comm]
    · rw [beq_false_of_ne hkey, ih hrest]
      simp [Prod.ext_iff, hkey]

/-- A change that a function does not see leaves the function's values as they were. -/
theorem map_modify_of_eq {α β : Type} {f : α → α} {g : α → β} (h : ∀ a, g (f a) = g a)
    (l : List α) (i : Nat) : (l.modify i f).map g = l.map g := by
  induction l generalizing i with
  | nil => simp
  | cons a l ih => cases i <;> simp [h, ih]

/-- Dropping the entries with a key among `gone` drops exactly the new ones. -/
theorem filter_append_of_keys {α κ : Type} [BEq κ] [LawfulBEq κ] (key : α → κ) {gone : List κ}
    (new old : List α) (hnew : ∀ entry ∈ new, key entry ∈ gone)
    (hold : ∀ entry ∈ old, key entry ∉ gone) :
    (new ++ old).filter (fun entry => gone.all (· != key entry)) = old := by
  have hdrop : new.filter (fun entry => gone.all (· != key entry)) = [] := by
    refine List.filter_eq_nil_iff.mpr fun entry hmem hall => ?_
    have hne := List.all_eq_true.mp hall _ (hnew entry hmem)
    simp at hne
  have hkeep : old.filter (fun entry => gone.all (· != key entry)) = old := by
    refine List.filter_eq_self.mpr fun entry hmem => List.all_eq_true.mpr fun other hother => ?_
    have hne : other ≠ key entry := fun heq => hold entry hmem (heq ▸ hother)
    simpa using hne
  rw [List.filter_append, hdrop, hkeep, List.nil_append]

namespace ServiceGraph

/-- The memo and the identifiers in use are those of the nodes, newest first. No two nodes share a
requested type or an identifier. -/
structure Consistent (graph : ServiceGraph) : Prop where
  memo_eq : graph.memo = (graph.nodes.map (·.requested)).zipIdx.reverse
  identifiers_eq : graph.identifiers = (graph.nodes.map (·.identifier)).reverse
  requested_nodup : (graph.nodes.map (·.requested)).Nodup
  identifiers_nodup : (graph.nodes.map (·.identifier)).Nodup

theorem consistent_empty : ({} : ServiceGraph).Consistent :=
  ⟨rfl, rfl, List.nodup_nil, List.nodup_nil⟩

def newNode (graph : ServiceGraph) (requested implementation : TypeIdentity)
    (lifetime : Lifetime) : ServiceNode :=
  { requested, implementation, lifetime
    identifier := freshIdentifier graph.identifiers implementation.baseIdentifier }

@[simp] theorem nodes_insert (graph : ServiceGraph) (requested implementation : TypeIdentity)
    (lifetime : Lifetime) : (graph.insert requested implementation lifetime).nodes =
      graph.nodes ++ [graph.newNode requested implementation lifetime] := rfl

theorem node?_insert_of_some {graph : ServiceGraph} {id : NodeId} {node : ServiceNode}
    (h : graph.node? id = some node) (requested implementation : TypeIdentity)
    (lifetime : Lifetime) :
    (graph.insert requested implementation lifetime).node? id = some node := by
  rw [node?, nodes_insert, List.getElem?_append_left (lt_size_of_node? h)]
  exact h

@[simp] theorem node?_insert_size (graph : ServiceGraph) (requested implementation : TypeIdentity)
    (lifetime : Lifetime) : (graph.insert requested implementation lifetime).node? graph.size =
      some (graph.newNode requested implementation lifetime) := by
  simp [node?, size]

theorem node?_insert_cases {graph : ServiceGraph} {requested implementation : TypeIdentity}
    {lifetime : Lifetime} {id : NodeId} {node : ServiceNode}
    (h : (graph.insert requested implementation lifetime).node? id = some node) :
    graph.node? id = some node ∨
      id = graph.size ∧ node = graph.newNode requested implementation lifetime := by
  rcases Nat.lt_trichotomy id graph.size with hlt | rfl | hgt
  · rw [node?, nodes_insert, List.getElem?_append_left hlt] at h
    exact Or.inl h
  · rw [node?_insert_size] at h
    exact Or.inr ⟨rfl, (Option.some.inj h).symm⟩
  · have hlt := lt_size_of_node? h
    simp only [size, nodes_insert, List.length_append, List.length_singleton] at hlt hgt
    exact absurd hlt (Nat.not_lt.mpr hgt)

@[simp] theorem map_requested_setDependencies (graph : ServiceGraph) (id : NodeId)
    (dependencies : List NodeId) :
    (graph.setDependencies id dependencies).nodes.map (·.requested) =
      graph.nodes.map (·.requested) := by
  apply map_modify_of_eq
  intro node
  rfl

@[simp] theorem map_identifier_setDependencies (graph : ServiceGraph) (id : NodeId)
    (dependencies : List NodeId) :
    (graph.setDependencies id dependencies).nodes.map (·.identifier) =
      graph.nodes.map (·.identifier) := by
  apply map_modify_of_eq
  intro node
  rfl

/-- The nodes after a change of dependencies are the old ones, one of them changed. -/
theorem node?_setDependencies_cases {graph : ServiceGraph} {id other : NodeId}
    {dependencies : List NodeId} {node : ServiceNode}
    (h : (graph.setDependencies id dependencies).node? other = some node) :
    ∃ old, graph.node? other = some old ∧
      node = if id = other then { old with dependencies } else old := by
  rw [node?, setDependencies, List.getElem?_modify, Option.map_eq_map,
    Option.map_eq_some_iff] at h
  obtain ⟨old, hold, rfl⟩ := h
  exact ⟨old, hold, rfl⟩

theorem nodes_setDependencies_of_append {graph later : ServiceGraph} {node : ServiceNode}
    {rest : List ServiceNode} (h : later.nodes = graph.nodes ++ node :: rest)
    (dependencies : List NodeId) : (later.setDependencies graph.size dependencies).nodes =
      graph.nodes ++ { node with dependencies } :: rest := by
  have hlt : graph.nodes.length < (graph.nodes ++ node :: rest).length := by simp
  simp [setDependencies, size, h, List.modify_eq_take_cons_drop hlt]

namespace Consistent

variable {graph later : ServiceGraph}

/-- The nodes of a consistent graph determine it. -/
theorem eq_of_nodes_eq (h : graph.Consistent) (h' : later.Consistent)
    (hnodes : later.nodes = graph.nodes) : later = graph := by
  have hmemo : later.memo = graph.memo := by rw [h.memo_eq, h'.memo_eq, hnodes]
  have hidentifiers : later.identifiers = graph.identifiers := by
    rw [h.identifiers_eq, h'.identifiers_eq, hnodes]
  cases graph
  cases later
  simp_all

theorem nodeId?_eq_some_iff (h : graph.Consistent) {type : TypeIdentity} {id : NodeId} :
    graph.nodeId? type = some id ↔ ∃ node, graph.node? id = some node ∧ node.requested = type := by
  have hkeys : (graph.memo.map Prod.fst).Nodup := by
    rw [h.memo_eq, List.map_reverse, List.zipIdx_map_fst]
    exact List.nodup_reverse.mpr h.requested_nodup
  rw [nodeId?, lookup_eq_some_iff_mem hkeys, h.memo_eq, List.mem_reverse,
    List.mk_mem_zipIdx_iff_getElem?, List.getElem?_map, Option.map_eq_some_iff, node?]

theorem eq_of_requested_eq (h : graph.Consistent) {id other : NodeId}
    {node otherNode : ServiceNode} (hnode : graph.node? id = some node)
    (hother : graph.node? other = some otherNode) (heq : node.requested = otherNode.requested) :
    id = other := by
  have hid := h.nodeId?_eq_some_iff.mpr ⟨node, hnode, heq⟩
  have hotherId := h.nodeId?_eq_some_iff.mpr ⟨otherNode, hother, rfl⟩
  exact Option.some.inj (hid.symm.trans hotherId)

theorem nodeId?_eq_none_iff (h : graph.Consistent) {type : TypeIdentity} :
    graph.nodeId? type = none ↔ type ∉ graph.nodes.map (·.requested) := by
  rw [Option.eq_none_iff_forall_ne_some]
  constructor
  · intro habsent hmem
    obtain ⟨node, hnode, rfl⟩ := List.mem_map.mp hmem
    obtain ⟨id, hid⟩ := List.mem_iff_getElem?.mp hnode
    exact habsent id (h.nodeId?_eq_some_iff.mpr ⟨node, hid, rfl⟩)
  · intro habsent id hid
    obtain ⟨node, hnode, rfl⟩ := h.nodeId?_eq_some_iff.mp hid
    exact habsent (List.mem_map_of_mem (List.mem_of_getElem? hnode))

theorem mem_requested_iff (h : graph.Consistent) {type : TypeIdentity} :
    type ∈ graph.nodes.map (·.requested) ↔ ∃ id, graph.nodeId? type = some id := by
  rw [← Option.ne_none_iff_exists', ne_eq, h.nodeId?_eq_none_iff, not_not]

theorem insert (h : graph.Consistent) {requested : TypeIdentity}
    (hnew : graph.nodeId? requested = none) (implementation : TypeIdentity)
    (lifetime : Lifetime) : (graph.insert requested implementation lifetime).Consistent := by
  have hrequested := h.nodeId?_eq_none_iff.mp hnew
  have hfresh := freshIdentifier_notMem graph.identifiers implementation.baseIdentifier
  rw [h.identifiers_eq, List.mem_reverse] at hfresh
  constructor
  · simp [ServiceGraph.insert, h.memo_eq, List.zipIdx_append, size]
  · simp [ServiceGraph.insert, h.identifiers_eq]
  · rw [nodes_insert, List.map_append]
    exact List.nodup_append'.mpr ⟨h.requested_nodup, List.nodup_singleton _,
      List.disjoint_singleton.mpr hrequested⟩
  · rw [nodes_insert, List.map_append]
    refine List.nodup_append'.mpr ⟨h.identifiers_nodup, List.nodup_singleton _,
      List.disjoint_singleton.mpr ?_⟩
    rw [newNode, h.identifiers_eq]
    exact hfresh

/-- Dependencies are no part of what the memo and the identifiers record. -/
theorem setDependencies (h : graph.Consistent) (id : NodeId) (dependencies : List NodeId) :
    (graph.setDependencies id dependencies).Consistent where
  memo_eq := by rw [map_requested_setDependencies]; exact h.memo_eq
  identifiers_eq := by rw [map_identifier_setDependencies]; exact h.identifiers_eq
  requested_nodup := by rw [map_requested_setDependencies]; exact h.requested_nodup
  identifiers_nodup := by rw [map_identifier_setDependencies]; exact h.identifiers_nodup

/-- Dropping the last nodes drops what is recorded of them and nothing else. -/
theorem truncate (h : graph.Consistent) (id : NodeId) : (graph.truncate id).Consistent := by
  let kept := graph.nodes.take id
  let dropped := graph.nodes.drop id
  have hnodes : graph.nodes = kept ++ dropped := (List.take_append_drop id graph.nodes).symm
  have hrequested := h.requested_nodup
  have hidentifiers := h.identifiers_nodup
  rw [hnodes, List.map_append, List.nodup_append'] at hrequested hidentifiers
  refine ⟨?_, ?_, hrequested.1, hidentifiers.1⟩
  · have hmemo : graph.memo = ((dropped.map (·.requested)).zipIdx kept.length).reverse ++
        (kept.map (·.requested)).zipIdx.reverse := by
      rw [h.memo_eq, hnodes]
      simp [List.zipIdx_append]
    have hfilter := filter_append_of_keys Prod.fst
      ((dropped.map (·.requested)).zipIdx kept.length).reverse
      (kept.map (·.requested)).zipIdx.reverse
      (fun entry hmem => List.fst_mem_of_mem_zipIdx (List.mem_reverse.mp hmem))
      (fun entry hmem => hrequested.2.2 (List.fst_mem_of_mem_zipIdx (List.mem_reverse.mp hmem)))
    rw [← hmemo] at hfilter
    simp only [List.all_map, Function.comp_def] at hfilter
    exact hfilter
  · have hused : graph.identifiers =
        (dropped.map (·.identifier)).reverse ++ (kept.map (·.identifier)).reverse := by
      rw [h.identifiers_eq, hnodes]
      simp
    have hfilter := filter_append_of_keys (fun name => name)
      (dropped.map (·.identifier)).reverse (kept.map (·.identifier)).reverse
      (fun entry hmem => List.mem_reverse.mp hmem)
      (fun entry hmem => hidentifiers.2.2 (List.mem_reverse.mp hmem))
    rw [← hused] at hfilter
    simp only [List.all_map, Function.comp_def] at hfilter
    exact hfilter

theorem truncate_eq (h : graph.Consistent) (h' : later.Consistent)
    (hextends : graph.nodes <+: later.nodes) : later.truncate graph.size = graph := by
  refine h.eq_of_nodes_eq (h'.truncate graph.size) ?_
  exact (List.prefix_iff_eq_take.mp hextends).symm

end Consistent

end ServiceGraph

end CompositionRoot
