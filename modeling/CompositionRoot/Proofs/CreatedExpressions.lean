import CompositionRoot.Proofs.Construction
import CompositionRoot.Proofs.Expansion

/-! What a creation looks like. The argument for a shared service is its field, and the one for a
per-request service is a constructor call with arguments of the same kind. -/
namespace CompositionRoot.ServiceGraph

variable {graph : ServiceGraph} {declared : List NodeId}

/-- The expression that stands for a service among the arguments of a constructor. -/
inductive Supplies (graph : ServiceGraph) (declared : List NodeId) :
    NodeId → Expression → Prop where
  | field {id : NodeId} {node : ServiceNode} (found : graph.node? id = some node)
      (shared : node.isShared) (mem : id ∈ declared) :
      Supplies graph declared id (.field node.fieldName)
  | inline {id : NodeId} {node : ServiceNode} {arguments : List Expression}
      (found : graph.node? id = some node) (perRequest : ¬ node.isShared)
      (supplied : List.Forall₂ (Supplies graph declared) node.dependencies arguments) :
      Supplies graph declared id (.create node.implementation arguments)

def Creates (graph : ServiceGraph) (declared : List NodeId) (node : ServiceNode)
    (value : Expression) : Prop :=
  ∃ arguments, value = .create node.implementation arguments ∧
    List.Forall₂ (graph.Supplies declared) node.dependencies arguments

theorem forall₂_of_collect {argument : NodeId → Option (Option (Except GenerationError Expression))}
    {ids : List NodeId} {values : List Expression}
    (hinside : ∀ id ∈ ids, ∃ creation, argument id = some creation)
    (h : collect (ids.filterMap argument) = some (.ok values)) :
    List.Forall₂ (fun id value => argument id = some (some (.ok value))) ids values := by
  induction ids generalizing values with
  | nil =>
    cases h
    exact .nil
  | cons id rest ih =>
    obtain ⟨creation, hargument⟩ := hinside id List.mem_cons_self
    rw [List.filterMap_cons_some hargument] at h
    cases creation with
    | none => cases h
    | some outcome =>
      cases outcome with
      | error error => cases h
      | ok value =>
        rw [collect] at h
        obtain ⟨result, hrest, hvalues⟩ := Option.map_eq_some_iff.mp h
        cases result with
        | error error => cases hvalues
        | ok others =>
          cases hvalues
          exact .cons hargument (ih (fun id hmem => hinside id (List.mem_cons_of_mem _ hmem)) hrest)

theorem argumentWithin_eq_ok {depth : Nat} {implementation : TypeIdentity} {id : NodeId}
    {value : Expression}
    (h : graph.argumentWithin declared depth implementation id = some (some (.ok value))) :
    ∃ node, graph.node? id = some node ∧
      (node.isShared ∧ id ∈ declared ∧ value = .field node.fieldName ∨
        ¬ node.isShared ∧ graph.constructWithin declared depth node = some (.ok value)) := by
  obtain ⟨node, found, hargument⟩ := Option.map_eq_some_iff.mp h
  refine ⟨node, found, ?_⟩
  split at hargument
  · next shared =>
    split at hargument
    · next mem =>
      cases hargument
      exact Or.inl ⟨shared, mem, rfl⟩
    · cases hargument
  · next perRequest => exact Or.inr ⟨perRequest, hargument⟩

theorem creates_of_constructWithin (h : graph.WellFormed) {depth : Nat} {id : NodeId}
    {node : ServiceNode} {value : Expression} (found : graph.node? id = some node)
    (hvalue : graph.constructWithin declared depth node = some (.ok value)) :
    graph.Creates declared node value := by
  induction depth generalizing id node value with
  | zero => cases hvalue
  | succ depth ih =>
    rw [constructWithin_succ] at hvalue
    obtain ⟨result, hcollect, hresult⟩ := Option.map_eq_some_iff.mp hvalue
    cases result with
    | error error => cases hresult
    | ok arguments =>
      cases hresult
      have hinside : ∀ dependency ∈ node.dependencies, ∃ creation,
          graph.argumentWithin declared depth node.implementation dependency = some creation := by
        intro dependency hmem
        obtain ⟨target, htarget, _⟩ := h.exists_dependency found hmem
        exact ⟨_, by rw [argumentWithin, htarget, Option.map_some]⟩
      refine ⟨arguments, rfl, (forall₂_of_collect hinside hcollect).imp ?_⟩
      intro dependency argument hargument
      obtain ⟨target, htarget, ⟨shared, mem, rfl⟩ | ⟨perRequest, hcreation⟩⟩ :=
        argumentWithin_eq_ok hargument
      · exact .field htarget shared mem
      · obtain ⟨inner, rfl, hinner⟩ := ih htarget hcreation
        exact .inline htarget perRequest hinner

theorem creates_of_construct (h : graph.WellFormed) {id : NodeId} {node : ServiceNode}
    {value : Expression} (found : graph.node? id = some node)
    (hvalue : graph.construct declared node = .ok value) : graph.Creates declared node value := by
  have hwithin : graph.constructWithin declared graph.size node = some (.ok value) := by
    rw [constructWithin_size h found, hvalue]
  exact creates_of_constructWithin h found hwithin

def fieldNames (graph : ServiceGraph) (ids : List NodeId) : List String :=
  (ids.filterMap graph.node?).map ServiceNode.fieldName

theorem fieldName_mem_fieldNames {ids : List NodeId} {id : NodeId} {node : ServiceNode}
    (found : graph.node? id = some node) (hmem : id ∈ ids) :
    node.fieldName ∈ graph.fieldNames ids :=
  List.mem_map_of_mem (List.mem_filterMap.mpr ⟨id, hmem, found⟩)

theorem Supplies.references_subset : ∀ {id : NodeId} {value : Expression},
    graph.Supplies declared id value → value.references ⊆ graph.fieldNames declared
  | _, _, .field found _ mem => by
    rw [Expression.references]
    exact List.cons_subset.mpr ⟨fieldName_mem_fieldNames found mem, List.nil_subset _⟩
  | _, _, .inline _ _ supplied => by
    rw [Expression.references]
    exact arguments_subset supplied
where
  arguments_subset : ∀ {ids : List NodeId} {values : List Expression},
      List.Forall₂ (graph.Supplies declared) ids values →
        values.flatMap Expression.references ⊆ graph.fieldNames declared
    | _, _, .nil => List.nil_subset _
    | _, _, .cons hhead hrest => by
      rw [List.flatMap_cons]
      exact List.append_subset.mpr ⟨hhead.references_subset, arguments_subset hrest⟩

theorem Creates.references_subset {node : ServiceNode} {value : Expression}
    (h : graph.Creates declared node value) : value.references ⊆ graph.fieldNames declared := by
  obtain ⟨arguments, rfl, supplied⟩ := h
  rw [Expression.references]
  exact Supplies.references_subset.arguments_subset supplied

end CompositionRoot.ServiceGraph
