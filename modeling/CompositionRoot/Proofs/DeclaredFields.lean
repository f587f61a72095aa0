import CompositionRoot.Proofs.CreatedExpressions
import CompositionRoot.Proofs.Emission

/-! What a class declares. The fields follow the shared nodes of the order, each created from those
before it, and the tests follow all its nodes. -/
namespace CompositionRoot

theorem nodup_eraseDups : ∀ l : List NodeId, l.eraseDups.Nodup
  | [] => by simp
  | id :: rest => by
    rw [List.eraseDups_cons, List.nodup_cons, List.mem_eraseDups]
    exact ⟨by simp, nodup_eraseDups (rest.filter fun other => !other == id)⟩
termination_by l => l.length
decreasing_by exact Nat.lt_succ_of_le (List.length_filter_le _ _)

namespace ServiceGraph

variable {graph : ServiceGraph} {declared ids order : List NodeId} {fields : List Field}

/-- The fields of some nodes in order. The initial value of each is created from the fields
declared before it. -/
inductive Declares (graph : ServiceGraph) : List NodeId → List NodeId → List Field → Prop where
  | nil {declared : List NodeId} : Declares graph declared [] []
  | cons {declared ids : List NodeId} {id : NodeId} {node : ServiceNode} {initializer : Expression}
      {fields : List Field} (found : graph.node? id = some node) (new : id ∉ declared)
      (created : graph.Creates declared node initializer)
      (rest : Declares graph (declared ++ [id]) ids fields) :
      Declares graph declared (id :: ids)
        (⟨node.requested, node.fieldName, initializer⟩ :: fields)

theorem declares_of_fieldsAfter (h : graph.WellFormed) {all : List NodeId}
    (hok : graph.fieldsAfter declared order = .ok (fields, all)) :
    ∃ ids, all = declared ++ ids ∧ graph.Declares declared ids fields := by
  induction order generalizing declared fields with
  | nil =>
    cases hok
    exact ⟨[], (List.append_nil _).symm, .nil⟩
  | cons id order ih =>
    by_cases hold : (∃ node, graph.node? id = some node ∧ node.isShared) → id ∈ declared
    · rw [fieldsAfter_cons_of_old hold] at hok
      exact ih hok
    · obtain ⟨⟨node, found, shared⟩, hnew⟩ := Classical.not_imp.mp hold
      rw [fieldsAfter_cons_of_new found shared hnew] at hok
      cases hconstruct : graph.construct declared node with
      | error error =>
        rw [hconstruct] at hok
        cases hok
      | ok initializer =>
        rw [hconstruct] at hok
        obtain ⟨⟨rest, _⟩, hrest, hvalue⟩ := map_eq_ok_iff.mp hok
        cases hvalue
        obtain ⟨ids, hall, hdeclares⟩ := ih hrest
        refine ⟨id :: ids, ?_, .cons found hnew (creates_of_construct h found hconstruct) hdeclares⟩
        rw [hall, List.append_assoc, List.singleton_append]

namespace Declares

theorem map_name (h : graph.Declares declared ids fields) :
    fields.map Field.name = graph.fieldNames ids := by
  induction h with
  | nil => rfl
  | cons found _ _ _ ih =>
    rw [List.map_cons, ih, fieldNames, fieldNames, List.filterMap_cons_some found, List.map_cons]

theorem nodup (h : graph.Declares declared ids fields) :
    ids.Nodup ∧ ∀ id ∈ ids, id ∉ declared := by
  induction h with
  | nil => simp
  | cons _ new _ _ ih =>
    obtain ⟨hnodup, hnew⟩ := ih
    simp only [List.mem_append, List.mem_singleton, not_or] at hnew
    refine ⟨List.nodup_cons.mpr ⟨fun hmem => (hnew _ hmem).2 rfl, hnodup⟩, ?_⟩
    exact List.forall_mem_cons.mpr ⟨new, fun other hmem => (hnew other hmem).1⟩

theorem exists_field (h : graph.Declares declared ids fields) {id : NodeId} (hmem : id ∈ ids) :
    ∃ node initializer before, graph.node? id = some node ∧
      ⟨node.requested, node.fieldName, initializer⟩ ∈ fields ∧ before ⊆ declared ++ ids ∧
      graph.Creates before node initializer := by
  induction h with
  | nil => cases hmem
  | @cons declared ids first node initializer fields found _ created _ ih =>
    rcases List.mem_cons.mp hmem with rfl | hmem
    · exact ⟨node, initializer, declared, found, List.mem_cons_self,
        List.subset_append_left _ _, created⟩
    · obtain ⟨other, value, before, hother, hfield, hbefore, hcreates⟩ := ih hmem
      refine ⟨other, value, before, hother, List.mem_cons_of_mem _ hfield, ?_, hcreates⟩
      rwa [List.append_assoc, List.singleton_append] at hbefore

theorem references_earlier (h : graph.Declares declared ids fields) {earlier later : List Field}
    {field : Field} (hsplit : fields = earlier ++ field :: later) :
    field.initializer.references ⊆ graph.fieldNames declared ++ earlier.map Field.name := by
  induction h generalizing earlier with
  | nil => simp at hsplit
  | @cons declared ids id node initializer fields found _ created _ ih =>
    cases earlier with
    | nil =>
      obtain ⟨rfl, _⟩ := List.cons.inj hsplit
      rw [List.map_nil, List.append_nil]
      exact created.references_subset
    | cons first earlier =>
      obtain ⟨rfl, hrest⟩ := List.cons.inj hsplit
      have hnames : graph.fieldNames (declared ++ [id]) =
          graph.fieldNames declared ++ [node.fieldName] := by
        simp [fieldNames, found]
      have hsubset := ih hrest
      rw [hnames, List.append_assoc, List.singleton_append] at hsubset
      exact hsubset

end Declares

theorem forall₂_of_branches {tests : List (TypeIdentity × Expression)}
    (hok : graph.branches declared order = .ok tests) :
    List.Forall₂ (fun node test => node.requested = test.1 ∧
      graph.instanceOf declared node = .ok test.2) (order.filterMap graph.node?) tests := by
  induction order generalizing tests with
  | nil =>
    cases hok
    exact .nil
  | cons id order ih =>
    rw [branches] at hok
    cases found : graph.node? id with
    | none =>
      rw [found] at hok
      rw [List.filterMap_cons_none found]
      exact ih hok
    | some node =>
      rw [found] at hok
      rw [List.filterMap_cons_some found]
      dsimp only at hok
      cases hinstance : graph.instanceOf declared node with
      | error error =>
        rw [hinstance] at hok
        cases hok
      | ok value =>
        rw [hinstance] at hok
        obtain ⟨others, hrest, rfl⟩ := map_eq_ok_iff.mp hok
        exact .cons ⟨rfl, hinstance⟩ (ih hrest)

theorem types_of_branches {tests : List (TypeIdentity × Expression)}
    (hok : graph.branches declared order = .ok tests) :
    tests.map Prod.fst = (order.filterMap graph.node?).map ServiceNode.requested := by
  rw [← List.forall₂_eq_eq_eq, List.forall₂_map_left_iff, List.forall₂_map_right_iff]
  exact (forall₂_of_branches hok).flip.imp fun _ _ htest => htest.1.symm

theorem exists_test_of_branches {tests : List (TypeIdentity × Expression)}
    (hok : graph.branches declared order.eraseDups = .ok tests) {id : NodeId} {node : ServiceNode}
    (hmem : id ∈ order) (found : graph.node? id = some node) :
    ∃ value, (node.requested, value) ∈ tests ∧ graph.instanceOf declared node = .ok value := by
  have hnode : node ∈ order.eraseDups.filterMap graph.node? :=
    List.mem_filterMap.mpr ⟨id, List.mem_eraseDups.mpr hmem, found⟩
  obtain ⟨⟨type, value⟩, htest, rfl, hvalue⟩ :=
    exists_mem_of_forall₂ (forall₂_of_branches hok) hnode
  exact ⟨value, htest, hvalue⟩

theorem instanceOf_cases (h : graph.WellFormed) {id : NodeId} {node : ServiceNode}
    {value : Expression} (found : graph.node? id = some node)
    (hok : graph.instanceOf declared node = .ok value) :
    node.isShared ∧ value = .field node.fieldName ∨
      ¬ node.isShared ∧ graph.Creates declared node value := by
  unfold instanceOf at hok
  split at hok
  · next shared =>
    cases hok
    exact Or.inl ⟨shared, rfl⟩
  · next perRequest => exact Or.inr ⟨perRequest, creates_of_construct h found hok⟩

/-- What tells the nodes of a graph apart has no repetitions among the nodes of different ids. -/
theorem nodup_map_filterMap {β : Type} {f : ServiceNode → β}
    (hf : ∀ id other node otherNode, graph.node? id = some node →
      graph.node? other = some otherNode → f node = f otherNode → id = other)
    (hids : ids.Nodup) : ((ids.filterMap graph.node?).map f).Nodup := by
  rw [List.map_filterMap]
  refine hids.filterMap fun id other b hb hother => ?_
  obtain ⟨node, hnode, rfl⟩ := Option.map_eq_some_iff.mp hb
  obtain ⟨otherNode, hotherNode, heq⟩ := Option.map_eq_some_iff.mp hother
  exact hf id other node otherNode hnode hotherNode heq.symm

def Initialized (graph : ServiceGraph) (fields : List Field) (all : List NodeId) : Prop :=
  ∀ id ∈ all, ∃ node initializer before, graph.node? id = some node ∧
    initializer? fields node.fieldName = some initializer ∧ before ⊆ all ∧
    graph.Creates before node initializer

theorem Declares.initialized (h : graph.Declares [] ids fields)
    (hnames : (fields.map Field.name).Nodup) : graph.Initialized fields ids := by
  intro id hmem
  obtain ⟨node, initializer, before, found, hfield, hbefore, hcreates⟩ := h.exists_field hmem
  exact ⟨node, initializer, before, found, initializer?_of_mem hnames hfield, hbefore, hcreates⟩

end ServiceGraph

end CompositionRoot
