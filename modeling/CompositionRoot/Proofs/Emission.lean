import CompositionRoot.Proofs.Construction
import CompositionRoot.Proofs.GreedyOrder
import CompositionRoot.Synthesis

/-! Declaration of services in a given order. The fields that are declared are those of the shared
nodes seen so far, so a class is emitted exactly if every field is listed before it is needed. -/
namespace CompositionRoot.ServiceGraph

variable {graph : ServiceGraph}

def DeclaredFrom (graph : ServiceGraph) (seen declared : List NodeId) : Prop :=
  ∀ id, id ∈ declared ↔ id ∈ seen ∧ ∃ node, graph.node? id = some node ∧ node.isShared

namespace DeclaredFrom

variable {seen declared : List NodeId}

theorem nil : graph.DeclaredFrom [] [] := by
  intro id
  simp

theorem declare (h : graph.DeclaredFrom seen declared) {id : NodeId}
    (hshared : ∃ node, graph.node? id = some node ∧ node.isShared) :
    graph.DeclaredFrom (id :: seen) (declared ++ [id]) := by
  intro other
  rw [List.mem_append, List.mem_singleton, List.mem_cons, h other]
  constructor
  · rintro (⟨hseen, hother⟩ | rfl)
    · exact ⟨Or.inr hseen, hother⟩
    · exact ⟨Or.inl rfl, hshared⟩
  · rintro ⟨rfl | hseen, hother⟩
    · exact Or.inr rfl
    · exact Or.inl ⟨hseen, hother⟩

theorem skip (h : graph.DeclaredFrom seen declared) (id : NodeId)
    (hskip : (∃ node, graph.node? id = some node ∧ node.isShared) → id ∈ declared) :
    graph.DeclaredFrom (id :: seen) declared := by
  intro other
  rw [List.mem_cons, h other]
  constructor
  · exact fun ⟨hseen, hother⟩ => ⟨Or.inr hseen, hother⟩
  · rintro ⟨rfl | hseen, hother⟩
    · exact (h other).mp (hskip hother)
    · exact ⟨hseen, hother⟩

/-- Only shared services have fields that are read, so those seen are declared. -/
theorem forall_requires_iff (h : graph.DeclaredFrom seen declared) {node : ServiceNode} :
    (∀ field, graph.Requires node field → field ∈ declared) ↔
      ∀ field, graph.Requires node field → field ∈ seen := by
  refine forall₂_congr fun field ⟨_, _, hreads⟩ => ?_
  rw [h field]
  exact and_iff_left hreads.exists_shared

end DeclaredFrom

theorem fieldsAfter_cons_of_old {declared order : List NodeId} {id : NodeId}
    (hold : (∃ node, graph.node? id = some node ∧ node.isShared) → id ∈ declared) :
    graph.fieldsAfter declared (id :: order) = graph.fieldsAfter declared order := by
  rw [fieldsAfter]
  cases found : graph.node? id with
  | none => rfl
  | some node => exact if_neg fun ⟨shared, hnew⟩ => hnew (hold ⟨node, found, shared⟩)

theorem fieldsAfter_cons_of_new {declared order : List NodeId} {id : NodeId} {node : ServiceNode}
    (found : graph.node? id = some node) (shared : node.isShared) (hnew : id ∉ declared) :
    graph.fieldsAfter declared (id :: order) =
      match graph.construct declared node with
      | .error error => .error error
      | .ok initializer =>
        (graph.fieldsAfter (declared ++ [id]) order).map fun (fields, all) =>
          (⟨node.requested, node.fieldName, initializer⟩ :: fields, all) := by
  rw [fieldsAfter, found]
  exact if_pos ⟨shared, hnew⟩

theorem declaredFrom_of_fieldsAfter {seen declared order all : List NodeId} {fields : List Field}
    (h : graph.DeclaredFrom seen declared)
    (hok : graph.fieldsAfter declared order = .ok (fields, all)) :
    graph.DeclaredFrom (order.reverse ++ seen) all := by
  induction order generalizing seen declared fields with
  | nil =>
    cases hok
    exact h
  | cons id order ih =>
    rw [List.reverse_cons, List.append_assoc, List.singleton_append]
    by_cases hold : (∃ node, graph.node? id = some node ∧ node.isShared) → id ∈ declared
    · rw [fieldsAfter_cons_of_old hold] at hok
      exact ih (h.skip id hold) hok
    · obtain ⟨⟨node, found, shared⟩, hnew⟩ := Classical.not_imp.mp hold
      rw [fieldsAfter_cons_of_new found shared hnew] at hok
      split at hok
      · cases hok
      · cases hrest : graph.fieldsAfter (declared ++ [id]) order with
        | error error => simp [hrest, Except.map] at hok
        | ok result =>
          rw [hrest] at hok
          cases hok
          exact ih (h.declare ⟨node, found, shared⟩) hrest

theorem declaredFrom_order {order all : List NodeId} {fields : List Field}
    (hok : graph.fieldsAfter [] order = .ok (fields, all)) : graph.DeclaredFrom order all := by
  intro id
  have hreversed := declaredFrom_of_fieldsAfter .nil hok id
  rwa [List.append_nil, List.mem_reverse] at hreversed

/-- The fields can be declared exactly if each node comes after those for which it waits. -/
theorem isOk_fieldsAfter_iff (hgraph : graph.WellFormed) {seen declared order : List NodeId}
    (h : graph.DeclaredFrom seen declared) :
    (graph.fieldsAfter declared order).isOk ↔ graph.FieldsFirst seen order := by
  induction order generalizing seen declared with
  | nil => simp [fieldsAfter, FieldsFirst]
  | cons id order ih =>
    rw [FieldsFirst]
    by_cases hold : (∃ node, graph.node? id = some node ∧ node.isShared) → id ∈ declared
    · rw [fieldsAfter_cons_of_old hold, ih (h.skip id hold)]
      refine (and_iff_right fun hunseen => ?_).symm
      have hunshared : ¬ ∃ node, graph.node? id = some node ∧ node.isShared :=
        fun hnode => hunseen ((h id).mp (hold hnode)).1
      simp [waitsFor_eq_nil hunshared]
    · obtain ⟨⟨node, found, shared⟩, hnew⟩ := Classical.not_imp.mp hold
      have hunseen : id ∉ seen := fun hseen => hnew ((h id).mpr ⟨hseen, node, found, shared⟩)
      have hwaits : (∀ field ∈ graph.waitsFor id, field ∈ seen) ↔
          (graph.construct declared node).isOk := by
        rw [isOk_construct_iff hgraph found, h.forall_requires_iff]
        simp only [mem_waitsFor_iff found, shared, true_and]
      rw [fieldsAfter_cons_of_new found shared hnew, ← ih (h.declare ⟨node, found, shared⟩), hwaits]
      cases graph.construct declared node <;> simp [hunseen]

/-- The tests can be written exactly if what per-request services require is declared. -/
theorem isOk_branches_iff (hgraph : graph.WellFormed) {declared order : List NodeId} :
    (graph.branches declared order).isOk ↔
      ∀ id ∈ order, ∀ node, graph.node? id = some node → ¬ node.isShared →
        ∀ field, graph.Requires node field → field ∈ declared := by
  induction order with
  | nil => simp [branches]
  | cons id order ih =>
    rw [List.forall_mem_cons, ← ih, branches]
    cases found : graph.node? id with
    | none => simp
    | some node =>
      by_cases shared : node.isShared
      · simp [instanceOf, shared]
      · have hconstruct : (graph.construct declared node).isOk ↔ _ :=
          isOk_construct_iff hgraph found
        simp only [Option.some.injEq, forall_eq', shared, ← hconstruct, instanceOf]
        cases graph.construct declared node <;> simp

/-- A class is emitted exactly if each node comes after the fields for which it waits, and all that
per-request services require is listed. -/
theorem isOk_emit_iff (hgraph : graph.WellFormed) {names : ClassNames} {order : List NodeId} :
    (graph.emit names order).isOk ↔ graph.FieldsFirst [] order ∧
      ∀ id ∈ order, ∀ node, graph.node? id = some node → ¬ node.isShared →
        ∀ field, graph.Requires node field → field ∈ order := by
  rw [emit, isOk_map, servicesClass, ← isOk_fieldsAfter_iff hgraph .nil]
  cases hfields : graph.fieldsAfter [] order with
  | error error => simp
  | ok result =>
    have hdeclared := declaredFrom_order hfields
    simp only [isOk_map, isOk_branches_iff hgraph, hdeclared.forall_requires_iff]
    simp

end CompositionRoot.ServiceGraph
