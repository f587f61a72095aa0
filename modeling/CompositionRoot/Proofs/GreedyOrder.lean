import CompositionRoot.Proofs.ReadFields
import Mathlib.Data.List.Perm.Subperm

/-! Greedy orders. Each node that is listed is the first, by number of dependencies and discovery,
of those whose fields have all been listed. At most one order of a given length is of this kind,
and in a well-formed graph every such order can go on until no node is left. -/
namespace CompositionRoot

namespace ServiceGraph

variable {graph : ServiceGraph}

theorem precedes_iff {a b : NodeId} : graph.precedes a b ↔
    graph.dependencyCount a < graph.dependencyCount b ∨
      graph.dependencyCount a = graph.dependencyCount b ∧ a ≤ b := by
  simp [precedes]

theorem precedes_total (graph : ServiceGraph) (a b : NodeId) :
    graph.precedes a b || graph.precedes b a := by
  rw [Bool.or_eq_true, precedes_iff, precedes_iff]
  rcases Nat.lt_trichotomy (graph.dependencyCount a) (graph.dependencyCount b) with h | h | h
  · exact Or.inl (Or.inl h)
  · rcases Nat.le_total a b with hle | hle
    · exact Or.inl (Or.inr ⟨h, hle⟩)
    · exact Or.inr (Or.inr ⟨h.symm, hle⟩)
  · exact Or.inr (Or.inl h)

theorem precedes_trans (graph : ServiceGraph) (a b c : NodeId) (hab : graph.precedes a b)
    (hbc : graph.precedes b c) : graph.precedes a c := by
  rw [precedes_iff] at *
  rcases hab with hab | ⟨hab, hle⟩ <;> rcases hbc with hbc | ⟨hbc, hle'⟩
  · exact Or.inl (Nat.lt_trans hab hbc)
  · exact Or.inl (hbc ▸ hab)
  · exact Or.inl (hab ▸ hbc)
  · exact Or.inr ⟨hab.trans hbc, Nat.le_trans hle hle'⟩

theorem precedes_antisymm {a b : NodeId} (hab : graph.precedes a b) (hba : graph.precedes b a) :
    a = b := by
  rw [precedes_iff] at *
  rcases hab with hab | ⟨hab, hle⟩ <;> rcases hba with hba | ⟨hba, hle'⟩
  · exact absurd hab (Nat.lt_asymm hba)
  · exact absurd (hba ▸ hab) (Nat.lt_irrefl _)
  · exact absurd (hab ▸ hba) (Nat.lt_irrefl _)
  · exact Nat.le_antisymm hle hle'

theorem mergeSort_precedes_cons {l rest : List NodeId} {id : NodeId}
    (h : l.mergeSort graph.precedes = id :: rest) :
    l.Perm (id :: rest) ∧ ∀ other ∈ l, graph.precedes id other := by
  have hperm : l.Perm (id :: rest) := h ▸ (List.mergeSort_perm l graph.precedes).symm
  have hsorted := List.pairwise_mergeSort graph.precedes_trans graph.precedes_total l
  rw [h, List.pairwise_cons] at hsorted
  refine ⟨hperm, fun other hmem => ?_⟩
  rcases List.mem_cons.mp (hperm.mem_iff.mp hmem) with rfl | hmem
  · exact precedes_iff.mpr (Or.inr ⟨rfl, Nat.le_refl other⟩)
  · exact hsorted.1 other hmem

theorem perm_dependencyCountOrder (graph : ServiceGraph) :
    graph.dependencyCountOrder.Perm graph.nodeIds :=
  List.mergeSort_perm _ _

theorem pairwise_dependencyCountOrder (graph : ServiceGraph) :
    graph.dependencyCountOrder.Pairwise fun a b => graph.precedes a b :=
  List.pairwise_mergeSort graph.precedes_trans graph.precedes_total _

theorem nodup_dependencyCountOrder (graph : ServiceGraph) : graph.dependencyCountOrder.Nodup :=
  graph.perm_dependencyCountOrder.nodup_iff.mpr graph.nodup_nodeIds

@[simp] theorem mem_dependencyCountOrder {id : NodeId} :
    id ∈ graph.dependencyCountOrder ↔ id < graph.size :=
  graph.perm_dependencyCountOrder.mem_iff.trans mem_nodeIds

/-- Each node comes after the fields for which it waits, where it is listed for the first time. -/
def FieldsFirst (graph : ServiceGraph) : List NodeId → List NodeId → Prop
  | _, [] => True
  | done, id :: rest => (id ∉ done → ∀ field ∈ graph.waitsFor id, field ∈ done) ∧
      graph.FieldsFirst (id :: done) rest

/-- A property of every position of a list, by what stands before it. -/
theorem forall_split_cons_iff {α : Type} {P : List α → α → Prop} {first : α} {rest : List α} :
    (∀ earlier a later, first :: rest = earlier ++ a :: later → P earlier a) ↔
      P [] first ∧ ∀ earlier a later, rest = earlier ++ a :: later → P (first :: earlier) a := by
  constructor
  · intro h
    refine ⟨h [] first rest rfl, fun earlier a later hsplit => ?_⟩
    apply h (first :: earlier) a later
    rw [hsplit, List.cons_append]
  · rintro ⟨hfirst, hrest⟩ earlier a later hsplit
    cases earlier with
    | nil =>
      obtain ⟨rfl, _⟩ := List.cons.inj hsplit
      exact hfirst
    | cons head earlier =>
      obtain ⟨rfl, htail⟩ := List.cons.inj hsplit
      exact hrest earlier a later htail

theorem fieldsFirst_iff {done order : List NodeId} : graph.FieldsFirst done order ↔
    ∀ earlier id later, order = earlier ++ id :: later → id ∉ earlier.reverse ++ done →
      ∀ field ∈ graph.waitsFor id, field ∈ earlier.reverse ++ done := by
  induction order generalizing done with
  | nil => simp [FieldsFirst]
  | cons first rest ih =>
    rw [FieldsFirst, ih, forall_split_cons_iff (P := fun earlier id =>
      id ∉ earlier.reverse ++ done → ∀ field ∈ graph.waitsFor id, field ∈ earlier.reverse ++ done)]
    simp

/-- A node can be listed next, after those of `done`: all fields for which it waits are listed. -/
structure Available (graph : ServiceGraph) (done : List NodeId) (id : NodeId) : Prop where
  lt_size : id < graph.size
  notMem : id ∉ done
  fields : ∀ field ∈ graph.waitsFor id, field ∈ done

/-- Each listed node is the first of those that can be listed next. -/
def Greedy (graph : ServiceGraph) : List NodeId → List NodeId → Prop
  | _, [] => True
  | done, id :: rest => graph.Available done id ∧
      (∀ other, graph.Available done other → graph.precedes id other) ∧
      graph.Greedy (id :: done) rest

theorem greedy_iff {done order : List NodeId} : graph.Greedy done order ↔
    ∀ earlier id later, order = earlier ++ id :: later →
      graph.Available (earlier.reverse ++ done) id ∧
        ∀ other, graph.Available (earlier.reverse ++ done) other → graph.precedes id other := by
  induction order generalizing done with
  | nil => simp [Greedy]
  | cons first rest ih =>
    rw [Greedy, ih, forall_split_cons_iff (P := fun earlier id =>
      graph.Available (earlier.reverse ++ done) id ∧
        ∀ other, graph.Available (earlier.reverse ++ done) other → graph.precedes id other)]
    simp [and_assoc]

namespace Greedy

/-- Of two orders of one length, the first nodes precede each other and so agree, and then the
rest. -/
theorem eq_of_length {done order order' : List NodeId} (h : graph.Greedy done order)
    (h' : graph.Greedy done order') (hlength : order.length = order'.length) :
    order = order' := by
  induction order generalizing done order' with
  | nil => exact (List.length_eq_zero_iff.mp hlength.symm).symm
  | cons id rest ih =>
    cases order' with
    | nil => cases hlength
    | cons id' rest' =>
      obtain ⟨havailable, hfirst, hrest⟩ := h
      obtain ⟨havailable', hfirst', hrest'⟩ := h'
      obtain rfl := precedes_antisymm (hfirst id' havailable') (hfirst' id havailable)
      rw [ih hrest hrest' (Nat.succ.inj hlength)]

theorem notMem_done {done order : List NodeId} (h : graph.Greedy done order) :
    ∀ id ∈ order, id < graph.size ∧ id ∉ done := by
  induction order generalizing done with
  | nil => simp
  | cons first rest ih =>
    obtain ⟨havailable, _, hrest⟩ := h
    intro id hmem
    rcases List.mem_cons.mp hmem with rfl | hmem
    · exact ⟨havailable.lt_size, havailable.notMem⟩
    · obtain ⟨hlt, hnotMem⟩ := ih hrest id hmem
      exact ⟨hlt, fun hdone => hnotMem (List.mem_cons_of_mem _ hdone)⟩

theorem nodup {done order : List NodeId} (h : graph.Greedy done order) : order.Nodup := by
  induction order generalizing done with
  | nil => exact List.nodup_nil
  | cons first rest ih =>
    obtain ⟨_, _, hrest⟩ := h
    exact List.nodup_cons.mpr
      ⟨fun hmem => (hrest.notMem_done first hmem).2 List.mem_cons_self, ih hrest⟩

theorem fieldsFirst {done order : List NodeId} (h : graph.Greedy done order) :
    graph.FieldsFirst done order := by
  induction order generalizing done with
  | nil => trivial
  | cons id rest ih =>
    obtain ⟨havailable, _, hrest⟩ := h
    exact ⟨fun _ => havailable.fields, ih hrest⟩

theorem subperm {order : List NodeId} (h : graph.Greedy [] order) :
    order.Subperm graph.nodeIds :=
  List.subperm_of_subset h.nodup fun id hmem => mem_nodeIds.mpr (h.notMem_done id hmem).1

theorem length_le {order : List NodeId} (h : graph.Greedy [] order) :
    order.length ≤ graph.size := by
  simpa using h.subperm.length_le

theorem perm {order : List NodeId} (h : graph.Greedy [] order)
    (hlength : order.length = graph.size) : order.Perm graph.nodeIds :=
  h.subperm.perm_of_length_le (by simp [hlength])

end Greedy

/-- All nodes in order form a greedy order if they come after the fields for which they wait. -/
theorem greedy_of_pairwise {done order rest : List NodeId} (horder : order.Perm graph.nodeIds)
    (hsorted : order.Pairwise fun a b => graph.precedes a b) (hsplit : order = done.reverse ++ rest)
    (hfields : graph.FieldsFirst done rest) : graph.Greedy done rest := by
  induction rest generalizing done with
  | nil => trivial
  | cons id rest ih =>
    have hmem : ∀ other, other ∈ order ↔ other < graph.size :=
      fun other => horder.mem_iff.trans mem_nodeIds
    have hnodup : order.Nodup := horder.nodup_iff.mpr graph.nodup_nodeIds
    rw [hsplit, List.nodup_append] at hnodup
    rw [hsplit, List.pairwise_append, List.pairwise_cons] at hsorted
    have hnew : id ∉ done := fun hdone =>
      hnodup.2.2 id (List.mem_reverse.mpr hdone) id List.mem_cons_self rfl
    have hnext : graph.Available done id :=
      ⟨(hmem id).mp (by simp [hsplit]), hnew, hfields.1 hnew⟩
    refine ⟨hnext, fun other hother => ?_, ih (by simp [hsplit]) hfields.2⟩
    have hother' := (hmem other).mpr hother.lt_size
    rw [hsplit, List.mem_append, List.mem_reverse] at hother'
    rcases List.mem_cons.mp (hother'.resolve_left hother.notMem) with rfl | hrest
    · exact precedes_iff.mpr (Or.inr ⟨rfl, Nat.le_refl other⟩)
    · exact hsorted.2.1.1 other hrest

theorem exists_notMem_of_length_lt {order : List NodeId} (h : order.length < graph.size) :
    ∃ id < graph.size, id ∉ order := by
  by_contra hnone
  push Not at hnone
  have hsub := List.subperm_of_subset graph.nodup_nodeIds
    (fun id hmem => hnone id (mem_nodeIds.mp hmem))
  have hle := hsub.length_le
  rw [length_nodeIds] at hle
  exact absurd h (Nat.not_lt.mpr hle)

/-- In a well-formed graph, as long as a node is left one can be listed next: it is found by going
from a node to one for which it waits, which has a smaller rank. -/
theorem exists_available (h : graph.WellFormed) {done : List NodeId} {id : NodeId}
    (hlt : id < graph.size) (hleft : id ∉ done) : ∃ next, graph.Available done next := by
  induction hrank : graph.rank id using Nat.strongRecOn generalizing id with
  | _ rank ih =>
    by_cases hfields : ∀ field ∈ graph.waitsFor id, field ∈ done
    · exact ⟨id, hlt, hleft, hfields⟩
    · push Not at hfields
      obtain ⟨field, hmem, hnotMem⟩ := hfields
      obtain ⟨hfield, hsmaller⟩ := rank_lt_of_mem_waitsFor h hlt hmem
      exact ih (graph.rank field) (hrank ▸ hsmaller) hfield hnotMem rfl

end ServiceGraph

end CompositionRoot
