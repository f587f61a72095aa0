import CompositionRoot.Proofs.TopologicalOrder
import Mathlib.Data.Prod.Lex

/-! What the topological order is, said without its frontiers: at each position stands the least of
the nodes that need no field listed later. There is one such order, so it makes no difference in
which order the fields of a node are enumerated; nor does a number of fields to wait for ever fall
below zero. -/
namespace CompositionRoot

theorem flatMap_ite_singleton {α : Type} (p : α → Prop) [DecidablePred p] (l : List α) :
    (l.flatMap fun a => if p a then [a] else []) = l.filter p := by
  induction l with
  | nil => rfl
  | cons a l ih =>
    rw [List.flatMap_cons, ih]
    by_cases h : p a <;> simp [h]

/-- One entry for each occurrence of a member in a list without repetitions. -/
theorem map_filter_beq_of_nodup {α β : Type} [DecidableEq α] {l : List α} (h : l.Nodup) (a : α)
    (b : β) : (l.filter (· == a)).map (fun _ => b) = if a ∈ l then [b] else [] := by
  rw [List.filter_beq, List.map_replicate, h.count]
  split <;> rfl

namespace ServiceGraph

variable {graph : ServiceGraph}

/-- A node that is not listed yet and is per-request, or shared with all the fields listed that it
requires. -/
def Listable (graph : ServiceGraph) (listed : List NodeId) (id : NodeId) : Prop :=
  id ∉ listed ∧ ∃ node, graph.node? id = some node ∧
    (node.lifetime = .perRequest ∨
      node.lifetime = .shared ∧ ∀ field ∈ graph.requiredFields id, field ∈ listed)

/-- At each position stands the node with the least number of dependencies, and of those the first
discovered, among the nodes that can be listed there. -/
def LeastFirst (graph : ServiceGraph) (order : List NodeId) : Prop :=
  ∀ earlier id later, order = earlier ++ id :: later →
    graph.Listable earlier id ∧ ∀ other, graph.Listable earlier other →
      toLex (graph.dependencyCount id, id) ≤ toLex (graph.dependencyCount other, other)

theorem available_iff_listable {listed : List NodeId} {id : NodeId} :
    graph.Available listed id ↔ graph.Listable listed id := by
  constructor
  · rintro ⟨hlt, hnew, hfields⟩
    obtain ⟨node, found⟩ := exists_node?_of_lt hlt
    refine ⟨hnew, node, found, ?_⟩
    cases hlifetime : node.lifetime with
    | perRequest => exact Or.inl rfl
    | shared =>
      refine Or.inr ⟨rfl, fun field hfield => hfields field ?_⟩
      rw [mem_requiredFields_iff found] at hfield
      exact (mem_waitsFor_iff found).mpr ⟨by simp [ServiceNode.isShared, hlifetime], hfield⟩
  · rintro ⟨hnew, node, found, hlifetime⟩
    refine ⟨lt_size_of_node? found, hnew, fun field hfield => ?_⟩
    obtain ⟨hshared, hrequires⟩ := (mem_waitsFor_iff found).mp hfield
    rcases hlifetime with hperRequest | ⟨_, hfields⟩
    · simp [ServiceNode.isShared, hperRequest] at hshared
    · exact hfields field ((mem_requiredFields_iff found).mpr hrequires)

theorem precedes_iff_toLex {a b : NodeId} : graph.precedes a b ↔
    toLex (graph.dependencyCount a, a) ≤ toLex (graph.dependencyCount b, b) := by
  rw [precedes_iff, Prod.Lex.toLex_le_toLex]

theorem greedy_nil_iff {order : List NodeId} : graph.Greedy [] order ↔ graph.LeastFirst order := by
  have hlisted : ∀ earlier id, graph.Available (earlier.reverse ++ []) id ↔
      graph.Listable earlier id := by
    intro earlier id
    rw [available_iff_listable]
    simp [Listable]
  simp only [greedy_iff, hlisted, precedes_iff_toLex, LeastFirst]

end ServiceGraph

namespace Frontier

variable {graph : ServiceGraph}

def release? (frontier : Frontier) (id : NodeId) : Option Frontier :=
  if frontier.waiting.getD id 0 = 0 then none else some (frontier.release id)

/-- An entry for a node each time that `id` stands among its fields. -/
def dependentsIn (requirements : List (NodeId × List NodeId)) (id : NodeId) : List NodeId :=
  requirements.flatMap fun (dependent, fields) => (fields.filter (· == id)).map fun _ => dependent

/-- The listing of at most `steps` nodes with a check that no number falls below zero. -/
def list? (graph : ServiceGraph) (requirements : List (NodeId × List NodeId)) :
    Nat → Frontier → Option (List NodeId × Frontier)
  | 0, frontier => some ([], frontier)
  | steps + 1, frontier =>
    match frontier.ready.mergeSort graph.precedes with
    | [] => some ([], frontier)
    | id :: ready =>
      ((dependentsIn requirements id).foldlM release? { frontier with ready }).bind fun next =>
        (list? graph requirements steps next).map fun (order, last) => (id :: order, last)

theorem foldlM_release? (frontier : Frontier) {ids : List NodeId} (hnodup : ids.Nodup)
    (hpositive : ∀ id ∈ ids, frontier.waiting.getD id 0 ≠ 0) :
    ids.foldlM release? frontier = some (ids.foldl release frontier) := by
  induction ids generalizing frontier with
  | nil => rfl
  | cons id rest ih =>
    obtain ⟨hnotMem, hrest⟩ := List.nodup_cons.mp hnodup
    have hfirst : frontier.release? id = some (frontier.release id) :=
      if_neg (hpositive id List.mem_cons_self)
    rw [List.foldlM_cons, hfirst, List.foldl_cons]
    apply ih _ hrest
    intro other hmem
    have hne : other ≠ id := fun heq => hnotMem (heq ▸ hmem)
    rw [getD_waiting_release, if_neg hne]
    exact hpositive other (List.mem_cons_of_mem id hmem)

/-- Nodes that wait for the one listed next wait for at least that one. -/
theorem Tracks.list?_eq {requirements : List (NodeId × List NodeId)}
    (hdependents : ∀ id, dependentsIn requirements id = dependents graph id) (steps : Nat)
    {done : List NodeId} {frontier : Frontier} (h : frontier.Tracks graph done) :
    frontier.list? graph requirements steps =
      some (frontier.list graph (Frontier.requirements graph) steps) := by
  induction steps generalizing done frontier with
  | zero => rfl
  | succ steps ih =>
    rw [Frontier.list?, Frontier.list]
    cases hsorted : frontier.ready.mergeSort graph.precedes with
    | nil => rfl
    | cons id ready =>
      obtain ⟨hperm, _⟩ := ServiceGraph.mergeSort_precedes_cons hsorted
      have hnext : graph.Available done id :=
        (h.mem_ready_iff id).mp (hperm.mem_iff.mpr List.mem_cons_self)
      have hchecked : (dependents graph id).foldlM release? { frontier with ready } =
          some ((dependents graph id).foldl release { frontier with ready }) := by
        apply foldlM_release? _ (nodup_dependents graph id)
        -- a node that waits for `id`, which is not listed yet, counts it
        intro other hmem hzero
        obtain ⟨hlt, hwaits⟩ := mem_dependents_iff.mp hmem
        have hcount := h.counts other hlt
        rw [hzero, eq_comm, countP_notMem_eq_zero_iff] at hcount
        exact hnext.notMem (hcount id hwaits)
      simp only [hdependents, map_filter_requirements]
      rw [hchecked, Option.bind_some, ih (h.step hnext hperm)]
      rfl

end Frontier

namespace ServiceGraph

variable {graph : ServiceGraph}

/-- The fields for which a node waits, where `enumerate` gives those that a node requires. -/
def enumeratedFor (graph : ServiceGraph) (enumerate : NodeId → List NodeId) (id : NodeId) :
    List NodeId :=
  if (graph.node? id).any (·.isShared) then enumerate id else []

/-- The topological order with the required fields as `enumerate` gives them. There is none if a
number of fields to wait for would fall below zero. -/
def checkedOrder (graph : ServiceGraph) (enumerate : NodeId → List NodeId) :
    Option (Except GenerationError (List NodeId)) :=
  let requirements := graph.nodeIds.map fun id => (id, graph.enumeratedFor enumerate id)
  let waiting := requirements.map (·.2.length)
  let ready := graph.nodeIds.filter fun id => waiting.getD id 0 = 0
  (Frontier.list? graph requirements graph.size ⟨waiting, ready⟩).map fun (order, last) =>
    if order.length = graph.size then
      .ok order
    else
      let stuck := graph.nodeIds.filter fun id => 0 < last.waiting.getD id 0
      .error (.dependencyCycle ((stuck.filterMap graph.node?).map (·.requested)))

section Enumeration

variable {enumerate : NodeId → List NodeId}

theorem perm_waitsFor (h : ∀ id, (enumerate id).Perm (graph.requiredFields id)) (id : NodeId) :
    (graph.enumeratedFor enumerate id).Perm (graph.waitsFor id) := by
  unfold enumeratedFor waitsFor
  split
  · exact h id
  · exact .refl []

theorem dependentsIn_enumeratedFor (h : ∀ id, (enumerate id).Perm (graph.requiredFields id))
    (id : NodeId) : Frontier.dependentsIn
      (graph.nodeIds.map fun other => (other, graph.enumeratedFor enumerate other)) id =
        Frontier.dependents graph id := by
  have hentries : ∀ other : NodeId,
      ((graph.enumeratedFor enumerate other).filter (· == id)).map (fun _ => other) =
        if id ∈ graph.waitsFor other then [other] else [] := by
    intro other
    have hperm := perm_waitsFor h other
    have hnodup := hperm.nodup_iff.mpr (graph.nodup_waitsFor other)
    simp only [map_filter_beq_of_nodup hnodup, hperm.mem_iff]
  simp only [Frontier.dependentsIn, List.flatMap_map, hentries, flatMap_ite_singleton,
    Frontier.dependents]
  simp

theorem lengths_enumeratedFor (h : ∀ id, (enumerate id).Perm (graph.requiredFields id)) :
    (graph.nodeIds.map fun id => (id, graph.enumeratedFor enumerate id)).map (·.2.length) =
      (Frontier.requirements graph).map (·.2.length) := by
  simp only [Frontier.requirements, List.map_map]
  apply List.map_congr_left
  intro id _
  exact (perm_waitsFor h id).length_eq

/-- However the required fields are enumerated, the checks pass and the order is the topological
one. -/
theorem checkedOrder_eq (h : ∀ id, (enumerate id).Perm (graph.requiredFields id)) :
    graph.checkedOrder enumerate = some graph.topologicalOrder := by
  have hlist := (Frontier.tracks_initial graph).list?_eq (dependentsIn_enumeratedFor h) graph.size
  rw [checkedOrder, topologicalOrder_eq, lengths_enumeratedFor h]
  have hinitial : (⟨(Frontier.requirements graph).map (·.2.length), graph.nodeIds.filter fun id =>
      ((Frontier.requirements graph).map (·.2.length)).getD id 0 = 0⟩ : Frontier) =
        Frontier.initial graph := rfl
  dsimp only
  rw [hinitial, hlist]
  rfl

end Enumeration

end ServiceGraph

/-- The graph after any session has a topological order. It lists every node once, each time the
least of those that can be listed, and is the only order of this kind; so it is the same however the
required fields are enumerated, and no number of fields to wait for falls below zero. -/
theorem topologicalOrder_lists_least_first {κ : Type} [TypeCatalog κ] (catalog : κ)
    (types : List TypeIdentity) :
    let graph := (Builder.afterSession catalog types {}).graph
    ∃ order, graph.topologicalOrder = .ok order ∧ order.Perm graph.nodeIds ∧
      graph.LeastFirst order ∧
      (∀ other, other.Perm graph.nodeIds → graph.LeastFirst other → other = order) ∧
      ∀ enumerate : NodeId → List NodeId,
        (∀ id, (enumerate id).Perm (graph.requiredFields id)) →
          graph.checkedOrder enumerate = some (.ok order) := by
  intro graph
  have hgraph : graph.WellFormed := ((Builder.idle_empty catalog).afterSession types).wellFormed
  obtain ⟨order, horder, hgreedy, hlength⟩ := hgraph.exists_topologicalOrder
  have hperm : order.Perm graph.nodeIds := hgreedy.perm hlength
  refine ⟨order, horder, hperm, ServiceGraph.greedy_nil_iff.mp hgreedy, ?_, ?_⟩
  · intro other hother hleast
    have hgreedy' : graph.Greedy [] other := ServiceGraph.greedy_nil_iff.mpr hleast
    exact hgreedy'.eq_of_length hgreedy (hother.trans hperm.symm).length_eq
  · intro enumerate henumerate
    rw [ServiceGraph.checkedOrder_eq henumerate, horder]

end CompositionRoot
