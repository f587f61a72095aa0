import CompositionRoot.Proofs.GreedyOrder

/-! The topological order. The listing keeps how many fields each node still waits for and which
nodes can be listed next, so it gives a greedy order; in a well-formed graph it has all nodes. -/
namespace CompositionRoot

theorem countP_notMem_eq_zero_iff {l done : List NodeId} :
    l.countP (· ∉ done) = 0 ↔ ∀ id ∈ l, id ∈ done := by
  simp [List.countP_eq_zero]

theorem countP_notMem_cons {l done : List NodeId} {id : NodeId} (hnodup : l.Nodup)
    (hnew : id ∉ done) :
    l.countP (· ∉ id :: done) =
      if id ∈ l then l.countP (· ∉ done) - 1 else l.countP (· ∉ done) := by
  have herase : ∀ l : List NodeId, id ∉ l → l.countP (· ∉ id :: done) = l.countP (· ∉ done) := by
    intro l hid
    refine List.countP_congr fun other hmem => ?_
    have hne : other ≠ id := fun h => hid (h ▸ hmem)
    simp [hne]
  split
  · next hmem =>
    have hid : id ∉ l.erase id := fun h => (hnodup.mem_erase_iff.mp h).1 rfl
    rw [(List.perm_cons_erase hmem).countP_eq, (List.perm_cons_erase hmem).countP_eq,
      List.countP_cons_of_neg (by simp), List.countP_cons_of_pos (by simpa using hnew),
      herase _ hid]
    rfl
  · next hmem => exact herase l hmem

namespace Frontier

variable {graph : ServiceGraph}

theorem getD_waiting_release (frontier : Frontier) (id other : NodeId) :
    (frontier.release id).waiting.getD other 0 =
      if other = id then frontier.waiting.getD other 0 - 1 else frontier.waiting.getD other 0 := by
  by_cases heq : other = id
  · subst heq
    by_cases hlt : other < frontier.waiting.length <;> simp [release, List.getD, hlt]
  · simp [release, List.getD, heq, Ne.symm heq]

/-- Each released node waits for one field less. -/
theorem getD_waiting_foldl (frontier : Frontier) {ids : List NodeId} (hnodup : ids.Nodup)
    (other : NodeId) :
    (ids.foldl release frontier).waiting.getD other 0 =
      if other ∈ ids then frontier.waiting.getD other 0 - 1 else frontier.waiting.getD other 0 := by
  induction ids generalizing frontier with
  | nil => simp
  | cons id rest ih =>
    obtain ⟨hnotMem, hrest⟩ := List.nodup_cons.mp hnodup
    rw [List.foldl_cons, ih _ hrest, getD_waiting_release]
    by_cases heq : other = id
    · subst heq
      simp [hnotMem]
    · simp [heq]

/-- The released nodes that wait for no further field become ready. -/
theorem ready_foldl (frontier : Frontier) {ids : List NodeId} (hnodup : ids.Nodup) :
    (ids.foldl release frontier).ready =
      frontier.ready ++ ids.filter fun id => frontier.waiting.getD id 0 - 1 = 0 := by
  induction ids generalizing frontier with
  | nil => simp
  | cons id rest ih =>
    obtain ⟨hnotMem, hrest⟩ := List.nodup_cons.mp hnodup
    have hothers : rest.filter (fun other => (frontier.release id).waiting.getD other 0 - 1 = 0) =
        rest.filter fun other => frontier.waiting.getD other 0 - 1 = 0 := by
      refine List.filter_congr fun other hmem => ?_
      have hne : other ≠ id := fun h => hnotMem (h ▸ hmem)
      rw [getD_waiting_release, if_neg hne]
    rw [List.foldl_cons, ih _ hrest, hothers, List.filter_cons, release]
    split <;> simp_all

/-- A stage after the listing of `done`: the numbers are those of the fields not listed yet, and
ready are the nodes that can be listed next. -/
structure Tracks (graph : ServiceGraph) (done : List NodeId) (frontier : Frontier) : Prop where
  counts : ∀ id < graph.size,
    frontier.waiting.getD id 0 = (graph.waitsFor id).countP (· ∉ done)
  nodup : frontier.ready.Nodup
  mem_ready_iff : ∀ id, id ∈ frontier.ready ↔ graph.Available done id
  closed : ∀ id ∈ done, ∀ field ∈ graph.waitsFor id, field ∈ done

def dependents (graph : ServiceGraph) (id : NodeId) : List NodeId :=
  graph.nodeIds.filter fun other => (graph.waitsFor other).contains id

theorem mem_dependents_iff {id other : NodeId} :
    other ∈ dependents graph id ↔ other < graph.size ∧ id ∈ graph.waitsFor other := by
  simp [dependents]

theorem nodup_dependents (graph : ServiceGraph) (id : NodeId) : (dependents graph id).Nodup :=
  graph.nodup_nodeIds.filter _

def requirements (graph : ServiceGraph) : List (NodeId × List NodeId) :=
  graph.nodeIds.map fun id => (id, graph.waitsFor id)

theorem map_filter_requirements (graph : ServiceGraph) (id : NodeId) :
    ((requirements graph).filter (·.2.contains id)).map (·.1) = dependents graph id := by
  rw [requirements, List.filter_map, List.map_map]
  exact List.map_id _

/-- A node that waits for one that is listed next is neither listed nor ready yet. -/
theorem Tracks.waiting {done : List NodeId} {frontier : Frontier}
    (h : frontier.Tracks graph done) {id other : NodeId} (hnew : id ∉ done)
    (hmem : id ∈ graph.waitsFor other) : other ∉ done ∧ ¬ graph.Available done other :=
  ⟨fun hdone => hnew (h.closed other hdone id hmem), fun hother => hnew (hother.fields id hmem)⟩

/-- A node that does not wait for the one listed next can come after it if it could before. -/
theorem available_cons_iff_of_notMem {done : List NodeId} {id other : NodeId}
    (hmem : id ∉ graph.waitsFor other) :
    graph.Available (id :: done) other ↔ other ≠ id ∧ graph.Available done other := by
  have hfields : (∀ field ∈ graph.waitsFor other, field ∈ id :: done) ↔
      ∀ field ∈ graph.waitsFor other, field ∈ done := by
    refine forall₂_congr fun field hfield => ?_
    have hne : field ≠ id := fun heq => hmem (heq ▸ hfield)
    simp [hne]
  constructor
  · rintro ⟨hlt, hnotMem, hall⟩
    exact ⟨List.ne_of_not_mem_cons hnotMem, hlt, List.not_mem_of_not_mem_cons hnotMem,
      hfields.mp hall⟩
  · rintro ⟨hne, hlt, hnotDone, hall⟩
    exact ⟨hlt, List.not_mem_cons_of_ne_of_not_mem hne hnotDone, hfields.mpr hall⟩

/-- A node that waits for the one listed next can come after it if it waits for no other. -/
theorem Tracks.available_cons_iff_of_mem {done : List NodeId} {frontier : Frontier}
    (h : frontier.Tracks graph done) {id other : NodeId} (hnext : graph.Available done id)
    (hmem : id ∈ graph.waitsFor other) : graph.Available (id :: done) other ↔
      other < graph.size ∧ frontier.waiting.getD other 0 - 1 = 0 := by
  have hne : other ≠ id := fun heq => hnext.notMem (hnext.fields id (heq ▸ hmem))
  have hnotDone := (h.waiting hnext.notMem hmem).1
  have hcount := countP_notMem_cons (graph.nodup_waitsFor other) hnext.notMem
  rw [if_pos hmem] at hcount
  constructor
  · intro hother
    rw [h.counts other hother.lt_size, ← hcount, countP_notMem_eq_zero_iff]
    exact ⟨hother.lt_size, hother.fields⟩
  · rintro ⟨hlt, hzero⟩
    rw [h.counts other hlt, ← hcount, countP_notMem_eq_zero_iff] at hzero
    exact ⟨hlt, List.not_mem_cons_of_ne_of_not_mem hne hnotDone, hzero⟩

/-- With one node more listed, those can come next that could before, and the nodes that waited for
that node alone. -/
theorem Tracks.available_cons_iff {done : List NodeId} {frontier : Frontier}
    (h : frontier.Tracks graph done) {id : NodeId} (hnext : graph.Available done id)
    (other : NodeId) : graph.Available (id :: done) other ↔
      other ≠ id ∧ graph.Available done other ∨
        other ∈ dependents graph id ∧ frontier.waiting.getD other 0 - 1 = 0 := by
  rw [mem_dependents_iff]
  by_cases hmem : id ∈ graph.waitsFor other
  · have hunavailable := (h.waiting hnext.notMem hmem).2
    rw [h.available_cons_iff_of_mem hnext hmem]
    simp [hmem, hunavailable]
  · rw [available_cons_iff_of_notMem hmem]
    simp [hmem]

/-- Listing a ready node and releasing the nodes that wait for it leads to the next stage. -/
theorem Tracks.step {done ready : List NodeId} {frontier : Frontier} {id : NodeId}
    (h : frontier.Tracks graph done) (hnext : graph.Available done id)
    (hperm : frontier.ready.Perm (id :: ready)) :
    ((dependents graph id).foldl release { frontier with ready }).Tracks graph (id :: done) := by
  obtain ⟨hnotReady, hready⟩ := List.nodup_cons.mp (hperm.nodup h.nodup)
  have hmem : ∀ other, other ∈ ready ↔ other ≠ id ∧ graph.Available done other := by
    intro other
    rw [← h.mem_ready_iff other, hperm.mem_iff, List.mem_cons]
    constructor
    · exact fun hother => ⟨fun heq => hnotReady (heq ▸ hother), Or.inr hother⟩
    · exact fun ⟨hne, hother⟩ => hother.resolve_left hne
  refine ⟨fun other hlt => ?_, ?_, fun other => ?_, ?_⟩
  · rw [getD_waiting_foldl _ (nodup_dependents graph id), h.counts other hlt,
      countP_notMem_cons (graph.nodup_waitsFor other) hnext.notMem]
    simp [mem_dependents_iff, hlt]
  · rw [ready_foldl _ (nodup_dependents graph id)]
    refine List.nodup_append.mpr ⟨hready, (nodup_dependents graph id).filter _, ?_⟩
    rintro other hother _ hfreed rfl
    have hwaits := (mem_dependents_iff.mp (List.mem_of_mem_filter hfreed)).2
    exact (h.waiting hnext.notMem hwaits).2 ((hmem other).mp hother).2
  · rw [ready_foldl _ (nodup_dependents graph id), List.mem_append, hmem, List.mem_filter,
      h.available_cons_iff hnext, decide_eq_true_eq]
  · intro other hother field hfield
    refine List.mem_cons_of_mem _ ?_
    rcases List.mem_cons.mp hother with rfl | hother
    · exact hnext.fields field hfield
    · exact h.closed other hother field hfield

def initial (graph : ServiceGraph) : Frontier :=
  let waiting := (requirements graph).map (·.2.length)
  ⟨waiting, graph.nodeIds.filter fun id => waiting.getD id 0 = 0⟩

theorem tracks_initial (graph : ServiceGraph) : (initial graph).Tracks graph [] := by
  have hcounts : ∀ id < graph.size,
      (initial graph).waiting.getD id 0 = (graph.waitsFor id).length := by
    intro id hlt
    simp [initial, requirements, ServiceGraph.nodeIds, List.getD, hlt]
  have hready : ∀ id, id ∈ (initial graph).ready ↔
      id < graph.size ∧ (initial graph).waiting.getD id 0 = 0 := by
    simp [initial]
  refine ⟨fun id hlt => ?_, graph.nodup_nodeIds.filter _, fun id => ?_, by simp⟩
  · rw [hcounts id hlt]
    simp
  · rw [hready]
    constructor
    · rintro ⟨hlt, hzero⟩
      rw [hcounts id hlt, List.length_eq_zero_iff] at hzero
      exact ⟨hlt, List.not_mem_nil, by simp [hzero]⟩
    · rintro ⟨hlt, _, hfields⟩
      rw [hcounts id hlt, List.length_eq_zero_iff]
      exact ⟨hlt, List.eq_nil_iff_forall_not_mem.mpr fun field hmem =>
        List.not_mem_nil (hfields field hmem)⟩

/-- What is listed from a stage on is a greedy order, which ends after the given number of nodes or
when no other can be listed next. -/
theorem Tracks.list (steps : Nat) {done order : List NodeId} {frontier last : Frontier}
    (h : frontier.Tracks graph done)
    (hlist : frontier.list graph (requirements graph) steps = (order, last)) :
    graph.Greedy done order ∧ last.Tracks graph (order.reverse ++ done) ∧
      (order.length = steps ∨ ∀ id, ¬ graph.Available (order.reverse ++ done) id) := by
  induction steps generalizing done order frontier with
  | zero =>
    cases hlist
    exact ⟨trivial, h, Or.inl rfl⟩
  | succ steps ih =>
    have hready : ∀ id, id ∈ frontier.ready.mergeSort graph.precedes ↔ graph.Available done id :=
      fun id => List.mem_mergeSort.trans (h.mem_ready_iff id)
    rw [Frontier.list] at hlist
    cases hsorted : frontier.ready.mergeSort graph.precedes with
    | nil =>
      rw [hsorted] at hlist hready
      cases hlist
      exact ⟨trivial, h, Or.inr fun id hid => List.not_mem_nil ((hready id).mpr hid)⟩
    | cons id ready =>
      obtain ⟨hperm, hfirst⟩ := ServiceGraph.mergeSort_precedes_cons hsorted
      rw [hsorted] at hlist hready
      have havailable : graph.Available done id := (hready id).mp List.mem_cons_self
      simp only [map_filter_requirements] at hlist
      cases hrest : ((dependents graph id).foldl release { frontier with ready }).list graph
        (requirements graph) steps with
      | mk rest lastOfRest =>
        rw [hrest] at hlist
        cases hlist
        obtain ⟨hgreedy, htracks, hend⟩ := ih (h.step havailable hperm) hrest
        rw [List.reverse_cons, List.append_assoc, List.singleton_append]
        refine ⟨⟨havailable, fun other hother => ?_, hgreedy⟩, htracks, ?_⟩
        · exact hfirst other ((h.mem_ready_iff other).mpr hother)
        · exact hend.imp_left (congrArg Nat.succ)

end Frontier

namespace ServiceGraph

variable {graph : ServiceGraph}

theorem topologicalOrder_eq (graph : ServiceGraph) : graph.topologicalOrder =
    match (Frontier.initial graph).list graph (Frontier.requirements graph) graph.size with
    | (order, last) =>
      if order.length = graph.size then .ok order
      else .error (.dependencyCycle (((graph.nodeIds.filter fun id =>
        0 < last.waiting.getD id 0).filterMap graph.node?).map (·.requested))) :=
  rfl

/-- The listing succeeds with a greedy order of all nodes, or it ends early with an error since none
of those left can be listed next. -/
theorem topologicalOrder_cases (graph : ServiceGraph) :
    (∃ order, graph.topologicalOrder = .ok order ∧ graph.Greedy [] order ∧
      order.length = graph.size) ∨
    ∃ order error, graph.topologicalOrder = .error error ∧ graph.Greedy [] order ∧
      order.length < graph.size ∧ ∀ id, ¬ graph.Available order.reverse id := by
  cases hlist : (Frontier.initial graph).list graph (Frontier.requirements graph) graph.size with
  | mk order last =>
    obtain ⟨hgreedy, _, hend⟩ := (Frontier.tracks_initial graph).list graph.size hlist
    rw [List.append_nil] at hend
    rw [topologicalOrder_eq, hlist]
    by_cases hlength : order.length = graph.size
    · exact Or.inl ⟨order, if_pos hlength, hgreedy, hlength⟩
    · have hlt : order.length < graph.size := Nat.lt_of_le_of_ne hgreedy.length_le hlength
      exact Or.inr ⟨order, _, if_neg hlength, hgreedy, hlt, hend.resolve_left hlength⟩

/-- In a well-formed graph all nodes can be listed. -/
theorem WellFormed.exists_topologicalOrder (h : graph.WellFormed) :
    ∃ order, graph.topologicalOrder = .ok order ∧ graph.Greedy [] order ∧
      order.length = graph.size := by
  rcases graph.topologicalOrder_cases with hok | ⟨order, error, _, _, hlt, hnone⟩
  · exact hok
  · obtain ⟨id, hid, hleft⟩ := exists_notMem_of_length_lt hlt
    have hnotMem : id ∉ order.reverse := fun hmem => hleft (List.mem_reverse.mp hmem)
    obtain ⟨next, hnext⟩ := exists_available h hid hnotMem
    exact absurd hnext (hnone next)

end ServiceGraph

end CompositionRoot
