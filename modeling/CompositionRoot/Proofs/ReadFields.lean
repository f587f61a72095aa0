import CompositionRoot.Graph.Ordering
import CompositionRoot.Proofs.Dependencies

/-! Fields that are read where a service is used. A shared service is read from its own field; a
per-request one is created in place and reads the fields that its dependencies read. The search for
required fields finds exactly these. -/
namespace CompositionRoot.ServiceGraph

open Relation

inductive Reads (graph : ServiceGraph) : NodeId → NodeId → Prop where
  | field {id : NodeId} {node : ServiceNode} (found : graph.node? id = some node)
      (shared : node.isShared) : Reads graph id id
  | inline {id dependency field : NodeId} {node : ServiceNode}
      (found : graph.node? id = some node) (perRequest : ¬ node.isShared)
      (mem : dependency ∈ node.dependencies) (reads : Reads graph dependency field) :
      Reads graph id field

/-- The creation of a service reads a field, as an argument or within one. -/
def Requires (graph : ServiceGraph) (node : ServiceNode) (field : NodeId) : Prop :=
  ∃ dependency ∈ node.dependencies, graph.Reads dependency field

variable {graph : ServiceGraph}

namespace Reads

variable {id field : NodeId}

theorem exists_node? (h : graph.Reads id field) : ∃ node, graph.node? id = some node := by
  cases h with
  | field found _ => exact ⟨_, found⟩
  | inline found _ _ _ => exact ⟨_, found⟩

theorem exists_shared (h : graph.Reads id field) :
    ∃ node, graph.node? field = some node ∧ node.isShared := by
  induction h with
  | field found shared => exact ⟨_, found, shared⟩
  | inline _ _ _ _ ih => exact ih

theorem dependsOn (h : graph.Reads id field) : ReflTransGen graph.DependsOn id field := by
  induction h with
  | field => exact .refl
  | inline found _ mem _ ih => exact .head ⟨_, found, mem⟩ ih

theorem eq_of_shared (h : graph.Reads id field) {node : ServiceNode}
    (found : graph.node? id = some node) (shared : node.isShared) : field = id := by
  cases h with
  | field => rfl
  | inline other perRequest _ _ =>
    obtain rfl := Option.some.inj (found.symm.trans other)
    exact absurd shared perRequest

theorem requires (h : graph.Reads id field) {node : ServiceNode}
    (found : graph.node? id = some node) (perRequest : ¬ node.isShared) :
    graph.Requires node field := by
  cases h with
  | field other shared =>
    obtain rfl := Option.some.inj (found.symm.trans other)
    exact absurd shared perRequest
  | @inline _ dependency _ _ other _ mem reads =>
    obtain rfl := Option.some.inj (found.symm.trans other)
    exact ⟨dependency, mem, reads⟩

end Reads

theorem reads_iff_of_shared {id field : NodeId} {node : ServiceNode}
    (found : graph.node? id = some node) (shared : node.isShared) :
    graph.Reads id field ↔ field = id := by
  constructor
  · intro h
    exact h.eq_of_shared found shared
  · rintro rfl
    exact .field found shared

theorem reads_iff_of_perRequest {id field : NodeId} {node : ServiceNode}
    (found : graph.node? id = some node) (perRequest : ¬ node.isShared) :
    graph.Reads id field ↔ graph.Requires node field :=
  ⟨fun h => h.requires found perRequest,
    fun ⟨_, hmem, hreads⟩ => .inline found perRequest hmem hreads⟩

theorem Requires.dependsOn {id field : NodeId} {node : ServiceNode}
    (found : graph.node? id = some node) (h : graph.Requires node field) :
    TransGen graph.DependsOn id field := by
  obtain ⟨dependency, hmem, hreads⟩ := h
  exact TransGen.head' ⟨node, found, hmem⟩ hreads.dependsOn

theorem reads_of_mem_sharedFrom {pending visited : List NodeId} {field : NodeId}
    (h : field ∈ graph.sharedFrom pending visited) : ∃ id ∈ pending, graph.Reads id field := by
  fun_induction sharedFrom graph pending visited with
  | case1 => cases h
  | case2 visited id rest _ ih =>
    obtain ⟨other, hmem, hreads⟩ := ih h
    exact ⟨other, List.mem_cons_of_mem _ hmem, hreads⟩
  | case3 visited id rest _ _ ih =>
    obtain ⟨other, hmem, hreads⟩ := ih h
    exact ⟨other, List.mem_cons_of_mem _ hmem, hreads⟩
  | case4 visited id rest _ node found shared ih =>
    rcases List.mem_cons.mp h with rfl | h
    · exact ⟨_, List.mem_cons_self, .field found shared⟩
    · obtain ⟨other, hmem, hreads⟩ := ih h
      exact ⟨other, List.mem_cons_of_mem _ hmem, hreads⟩
  | case5 visited id rest _ node found perRequest ih =>
    obtain ⟨other, hmem, hreads⟩ := ih h
    rcases List.mem_append.mp hmem with hmem | hmem
    · exact ⟨id, List.mem_cons_self, .inline found perRequest hmem hreads⟩
    · exact ⟨other, List.mem_cons_of_mem _ hmem, hreads⟩

def Met (graph : ServiceGraph) (pending visited : List NodeId) (id : NodeId) : Prop :=
  (∃ node, graph.node? id = some node) → id ∈ visited ∨ id ∈ pending

theorem Met.skip {pending visited : List NodeId} {next id : NodeId}
    (h : graph.Met (next :: pending) visited id) (hnext : graph.Met [] visited next) :
    graph.Met pending visited id := by
  intro hnode
  rcases h hnode with h | h
  · exact Or.inl h
  · rcases List.mem_cons.mp h with rfl | h
    · exact Or.inl ((hnext hnode).resolve_right List.not_mem_nil)
    · exact Or.inr h

theorem Met.visit {pending visited : List NodeId} {next id : NodeId} (more : List NodeId)
    (h : graph.Met (next :: pending) visited id) :
    graph.Met (more ++ pending) (next :: visited) id := by
  intro hnode
  rcases h hnode with h | h
  · exact Or.inl (List.mem_cons_of_mem _ h)
  · rcases List.mem_cons.mp h with rfl | h
    · exact Or.inl List.mem_cons_self
    · exact Or.inr (List.mem_append_right _ h)

/-- A search loses nothing: what a visited per-request node depends on has been met. -/
def Covers (graph : ServiceGraph) (pending visited : List NodeId) : Prop :=
  ∀ id ∈ visited, ∀ node, graph.node? id = some node → ¬ node.isShared →
    ∀ dependency ∈ node.dependencies, graph.Met pending visited dependency

theorem Covers.skip {pending visited : List NodeId} {next : NodeId}
    (h : graph.Covers (next :: pending) visited) (hnext : graph.Met [] visited next) :
    graph.Covers pending visited :=
  fun id hid node found perRequest dependency hmem =>
    (h id hid node found perRequest dependency hmem).skip hnext

/-- Visiting a node keeps all that was met, provided that the dependencies of a per-request node
become pending. -/
theorem Covers.visit {pending visited : List NodeId} {next : NodeId} {node : ServiceNode}
    (more : List NodeId) (found : graph.node? next = some node)
    (hmore : ¬ node.isShared → ∀ dependency ∈ node.dependencies, dependency ∈ more)
    (h : graph.Covers (next :: pending) visited) :
    graph.Covers (more ++ pending) (next :: visited) := by
  intro id hid other hother perRequest dependency hmem
  rcases List.mem_cons.mp hid with rfl | hid
  · obtain rfl := Option.some.inj (found.symm.trans hother)
    exact fun _ => Or.inr (List.mem_append_left _ (hmore perRequest dependency hmem))
  · exact (h id hid other hother perRequest dependency hmem).visit more

/-- When nothing is pending, whatever is read behind a visited node has been visited. -/
theorem mem_visited_of_reads {visited : List NodeId} (hcovers : graph.Covers [] visited)
    {id field : NodeId} (hmem : id ∈ visited) (hreads : graph.Reads id field) :
    field ∈ visited := by
  induction hreads with
  | field => exact hmem
  | inline found perRequest mem reads ih =>
    have hmet := hcovers _ hmem _ found perRequest _ mem reads.exists_node?
    exact ih (hmet.resolve_right List.not_mem_nil)

/-- Whatever is read behind a node that was met has been visited or will be found. -/
theorem mem_sharedFrom_of_reads {pending visited : List NodeId}
    (hcovers : graph.Covers pending visited) {id field : NodeId}
    (hmet : graph.Met pending visited id) (hreads : graph.Reads id field) :
    field ∈ visited ∨ field ∈ graph.sharedFrom pending visited := by
  fun_induction sharedFrom graph pending visited with
  | case1 visited =>
    have hmem := (hmet hreads.exists_node?).resolve_right List.not_mem_nil
    exact Or.inl (mem_visited_of_reads hcovers hmem hreads)
  | case2 visited next rest hvisited ih =>
    have hnext : graph.Met [] visited next := fun _ => Or.inl hvisited
    exact ih (hcovers.skip hnext) (hmet.skip hnext)
  | case3 visited next rest _ hnone ih =>
    have hnext : graph.Met [] visited next := by
      rintro ⟨node, hnode⟩
      rw [hnone] at hnode
      cases hnode
    exact ih (hcovers.skip hnext) (hmet.skip hnext)
  | case4 visited next rest _ node found shared ih =>
    rcases ih (hcovers.visit [] found fun h => absurd shared h) (hmet.visit []) with h | h
    · rcases List.mem_cons.mp h with rfl | h
      · exact Or.inr List.mem_cons_self
      · exact Or.inl h
    · exact Or.inr (List.mem_cons_of_mem _ h)
  | case5 visited next rest _ node found perRequest ih =>
    have hcovers' := hcovers.visit node.dependencies found fun _ _ h => h
    rcases ih hcovers' (hmet.visit node.dependencies) with h | h
    · rcases List.mem_cons.mp h with rfl | h
      · obtain ⟨target, htarget, shared⟩ := hreads.exists_shared
        obtain rfl := Option.some.inj (found.symm.trans htarget)
        exact absurd shared perRequest
      · exact Or.inl h
    · exact Or.inr h

/-- The search finds what the pending nodes read. -/
theorem mem_sharedFrom_iff {pending : List NodeId} {field : NodeId} :
    field ∈ graph.sharedFrom pending [] ↔ ∃ id ∈ pending, graph.Reads id field := by
  refine ⟨reads_of_mem_sharedFrom, ?_⟩
  rintro ⟨id, hmem, hreads⟩
  have hcovers : graph.Covers pending [] := by simp [Covers]
  have hfound := mem_sharedFrom_of_reads hcovers (fun _ => Or.inr hmem) hreads
  exact hfound.resolve_left List.not_mem_nil

/-- The required fields of a node are those that its creation reads. -/
theorem mem_requiredFields_iff {id field : NodeId} {node : ServiceNode}
    (found : graph.node? id = some node) :
    field ∈ graph.requiredFields id ↔ graph.Requires node field := by
  have hsearch : field ∈ graph.sharedFrom node.dependencies [] ↔ graph.Requires node field :=
    mem_sharedFrom_iff
  have hlt : graph.Requires node field → field < graph.size := by
    rintro ⟨dependency, _, hreads⟩
    obtain ⟨target, htarget, _⟩ := hreads.exists_shared
    exact lt_size_of_node? htarget
  simp only [requiredFields, found, Option.map_some, Option.getD_some, List.mem_filter,
    decide_eq_true_eq, hsearch, mem_nodeIds]
  exact ⟨fun h => h.2, fun h => ⟨hlt h, h⟩⟩

/-- A node waits for the fields that its creation reads if it is shared, and else for none. -/
theorem mem_waitsFor_iff {id field : NodeId} {node : ServiceNode}
    (found : graph.node? id = some node) :
    field ∈ graph.waitsFor id ↔ node.isShared ∧ graph.Requires node field := by
  by_cases shared : node.isShared
  · simp [waitsFor, found, shared, mem_requiredFields_iff found]
  · simp [waitsFor, found, shared]

theorem waitsFor_eq_nil {id : NodeId}
    (h : ¬ ∃ node, graph.node? id = some node ∧ node.isShared) : graph.waitsFor id = [] :=
  if_neg fun hany => h ((Option.any_eq_true _ _).mp hany)

theorem nodup_waitsFor (graph : ServiceGraph) (id : NodeId) : (graph.waitsFor id).Nodup := by
  unfold waitsFor
  split
  · exact graph.nodup_nodeIds.filter _
  · exact List.nodup_nil

/-- Waiting follows dependencies, so it leads to nodes of smaller rank. -/
theorem rank_lt_of_mem_waitsFor (h : graph.WellFormed) {id field : NodeId}
    (hlt : id < graph.size) (hmem : field ∈ graph.waitsFor id) :
    field < graph.size ∧ graph.rank field < graph.rank id := by
  obtain ⟨node, found⟩ := exists_node?_of_lt hlt
  obtain ⟨_, hrequires⟩ := (mem_waitsFor_iff found).mp hmem
  obtain ⟨target, htarget, _⟩ := hrequires.choose_spec.2.exists_shared
  exact ⟨lt_size_of_node? htarget, h.rank_lt_of_transGen (hrequires.dependsOn found)⟩

end CompositionRoot.ServiceGraph
