import CompositionRoot.Proofs.FieldUses

/-! The search for required fields, step by step. A stack holds the dependencies that are still to
be visited, and a node is visited once. Every step visits a node or shortens the stack, so the
search ends, with the shared nodes to which a path through per-request nodes leads. -/
namespace CompositionRoot

open Relation

namespace ServiceGraph

variable {graph : ServiceGraph} {id other user field : NodeId} {node : ServiceNode}

/-- A path of dependencies leads from one node to another. Between them lie per-request nodes
only. -/
def LeadsTo (graph : ServiceGraph) (id other : NodeId) : Prop :=
  ∃ user, ReflTransGen graph.CreatesInPlace id user ∧ graph.DependsOn user other

namespace LeadsTo

theorem single (h : graph.DependsOn id other) : graph.LeadsTo id other :=
  ⟨id, .refl, h⟩

theorem tail (h : graph.LeadsTo id user) (found : graph.node? user = some node)
    (perRequest : ¬ node.isShared) (hdepends : graph.DependsOn user other) :
    graph.LeadsTo id other := by
  obtain ⟨before, hpath, hstep⟩ := h
  exact ⟨user, hpath.tail ⟨hstep, node, found, perRequest⟩, hdepends⟩

theorem reads (h : graph.LeadsTo id other) (hreads : graph.Reads other field) :
    graph.LeadsTo id field := by
  induction hreads with
  | field => exact h
  | @inline other next _ target found perRequest hmem _ ih =>
    exact ih (h.tail found perRequest ⟨target, found, hmem⟩)

theorem lt_size (h : graph.LeadsTo id other) (hgraph : graph.WellFormed) : other < graph.size := by
  obtain ⟨user, _, hdepends⟩ := h
  exact hgraph.dependency_lt hdepends

end LeadsTo

/-- The creation of a node requires the fields of the shared nodes to which it leads. -/
theorem requires_iff_leadsTo (found : graph.node? id = some node) :
    graph.Requires node field ↔
      (∃ target, graph.node? field = some target ∧ target.isShared) ∧ graph.LeadsTo id field := by
  constructor
  · rintro ⟨dependency, hmem, hreads⟩
    have hfirst : graph.LeadsTo id dependency := .single ⟨node, found, hmem⟩
    exact ⟨hreads.exists_shared, hfirst.reads hreads⟩
  · rintro ⟨⟨target, htarget, shared⟩, user, hpath, hdepends⟩
    induction hpath using ReflTransGen.head_induction_on generalizing node with
    | refl =>
      obtain ⟨other, hother, hmem⟩ := hdepends
      obtain rfl := Option.some.inj (found.symm.trans hother)
      exact ⟨field, hmem, .field htarget shared⟩
    | @head id next hstep _ ih =>
      obtain ⟨⟨other, hother, hmem⟩, middle, hmiddle, perRequest⟩ := hstep
      obtain rfl := Option.some.inj (found.symm.trans hother)
      exact ⟨next, hmem, (reads_iff_of_perRequest hmiddle perRequest).mpr (ih hmiddle)⟩

end ServiceGraph

/-- A stage of the search: the fields found, the nodes visited, and the stack, with its top at the
end. -/
structure FieldSearch where
  required : List NodeId := []
  visited : List NodeId := []
  pending : List NodeId
deriving DecidableEq, Repr

namespace FieldSearch

def start (node : ServiceNode) : FieldSearch where
  pending := node.dependencies

/-- A step takes the node on top of the stack. A node outside the graph cannot be taken. -/
inductive Step (graph : ServiceGraph) : FieldSearch → FieldSearch → Prop where
  | skip {required visited rest : List NodeId} {id : NodeId} (old : id ∈ visited) :
      Step graph ⟨required, visited, rest ++ [id]⟩ ⟨required, visited, rest⟩
  | field {required visited rest : List NodeId} {id : NodeId} {node : ServiceNode}
      (new : id ∉ visited) (found : graph.node? id = some node) (shared : node.isShared) :
      Step graph ⟨required, visited, rest ++ [id]⟩ ⟨id :: required, id :: visited, rest⟩
  | inline {required visited rest : List NodeId} {id : NodeId} {node : ServiceNode}
      (new : id ∉ visited) (found : graph.node? id = some node) (perRequest : ¬ node.isShared) :
      Step graph ⟨required, visited, rest ++ [id]⟩
        ⟨required, id :: visited, rest ++ node.dependencies⟩

variable {graph : ServiceGraph} {id : NodeId} {search later : FieldSearch}

def work (graph : ServiceGraph) (search : FieldSearch) : Nat × Nat :=
  (graph.unvisited search.visited, search.pending.length)

theorem Step.work_lt (h : Step graph search later) :
    Prod.Lex (· < ·) (· < ·) (later.work graph) (search.work graph) := by
  cases h with
  | skip old =>
    apply Prod.Lex.right
    simp
  | field new found shared =>
    exact Prod.Lex.left _ _ (graph.unvisited_cons_lt new (ServiceGraph.lt_size_of_node? found))
  | inline new found perRequest =>
    exact Prod.Lex.left _ _ (graph.unvisited_cons_lt new (ServiceGraph.lt_size_of_node? found))

theorem wellFounded_step (graph : ServiceGraph) :
    WellFounded fun later search => Step graph search later :=
  Subrelation.wf Step.work_lt
    (InvImage.wf (work graph) (WellFounded.prod_lex Nat.lt_wfRel.wf Nat.lt_wfRel.wf))

def Met (search : FieldSearch) (id : NodeId) : Prop :=
  id ∈ search.visited ∨ id ∈ search.pending

def Collects (graph : ServiceGraph) (search : FieldSearch) : Prop :=
  ∀ id, id ∈ search.required ↔
    id ∈ search.visited ∧ ∃ node, graph.node? id = some node ∧ node.isShared

namespace Step

theorem exists_top (h : Step graph search later) : ∃ rest top,
    search.pending = rest ++ [top] ∧ rest ⊆ later.pending ∧ top ∈ later.visited ∧
      search.visited ⊆ later.visited := by
  cases h with
  | @skip required visited rest top old =>
    exact ⟨rest, top, rfl, List.Subset.refl rest, old, List.Subset.refl visited⟩
  | @field required visited rest top node new found shared =>
    exact ⟨rest, top, rfl, List.Subset.refl rest, List.mem_cons_self, List.subset_cons_self ..⟩
  | @inline required visited rest top node new found perRequest =>
    exact ⟨rest, top, rfl, List.subset_append_left .., List.mem_cons_self,
      List.subset_cons_self ..⟩

theorem met (h : Step graph search later) (hmet : search.Met id) : later.Met id := by
  obtain ⟨rest, top, hpending, hrest, htop, hvisited⟩ := h.exists_top
  rcases hmet with hid | hid
  · exact Or.inl (hvisited hid)
  · rw [hpending, List.mem_append, List.mem_singleton] at hid
    rcases hid with hid | rfl
    · exact Or.inr (hrest hid)
    · exact Or.inl htop

/-- What a step comes across is a dependency of the per-request node that it takes. -/
theorem met_cases (h : Step graph search later) (hmet : later.Met id) :
    search.Met id ∨ ∃ user node, search.Met user ∧ graph.node? user = some node ∧
      ¬ node.isShared ∧ id ∈ node.dependencies := by
  cases h with
  | @skip required visited rest top old =>
    exact Or.inl (hmet.imp_right (List.mem_append_left [top]))
  | @field required visited rest top node new found shared =>
    rcases hmet with hid | hid
    · rcases List.mem_cons.mp hid with rfl | hid
      · exact Or.inl (Or.inr (by simp))
      · exact Or.inl (Or.inl hid)
    · exact Or.inl (Or.inr (List.mem_append_left [top] hid))
  | @inline required visited rest top node new found perRequest =>
    have htop : Met ⟨required, visited, rest ++ [top]⟩ top := Or.inr (by simp)
    rcases hmet with hid | hid
    · rcases List.mem_cons.mp hid with rfl | hid
      · exact Or.inl htop
      · exact Or.inl (Or.inl hid)
    · rcases List.mem_append.mp hid with hid | hid
      · exact Or.inl (Or.inr (List.mem_append_left [top] hid))
      · exact Or.inr ⟨top, node, htop, found, perRequest, hid⟩

/-- When a per-request node is visited, its dependencies are put on the stack. -/
theorem visited_cases (h : Step graph search later) (hid : id ∈ later.visited) :
    id ∈ search.visited ∨ ∀ node, graph.node? id = some node → ¬ node.isShared →
      ∀ dependency ∈ node.dependencies, later.Met dependency := by
  cases h with
  | skip old => exact Or.inl hid
  | field new found shared =>
    rcases List.mem_cons.mp hid with rfl | hid
    · refine Or.inr fun other hother perRequest => ?_
      obtain rfl := Option.some.inj (found.symm.trans hother)
      exact absurd shared perRequest
    · exact Or.inl hid
  | inline new found perRequest =>
    rcases List.mem_cons.mp hid with rfl | hid
    · refine Or.inr fun other hother _ dependency hmem => ?_
      obtain rfl := Option.some.inj (found.symm.trans hother)
      exact Or.inr (List.mem_append_right _ hmem)
    · exact Or.inl hid

theorem collects (h : Step graph search later) (hcollects : Collects graph search) :
    Collects graph later := by
  intro id
  cases h with
  | skip old => exact hcollects id
  | @field required visited rest top node new found shared =>
    have hid := hcollects id
    dsimp only at hid ⊢
    rw [List.mem_cons, List.mem_cons, hid, or_and_right]
    have htop : id = top → ∃ node, graph.node? id = some node ∧ node.isShared := by
      rintro rfl
      exact ⟨node, found, shared⟩
    rw [and_iff_left_of_imp htop]
  | @inline required visited rest top node new found perRequest =>
    have hid := hcollects id
    dsimp only at hid ⊢
    rw [List.mem_cons, hid, or_and_right]
    have htop : ¬ (id = top ∧ ∃ node, graph.node? id = some node ∧ node.isShared) := by
      rintro ⟨rfl, other, hother, shared⟩
      obtain rfl := Option.some.inj (found.symm.trans hother)
      exact perRequest shared
    rw [or_iff_right htop]

end Step

/-- A search from `id` comes across nothing but what `id` leads to. It has met all dependencies of
`id` and of the per-request nodes that it visited. -/
structure Explores (graph : ServiceGraph) (id : NodeId) (search : FieldSearch) : Prop where
  leadsTo : ∀ other, search.Met other → graph.LeadsTo id other
  met : ∀ user node, graph.node? user = some node →
    (user = id ∨ user ∈ search.visited ∧ ¬ node.isShared) →
      ∀ dependency ∈ node.dependencies, search.Met dependency
  collects : search.Collects graph

namespace Explores

variable {node : ServiceNode}

theorem start (found : graph.node? id = some node) : Explores graph id (start node) where
  leadsTo := by
    rintro other (hvisited | hpending)
    · cases hvisited
    · exact .single ⟨node, found, hpending⟩
  met := by
    rintro user other hother (rfl | ⟨hvisited, _⟩) dependency hmem
    · obtain rfl := Option.some.inj (found.symm.trans hother)
      exact Or.inr hmem
    · cases hvisited
  collects := by
    intro other
    simp [FieldSearch.start]

theorem step (h : Explores graph id search) (hstep : Step graph search later) :
    Explores graph id later where
  leadsTo := by
    intro other hmet
    rcases hstep.met_cases hmet with hold | ⟨user, node, huser, found, perRequest, hmem⟩
    · exact h.leadsTo other hold
    · exact (h.leadsTo user huser).tail found perRequest ⟨node, found, hmem⟩
  met := by
    rintro user node found huser dependency hmem
    rcases huser with rfl | ⟨hvisited, perRequest⟩
    · exact hstep.met (h.met user node found (Or.inl rfl) dependency hmem)
    · rcases hstep.visited_cases hvisited with hold | hnew
      · exact hstep.met (h.met user node found (Or.inr ⟨hold, perRequest⟩) dependency hmem)
      · exact hnew node found perRequest dependency hmem
  collects := hstep.collects h.collects

theorem run (found : graph.node? id = some node)
    (hrun : ReflTransGen (Step graph) (FieldSearch.start node) search) :
    Explores graph id search := by
  induction hrun with
  | refl => exact start found
  | tail _ hstep ih => exact ih.step hstep

/-- No step leads out of a well-formed graph, so a search goes on until its stack is empty. -/
theorem exists_step (h : Explores graph id search) (hgraph : graph.WellFormed)
    (hpending : search.pending ≠ []) : ∃ later, Step graph search later := by
  obtain ⟨required, visited, pending⟩ := search
  obtain ⟨rest, top, rfl⟩ := (List.eq_nil_or_concat' pending).resolve_left hpending
  by_cases hvisited : top ∈ visited
  · exact ⟨_, .skip hvisited⟩
  · have hleads : graph.LeadsTo id top := h.leadsTo top (Or.inr (by simp))
    obtain ⟨node, found⟩ := ServiceGraph.exists_node?_of_lt (hleads.lt_size hgraph)
    by_cases shared : node.isShared
    · exact ⟨_, .field hvisited found shared⟩
    · exact ⟨_, .inline hvisited found shared⟩

/-- With an empty stack, all that `id` leads to has been visited. -/
theorem mem_visited_iff (h : Explores graph id search) (hpending : search.pending = [])
    {other : NodeId} : other ∈ search.visited ↔ graph.LeadsTo id other := by
  have hmet : ∀ {other}, search.Met other → other ∈ search.visited := by
    rintro other (hvisited | hother)
    · exact hvisited
    · rw [hpending] at hother
      cases hother
  refine ⟨fun hvisited => h.leadsTo other (Or.inl hvisited), ?_⟩
  rintro ⟨user, hpath, node, found, hmem⟩
  -- each node on the path is a dependency of the one before it, which was opened when visited
  have huser : user = id ∨ user ∈ search.visited ∧ ¬ node.isShared := by
    induction hpath generalizing node other with
    | refl => exact Or.inl rfl
    | tail _ hstep ih =>
      obtain ⟨⟨before, hbefore, hnext⟩, next, hfound, perRequest⟩ := hstep
      obtain rfl := Option.some.inj (found.symm.trans hfound)
      exact Or.inr ⟨hmet (h.met _ before hbefore (ih before hbefore hnext) _ hnext), perRequest⟩
  exact hmet (h.met user node found huser other hmem)

theorem mem_required_iff (h : Explores graph id search) (hpending : search.pending = [])
    (found : graph.node? id = some node) {field : NodeId} :
    field ∈ search.required ↔ field ∈ graph.requiredFields id := by
  rw [h.collects, h.mem_visited_iff hpending, ServiceGraph.mem_requiredFields_iff found,
    ServiceGraph.requires_iff_leadsTo found, and_comm]

end Explores

/-- A search that can go on as long as its stack is not empty comes to an end. -/
theorem exists_end (hgo : ∀ later, ReflTransGen (Step graph) search later → later.pending ≠ [] →
      ∃ next, Step graph later next) :
    ∃ last, ReflTransGen (Step graph) search last ∧ last.pending = [] := by
  induction (wellFounded_step graph).apply search with
  | intro search _ ih =>
    by_cases hpending : search.pending = []
    · exact ⟨search, .refl, hpending⟩
    · obtain ⟨next, hstep⟩ := hgo search .refl hpending
      obtain ⟨last, hrun, hlast⟩ :=
        ih next hstep fun later hlater => hgo later (hlater.head hstep)
      exact ⟨last, hrun.head hstep, hlast⟩

end FieldSearch

/-- In the graph after any session, the required fields of a node are the shared nodes to which a
path through per-request nodes leads, and so never the node itself. The search for them with a stack
has no infinite run, takes no node outside the graph, and has found exactly these when it ends. -/
theorem requiredFields_reached_through_perRequest {κ : Type} [TypeCatalog κ] (catalog : κ)
    (types : List TypeIdentity) {graph : ServiceGraph} {id : NodeId} {node : ServiceNode}
    (hsession : (Builder.afterSession catalog types {}).graph = graph)
    (found : graph.node? id = some node) :
    (∀ field, field ∈ graph.requiredFields id ↔
      (∃ target, graph.node? field = some target ∧ target.isShared) ∧ graph.LeadsTo id field) ∧
    (graph.requiredFields id).Nodup ∧ id ∉ graph.requiredFields id ∧
    (WellFounded fun later search => FieldSearch.Step graph search later) ∧
    (∃ last, ReflTransGen (FieldSearch.Step graph) (.start node) last ∧ last.pending = []) ∧
    ∀ search, ReflTransGen (FieldSearch.Step graph) (.start node) search →
      (search.pending ≠ [] → ∃ later, FieldSearch.Step graph search later) ∧
      (search.pending = [] →
        ∀ field, field ∈ search.required ↔ field ∈ graph.requiredFields id) := by
  have hgraph : graph.WellFormed := hsession ▸ wellFormed_afterSession catalog types
  have hgo : ∀ search, ReflTransGen (FieldSearch.Step graph) (.start node) search →
      search.pending ≠ [] → ∃ later, FieldSearch.Step graph search later :=
    fun search hrun => (FieldSearch.Explores.run found hrun).exists_step hgraph
  refine ⟨fun field => ?_, graph.nodup_nodeIds.filter _, fun hself => ?_,
    FieldSearch.wellFounded_step graph, FieldSearch.exists_end hgo, fun search hrun => ?_⟩
  · rw [ServiceGraph.mem_requiredFields_iff found, ServiceGraph.requires_iff_leadsTo found]
  · have hrequires := (ServiceGraph.mem_requiredFields_iff found).mp hself
    exact hgraph.not_cyclic id (hrequires.dependsOn found)
  · have hexplores := FieldSearch.Explores.run found hrun
    exact ⟨hgo search hrun, fun hpending _ => hexplores.mem_required_iff hpending found⟩

/-- The report requires the font of its page. -/
theorem report_fields_reached :
    (Builder.afterSession reportCatalog [⟨"Report"⟩] {}).graph = reportGraph ∧
    reportGraph.node? 0 = some reportNode ∧ 2 ∈ reportGraph.requiredFields 0 ∧
    1 ∉ reportGraph.requiredFields 0 ∧ 0 ∉ reportGraph.requiredFields 0 ∧
    ∃ last, ReflTransGen (FieldSearch.Step reportGraph) (.start reportNode) last ∧
      last.pending = [] := by
  have hsession : (Builder.afterSession reportCatalog [⟨"Report"⟩] {}).graph = reportGraph := by
    decide +kernel
  have found : reportGraph.node? 0 = some reportNode := rfl
  obtain ⟨hfields, _, hself, _, hlast, _⟩ :=
    requiredFields_reached_through_perRequest reportCatalog [⟨"Report"⟩] hsession found
  have hpage : reportGraph.node? 1 =
      some ⟨⟨"Page"⟩, ⟨"Page"⟩, .perRequest, [2, 3], "page"⟩ := rfl
  have hfont : reportGraph.node? 2 = some ⟨⟨"Font"⟩, ⟨"Font"⟩, .shared, [], "font"⟩ := rfl
  have hleads : reportGraph.LeadsTo 0 2 := by
    have hfirst : reportGraph.LeadsTo 0 1 := .single ⟨reportNode, found, by decide⟩
    exact hfirst.tail hpage (by decide) ⟨_, hpage, by decide⟩
  refine ⟨hsession, found, (hfields 2).mpr ⟨⟨_, hfont, rfl⟩, hleads⟩, fun hmem => ?_, hself, hlast⟩
  obtain ⟨⟨target, htarget, shared⟩, _⟩ := (hfields 1).mp hmem
  obtain rfl := Option.some.inj (hpage.symm.trans htarget)
  exact absurd shared (by decide)

end CompositionRoot
