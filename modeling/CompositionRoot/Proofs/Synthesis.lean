import CompositionRoot.Proofs.Emission
import CompositionRoot.Proofs.TopologicalOrder

/-! Synthesis with either order. In the topological order every field is declared before it is
needed, so synthesis fails only where resolution does. The order by number of dependencies works
exactly where it is the topological one. -/
namespace CompositionRoot

namespace ServiceGraph

variable {graph : ServiceGraph} {names : ClassNames} {order : List NodeId}

theorem servicesClass_eq_ok_iff {services : ServicesClass} :
    graph.servicesClass names order = .ok services ↔
      ∃ fields declared tests, graph.fieldsAfter [] order = .ok (fields, declared) ∧
        graph.branches declared order.eraseDups = .ok tests ∧
        ⟨names, fields, Dispatch.ofBranches tests⟩ = services := by
  rw [servicesClass]
  cases graph.fieldsAfter [] order with
  | error error => simp
  | ok result =>
    obtain ⟨fields, declared⟩ := result
    simp [map_eq_ok_iff]

theorem emit_eq_ok_iff {text : String} : graph.emit names order = .ok text ↔
    ∃ fields declared tests, graph.fieldsAfter [] order = .ok (fields, declared) ∧
      graph.branches declared order.eraseDups = .ok tests ∧
      (ServicesClass.mk names fields (Dispatch.ofBranches tests)).render = text := by
  rw [emit, map_eq_ok_iff]
  constructor
  · rintro ⟨services, hclass, hrender⟩
    obtain ⟨fields, declared, tests, hfields, hbranches, rfl⟩ := servicesClass_eq_ok_iff.mp hclass
    exact ⟨fields, declared, tests, hfields, hbranches, hrender⟩
  · rintro ⟨fields, declared, tests, hfields, hbranches, hrender⟩
    exact ⟨_, servicesClass_eq_ok_iff.mpr ⟨fields, declared, tests, hfields, hbranches, rfl⟩,
      hrender⟩

/-- A greedy order of all nodes can be emitted, since whatever a service requires is listed. -/
theorem Greedy.isOk_emit (h : graph.Greedy [] order) (hgraph : graph.WellFormed)
    (hlength : order.length = graph.size) : (graph.emit names order).isOk := by
  refine (isOk_emit_iff hgraph).mpr ⟨h.fieldsFirst, ?_⟩
  rintro _ _ _ _ _ field ⟨_, _, hreads⟩
  obtain ⟨target, htarget, _⟩ := hreads.exists_shared
  exact (h.perm hlength).mem_iff.mpr (mem_nodeIds.mpr (lt_size_of_node? htarget))

/-- The order by number of dependencies is the topological one if it can be emitted. -/
theorem topologicalOrder_eq_of_isOk_emit (hgraph : graph.WellFormed)
    (h : (graph.emit names graph.dependencyCountOrder).isOk) :
    graph.topologicalOrder = .ok graph.dependencyCountOrder := by
  have hperm := graph.perm_dependencyCountOrder
  have hgreedy : graph.Greedy [] graph.dependencyCountOrder :=
    greedy_of_pairwise hperm graph.pairwise_dependencyCountOrder rfl
      ((isOk_emit_iff hgraph).mp h).1
  obtain ⟨order, horder, hgreedy', hlength⟩ := hgraph.exists_topologicalOrder
  have hcount : graph.dependencyCountOrder.length = graph.size := by
    rw [hperm.length_eq, length_nodeIds]
  rw [horder, hgreedy.eq_of_length hgreedy' (hcount.trans hlength.symm)]

end ServiceGraph

section

variable {κ : Type} [TypeCatalog κ]

theorem synthesize_of_error {catalog : κ} {requested : List TypeIdentity} {error : GenerationError}
    (h : ServiceGraph.resolve catalog requested = .error error) (ordering : OrderingPolicy)
    (names : ClassNames) : synthesize catalog ordering names requested = .error error := by
  rw [synthesize, h]
  rfl

theorem synthesize_of_ok {catalog : κ} {requested : List TypeIdentity} {graph : ServiceGraph}
    (h : ServiceGraph.resolve catalog requested = .ok graph) (ordering : OrderingPolicy)
    (names : ClassNames) : synthesize catalog ordering names requested =
      (ordering graph).bind (graph.emit names) := by
  rw [synthesize, h]
  rfl

/-- A resolved graph has a topological order, and the class with its services in that order is the
result of synthesis. -/
theorem exists_text_of_resolve {catalog : κ} {requested : List TypeIdentity} {graph : ServiceGraph}
    (h : ServiceGraph.resolve catalog requested = .ok graph) (names : ClassNames) :
    ∃ order text, OrderingPolicy.topological graph = .ok order ∧ graph.emit names order = .ok text ∧
      synthesize catalog .topological names requested = .ok text := by
  have hgraph : graph.WellFormed := wellFormed_of_resolve h
  obtain ⟨order, horder, hgreedy, hlength⟩ := hgraph.exists_topologicalOrder
  have hok : (graph.emit names order).isOk := hgreedy.isOk_emit hgraph hlength
  obtain ⟨text, htext⟩ := isOk_iff.mp hok
  refine ⟨order, text, horder, htext, ?_⟩
  rw [synthesize_of_ok h, OrderingPolicy.topological, horder]
  exact htext

/-- With the topological order, synthesis fails with an error exactly if resolution does. Of a
resolved graph the nodes can be ordered, the fields declared and the tests written. -/
theorem synthesize_topological_fails_iff_resolve_fails (catalog : κ) (names : ClassNames)
    (requested : List TypeIdentity) :
    (∀ error, synthesize catalog .topological names requested = .error error ↔
      ServiceGraph.resolve catalog requested = .error error) ∧
    ∀ graph, ServiceGraph.resolve catalog requested = .ok graph →
      ∃ order fields declared tests text, OrderingPolicy.topological graph = .ok order ∧
        graph.fieldsAfter [] order = .ok (fields, declared) ∧
        graph.branches declared order.eraseDups = .ok tests ∧
        (ServicesClass.mk names fields (Dispatch.ofBranches tests)).render = text ∧
        synthesize catalog .topological names requested = .ok text := by
  constructor
  · intro error
    cases hresolve : ServiceGraph.resolve catalog requested with
    | error other => simp [synthesize_of_error hresolve]
    | ok graph =>
      obtain ⟨_, text, _, _, hok⟩ := exists_text_of_resolve hresolve names
      simp [hok]
  · intro graph hresolve
    obtain ⟨order, text, horder, hemit, hok⟩ := exists_text_of_resolve hresolve names
    obtain ⟨fields, declared, tests, hfields, htests, hrender⟩ :=
      ServiceGraph.emit_eq_ok_iff.mp hemit
    exact ⟨order, fields, declared, tests, text, horder, hfields, htests, hrender, hok⟩

/-- Whatever is synthesized with the order by number of dependencies is synthesized with the
topological order as well. -/
theorem synthesize_topological_of_dependencyCount (catalog : κ) (names : ClassNames)
    (requested : List TypeIdentity) (text : String)
    (h : synthesize catalog .dependencyCount names requested = .ok text) :
    synthesize catalog .topological names requested = .ok text := by
  cases hresolve : ServiceGraph.resolve catalog requested with
  | error error =>
    rw [synthesize_of_error hresolve] at h
    cases h
  | ok graph =>
    rw [synthesize_of_ok hresolve] at h ⊢
    have hemit : graph.emit names graph.dependencyCountOrder = .ok text := h
    have horder : graph.topologicalOrder = .ok graph.dependencyCountOrder :=
      ServiceGraph.topologicalOrder_eq_of_isOk_emit (wellFormed_of_resolve hresolve)
        (isOk_iff.mpr ⟨text, hemit⟩)
    rw [OrderingPolicy.topological, horder]
    exact hemit

end

/-- An application with a log that is created at each use, both of which keep a shared store. -/
def storeCatalog : List TypeInfo :=
  [{ identity := ⟨"App"⟩, constructors := [{ parameters := [⟨"Log"⟩, ⟨"Store"⟩] }] },
    { identity := ⟨"Log"⟩, isTransient := true, constructors := [{ parameters := [⟨"Store"⟩] }] },
    { identity := ⟨"Store"⟩ }]

def storeGraph : ServiceGraph where
  nodes :=
    [⟨⟨"App"⟩, ⟨"App"⟩, .shared, [1, 2], "app"⟩,
      ⟨⟨"Log"⟩, ⟨"Log"⟩, .perRequest, [2], "log"⟩,
      ⟨⟨"Store"⟩, ⟨"Store"⟩, .shared, [], "store"⟩]
  memo := [(⟨"Store"⟩, 2), (⟨"Log"⟩, 1), (⟨"App"⟩, 0)]
  identifiers := ["store", "log", "app"]

def storeClass : ServicesClass where
  names := {}
  fields :=
    [⟨⟨"Store"⟩, "store", .create ⟨"Store"⟩ []⟩,
      ⟨⟨"App"⟩, "app", .create ⟨"App"⟩ [.create ⟨"Log"⟩ [.field "store"], .field "store"]⟩]
  dispatch := .test ⟨"Store"⟩ (.field "store")
    (.test ⟨"Log"⟩ (.create ⟨"Log"⟩ [.field "store"]) (.otherwise (.field "app")))

theorem synthesize_topological_store :
    synthesize storeCatalog .dependencyCount {} [⟨"App"⟩] = .ok storeClass.render ∧
      synthesize storeCatalog .topological {} [⟨"App"⟩] = .ok storeClass.render := by
  have hresolve : ServiceGraph.resolve storeCatalog [⟨"App"⟩] = .ok storeGraph := by
    decide +kernel
  have horder : storeGraph.dependencyCountOrder = [2, 1, 0] :=
    List.Perm.eq_of_pairwise (fun _ _ _ _ => ServiceGraph.precedes_antisymm)
      storeGraph.pairwise_dependencyCountOrder (by decide)
      (storeGraph.perm_dependencyCountOrder.trans (by decide))
  have hcount : synthesize storeCatalog .dependencyCount {} [⟨"App"⟩] = .ok storeClass.render := by
    rw [synthesize_of_ok hresolve, OrderingPolicy.dependencyCount, horder]
    rfl
  exact ⟨hcount, synthesize_topological_of_dependencyCount _ _ _ _ hcount⟩

end CompositionRoot
