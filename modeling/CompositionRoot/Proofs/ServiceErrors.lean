import CompositionRoot.Generator.Config
import CompositionRoot.Proofs.MissingFields
import CompositionRoot.Proofs.Resolvability
import CompositionRoot.Proofs.Synthesis

/-! Errors of a synthesis. A class is refused only for a field that is missing, and a resolved graph
can always be ordered, so with an order of the generator's own every error tells of services. -/
namespace CompositionRoot

def GenerationError.IsMissingField (error : GenerationError) : Prop :=
  ∃ identifier requiredBy, error = .missingField identifier requiredBy

namespace ServiceGraph

variable {graph : ServiceGraph} {declared : List NodeId} {error : GenerationError}

theorem FirstMissing.isMissingField {node : ServiceNode}
    (h : graph.FirstMissing declared node error) : error.IsMissingField := by
  induction h with
  | field => exact ⟨_, _, rfl⟩
  | inline _ _ _ _ _ ih => exact ih

theorem isMissingField_of_emit (hgraph : graph.WellFormed) {names : ClassNames}
    {order : List NodeId} (h : graph.emit names order = .error error) : error.IsMissingField := by
  obtain ⟨id, node, scope, _, hmissing⟩ := exists_firstMissing_of_emit hgraph h
  exact hmissing.isMissingField

theorem WellFormed.exists_order (hgraph : graph.WellFormed) (strategy : OrderingStrategy) :
    ∃ order, strategy.policy graph = .ok order := by
  cases strategy with
  | topological =>
    obtain ⟨order, horder, _⟩ := hgraph.exists_topologicalOrder
    exact ⟨order, horder⟩
  | dependencyCount => exact ⟨graph.dependencyCountOrder, rfl⟩

end ServiceGraph

section

variable {κ : Type} [TypeCatalog κ] {catalog : κ} {requested : List TypeIdentity}
  {error : GenerationError}

/-- With an order of the generator's own, a synthesis fails as the resolution does or for a missing
field. -/
theorem error_of_synthesize {strategy : OrderingStrategy} {names : ClassNames}
    (h : synthesize catalog strategy.policy names requested = .error error) :
    ServiceGraph.resolve catalog requested = .error error ∨ error.IsMissingField := by
  cases hresolve : ServiceGraph.resolve catalog requested with
  | error other =>
    rw [synthesize_of_error hresolve] at h
    cases h
    exact Or.inl rfl
  | ok graph =>
    have hgraph := wellFormed_of_resolve hresolve
    obtain ⟨order, horder⟩ := hgraph.exists_order strategy
    rw [synthesize_of_ok hresolve, horder] at h
    exact Or.inr (ServiceGraph.isMissingField_of_emit hgraph h)

theorem category_of_synthesize {strategy : OrderingStrategy} {names : ClassNames}
    (h : synthesize catalog strategy.policy names requested = .error error) :
    error.category = "DI.Services" := by
  rcases error_of_synthesize h with hresolve | ⟨identifier, requiredBy, rfl⟩
  · obtain ⟨request, _, hfails⟩ := fails_of_resolve hresolve
    rcases hfails.kind with ⟨type, rfl⟩ | ⟨chain, rfl⟩
    · rfl
    · rfl
  · rfl

end

end CompositionRoot
