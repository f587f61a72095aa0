import CompositionRoot.Graph.Ordering
import CompositionRoot.Graph.Resolution
import CompositionRoot.ServicesClass.Construction
import CompositionRoot.ServicesClass.Rendering

/-! Source text for requested types: their graph, an order of its services, and the class that
declares them. -/
namespace CompositionRoot

def ServiceGraph.emit (graph : ServiceGraph) (names : ClassNames) (order : List NodeId) :
    Except GenerationError String :=
  (graph.servicesClass names order).map ServicesClass.render

/-- The text of the services class for the requested types, or the first error. -/
def synthesize {κ : Type} [TypeCatalog κ] (catalog : κ) (ordering : OrderingPolicy)
    (names : ClassNames) (requested : List TypeIdentity) : Except GenerationError String := do
  let graph ← ServiceGraph.resolve catalog requested
  let order ← ordering graph
  graph.emit names order

end CompositionRoot
