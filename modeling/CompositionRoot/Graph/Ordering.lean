import CompositionRoot.Catalog.Error
import CompositionRoot.Graph.RequiredFields

/-! Orders in which services are declared. The order by number of dependencies goes by what each
service takes itself, not by how deep its dependencies lie; the topological order puts the required
fields of every shared service before it. -/
namespace CompositionRoot

abbrev OrderingPolicy := ServiceGraph → Except GenerationError (List NodeId)

namespace ServiceGraph

def dependencyCount (graph : ServiceGraph) (id : NodeId) : Nat :=
  ((graph.node? id).map (·.dependencies.length)).getD 0

/-- Whether `a` has fewer dependencies than `b`, or as many and was discovered no later. -/
def precedes (graph : ServiceGraph) (a b : NodeId) : Bool :=
  graph.dependencyCount a < graph.dependencyCount b ||
    (graph.dependencyCount a == graph.dependencyCount b && a ≤ b)

def dependencyCountOrder (graph : ServiceGraph) : List NodeId :=
  graph.nodeIds.mergeSort graph.precedes

/-- The fields that must come before a node: those that it requires if it is shared, else none. -/
def waitsFor (graph : ServiceGraph) (id : NodeId) : List NodeId :=
  if (graph.node? id).any (·.isShared) then graph.requiredFields id else []

end ServiceGraph

/-- A stage of a topological order: how many required fields of each node are not listed yet, and
the nodes that can be listed next. -/
structure Frontier where
  waiting : List Nat
  ready : List NodeId
deriving DecidableEq, Repr

namespace Frontier

/-- Takes one of the fields that `id` waits for as listed. -/
def release (frontier : Frontier) (id : NodeId) : Frontier :=
  let remaining := frontier.waiting.getD id 0 - 1
  { waiting := frontier.waiting.set id remaining
    ready := if remaining = 0 then frontier.ready ++ [id] else frontier.ready }

/-- Lists at most `steps` nodes, the first of those ready each time, and gives the stage at the
end. -/
def list (graph : ServiceGraph) (requirements : List (NodeId × List NodeId)) :
    Nat → Frontier → List NodeId × Frontier
  | 0, frontier => ([], frontier)
  | steps + 1, frontier =>
    match frontier.ready.mergeSort graph.precedes with
    | [] => ([], frontier)
    | id :: ready =>
      let dependents := (requirements.filter (·.2.contains id)).map (·.1)
      let (order, last) :=
        list graph requirements steps (dependents.foldl release { frontier with ready })
      (id :: order, last)

end Frontier

namespace ServiceGraph

/-- The order in which every shared node comes after the fields that it requires. Of the nodes that
can come next, the first by number of dependencies and discovery does. -/
def topologicalOrder (graph : ServiceGraph) : Except GenerationError (List NodeId) :=
  let requirements := graph.nodeIds.map fun id => (id, graph.waitsFor id)
  let waiting := requirements.map (·.2.length)
  let ready := graph.nodeIds.filter fun id => waiting.getD id 0 = 0
  let (order, last) := Frontier.list graph requirements graph.size ⟨waiting, ready⟩
  if order.length = graph.size then
    .ok order
  else
    let stuck := graph.nodeIds.filter fun id => 0 < last.waiting.getD id 0
    .error (.dependencyCycle ((stuck.filterMap graph.node?).map (·.requested)))

end ServiceGraph

namespace OrderingPolicy

def dependencyCount : OrderingPolicy :=
  fun graph => .ok graph.dependencyCountOrder

def topological : OrderingPolicy :=
  ServiceGraph.topologicalOrder

end OrderingPolicy

end CompositionRoot
