import CompositionRoot.Graph.Ordering
import CompositionRoot.ServicesClass.Basic

/-! The configuration of a generator. -/
namespace CompositionRoot

inductive OrderingStrategy where
  | topological
  | dependencyCount
deriving DecidableEq, Repr

namespace OrderingStrategy

def name : OrderingStrategy → String
  | topological => "topological"
  | dependencyCount => "dependency_count"

def ofName? (name : String) : Option OrderingStrategy :=
  [topological, dependencyCount].find? (·.name == name)

def policy : OrderingStrategy → OrderingPolicy
  | topological => .topological
  | dependencyCount => .dependencyCount

end OrderingStrategy

/-- The names in the services class, its file, the order of services, and whether the generator
reports on its work. -/
structure GeneratorConfig extends ClassNames where
  fileName : String := "DISourceGen.Services.cs"
  ordering : OrderingStrategy := .topological
  installsLogger : Bool := true
deriving DecidableEq, Repr

end CompositionRoot
