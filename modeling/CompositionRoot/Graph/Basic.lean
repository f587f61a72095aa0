import CompositionRoot.Catalog.TypeInfo
import CompositionRoot.Graph.Identifier

/-! Graphs of services. Nodes are numbered in the order of their discovery, and each requested type
has one node. -/
namespace CompositionRoot

/-- The number of a node: how many were discovered before it. -/
abbrev NodeId := Nat

structure ServiceNode where
  requested : TypeIdentity
  implementation : TypeIdentity
  lifetime : Lifetime
  dependencies : List NodeId := []
  identifier : String
deriving DecidableEq, Repr

/-- Whether all users of the service have one instance. -/
def ServiceNode.isShared (node : ServiceNode) : Bool :=
  node.lifetime == .shared

/-- Nodes in order of discovery, the node of each requested type, and the identifiers in use; the
latter two have the newest first. -/
structure ServiceGraph where
  nodes : List ServiceNode := []
  memo : List (TypeIdentity × NodeId) := []
  identifiers : List String := []
deriving DecidableEq, Repr

/-- A stronger property that some element lacks has a smaller count. -/
theorem countP_lt_countP {α : Type} {p q : α → Bool} {l : List α} (imp : ∀ x, p x → q x)
    {a : α} (mem : a ∈ l) (hq : q a) (hp : ¬ p a) : l.countP p < l.countP q := by
  induction l with
  | nil => cases mem
  | cons b l ih =>
    have := List.countP_mono_left (l := l) fun x _ => imp x
    grind

namespace ServiceGraph

def size (graph : ServiceGraph) : Nat :=
  graph.nodes.length

def isEmpty (graph : ServiceGraph) : Bool :=
  graph.nodes.isEmpty

def nodeIds (graph : ServiceGraph) : List NodeId :=
  List.range graph.size

@[simp] theorem mem_nodeIds {graph : ServiceGraph} {id : NodeId} :
    id ∈ graph.nodeIds ↔ id < graph.size :=
  List.mem_range

@[simp] theorem length_nodeIds (graph : ServiceGraph) : graph.nodeIds.length = graph.size :=
  List.length_range

theorem nodup_nodeIds (graph : ServiceGraph) : graph.nodeIds.Nodup :=
  List.nodup_range

def node? (graph : ServiceGraph) (id : NodeId) : Option ServiceNode :=
  graph.nodes[id]?

theorem lt_size_of_node? {graph : ServiceGraph} {id : NodeId} {node : ServiceNode}
    (h : graph.node? id = some node) : id < graph.size :=
  (List.getElem?_eq_some_iff.mp h).1

theorem exists_node?_of_lt {graph : ServiceGraph} {id : NodeId} (h : id < graph.size) :
    ∃ node, graph.node? id = some node :=
  ⟨_, List.getElem?_eq_getElem h⟩

def nodeId? (graph : ServiceGraph) (requested : TypeIdentity) : Option NodeId :=
  graph.memo.lookup requested

def find? (graph : ServiceGraph) (requested : TypeIdentity) : Option ServiceNode :=
  (graph.nodeId? requested).bind graph.node?

/-- Adds a node without dependencies, which becomes the node of its requested type. -/
def insert (graph : ServiceGraph) (requested implementation : TypeIdentity) (lifetime : Lifetime) :
    ServiceGraph :=
  let identifier := freshIdentifier graph.identifiers implementation.baseIdentifier
  { nodes := graph.nodes ++ [{ requested, implementation, lifetime, identifier }]
    memo := (requested, graph.size) :: graph.memo
    identifiers := identifier :: graph.identifiers }

def setDependencies (graph : ServiceGraph) (id : NodeId) (dependencies : List NodeId) :
    ServiceGraph :=
  { graph with nodes := graph.nodes.modify id fun node => { node with dependencies } }

/-- Drops the nodes from `id` on, with what is known of their types and identifiers. -/
def truncate (graph : ServiceGraph) (id : NodeId) : ServiceGraph :=
  let dropped := graph.nodes.drop id
  { nodes := graph.nodes.take id
    memo := graph.memo.filter fun entry => dropped.all (·.requested != entry.1)
    identifiers := graph.identifiers.filter fun name => dropped.all (·.identifier != name) }

end ServiceGraph

end CompositionRoot
