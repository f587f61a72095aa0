import CompositionRoot.Graph.Basic

/-! Shared services that must exist before a service is created: those among its dependencies, and
those behind its per-request dependencies, which are created in place. -/
namespace CompositionRoot

namespace ServiceGraph

def unvisited (graph : ServiceGraph) (visited : List NodeId) : Nat :=
  graph.nodeIds.countP (· ∉ visited)

theorem unvisited_cons_lt (graph : ServiceGraph) {visited : List NodeId} {id : NodeId}
    (new : id ∉ visited) (inside : id < graph.size) :
    graph.unvisited (id :: visited) < graph.unvisited visited := by
  refine countP_lt_countP (fun other h => ?_) (mem_nodeIds.mpr inside) ?_ ?_
  · simp_all
  · simpa using new
  · simp

/-- The shared nodes that a search of the pending nodes finds when it goes on behind per-request
nodes only. -/
def sharedFrom (graph : ServiceGraph) (pending visited : List NodeId) : List NodeId :=
  match pending with
  | [] => []
  | id :: rest =>
    if id ∈ visited then
      graph.sharedFrom rest visited
    else
      match _found : graph.node? id with
      | none => graph.sharedFrom rest visited
      | some node =>
        if node.isShared then id :: graph.sharedFrom rest (id :: visited)
        else graph.sharedFrom (node.dependencies ++ rest) (id :: visited)
termination_by (graph.unvisited visited, pending.length)
decreasing_by
  · exact Prod.Lex.right _ (Nat.lt_succ_self _)
  · exact Prod.Lex.right _ (Nat.lt_succ_self _)
  · exact Prod.Lex.left _ _ (graph.unvisited_cons_lt ‹_› (lt_size_of_node? _found))
  · exact Prod.Lex.left _ _ (graph.unvisited_cons_lt ‹_› (lt_size_of_node? _found))

/-- The shared nodes whose fields must be declared before the node can be created, in order of
discovery. -/
def requiredFields (graph : ServiceGraph) (id : NodeId) : List NodeId :=
  let found := graph.sharedFrom ((graph.node? id).map (·.dependencies) |>.getD []) []
  graph.nodeIds.filter (· ∈ found)

end ServiceGraph

end CompositionRoot
