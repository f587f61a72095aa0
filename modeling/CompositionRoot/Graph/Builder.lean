import CompositionRoot.Catalog.Implementation
import CompositionRoot.Graph.Basic

/-! Graphs under construction. A builder knows which nodes still wait for their dependencies, and
how many types of a catalog have no node yet. -/
namespace CompositionRoot

/-- A graph under construction, and the nodes whose dependencies are being resolved, the outermost
first. -/
structure Builder where
  graph : ServiceGraph := {}
  inProgress : List NodeId := []
deriving DecidableEq, Repr

namespace Builder

/-- Adds a node and begins with its dependencies. -/
def start (builder : Builder) (requested implementation : TypeIdentity) (lifetime : Lifetime) :
    Builder where
  graph := builder.graph.insert requested implementation lifetime
  inProgress := builder.inProgress ++ [builder.graph.size]

def finish (builder : Builder) (id : NodeId) (dependencies : List NodeId) : Builder where
  graph := builder.graph.setDependencies id dependencies
  inProgress := builder.inProgress.dropLast

/-- Ends the work on the innermost node in progress and drops it with all that was added after. -/
def abandon (builder : Builder) (id : NodeId) : Builder where
  graph := builder.graph.truncate id
  inProgress := builder.inProgress.dropLast

def progressFrom (builder : Builder) (id : NodeId) : List TypeIdentity :=
  ((builder.inProgress.dropWhile (· != id)).filterMap builder.graph.node?).map (·.requested)

def missing {κ : Type} [TypeCatalog κ] (catalog : κ) (builder : Builder) : Nat :=
  ((TypeCatalog.types catalog).map (·.identity)).eraseDups.countP fun type =>
    (builder.graph.nodeId? type).isNone

variable {κ : Type} [TypeCatalog κ]

/-- A graph that remembers at least what another does misses no more types. -/
theorem missing_le_of_suffix (catalog : κ) {builder later : Builder}
    (h : builder.graph.memo <:+ later.graph.memo) :
    later.missing catalog ≤ builder.missing catalog := by
  obtain ⟨newer, eq⟩ := h
  refine List.countP_mono_left fun type _ absent => ?_
  simp only [ServiceGraph.nodeId?, ← eq, List.lookup_append, Option.isNone_iff_eq_none,
    Option.or_eq_none_iff] at absent ⊢
  exact absent.2

/-- Starting on a type of the catalog without a node leaves fewer types missing. -/
theorem missing_start_lt (catalog : κ) {builder : Builder} {type : TypeIdentity}
    (new : builder.graph.nodeId? type = none)
    (known : type ∈ (TypeCatalog.types catalog).map (·.identity)) (implementation : TypeIdentity)
    (lifetime : Lifetime) :
    (builder.start type implementation lifetime).missing catalog < builder.missing catalog := by
  refine countP_lt_countP (fun other absent => ?_) (List.mem_eraseDups.mpr known) ?_ ?_
  · simp only [start, ServiceGraph.insert, ServiceGraph.nodeId?, List.lookup_cons] at absent ⊢
    split at absent
    · cases absent
    · exact absent
  · simp [new]
  · simp [start, ServiceGraph.insert, ServiceGraph.nodeId?]

end Builder

end CompositionRoot
