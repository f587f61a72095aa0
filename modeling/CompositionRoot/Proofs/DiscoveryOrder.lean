import CompositionRoot.Proofs.ReachedServices

/-! The order of discovery. A successful resolution keeps the nodes that there are and adds one for
each type that its request reaches and that has none. The new nodes stand in the order in which a
walk through the tree of the request, from left to right, first meets their types. -/
namespace CompositionRoot

open Relation

/-- The types that a depth-first walk through a tree meets, each before those of its dependencies
and as often as it occurs. -/
def ServiceTree.visits : ServiceTree → List TypeIdentity
  | .node requested _ _ dependencies => requested :: dependencies.flatMap visits

/-- The types that a walk meets without knowing them, each where it is met first. -/
def firstVisits (known visits : List TypeIdentity) : List TypeIdentity :=
  (visits.filter (· ∉ known)).eraseDups

section FirstVisits

variable {known visits : List TypeIdentity} {type : TypeIdentity}

@[simp] theorem mem_firstVisits :
    type ∈ firstVisits known visits ↔ type ∈ visits ∧ type ∉ known := by
  simp [firstVisits]

theorem firstVisits_nil_left (visits : List TypeIdentity) :
    firstVisits [] visits = visits.eraseDups := by
  simp [firstVisits]

theorem firstVisits_of_subset (h : visits ⊆ known) : firstVisits known visits = [] := by
  refine List.eq_nil_iff_forall_not_mem.mpr fun type hmem => ?_
  obtain ⟨hvisited, hnew⟩ := mem_firstVisits.mp hmem
  exact hnew (h hvisited)

theorem firstVisits_append (known visits more : List TypeIdentity) :
    firstVisits known (visits ++ more) =
      firstVisits known visits ++ firstVisits (known ++ firstVisits known visits) more := by
  have hnew : (more.filter (· ∉ known)).removeAll (visits.filter (· ∉ known)) =
      more.filter (· ∉ known ++ firstVisits known visits) := by
    rw [List.removeAll, List.filter_filter]
    refine List.filter_congr fun type _ => ?_
    by_cases hknown : type ∈ known <;> simp [hknown]
  rw [firstVisits, List.filter_append, List.eraseDups_append, hnew]
  rfl

theorem firstVisits_cons_of_notMem (hnew : type ∉ known) (visits : List TypeIdentity) :
    firstVisits known (type :: visits) = type :: firstVisits (known ++ [type]) visits := by
  have hfirst : firstVisits known [type] = [type] := by
    simp [firstVisits, hnew, List.eraseDups_cons]
  rw [← List.singleton_append, firstVisits_append, hfirst, List.singleton_append]

end FirstVisits

def ServiceGraph.types (graph : ServiceGraph) : List TypeIdentity :=
  graph.nodes.map (·.requested)

@[simp] theorem ServiceGraph.types_setDependencies (graph : ServiceGraph) (id : NodeId)
    (dependencies : List NodeId) : (graph.setDependencies id dependencies).types = graph.types :=
  graph.map_requested_setDependencies id dependencies

variable {κ : Type} [TypeCatalog κ] {catalog : κ} {type : TypeIdentity}

@[simp] theorem Builder.types_start (builder : Builder) (type implementation : TypeIdentity)
    (lifetime : Lifetime) : (builder.start type implementation lifetime).graph.types =
      builder.graph.types ++ [type] := by
  simp [Builder.start, ServiceGraph.types, ServiceGraph.newNode]

theorem reaches_iff_of_served {pair : TypeInfo × TypeInfo} {other : TypeIdentity}
    (hserved : Builder.serving? catalog type = some pair) :
    ReflTransGen (Needs catalog) type other ↔
      other = type ∨ Reached catalog pair.2.parameters other := by
  rw [ReflTransGen.cases_head_iff]
  refine or_congr eq_comm (exists_congr fun parameter => and_congr_left fun _ => ?_)
  rw [needs_iff]
  constructor
  · rintro ⟨other, hother, hmem⟩
    obtain rfl := Option.some.inj (hserved.symm.trans hother)
    exact hmem
  · intro hmem
    exact ⟨pair, hserved, hmem⟩

section Trees

variable {tree : ServiceTree} {types : List TypeIdentity} {trees : List ServiceTree}
  {other : TypeIdentity}

theorem mem_flatMap_visits_iff
    (hvisits : ∀ type ∈ types, ∀ tree, Dictates catalog type tree →
      (other ∈ tree.visits ↔ ReflTransGen (Needs catalog) type other))
    (htrees : List.Forall₂ (Dictates catalog) types trees) :
    other ∈ trees.flatMap ServiceTree.visits ↔ Reached catalog types other := by
  induction htrees with
  | nil => simp [Reached]
  | @cons type tree types trees htree _ ih =>
    rw [List.flatMap_cons, List.mem_append, hvisits type List.mem_cons_self tree htree,
      ih fun type hmem => hvisits type (List.mem_cons_of_mem _ hmem)]
    simp [Reached]

/-- A walk through the tree of a type meets the type and all that it needs. -/
theorem Constructible.mem_visits_iff (h : Constructible catalog type)
    (htree : Dictates catalog type tree) :
    other ∈ tree.visits ↔ ReflTransGen (Needs catalog) type other := by
  induction h generalizing tree with
  | intro hserved _ ih =>
    obtain ⟨trees, htrees, rfl⟩ := (dictates_iff hserved).mp htree
    rw [ServiceTree.visits, List.mem_cons, reaches_iff_of_served hserved,
      mem_flatMap_visits_iff (fun parameter hmem _ => ih parameter hmem) htrees]

end Trees

/-- What a type reaches through a known one is known. -/
def ClosedBelow (catalog : κ) (known : List TypeIdentity) (type : TypeIdentity) : Prop :=
  ∀ inner ∈ known, ReflTransGen (Needs catalog) type inner →
    ∀ other, ReflTransGen (Needs catalog) inner other → other ∈ known

namespace ClosedBelow

variable {known more : List TypeIdentity}

/-- The parameters of a type do not lead back to it. -/
theorem of_needs {parameter : TypeIdentity} (h : ClosedBelow catalog known type)
    (hneeds : Needs catalog type parameter) (hacyclic : ¬ TransGen (Needs catalog) type type) :
    ClosedBelow catalog (known ++ [type]) parameter := by
  intro inner hinner hreach other hother
  rcases List.mem_append.mp hinner with hknown | hself
  · exact List.mem_append_left _ (h inner hknown (.head hneeds hreach) other hother)
  · obtain rfl := List.mem_singleton.mp hself
    exact absurd (TransGen.head' hneeds hreach) hacyclic

theorem append (h : ClosedBelow catalog known type)
    (hmore : ∀ inner ∈ more, ∀ other, ReflTransGen (Needs catalog) inner other →
      other ∈ known ++ more) : ClosedBelow catalog (known ++ more) type := by
  intro inner hinner hreach other hother
  rcases List.mem_append.mp hinner with hknown | hnew
  · exact List.mem_append_left _ (h inner hknown hreach other hother)
  · exact hmore inner hnew other hother

end ClosedBelow

namespace Builder

variable {builder later : Builder}

theorem exists_of_resolveList_cons {types : List TypeIdentity} {ids : List NodeId}
    (h : resolveList catalog (type :: types) builder = (.ok ids, later)) :
    ∃ id resolved rest, builder.resolve catalog type = (.ok id, resolved) ∧
      resolveList catalog types resolved = (.ok rest, later) := by
  rw [resolveList] at h
  split at h
  · cases h
  · next id resolved hhead =>
    split at h
    · cases h
    · next rest last htail =>
      obtain ⟨_, rfl⟩ := Prod.mk.inj h
      exact ⟨id, resolved, rest, hhead, htail⟩

/-- A successful resolution of the type, in whatever state it starts, adds the types of the tree
that have no node yet in the order of their first visits. -/
def Discovers (catalog : κ) (type : TypeIdentity) : Prop :=
  ∀ {builder later : Builder} {id : NodeId} {tree : ServiceTree}, builder.Valid catalog →
    ClosedBelow catalog builder.graph.types type → Dictates catalog type tree →
    builder.resolve catalog type = (.ok id, later) →
    later.graph.types = builder.graph.types ++ firstVisits builder.graph.types tree.visits

/-- What the first of the types adds is closed, so the others meet closed nodes again. -/
theorem types_resolveList {types : List TypeIdentity} {trees : List ServiceTree}
    {ids : List NodeId} (hdiscovers : ∀ type ∈ types, Discovers catalog type)
    (hconstructible : ∀ type ∈ types, Constructible catalog type)
    (hvalid : builder.Valid catalog)
    (hclosed : ∀ type ∈ types, ClosedBelow catalog builder.graph.types type)
    (htrees : List.Forall₂ (Dictates catalog) types trees)
    (hrun : resolveList catalog types builder = (.ok ids, later)) :
    later.graph.types = builder.graph.types ++
      firstVisits builder.graph.types (trees.flatMap ServiceTree.visits) := by
  induction htrees generalizing builder ids with
  | nil =>
    obtain ⟨_, rfl⟩ := Prod.mk.inj hrun
    simp [firstVisits]
  | @cons type tree types trees htree _ ih =>
    simp only [List.forall_mem_cons] at hdiscovers hconstructible hclosed
    obtain ⟨id, resolved, rest, hhead, htail⟩ := exists_of_resolveList_cons hrun
    have hspec := hvalid.typeSpec type
    rw [hhead] at hspec
    have hfirst := hdiscovers.1 hvalid hclosed.1 htree hhead
    -- the walk that met a new type also met all that this type reaches
    have hnew : ∀ inner ∈ firstVisits builder.graph.types tree.visits, ∀ other,
        ReflTransGen (Needs catalog) inner other →
        other ∈ builder.graph.types ++ firstVisits builder.graph.types tree.visits := by
      intro inner hinner other hother
      have hvisits {met : TypeIdentity} : met ∈ tree.visits ↔ _ :=
        hconstructible.1.mem_visits_iff htree
      have hmet := hvisits.mpr ((hvisits.mp (mem_firstVisits.mp hinner).1).trans hother)
      by_cases hknown : other ∈ builder.graph.types <;> simp [hknown, hmet]
    have hclosed' : ∀ type ∈ types, ClosedBelow catalog resolved.graph.types type := by
      intro other hmem
      rw [hfirst]
      exact (hclosed.2 other hmem).append hnew
    rw [ih hdiscovers.2 hconstructible.2 hspec.1 hclosed' htail, hfirst, List.flatMap_cons,
      firstVisits_append, List.append_assoc]

/-- Induction on what the type is constructed from, along the tree. -/
theorem discovers (h : Constructible catalog type) : Discovers catalog type := by
  induction h with
  | @intro type pair hserved hparameters ih =>
    intro builder later id tree hvalid hclosed htree hrun
    have hself : Constructible catalog type := .intro hserved hparameters
    cases hmemo : builder.graph.nodeId? type with
    | some known =>
      by_cases hprogress : known ∈ builder.inProgress
      · rw [resolve_of_inProgress hmemo hprogress] at hrun
        cases hrun
      · -- All that a finished type reaches has nodes, so its tree has nothing new.
        rw [resolve_of_finished hmemo hprogress] at hrun
        obtain ⟨_, rfl⟩ := Prod.mk.inj hrun
        have hknown : type ∈ builder.graph.types :=
          hvalid.consistent.mem_requested_iff.mpr ⟨known, hmemo⟩
        have hsubset : tree.visits ⊆ builder.graph.types := fun other hmem =>
          hclosed type hknown .refl other ((hself.mem_visits_iff htree).mp hmem)
        rw [firstVisits_of_subset hsubset, List.append_nil]
    | none =>
      obtain ⟨trees, htrees, rfl⟩ := (dictates_iff hserved).mp htree
      have hnew : type ∉ builder.graph.types := hvalid.consistent.nodeId?_eq_none_iff.mp hmemo
      rw [resolve_of_served hmemo hserved] at hrun
      split at hrun
      · next dependencies resolved hlist =>
        obtain ⟨_, rfl⟩ := Prod.mk.inj hrun
        have hclosed' : ∀ parameter ∈ pair.2.parameters,
            ClosedBelow catalog (builder.graph.types ++ [type]) parameter := fun parameter hmem =>
          hclosed.of_needs (needs_iff.mpr ⟨pair, hserved, hmem⟩) hself.not_cyclic
        have htypes := types_resolveList ih hparameters (hvalid.start hmemo hserved)
          (by rwa [types_start]) htrees hlist
        rw [finish, ServiceGraph.types_setDependencies, htypes, types_start, ServiceTree.visits,
          firstVisits_cons_of_notMem hnew, List.append_assoc, List.singleton_append]
      · cases hrun

theorem Idle.closedBelow (h : builder.Idle catalog) (type : TypeIdentity) :
    ClosedBelow catalog builder.graph.types type :=
  fun _ hmem _ _ hother => h.mem_requested_of_reaches hmem hother

/-- What the resolution of a type adds to a builder. The new nodes follow the old ones, one for each
type that is reached and had none. -/
structure Discovery (catalog : κ) (type : TypeIdentity) (builder later : Builder) (id : NodeId)
    (tree : ServiceTree) (added : List ServiceNode) : Prop where
  dictates_iff : ∀ other, Dictates catalog type other ↔ other = tree
  nodes_eq : later.graph.nodes = builder.graph.nodes ++ added
  types_eq : added.map (·.requested) = firstVisits builder.graph.types tree.visits
  types_nodup : (added.map (·.requested)).Nodup
  mem_types_iff : ∀ other, other ∈ added.map (·.requested) ↔
    ReflTransGen (Needs catalog) type other ∧ builder.graph.nodeId? other = none
  requested_eq : (later.graph.node? id).map (·.requested) = some type

theorem Idle.exists_discovery (h : builder.Idle catalog) {id : NodeId}
    (hrun : builder.resolve catalog type = (.ok id, later)) :
    ∃ tree added, Discovery catalog type builder later id tree added := by
  have hspec := h.typeSpec type
  rw [hrun] at hspec
  obtain ⟨hvalid, hextends, hid, hconstructible⟩ := hspec
  obtain ⟨tree, htree⟩ := hconstructible.exists_tree
  have hdictates : Dictates catalog type tree := (htree tree).mpr rfl
  obtain ⟨added, hadded⟩ := hextends.nodes
  have htypes := discovers hconstructible h.toValid (h.closedBelow type) hdictates hrun
  have hnew : added.map (·.requested) = firstVisits builder.graph.types tree.visits := by
    rw [ServiceGraph.types, ← hadded, List.map_append] at htypes
    exact List.append_cancel_left htypes
  have hnodup := hvalid.consistent.requested_nodup
  rw [← hadded, List.map_append] at hnodup
  obtain ⟨node, hnode, hrequested⟩ := hvalid.consistent.nodeId?_eq_some_iff.mp hid
  refine ⟨tree, added, htree, hadded.symm, hnew, hnodup.of_append_right, fun other => ?_, ?_⟩
  · rw [hnew, mem_firstVisits, hconstructible.mem_visits_iff hdictates,
      h.consistent.nodeId?_eq_none_iff, ServiceGraph.types]
  · rw [hnode, Option.map_some, hrequested]

end Builder

/-- The nodes of a resolved graph are those that a walk through the trees of the requests meets, one
tree after the other. -/
theorem types_of_resolve {requests : List TypeIdentity} {graph : ServiceGraph}
    (h : ServiceGraph.resolve catalog requests = .ok graph) :
    ∃ trees, (∀ others, List.Forall₂ (Dictates catalog) requests others ↔ others = trees) ∧
      graph.types = (trees.flatMap ServiceTree.visits).eraseDups := by
  have hconstructible := constructible_of_resolve h
  obtain ⟨ids, later, hrun, rfl⟩ := Builder.resolve_eq_ok_iff.mp h
  obtain ⟨trees, htrees⟩ := exists_forall₂_iff_eq fun request hmem =>
    (hconstructible request hmem).exists_tree
  have hempty := Builder.idle_empty catalog
  have htypes := Builder.types_resolveList
    (fun request hmem => Builder.discovers (hconstructible request hmem)) hconstructible
    hempty.toValid (fun request _ => hempty.closedBelow request) ((htrees trees).mpr rfl) hrun
  exact ⟨trees, htrees, htypes.trans (firstVisits_nil_left _)⟩

/-- A successful resolution leaves the nodes of a builder where they are and adds one for each type
that is reached and has none, in depth-first order, a type before its parameters and these from left
to right. The nodes of a resolved graph are the types that the requests reach, in this order. -/
theorem resolve_discovers_depth_first {κ : Type} [TypeCatalog κ] (catalog : κ) :
    (∀ earlier type id later,
      (Builder.afterSession catalog earlier {}).resolve catalog type = (.ok id, later) →
      ∃ tree added, Builder.Discovery catalog type (Builder.afterSession catalog earlier {}) later
        id tree added) ∧
    ∀ requests graph, ServiceGraph.resolve catalog requests = .ok graph →
      ∃ trees, (∀ others, List.Forall₂ (Dictates catalog) requests others ↔ others = trees) ∧
        graph.types = (trees.flatMap ServiceTree.visits).eraseDups ∧ graph.types.Nodup ∧
        ∀ type, type ∈ graph.types ↔ Reached catalog requests type := by
  constructor
  · intro earlier type id later hrun
    exact ((Builder.idle_empty catalog).afterSession earlier).exists_discovery hrun
  · intro requests graph hresolve
    obtain ⟨trees, htrees, htypes⟩ := types_of_resolve hresolve
    obtain ⟨builder, hidle, rfl, _⟩ := exists_idle_of_resolve hresolve
    exact ⟨trees, htrees, htypes, hidle.consistent.requested_nodup,
      fun type => mem_requested_iff_reached hresolve⟩

/-- A gateway whose users take the pool that it takes itself. -/
def gatewayCatalog : List TypeInfo :=
  [{ identity := ⟨"Gateway"⟩, constructors := [{ parameters := [⟨"Users"⟩, ⟨"Pool"⟩] }] },
    { identity := ⟨"Users"⟩, constructors := [{ parameters := [⟨"Clock"⟩, ⟨"Pool"⟩] }] },
    { identity := ⟨"Pool"⟩, constructors := [{ parameters := [⟨"Clock"⟩] }] },
    { identity := ⟨"Clock"⟩ }]

def gatewayBuilder : Builder where
  graph := {
    nodes :=
      [⟨⟨"Clock"⟩, ⟨"Clock"⟩, .shared, [], "clock"⟩,
        ⟨⟨"Gateway"⟩, ⟨"Gateway"⟩, .shared, [2, 3], "gateway"⟩,
        ⟨⟨"Users"⟩, ⟨"Users"⟩, .shared, [0, 3], "users"⟩,
        ⟨⟨"Pool"⟩, ⟨"Pool"⟩, .shared, [0], "pool"⟩]
    memo := [(⟨"Pool"⟩, 3), (⟨"Users"⟩, 2), (⟨"Gateway"⟩, 1), (⟨"Clock"⟩, 0)]
    identifiers := ["pool", "users", "gateway", "clock"] }

theorem resolve_discovers_gateway :
    (Builder.afterSession gatewayCatalog [⟨"Clock"⟩, ⟨"Missing"⟩] {}).resolve gatewayCatalog
      ⟨"Gateway"⟩ = (.ok 1, gatewayBuilder) ∧
    ServiceGraph.resolve gatewayCatalog [⟨"Clock"⟩, ⟨"Gateway"⟩, ⟨"Clock"⟩] =
      .ok gatewayBuilder.graph ∧
    (∃ tree added, Builder.Discovery gatewayCatalog ⟨"Gateway"⟩
      (Builder.afterSession gatewayCatalog [⟨"Clock"⟩, ⟨"Missing"⟩] {}) gatewayBuilder 1 tree
      added) ∧
    ∀ type, type ∈ gatewayBuilder.graph.types ↔
      Reached gatewayCatalog [⟨"Clock"⟩, ⟨"Gateway"⟩, ⟨"Clock"⟩] type := by
  have hrun : (Builder.afterSession gatewayCatalog [⟨"Clock"⟩, ⟨"Missing"⟩] {}).resolve
      gatewayCatalog ⟨"Gateway"⟩ = (.ok 1, gatewayBuilder) := by
    decide +kernel
  have hresolve : ServiceGraph.resolve gatewayCatalog [⟨"Clock"⟩, ⟨"Gateway"⟩, ⟨"Clock"⟩] =
      .ok gatewayBuilder.graph := by
    decide +kernel
  obtain ⟨hadds, hgraph⟩ := resolve_discovers_depth_first gatewayCatalog
  obtain ⟨_, _, _, _, hreached⟩ := hgraph _ _ hresolve
  exact ⟨hrun, hresolve, hadds _ _ _ _ hrun, hreached⟩

end CompositionRoot
