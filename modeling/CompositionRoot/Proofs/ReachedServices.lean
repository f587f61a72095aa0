import CompositionRoot.Proofs.Dependencies
import CompositionRoot.Proofs.FieldNames
import CompositionRoot.Proofs.Resolvability
import CompositionRoot.Proofs.ServiceTree

/-! The services of a resolved graph. They are those of the types that the requests reach, each of
them as the catalog describes it, so neither the order of the requests nor their repetition shows in
the services. -/
namespace CompositionRoot

open Relation

/-- A node with types in place of numbers. A number that no node has stands for no type. -/
structure Service where
  requested : TypeIdentity
  implementation : TypeIdentity
  lifetime : Lifetime
  dependencies : List (Option TypeIdentity)
deriving DecidableEq, Repr

namespace ServiceGraph

def service (graph : ServiceGraph) (node : ServiceNode) : Service where
  requested := node.requested
  implementation := node.implementation
  lifetime := node.lifetime
  dependencies := node.dependencies.map fun id => (graph.node? id).map (·.requested)

def services (graph : ServiceGraph) : List Service :=
  graph.nodes.map graph.service

@[simp] theorem map_requested_services (graph : ServiceGraph) :
    graph.services.map (·.requested) = graph.nodes.map (·.requested) := by
  simp [services, service, Function.comp_def]

theorem Consistent.services_nodup {graph : ServiceGraph} (h : graph.Consistent) :
    graph.services.Nodup := by
  have hrequested := h.requested_nodup
  rw [← map_requested_services] at hrequested
  exact hrequested.of_map _

end ServiceGraph

variable {κ : Type} [TypeCatalog κ] {catalog : κ}

def Service.DescribedBy (service : Service) (catalog : κ) : Prop :=
  ∃ pair, Builder.serving? catalog service.requested = some pair ∧
    service.implementation = pair.2.identity ∧ service.lifetime = Lifetime.of pair.1 ∧
    service.dependencies = pair.2.parameters.map some

theorem Service.DescribedBy.eq_of_requested_eq {service other : Service}
    (h : service.DescribedBy catalog) (h' : other.DescribedBy catalog)
    (heq : service.requested = other.requested) : service = other := by
  obtain ⟨pair, hserving, himplementation, hlifetime, hdependencies⟩ := h
  obtain ⟨otherPair, hother, himplementation', hlifetime', hdependencies'⟩ := h'
  rw [heq] at hserving
  obtain rfl := Option.some.inj (hserving.symm.trans hother)
  cases service
  cases other
  simp_all

namespace Builder

/-- The later state has no nodes but those of the earlier one and some for types of a kind. -/
def AddsOnly (builder later : Builder) (new : TypeIdentity → Prop) : Prop :=
  ∀ type ∈ later.graph.nodes.map (·.requested),
    type ∈ builder.graph.nodes.map (·.requested) ∨ new type

namespace AddsOnly

variable {builder later last : Builder} {new : TypeIdentity → Prop}

theorem refl (builder : Builder) (new : TypeIdentity → Prop) : builder.AddsOnly builder new :=
  fun _ hmem => Or.inl hmem

theorem trans (h : builder.AddsOnly later new) (h' : later.AddsOnly last new) :
    builder.AddsOnly last new := by
  intro type hmem
  rcases h' type hmem with hlater | hnew
  · exact h type hlater
  · exact Or.inr hnew

theorem mono {more : TypeIdentity → Prop} (h : builder.AddsOnly later new)
    (himp : ∀ type, new type → more type) : builder.AddsOnly later more :=
  fun type hmem => (h type hmem).imp_right (himp type)

theorem of_subset (h : builder.AddsOnly later new)
    (hsubset : last.graph.nodes.map (·.requested) ⊆ later.graph.nodes.map (·.requested)) :
    builder.AddsOnly last new :=
  fun type hmem => h type (hsubset hmem)

/-- What the parameters of a type reach, the type reaches. -/
theorem of_start {type : TypeIdentity} {pair : TypeInfo × TypeInfo}
    (hserved : serving? catalog type = some pair)
    (h : (builder.start type pair.2.identity (Lifetime.of pair.1)).AddsOnly later
      (Reached catalog pair.2.parameters)) :
    builder.AddsOnly later (ReflTransGen (Needs catalog) type) := by
  intro other hmem
  rcases h other hmem with hstarted | ⟨parameter, hparameter, hreach⟩
  · simp only [Builder.start, ServiceGraph.nodes_insert, ServiceGraph.newNode, List.map_append,
      List.map_cons, List.map_nil, List.mem_append, List.mem_singleton] at hstarted
    rcases hstarted with hold | rfl
    · exact Or.inl hold
    · exact Or.inr .refl
  · have hneeds : Needs catalog type parameter := needs_iff.mpr ⟨pair, hserved, hparameter⟩
    exact Or.inr (.head hneeds hreach)

theorem cons {type : TypeIdentity} {types : List TypeIdentity}
    (hhead : builder.AddsOnly later (ReflTransGen (Needs catalog) type))
    (htail : later.AddsOnly last (Reached catalog types)) :
    builder.AddsOnly last (Reached catalog (type :: types)) := by
  have hfirst : builder.AddsOnly later (Reached catalog (type :: types)) :=
    hhead.mono fun other hreach => ⟨type, List.mem_cons_self, hreach⟩
  have hrest : later.AddsOnly last (Reached catalog (type :: types)) :=
    htail.mono fun other ⟨request, hmem, hreach⟩ =>
      ⟨request, List.mem_cons_of_mem type hmem, hreach⟩
  exact hfirst.trans hrest

end AddsOnly

/-- Whether it succeeds or fails, a resolution has no nodes but those from before and some for types
that the requested ones reach. -/
theorem ruleClosed_addsOnly (catalog : κ) : RuleClosed catalog
    (fun type builder outcome =>
      builder.AddsOnly outcome.2 (ReflTransGen (Needs catalog) type))
    (fun types builder outcome => builder.AddsOnly outcome.2 (Reached catalog types)) where
  inProgress type builder id _ _ := .refl builder _
  finished type builder id _ _ := .refl builder _
  unserved type builder _ _ := .refl builder _
  abandoned type builder pair error failed _ hserved hlist := by
    refine (AddsOnly.of_start hserved hlist).of_subset ?_
    exact List.map_subset _ (List.take_subset _ _)
  completed type builder pair dependencies resolved _ hserved hlist := by
    refine (AddsOnly.of_start hserved hlist).of_subset ?_
    simp only [Builder.finish, ServiceGraph.map_requested_setDependencies]
    exact List.Subset.refl _
  nil builder := .refl builder _
  head_error type types builder error failed hhead := hhead.cons (.refl failed _)
  tail_error type types builder id resolved error failed hhead htail := hhead.cons htail
  cons type types builder id resolved ids last hhead htail := hhead.cons htail

namespace Idle

variable {builder : Builder} {type other : TypeIdentity}

/-- Where a type has a node, all that it reaches have. -/
theorem mem_requested_of_reaches (h : builder.Idle catalog)
    (hmem : type ∈ builder.graph.nodes.map (·.requested))
    (hreach : ReflTransGen (Needs catalog) type other) :
    other ∈ builder.graph.nodes.map (·.requested) := by
  induction hreach with
  | refl => exact hmem
  | tail _ hneeds ih =>
    obtain ⟨id, hid⟩ := h.consistent.mem_requested_iff.mp ih
    obtain ⟨_, pair, _, _, hserving, _, _, hlinked⟩ := h.exists_linked hid
    obtain ⟨otherPair, hother, hparameter⟩ := needs_iff.mp hneeds
    obtain rfl := Option.some.inj (hserving.symm.trans hother)
    obtain ⟨dependency, _, hdependency⟩ := exists_mem_of_forall₂ hlinked hparameter
    exact h.consistent.mem_requested_iff.mpr ⟨dependency, hdependency⟩

theorem describedBy_of_mem_services (h : builder.Idle catalog) {service : Service}
    (hmem : service ∈ builder.graph.services) : service.DescribedBy catalog := by
  obtain ⟨node, hnode, rfl⟩ := List.mem_map.mp hmem
  obtain ⟨id, hid⟩ := List.mem_iff_getElem?.mp hnode
  have hnodeId := h.consistent.nodeId?_eq_some_iff.mpr ⟨node, hid, rfl⟩
  obtain ⟨other, pair, hother, _, hserving, himplementation, hlifetime, hlinked⟩ :=
    h.exists_linked hnodeId
  obtain rfl := Option.some.inj (hid.symm.trans hother)
  refine ⟨pair, hserving, himplementation, hlifetime, ?_⟩
  -- Each dependency is the node of its parameter, and so has the parameter as its type.
  rw [← List.forall₂_eq_eq_eq, ServiceGraph.service, List.forall₂_map_left_iff,
    List.forall₂_map_right_iff]
  refine hlinked.flip.imp fun dependency parameter hdependency => ?_
  obtain ⟨target, htarget, rfl⟩ := h.consistent.nodeId?_eq_some_iff.mp hdependency
  rw [htarget, Option.map_some]

end Idle

end Builder

section Resolved

variable {requests : List TypeIdentity} {graph : ServiceGraph}

/-- The types that have nodes are the requests and all that they need. -/
theorem mem_requested_iff_reached (h : ServiceGraph.resolve catalog requests = .ok graph)
    {type : TypeIdentity} :
    type ∈ graph.nodes.map (·.requested) ↔ Reached catalog requests type := by
  obtain ⟨ids, later, hrun, rfl⟩ := Builder.resolve_eq_ok_iff.mp h
  have hspec := (Builder.valid_empty catalog).listSpec requests
  have hadds := (Builder.ruleClosed_addsOnly catalog).resolveList requests {}
  rw [hrun] at hspec hadds
  obtain ⟨hvalid, hextends, hids, _⟩ := hspec
  have hidle : later.Idle catalog := (Builder.idle_empty catalog).of_extends hvalid hextends
  constructor
  · intro hmem
    rcases hadds type hmem with hempty | hreached
    · cases hempty
    · exact hreached
  · rintro ⟨request, hrequest, hreach⟩
    obtain ⟨id, _, hid⟩ := exists_mem_of_forall₂ hids.flip hrequest
    have hmem := hvalid.consistent.mem_requested_iff.mpr ⟨id, hid⟩
    exact hidle.mem_requested_of_reaches hmem hreach

/-- A description of a resolved graph that knows no order: its services are what the catalog says of
the types that the requests reach. -/
theorem mem_services_iff (h : ServiceGraph.resolve catalog requests = .ok graph)
    {service : Service} : service ∈ graph.services ↔
      Reached catalog requests service.requested ∧ service.DescribedBy catalog := by
  obtain ⟨builder, hidle, rfl, _⟩ := exists_idle_of_resolve h
  rw [← mem_requested_iff_reached h, ← ServiceGraph.map_requested_services]
  constructor
  · intro hmem
    exact ⟨List.mem_map_of_mem hmem, hidle.describedBy_of_mem_services hmem⟩
  · rintro ⟨htype, hdescribed⟩
    obtain ⟨other, hother, heq⟩ := List.mem_map.mp htype
    have hotherDescribed := hidle.describedBy_of_mem_services hother
    exact hotherDescribed.eq_of_requested_eq hdescribed heq ▸ hother

theorem nodup_services (h : ServiceGraph.resolve catalog requests = .ok graph) :
    graph.services.Nodup := by
  obtain ⟨builder, hidle, rfl, _⟩ := exists_idle_of_resolve h
  exact hidle.consistent.services_nodup

theorem exists_resolve_iff : (∃ graph, ServiceGraph.resolve catalog requests = .ok graph) ↔
    ∀ request ∈ requests, Constructible catalog request := by
  constructor
  · rintro ⟨graph, hok⟩
    exact constructible_of_resolve hok
  · intro hall
    cases hresolve : ServiceGraph.resolve catalog requests with
    | ok graph => exact ⟨graph, rfl⟩
    | error error =>
      obtain ⟨request, hmem, hfails⟩ := fails_of_resolve hresolve
      exact absurd (hall request hmem) (hfails.not_constructible (by simp))

def ServiceNode.NamedForImplementation (node : ServiceNode) : Prop :=
  node.identifier = node.implementation.baseIdentifier ∨
    ∃ k, node.identifier = numbered node.implementation.baseIdentifier k

theorem namedForImplementation_of_resolve
    (h : ServiceGraph.resolve catalog requests = .ok graph) {node : ServiceNode}
    (hmem : node ∈ graph.nodes) : node.NamedForImplementation := by
  obtain ⟨id, hid⟩ := List.mem_iff_getElem?.mp hmem
  rw [ServiceNode.NamedForImplementation, (named_of_resolve h).identifier_eq id node hid]
  exact freshIdentifier_cases _ _

/-- Requests for the same types, in whatever order and however often, all resolve or do not, and
resolve to the same services. Their graphs differ at most in the numbers of the nodes and in the
numbers that end identifiers. -/
theorem same_services_of_same_requests {κ : Type} [TypeCatalog κ] (catalog : κ)
    {requests others : List TypeIdentity} (same : ∀ type, type ∈ requests ↔ type ∈ others) :
    ((∃ graph, ServiceGraph.resolve catalog requests = .ok graph) ↔
      ∃ graph, ServiceGraph.resolve catalog others = .ok graph) ∧
    ∀ graph other, ServiceGraph.resolve catalog requests = .ok graph →
      ServiceGraph.resolve catalog others = .ok other →
        graph.services.Perm other.services ∧
        (∀ node ∈ graph.nodes, node.NamedForImplementation) ∧
        ∀ node ∈ other.nodes, node.NamedForImplementation := by
  have hreached : ∀ type, Reached catalog requests type ↔ Reached catalog others type := by
    intro type
    simp only [Reached, same]
  constructor
  · simp only [exists_resolve_iff, same]
  · intro graph other hgraph hother
    have hservices : ∀ service, service ∈ graph.services ↔ service ∈ other.services := by
      intro service
      rw [mem_services_iff hgraph, mem_services_iff hother, hreached]
    refine ⟨?_, fun node => namedForImplementation_of_resolve hgraph,
      fun node => namedForImplementation_of_resolve hother⟩
    exact (List.perm_ext_iff_of_nodup (nodup_services hgraph) (nodup_services hother)).mpr
      hservices

end Resolved

/-- Two logs of one simple name, both of which take the clock. -/
def twoLogsCatalog : List TypeInfo :=
  [{ identity := ⟨"App.Log"⟩, constructors := [{ parameters := [⟨"IClock"⟩] }] },
    { identity := ⟨"Lib.Log"⟩, isTransient := true,
      constructors := [{ parameters := [⟨"IClock"⟩] }] },
    { identity := ⟨"IClock"⟩, isAbstract := true },
    { identity := ⟨"Clock"⟩, capabilities := [⟨"IClock"⟩] }]

def appLogFirst : ServiceGraph where
  nodes :=
    [⟨⟨"App.Log"⟩, ⟨"App.Log"⟩, .shared, [1], "log"⟩,
      ⟨⟨"IClock"⟩, ⟨"Clock"⟩, .shared, [], "clock"⟩,
      ⟨⟨"Lib.Log"⟩, ⟨"Lib.Log"⟩, .perRequest, [1], "log2"⟩]
  memo := [(⟨"Lib.Log"⟩, 2), (⟨"IClock"⟩, 1), (⟨"App.Log"⟩, 0)]
  identifiers := ["log2", "clock", "log"]

def libLogFirst : ServiceGraph where
  nodes :=
    [⟨⟨"Lib.Log"⟩, ⟨"Lib.Log"⟩, .perRequest, [1], "log"⟩,
      ⟨⟨"IClock"⟩, ⟨"Clock"⟩, .shared, [], "clock"⟩,
      ⟨⟨"App.Log"⟩, ⟨"App.Log"⟩, .shared, [1], "log2"⟩]
  memo := [(⟨"App.Log"⟩, 2), (⟨"IClock"⟩, 1), (⟨"Lib.Log"⟩, 0)]
  identifiers := ["log2", "clock", "log"]

theorem resolve_appLogFirst :
    ServiceGraph.resolve twoLogsCatalog [⟨"App.Log"⟩, ⟨"Lib.Log"⟩] = .ok appLogFirst := by
  decide +kernel

theorem same_services_of_two_logs :
    ServiceGraph.resolve twoLogsCatalog [⟨"App.Log"⟩, ⟨"Lib.Log"⟩] = .ok appLogFirst ∧
    ServiceGraph.resolve twoLogsCatalog [⟨"Lib.Log"⟩, ⟨"App.Log"⟩, ⟨"Lib.Log"⟩] =
      .ok libLogFirst ∧
    appLogFirst.services.Perm libLogFirst.services := by
  have hsame : ∀ type, type ∈ [TypeIdentity.mk "App.Log", ⟨"Lib.Log"⟩] ↔
      type ∈ [TypeIdentity.mk "Lib.Log", ⟨"App.Log"⟩, ⟨"Lib.Log"⟩] := by
    intro type
    simp only [List.mem_cons, List.not_mem_nil, or_false]
    tauto
  have hlib : ServiceGraph.resolve twoLogsCatalog [⟨"Lib.Log"⟩, ⟨"App.Log"⟩, ⟨"Lib.Log"⟩] =
      .ok libLogFirst := by
    decide +kernel
  obtain ⟨_, hservices⟩ := same_services_of_same_requests twoLogsCatalog hsame
  exact ⟨resolve_appLogFirst, hlib, (hservices _ _ resolve_appLogFirst hlib).1⟩

end CompositionRoot
