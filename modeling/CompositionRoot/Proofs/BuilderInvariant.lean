import CompositionRoot.Proofs.Constructibility
import CompositionRoot.Proofs.GraphConsistency
import CompositionRoot.Proofs.ResolutionRules
import Mathlib.Data.List.Forall2

/-! The invariant of a builder, also in the middle of a resolution. Nodes in progress wait for their
dependencies; all others have the nodes of their parameters as dependencies and can be constructed.
A successful resolution extends the builder, and a failed one leaves it as it was. -/
namespace CompositionRoot

variable {κ : Type} [TypeCatalog κ]

structure ServiceNode.Serves (catalog : κ) (node : ServiceNode) (pair : TypeInfo × TypeInfo) :
    Prop where
  serving : Builder.serving? catalog node.requested = some pair
  implementation_eq : node.implementation = pair.2.identity
  lifetime_eq : node.lifetime = Lifetime.of pair.1

namespace Builder

/-- The types whose nodes are in progress, the outermost first. -/
def waiting (builder : Builder) : List TypeIdentity :=
  (builder.inProgress.filterMap builder.graph.node?).map (·.requested)

/-- What holds of a builder before, during and after every resolution. -/
structure Valid (catalog : κ) (builder : Builder) : Prop where
  consistent : builder.graph.Consistent
  inProgress_lt : ∀ id ∈ builder.inProgress, id < builder.graph.size
  served : ∀ node ∈ builder.graph.nodes, ∃ pair, node.Serves catalog pair
  linked : ∀ id node pair, builder.graph.node? id = some node → id ∉ builder.inProgress →
    serving? catalog node.requested = some pair →
    List.Forall₂ (fun dependency parameter => builder.graph.nodeId? parameter = some dependency)
      node.dependencies pair.2.parameters
  constructible : ∀ id node, builder.graph.node? id = some node → id ∉ builder.inProgress →
    Constructible catalog node.requested

/-- A later state with all the nodes of an earlier one and the same nodes in progress. -/
structure Extends (builder later : Builder) : Prop where
  nodes : builder.graph.nodes <+: later.graph.nodes
  inProgress : later.inProgress = builder.inProgress

theorem valid_empty (catalog : κ) : ({} : Builder).Valid catalog where
  consistent := ServiceGraph.consistent_empty
  inProgress_lt := by simp
  served := by simp
  linked := by simp [ServiceGraph.node?]
  constructible := by simp [ServiceGraph.node?]

namespace Extends

variable {builder later last : Builder}

theorem refl (builder : Builder) : builder.Extends builder :=
  ⟨List.prefix_refl _, rfl⟩

theorem trans (h : builder.Extends later) (h' : later.Extends last) : builder.Extends last :=
  ⟨h.nodes.trans h'.nodes, h'.inProgress.trans h.inProgress⟩

theorem node? (h : builder.Extends later) {id : NodeId} {node : ServiceNode}
    (hnode : builder.graph.node? id = some node) : later.graph.node? id = some node := by
  obtain ⟨rest, hrest⟩ := h.nodes
  have hlt := ServiceGraph.lt_size_of_node? hnode
  rw [ServiceGraph.node?, ← hrest, List.getElem?_append_left hlt]
  exact hnode

theorem nodeId? (h : builder.Extends later) (hbuilder : builder.graph.Consistent)
    (hlater : later.graph.Consistent) {type : TypeIdentity} {id : NodeId}
    (hid : builder.graph.nodeId? type = some id) : later.graph.nodeId? type = some id := by
  obtain ⟨node, hnode, htype⟩ := hbuilder.nodeId?_eq_some_iff.mp hid
  exact hlater.nodeId?_eq_some_iff.mpr ⟨node, h.node? hnode, htype⟩

end Extends

section Waiting

variable {catalog : κ} {builder later : Builder}

theorem filterMap_node?_of_extends {ids : List NodeId}
    (hlt : ∀ id ∈ ids, id < builder.graph.size)
    (h : builder.graph.nodes <+: later.graph.nodes) :
    ids.filterMap later.graph.node? = ids.filterMap builder.graph.node? := by
  obtain ⟨rest, hrest⟩ := h
  refine List.filterMap_congr fun id hmem => ?_
  rw [ServiceGraph.node?, ServiceGraph.node?, ← hrest, List.getElem?_append_left (hlt id hmem)]

theorem Extends.waiting (h : builder.Extends later) (hvalid : builder.Valid catalog) :
    later.waiting = builder.waiting := by
  rw [Builder.waiting, Builder.waiting, h.inProgress,
    filterMap_node?_of_extends hvalid.inProgress_lt h.nodes]

theorem Valid.mem_waiting_iff (h : builder.Valid catalog) {type : TypeIdentity} :
    type ∈ builder.waiting ↔ ∃ id ∈ builder.inProgress, builder.graph.nodeId? type = some id := by
  simp only [Builder.waiting, List.mem_map, List.mem_filterMap, h.consistent.nodeId?_eq_some_iff]
  constructor
  · rintro ⟨node, ⟨id, hmem, hnode⟩, htype⟩
    exact ⟨id, hmem, node, hnode, htype⟩
  · rintro ⟨id, hmem, node, hnode, htype⟩
    exact ⟨node, ⟨id, hmem, hnode⟩, htype⟩

theorem Valid.not_mem_waiting (h : builder.Valid catalog) {type : TypeIdentity}
    (hnew : builder.graph.nodeId? type = none) : type ∉ builder.waiting := by
  intro hmem
  obtain ⟨id, _, hid⟩ := h.mem_waiting_iff.mp hmem
  rw [hnew] at hid
  cases hid

/-- Distinct nodes have distinct types, so the types from a node inwards are those from its type
inwards. -/
theorem Valid.progressFrom_eq (h : builder.Valid catalog) {type : TypeIdentity} {id : NodeId}
    (hid : builder.graph.nodeId? type = some id) :
    builder.progressFrom id = builder.waiting.dropWhile (· != type) := by
  unfold progressFrom Builder.waiting
  have hlt := h.inProgress_lt
  generalize builder.inProgress = ids at hlt
  induction ids with
  | nil => rfl
  | cons first ids ih =>
    obtain ⟨node, hnode⟩ := ServiceGraph.exists_node?_of_lt (hlt first List.mem_cons_self)
    have ih := ih fun id hmem => hlt id (List.mem_cons_of_mem _ hmem)
    by_cases heq : first = id
    · obtain ⟨target, htarget, htype⟩ := h.consistent.nodeId?_eq_some_iff.mp hid
      subst heq
      simp [htarget, htype]
    · have hne : node.requested ≠ type := by
        intro htype
        have hsame := h.consistent.nodeId?_eq_some_iff.mpr ⟨node, hnode, htype⟩
        exact heq (Option.some.inj (hsame.symm.trans hid))
      simp [hnode, heq, hne, ih]

theorem Valid.waiting_start (h : builder.Valid catalog) (type implementation : TypeIdentity)
    (lifetime : Lifetime) :
    (builder.start type implementation lifetime).waiting = builder.waiting ++ [type] := by
  have hold : builder.inProgress.filterMap
      (builder.start type implementation lifetime).graph.node? =
      builder.inProgress.filterMap builder.graph.node? :=
    filterMap_node?_of_extends h.inProgress_lt (List.prefix_append _ _)
  have hnew : (builder.start type implementation lifetime).graph.node? builder.graph.size =
      some (builder.graph.newNode type implementation lifetime) :=
    builder.graph.node?_insert_size _ _ _
  have hids : (builder.start type implementation lifetime).inProgress =
      builder.inProgress ++ [builder.graph.size] := rfl
  rw [Builder.waiting, Builder.waiting, hids, List.filterMap_append, hold]
  simp [hnew, ServiceGraph.newNode]

end Waiting

section Steps

variable {catalog : κ} {builder later : Builder}

theorem extends_start (builder : Builder) (type implementation : TypeIdentity)
    (lifetime : Lifetime) :
    builder.graph.nodes <+: (builder.start type implementation lifetime).graph.nodes :=
  List.prefix_append _ _

/-- A new node is in progress, so the finished nodes are those from before. -/
theorem node?_start_cases {type implementation : TypeIdentity} {lifetime : Lifetime} {id : NodeId}
    {node : ServiceNode}
    (hnode : (builder.start type implementation lifetime).graph.node? id = some node)
    (hfinished : id ∉ (builder.start type implementation lifetime).inProgress) :
    builder.graph.node? id = some node ∧ id ∉ builder.inProgress := by
  simp only [Builder.start, List.mem_append, List.mem_singleton, not_or] at hfinished
  rcases ServiceGraph.node?_insert_cases hnode with hnode | ⟨hid, _⟩
  · exact ⟨hnode, hfinished.1⟩
  · exact absurd hid hfinished.2

theorem Valid.start (h : builder.Valid catalog) {type : TypeIdentity}
    {pair : TypeInfo × TypeInfo} (hnew : builder.graph.nodeId? type = none)
    (hserved : serving? catalog type = some pair) :
    (builder.start type pair.2.identity (Lifetime.of pair.1)).Valid catalog := by
  have hconsistent := h.consistent.insert hnew pair.2.identity (Lifetime.of pair.1)
  constructor
  · exact hconsistent
  · intro id hmem
    simp only [Builder.start, List.mem_append, List.mem_singleton] at hmem ⊢
    simp only [ServiceGraph.size, ServiceGraph.nodes_insert, List.length_append,
      List.length_singleton]
    rcases hmem with hmem | rfl
    · exact Nat.lt_succ_of_lt (h.inProgress_lt id hmem)
    · exact Nat.lt_succ_self _
  · intro node hmem
    simp only [Builder.start, ServiceGraph.nodes_insert, List.mem_append,
      List.mem_singleton] at hmem
    rcases hmem with hmem | rfl
    · exact h.served node hmem
    · exact ⟨pair, hserved, rfl, rfl⟩
  · intro id node other hnode hfinished hother
    obtain ⟨hnode, hfinished⟩ := node?_start_cases hnode hfinished
    refine (h.linked id node other hnode hfinished hother).imp fun dependency parameter hid => ?_
    obtain ⟨target, htarget, htype⟩ := h.consistent.nodeId?_eq_some_iff.mp hid
    exact hconsistent.nodeId?_eq_some_iff.mpr
      ⟨target, ServiceGraph.node?_insert_of_some htarget _ _ _, htype⟩
  · intro id node hnode hfinished
    obtain ⟨hnode, hfinished⟩ := node?_start_cases hnode hfinished
    exact h.constructible id node hnode hfinished

section Opened

variable {type implementation : TypeIdentity} {lifetime : Lifetime}

theorem node?_of_extends_start
    (h : (builder.start type implementation lifetime).Extends later) :
    later.graph.node? builder.graph.size =
      some (builder.graph.newNode type implementation lifetime) :=
  h.node? (builder.graph.node?_insert_size _ _ _)

theorem inProgress_finish (h : (builder.start type implementation lifetime).Extends later)
    (dependencies : List NodeId) :
    (later.finish builder.graph.size dependencies).inProgress = builder.inProgress := by
  rw [Builder.finish, h.inProgress]
  exact List.dropLast_concat

theorem nodes_finish (h : (builder.start type implementation lifetime).Extends later)
    (dependencies : List NodeId) : ∃ rest,
      (later.finish builder.graph.size dependencies).graph.nodes = builder.graph.nodes ++
        { builder.graph.newNode type implementation lifetime with dependencies } :: rest := by
  obtain ⟨rest, hrest⟩ := h.nodes
  have hsplit : later.graph.nodes =
      builder.graph.nodes ++ builder.graph.newNode type implementation lifetime :: rest := by
    rw [← hrest]
    simp [Builder.start]
  exact ⟨rest, ServiceGraph.nodes_setDependencies_of_append hsplit dependencies⟩

/-- A finished node after a completion is the completed one or was finished before. -/
theorem node?_finish_cases (h : (builder.start type implementation lifetime).Extends later)
    {dependencies : List NodeId} {id : NodeId} {node : ServiceNode}
    (hnode : (later.finish builder.graph.size dependencies).graph.node? id = some node)
    (hfinished : id ∉ builder.inProgress) :
    node = { builder.graph.newNode type implementation lifetime with dependencies } ∨
      later.graph.node? id = some node ∧ id ∉ later.inProgress := by
  obtain ⟨old, hold, rfl⟩ := ServiceGraph.node?_setDependencies_cases hnode
  by_cases heq : builder.graph.size = id
  · subst heq
    obtain rfl := Option.some.inj ((node?_of_extends_start h).symm.trans hold)
    simp
  · have hids : later.inProgress = builder.inProgress ++ [builder.graph.size] := h.inProgress
    simp only [heq, if_false]
    exact Or.inr ⟨hold, by simp [hids, hfinished, Ne.symm heq]⟩

end Opened

/-- Completing the innermost node in progress, once all its parameters have nodes. -/
theorem Valid.finish {type : TypeIdentity} {pair : TypeInfo × TypeInfo}
    {dependencies : List NodeId} (hserved : serving? catalog type = some pair)
    (hlater : later.Valid catalog)
    (hextends : (builder.start type pair.2.identity (Lifetime.of pair.1)).Extends later)
    (hlinked : List.Forall₂ (fun dependency parameter =>
      later.graph.nodeId? parameter = some dependency) dependencies pair.2.parameters)
    (hparameters : ∀ parameter ∈ pair.2.parameters, Constructible catalog parameter) :
    (later.finish builder.graph.size dependencies).Valid catalog := by
  have hids := inProgress_finish hextends dependencies
  constructor
  · exact hlater.consistent.setDependencies builder.graph.size dependencies
  · intro id hmem
    have hmem' : id ∈ later.inProgress := by
      rw [hextends.inProgress]
      exact List.mem_append_left _ (hids ▸ hmem)
    simpa [Builder.finish, ServiceGraph.setDependencies, ServiceGraph.size] using
      hlater.inProgress_lt id hmem'
  · intro node hmem
    obtain ⟨id, hid⟩ := List.mem_iff_getElem?.mp hmem
    obtain ⟨old, hold, rfl⟩ := ServiceGraph.node?_setDependencies_cases hid
    obtain ⟨other, hserves⟩ := hlater.served old (List.mem_of_getElem? hold)
    exact ⟨other, by split <;> exact ⟨hserves.1, hserves.2, hserves.3⟩⟩
  · intro id node other hnode hfinished hother
    rcases node?_finish_cases hextends hnode (hids ▸ hfinished) with rfl | ⟨hnode, hfinished⟩
    · obtain rfl := Option.some.inj (hserved.symm.trans hother)
      exact hlinked
    · exact hlater.linked id node other hnode hfinished hother
  · intro id node hnode hfinished
    rcases node?_finish_cases hextends hnode (hids ▸ hfinished) with rfl | ⟨hnode, hfinished⟩
    · exact .intro hserved hparameters
    · exact hlater.constructible id node hnode hfinished

theorem extends_finish {type implementation : TypeIdentity} {lifetime : Lifetime}
    (h : (builder.start type implementation lifetime).Extends later)
    (dependencies : List NodeId) :
    builder.Extends (later.finish builder.graph.size dependencies) := by
  obtain ⟨rest, hnodes⟩ := nodes_finish h dependencies
  refine ⟨?_, inProgress_finish h dependencies⟩
  rw [hnodes]
  exact List.prefix_append _ _

theorem nodeId?_finish {type implementation : TypeIdentity} {lifetime : Lifetime}
    (hlater : later.Valid catalog)
    (h : (builder.start type implementation lifetime).Extends later)
    (dependencies : List NodeId) :
    (later.finish builder.graph.size dependencies).graph.nodeId? type =
      some builder.graph.size :=
  hlater.consistent.nodeId?_eq_some_iff.mpr ⟨_, node?_of_extends_start h, rfl⟩

/-- Abandoning the innermost node in progress gives back the state before it was started. -/
theorem Valid.abandon_eq (h : builder.Valid catalog) {type implementation : TypeIdentity}
    {lifetime : Lifetime} (hlater : later.Valid catalog)
    (hextends : (builder.start type implementation lifetime).Extends later) :
    later.abandon builder.graph.size = builder := by
  have hgraph : later.graph.truncate builder.graph.size = builder.graph :=
    h.consistent.truncate_eq hlater.consistent
      ((extends_start builder type implementation lifetime).trans hextends.nodes)
  have hids : later.inProgress.dropLast = builder.inProgress := by
    rw [hextends.inProgress]
    exact List.dropLast_concat
  rw [abandon, hgraph, hids]

end Steps

def TypeSpec (catalog : κ) (type : TypeIdentity) (builder : Builder) : Outcome NodeId → Prop
  | (.ok id, later) => later.Valid catalog ∧ builder.Extends later ∧
      later.graph.nodeId? type = some id ∧ Constructible catalog type
  | (.error error, later) => later = builder ∧ Fails catalog builder.waiting type error

/-- What a run through a list of types in a valid state comes to. After an error the types resolved
before are still there. -/
def ListSpec (catalog : κ) (types : List TypeIdentity) (builder : Builder) :
    Outcome (List NodeId) → Prop
  | (.ok ids, later) => later.Valid catalog ∧ builder.Extends later ∧
      List.Forall₂ (fun id type => later.graph.nodeId? type = some id) ids types ∧
      ∀ type ∈ types, Constructible catalog type
  | (.error error, later) => later.Valid catalog ∧ builder.Extends later ∧
      ∃ done type rest, types = done ++ type :: rest ∧
        (∀ earlier ∈ done, Constructible catalog earlier) ∧
        Fails catalog builder.waiting type error

theorem ruleClosed_spec (catalog : κ) : RuleClosed catalog
    (fun type builder outcome => builder.Valid catalog → TypeSpec catalog type builder outcome)
    (fun types builder outcome =>
      builder.Valid catalog → ListSpec catalog types builder outcome) where
  inProgress type builder id hid hprogress h := by
    refine ⟨rfl, ?_⟩
    rw [h.progressFrom_eq hid]
    exact Fails.cycle (h.mem_waiting_iff.mpr ⟨id, hprogress, hid⟩)
  finished type builder id hid hfinished h := by
    obtain ⟨node, hnode, rfl⟩ := h.consistent.nodeId?_eq_some_iff.mp hid
    exact ⟨h, Extends.refl builder, hid, h.constructible id node hnode hfinished⟩
  unserved type builder hnew hunserved h :=
    ⟨rfl, Fails.unresolved (h.not_mem_waiting hnew) hunserved⟩
  abandoned type builder pair error failed hnew hserved hlist h := by
    obtain ⟨hvalid, hextends, done, parameter, rest, hsplit, hdone, hfails⟩ :=
      hlist (h.start hnew hserved)
    rw [h.waiting_start] at hfails
    exact ⟨h.abandon_eq hvalid hextends,
      Fails.parameter (h.not_mem_waiting hnew) hserved hsplit hdone hfails⟩
  completed type builder pair dependencies resolved hnew hserved hlist h := by
    obtain ⟨hvalid, hextends, hlinked, hparameters⟩ := hlist (h.start hnew hserved)
    exact ⟨Valid.finish hserved hvalid hextends hlinked hparameters,
      extends_finish hextends dependencies, nodeId?_finish hvalid hextends dependencies,
      .intro hserved hparameters⟩
  nil builder h := ⟨h, Extends.refl builder, .nil, by simp⟩
  head_error type types builder error failed hhead h := by
    obtain ⟨rfl, hfails⟩ := hhead h
    exact ⟨h, Extends.refl _, [], type, types, rfl, by simp, hfails⟩
  tail_error type types builder id resolved error failed hhead htail h := by
    obtain ⟨hresolved, hextends, _, hconstructible⟩ := hhead h
    obtain ⟨hfailed, hextends', done, failing, rest, rfl, hdone, hfails⟩ := htail hresolved
    rw [hextends.waiting h] at hfails
    exact ⟨hfailed, hextends.trans hextends', type :: done, failing, rest, rfl,
      List.forall_mem_cons.mpr ⟨hconstructible, hdone⟩, hfails⟩
  cons type types builder id resolved ids last hhead htail h := by
    obtain ⟨hresolved, hextends, hid, hconstructible⟩ := hhead h
    obtain ⟨hlast, hextends', hids, hrest⟩ := htail hresolved
    have hid := hextends'.nodeId? hresolved.consistent hlast.consistent hid
    exact ⟨hlast, hextends.trans hextends', .cons hid hids,
      List.forall_mem_cons.mpr ⟨hconstructible, hrest⟩⟩

section Runs

variable {catalog : κ} {builder : Builder}

theorem Valid.typeSpec (h : builder.Valid catalog) (type : TypeIdentity) :
    TypeSpec catalog type builder (builder.resolve catalog type) :=
  (ruleClosed_spec catalog).resolve type builder h

theorem Valid.listSpec (h : builder.Valid catalog) (types : List TypeIdentity) :
    ListSpec catalog types builder (resolveList catalog types builder) :=
  (ruleClosed_spec catalog).resolveList types builder h

/-- A failed resolution leaves the builder as it was. -/
theorem Valid.eq_of_error (h : builder.Valid catalog) {type : TypeIdentity}
    {error : GenerationError} {failed : Builder}
    (hresolve : builder.resolve catalog type = (.error error, failed)) : failed = builder := by
  have hspec := h.typeSpec type
  rw [hresolve] at hspec
  exact hspec.1

/-- A valid builder with nothing in progress, as between two resolutions. -/
structure Idle (catalog : κ) (builder : Builder) : Prop extends builder.Valid catalog where
  inProgress_eq : builder.inProgress = []

theorem idle_empty (catalog : κ) : ({} : Builder).Idle catalog :=
  ⟨valid_empty catalog, rfl⟩

namespace Idle

theorem notMem_inProgress (h : builder.Idle catalog) (id : NodeId) : id ∉ builder.inProgress := by
  simp [h.inProgress_eq]

theorem waiting_eq (h : builder.Idle catalog) : builder.waiting = [] := by
  simp [Builder.waiting, h.inProgress_eq]

/-- With nothing in progress, every node is finished. -/
theorem constructible_of_node? (h : builder.Idle catalog) {id : NodeId} {node : ServiceNode}
    (found : builder.graph.node? id = some node) : Constructible catalog node.requested :=
  h.constructible id node found (h.notMem_inProgress id)

theorem of_extends (h : builder.Idle catalog) {later : Builder} (hlater : later.Valid catalog)
    (hextends : builder.Extends later) : later.Idle catalog :=
  ⟨hlater, hextends.inProgress.trans h.inProgress_eq⟩

theorem resolve (h : builder.Idle catalog) (type : TypeIdentity) :
    (builder.resolve catalog type).2.Idle catalog := by
  have hspec := h.typeSpec type
  cases hresolve : builder.resolve catalog type with
  | mk result later =>
    rw [hresolve] at hspec
    cases result with
    | error error =>
      obtain ⟨rfl, _⟩ := hspec
      exact h
    | ok id => exact h.of_extends hspec.1 hspec.2.1

/-- No sequence of resolutions, failed ones among them, breaks the invariant. -/
theorem afterSession (h : builder.Idle catalog) (types : List TypeIdentity) :
    (Builder.afterSession catalog types builder).Idle catalog := by
  induction types generalizing builder with
  | nil => exact h
  | cons type types ih => exact ih (h.resolve type)

end Idle

end Runs

end Builder

/-- What the resolution of requests comes to: a graph if they all can be constructed, else the error
of one that cannot. -/
theorem resolve_cases (catalog : κ) (requests : List TypeIdentity) :
    (∃ builder : Builder, builder.Idle catalog ∧
        ServiceGraph.resolve catalog requests = .ok builder.graph ∧
        ∀ request ∈ requests, Constructible catalog request) ∨
      ∃ error, ServiceGraph.resolve catalog requests = .error error ∧
        ∃ request ∈ requests, Fails catalog [] request error := by
  have hspec := (Builder.valid_empty catalog).listSpec requests
  rw [ServiceGraph.resolve, Builder.resolveAll_eq]
  cases hrun : Builder.resolveList catalog requests {} with
  | mk result later =>
    rw [hrun] at hspec
    cases result with
    | ok ids =>
      obtain ⟨hvalid, hextends, _, hconstructible⟩ := hspec
      exact Or.inl ⟨later, (Builder.idle_empty catalog).of_extends hvalid hextends, rfl,
        hconstructible⟩
    | error error =>
      obtain ⟨_, _, done, request, rest, rfl, _, hfails⟩ := hspec
      exact Or.inr ⟨error, rfl, request, by simp, hfails⟩

theorem exists_idle_of_resolve {catalog : κ} {requests : List TypeIdentity} {graph : ServiceGraph}
    (h : ServiceGraph.resolve catalog requests = .ok graph) :
    ∃ builder : Builder, builder.Idle catalog ∧ builder.graph = graph ∧
      ∀ request ∈ requests, Constructible catalog request := by
  rcases resolve_cases catalog requests with ⟨builder, hidle, hok, hrequests⟩ | ⟨error, herror, _⟩
  · exact ⟨builder, hidle, Except.ok.inj (hok.symm.trans h), hrequests⟩
  · rw [h] at herror
    cases herror

end CompositionRoot
