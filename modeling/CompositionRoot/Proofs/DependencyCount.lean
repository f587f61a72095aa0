import CompositionRoot.Proofs.ServiceErrors

/-! The order by number of dependencies. A service comes after another in it if it has more
dependencies, or as many and was discovered later. Whether dependencies come first is a matter of
the numbers along each dependency. In a forest discovery helps only where a dependency was requested
by itself, so a chain is in the wrong order as soon as it has three services. -/
namespace CompositionRoot

variable {κ : Type} [TypeCatalog κ] {catalog : κ}

namespace Builder

variable {builder later last : Builder} {ids : List NodeId}

/-- A later state in which each new node is one of `ids` or a dependency of a new node with a
smaller number. -/
structure Introduces (builder later : Builder) (ids : List NodeId) : Prop
    extends builder.Extends later where
  used : ∀ id, builder.graph.size ≤ id → id < later.graph.size →
    id ∈ ids ∨ ∃ user, builder.graph.size ≤ user ∧ user < id ∧ later.graph.DependsOn user id

namespace Introduces

theorem refl (builder : Builder) (ids : List NodeId) : builder.Introduces builder ids :=
  ⟨Extends.refl builder, fun _ hle hlt => absurd hlt (Nat.not_lt.mpr hle)⟩

theorem cons {id : NodeId} (h : builder.Introduces later [id]) (h' : later.Introduces last ids) :
    builder.Introduces last (id :: ids) := by
  have hsize : builder.graph.size ≤ later.graph.size := h.nodes.length_le
  refine ⟨h.toExtends.trans h'.toExtends, fun new hle hlt => ?_⟩
  by_cases hold : new < later.graph.size
  · rcases h.used new hle hold with hself | ⟨user, hnew, huser, node, found, hmem⟩
    · exact Or.inl (List.mem_cons.mpr (Or.inl (List.mem_singleton.mp hself)))
    · exact Or.inr ⟨user, hnew, huser, node, h'.node? found, hmem⟩
  · rcases h'.used new (Nat.not_lt.mp hold) hlt with hmem | ⟨user, hnew, huser, hdepends⟩
    · exact Or.inl (List.mem_cons_of_mem _ hmem)
    · exact Or.inr ⟨user, Nat.le_trans hsize hnew, huser, hdepends⟩

/-- The node that was started uses those that were introduced for its parameters. -/
theorem finish {type implementation : TypeIdentity} {lifetime : Lifetime}
    (h : (builder.start type implementation lifetime).Introduces later ids) :
    builder.Introduces (later.finish builder.graph.size ids) [builder.graph.size] := by
  have hstarted : (builder.start type implementation lifetime).graph.size =
      builder.graph.size + 1 := by
    simp [start, ServiceGraph.size]
  have hsize : (later.finish builder.graph.size ids).graph.size = later.graph.size := by
    simp [Builder.finish, ServiceGraph.setDependencies, ServiceGraph.size]
  refine ⟨extends_finish h.toExtends ids, fun new hle hlt => ?_⟩
  rw [hsize] at hlt
  rcases Nat.eq_or_lt_of_le hle with rfl | hlater
  · exact Or.inl List.mem_cons_self
  · right
    rcases h.used new (by omega) hlt with hmem | ⟨user, hnew, huser, node, found, hmem⟩
    · obtain ⟨rest, hnodes⟩ := nodes_finish h.toExtends ids
      have found : (later.finish builder.graph.size ids).graph.node? builder.graph.size =
          some { builder.graph.newNode type implementation lifetime with dependencies := ids } := by
        rw [ServiceGraph.node?, hnodes]
        simp [ServiceGraph.size]
      exact ⟨builder.graph.size, Nat.le_refl _, hlater, _, found, hmem⟩
    · refine ⟨user, by omega, huser, node, ?_, hmem⟩
      have hne : builder.graph.size ≠ user := by omega
      rw [ServiceGraph.node?] at found
      simp [Builder.finish, ServiceGraph.setDependencies, ServiceGraph.node?, hne, found]

end Introduces

theorem ruleClosed_introduces (catalog : κ) : RuleClosed catalog
    (fun _ builder outcome => ∀ id, outcome.1 = .ok id → builder.Introduces outcome.2 [id])
    (fun _ builder outcome => ∀ ids, outcome.1 = .ok ids → builder.Introduces outcome.2 ids) where
  inProgress _ _ _ _ _ _ hok := by cases hok
  finished _ builder _ _ _ id _ := .refl builder [id]
  unserved _ _ _ _ _ hok := by cases hok
  abandoned _ _ _ _ _ _ _ _ _ hok := by cases hok
  completed _ _ _ dependencies _ _ _ hlist _ hok := by
    cases hok
    exact (hlist dependencies rfl).finish
  nil builder ids _ := .refl builder ids
  head_error _ _ _ _ _ _ _ hok := by cases hok
  tail_error _ _ _ _ _ _ _ _ _ _ hok := by cases hok
  cons _ _ _ id _ ids _ hhead htail _ hok := by
    cases hok
    exact (hhead id rfl).cons (htail ids rfl)

end Builder

/-- Resolution adds a node for a request or for a node that it added before. -/
theorem requested_or_used {requests : List TypeIdentity} {graph : ServiceGraph}
    (h : ServiceGraph.resolve catalog requests = .ok graph) {id : NodeId} {node : ServiceNode}
    (found : graph.node? id = some node) :
    node.requested ∈ requests ∨ ∃ user < id, graph.DependsOn user id := by
  obtain ⟨ids, later, hrun, rfl⟩ := Builder.resolve_eq_ok_iff.mp h
  have hspec := (Builder.valid_empty catalog).listSpec requests
  have hintroduces := (Builder.ruleClosed_introduces catalog).resolveList requests {}
  rw [hrun] at hspec hintroduces
  obtain ⟨hvalid, _, hids, _⟩ := hspec
  have hlt := ServiceGraph.lt_size_of_node? found
  rcases (hintroduces ids rfl).used id (Nat.zero_le _) hlt with hmem | ⟨user, _, huser⟩
  · obtain ⟨request, hrequest, hid⟩ := exists_mem_of_forall₂ hids hmem
    obtain ⟨other, hother, rfl⟩ := hvalid.consistent.nodeId?_eq_some_iff.mp hid
    obtain rfl := Option.some.inj (found.symm.trans hother)
    exact Or.inl hrequest
  · exact Or.inr ⟨user, huser⟩

namespace ServiceGraph

variable {graph : ServiceGraph} {id dependency : NodeId}

def DependenciesFirst (graph : ServiceGraph) (order : List NodeId) : Prop :=
  ∀ earlier id later, order = earlier ++ id :: later →
    ∀ dependency, graph.DependsOn id dependency → dependency ∈ earlier

/-- Along every dependency the number of dependencies falls, or it stays and the dependency was
discovered before its user. -/
def CountsFall (graph : ServiceGraph) : Prop :=
  ∀ id dependency, graph.DependsOn id dependency →
    graph.dependencyCount dependency < graph.dependencyCount id ∨
      graph.dependencyCount dependency = graph.dependencyCount id ∧ dependency < id

/-- All services are shared, and each is a dependency at most once. -/
structure SharedForest (graph : ServiceGraph) : Prop where
  shared : ∀ node ∈ graph.nodes, node.isShared
  used_once : (graph.nodes.flatMap (·.dependencies)).Nodup

/-- What stands before a node in the order is what precedes it. -/
theorem mem_earlier_iff {earlier later : List NodeId} {other : NodeId}
    (hsplit : graph.dependencyCountOrder = earlier ++ id :: later) (hlt : other < graph.size) :
    other ∈ earlier ↔ graph.precedes other id ∧ other ≠ id := by
  have hsorted := graph.pairwise_dependencyCountOrder
  have hnodup := graph.nodup_dependencyCountOrder
  have hmem := mem_dependencyCountOrder.mpr hlt
  rw [hsplit] at hsorted hnodup hmem
  rw [List.pairwise_append, List.pairwise_cons] at hsorted
  obtain ⟨_, ⟨hlater, _⟩, hearlier⟩ := hsorted
  constructor
  · intro hbefore
    refine ⟨hearlier other hbefore id List.mem_cons_self, ?_⟩
    rintro rfl
    exact (List.nodup_append.mp hnodup).2.2 other hbefore other List.mem_cons_self rfl
  · rintro ⟨hprecedes, hne⟩
    rcases List.mem_append.mp hmem with hbefore | hafter
    · exact hbefore
    · have hbehind := hlater other ((List.mem_cons.mp hafter).resolve_left hne)
      exact absurd (precedes_antisymm hprecedes hbehind) hne

theorem DependsOn.lt_size (h : graph.DependsOn id dependency) : id < graph.size := by
  obtain ⟨node, found, _⟩ := h
  exact lt_size_of_node? found

theorem WellFormed.ne_of_dependsOn {id dependency : Nat} (h : graph.WellFormed)
    (hdepends : graph.DependsOn id dependency) : dependency ≠ id := by
  rintro rfl
  exact h.not_cyclic dependency (.single hdepends)

theorem dependenciesFirst_iff (h : graph.WellFormed) :
    graph.DependenciesFirst graph.dependencyCountOrder ↔ graph.CountsFall := by
  have hstrict : ∀ {id dependency}, dependency ≠ id → (graph.precedes dependency id ↔
      graph.dependencyCount dependency < graph.dependencyCount id ∨
        graph.dependencyCount dependency = graph.dependencyCount id ∧ dependency < id) := by
    intro id dependency hne
    rw [precedes_iff]
    refine or_congr_right (and_congr_right fun _ => ?_)
    exact ⟨fun hle => Nat.lt_of_le_of_ne hle hne, Nat.le_of_lt⟩
  constructor
  · intro hfirst id dependency hdepends
    have hne := h.ne_of_dependsOn hdepends
    obtain ⟨earlier, later, hsplit⟩ := List.append_of_mem
      (mem_dependencyCountOrder.mpr hdepends.lt_size)
    have hmem := hfirst earlier id later hsplit dependency hdepends
    rw [mem_earlier_iff hsplit (h.dependency_lt hdepends), hstrict hne] at hmem
    exact hmem.1
  · intro hfall earlier id later hsplit dependency hdepends
    have hne := h.ne_of_dependsOn hdepends
    rw [mem_earlier_iff hsplit (h.dependency_lt hdepends), hstrict hne]
    exact ⟨hfall id dependency hdepends, hne⟩

/-- Where all services are shared, a service requires the fields of its dependencies alone. -/
theorem requires_iff_dependsOn (hgraph : graph.WellFormed)
    (hshared : ∀ node ∈ graph.nodes, node.isShared) {node : ServiceNode}
    (found : graph.node? id = some node) :
    graph.Requires node dependency ↔ graph.DependsOn id dependency := by
  have hreads : ∀ other ∈ node.dependencies, (graph.Reads other dependency ↔
      dependency = other) := by
    intro other hmem
    obtain ⟨target, htarget, _⟩ := hgraph.exists_dependency found hmem
    exact reads_iff_of_shared htarget (hshared target (List.mem_of_getElem? htarget))
  constructor
  · rintro ⟨other, hmem, hread⟩
    obtain rfl := (hreads other hmem).mp hread
    exact ⟨node, found, hmem⟩
  · rintro ⟨other, hother, hmem⟩
    obtain rfl := Option.some.inj (found.symm.trans hother)
    exact ⟨dependency, hmem, (hreads dependency hmem).mpr rfl⟩

theorem fieldsFirst_iff_dependenciesFirst (hgraph : graph.WellFormed)
    (hshared : ∀ node ∈ graph.nodes, node.isShared) {order : List NodeId} (hnodup : order.Nodup) :
    graph.FieldsFirst [] order ↔ graph.DependenciesFirst order := by
  rw [fieldsFirst_nil_iff]
  constructor
  · rintro h earlier id later rfl dependency ⟨node, found, hmem⟩
    have hfirst : id ∉ earlier := fun hbefore =>
      (List.nodup_append.mp hnodup).2.2 id hbefore id List.mem_cons_self rfl
    apply h earlier id later node rfl hfirst found (hshared node (List.mem_of_getElem? found))
    rw [mem_requiredFields_iff found, requires_iff_dependsOn hgraph hshared found]
    exact ⟨node, found, hmem⟩
  · intro h earlier id later node hsplit _ found _ field hfield
    rw [mem_requiredFields_iff found, requires_iff_dependsOn hgraph hshared found] at hfield
    exact h earlier id later hsplit field hfield

theorem isOk_emit_iff_countsFall (hgraph : graph.WellFormed)
    (hshared : ∀ node ∈ graph.nodes, node.isShared) (names : ClassNames) :
    (graph.emit names graph.dependencyCountOrder).isOk ↔ graph.CountsFall := by
  rw [isOk_emit_iff hgraph,
    fieldsFirst_iff_dependenciesFirst hgraph hshared graph.nodup_dependencyCountOrder,
    dependenciesFirst_iff hgraph, and_iff_left]
  intro id _ node found perRequest
  exact absurd (hshared node (List.mem_of_getElem? found)) perRequest

theorem SharedForest.user_unique (h : graph.SharedForest) {user other : NodeId}
    (huser : graph.DependsOn user dependency) (hother : graph.DependsOn other dependency) :
    user = other := by
  have hapart : ∀ {a b : NodeId}, graph.DependsOn a dependency → graph.DependsOn b dependency →
      ¬ a < b := by
    rintro a b ⟨node, found, hmem⟩ ⟨otherNode, hother, hmem'⟩ hlt
    have hpairwise := List.pairwise_iff_getElem.mp (List.nodup_flatMap.mp h.used_once).2
    obtain ⟨ha, rfl⟩ := List.getElem?_eq_some_iff.mp found
    obtain ⟨hb, rfl⟩ := List.getElem?_eq_some_iff.mp hother
    exact hpairwise a b ha hb hlt hmem hmem'
  rcases Nat.lt_trichotomy user other with hlt | heq | hgt
  · exact absurd hlt (hapart huser hother)
  · exact heq
  · exact absurd hgt (hapart hother huser)

section Chain

variable {other : NodeId}

def Unbranched (graph : ServiceGraph) : Prop :=
  ∀ node ∈ graph.nodes, node.dependencies.length ≤ 1

theorem dependencyCount_eq {node : ServiceNode} (found : graph.node? id = some node) :
    graph.dependencyCount id = node.dependencies.length := by
  rw [dependencyCount, found]
  rfl

theorem dependencyCount_pos_iff :
    0 < graph.dependencyCount id ↔ ∃ dependency, graph.DependsOn id dependency := by
  cases found : graph.node? id with
  | none => simp [dependencyCount, DependsOn, found]
  | some node => simp [dependencyCount_eq found, DependsOn, found, List.length_pos_iff_exists_mem]

namespace Unbranched

theorem dependencyCount_le (h : graph.Unbranched) (id : NodeId) : graph.dependencyCount id ≤ 1 := by
  cases found : graph.node? id with
  | none => simp [dependencyCount, found]
  | some node =>
    rw [dependencyCount_eq found]
    exact h node (List.mem_of_getElem? found)

theorem dependencyCount_eq_one (h : graph.Unbranched) (hdepends : graph.DependsOn id dependency) :
    graph.dependencyCount id = 1 := by
  have hpos := dependencyCount_pos_iff.mpr ⟨dependency, hdepends⟩
  have hle := h.dependencyCount_le id
  omega

theorem dependency_unique (h : graph.Unbranched) (hdepends : graph.DependsOn id dependency)
    (hother : graph.DependsOn id other) : dependency = other := by
  obtain ⟨node, found, hmem⟩ := hdepends
  obtain ⟨_, found', hmem'⟩ := hother
  obtain rfl := Option.some.inj (found.symm.trans found')
  obtain ⟨i, hi, rfl⟩ := List.getElem_of_mem hmem
  obtain ⟨j, hj, rfl⟩ := List.getElem_of_mem hmem'
  have hle := h node (List.mem_of_getElem? found)
  obtain rfl : i = j := by omega
  rfl

/-- Of at most two services, the one that is a dependency has none itself. -/
theorem countsFall_of_size_le (h : graph.Unbranched) (hgraph : graph.WellFormed)
    (hsize : graph.size ≤ 2) : graph.CountsFall := by
  intro (id : Nat) (dependency : Nat) hdepends
  have hlast : ¬ 0 < graph.dependencyCount dependency := by
    rw [dependencyCount_pos_iff]
    rintro ⟨(other : Nat), hother⟩
    have hid : id < 2 := Nat.lt_of_lt_of_le hdepends.lt_size hsize
    have hdependency : dependency < 2 := Nat.lt_of_lt_of_le hother.lt_size hsize
    have hlt : other < 2 := Nat.lt_of_lt_of_le (hgraph.dependency_lt hother) hsize
    have hne := hgraph.ne_of_dependsOn hdepends
    have hne' := hgraph.ne_of_dependsOn hother
    have hback : other = id := by omega
    exact hgraph.not_cyclic id (.tail (.single hdepends) (hback ▸ hother))
  have hone := h.dependencyCount_eq_one hdepends
  omega

end Unbranched

end Chain

end ServiceGraph

section SingleRequest

variable {head : TypeIdentity} {graph : ServiceGraph} {k : Nat}

/-- The only request has the first node, so each further node has a user before it. -/
theorem exists_user_of_single_request (h : ServiceGraph.resolve catalog [head] = .ok graph)
    (hpos : 0 < k) (hlt : k < graph.size) : ∃ user : Nat, user < k ∧ graph.DependsOn user k := by
  obtain ⟨builder, hidle, rfl, _⟩ := exists_idle_of_resolve h
  obtain ⟨first, hfirst⟩ := ServiceGraph.exists_node?_of_lt (Nat.zero_lt_of_lt hlt)
  obtain ⟨node, found⟩ := ServiceGraph.exists_node?_of_lt hlt
  have hhead : first.requested = head := by
    rcases requested_or_used h hfirst with hrequest | ⟨user, huser, _⟩
    · exact List.mem_singleton.mp hrequest
    · exact absurd huser (Nat.not_lt_zero user)
  rcases requested_or_used h found with hrequest | huser
  · have hsame := hidle.consistent.nodeId?_eq_some_iff.mpr ⟨node, found, rfl⟩
    rw [List.mem_singleton.mp hrequest, ← hhead,
      hidle.consistent.nodeId?_eq_some_iff.mpr ⟨first, hfirst, rfl⟩] at hsame
    exact absurd (Option.some.inj hsame) (Nat.ne_of_lt hpos)
  · exact huser

/-- In a chain that is requested at its head, each node but the first follows its user. Induction on
the number: a node further ahead already has the one after it as its only dependency. -/
theorem dependsOn_succ_of_unbranched (h : ServiceGraph.resolve catalog [head] = .ok graph)
    (hchain : graph.Unbranched) (hlt : k + 1 < graph.size) : graph.DependsOn k (k + 1) := by
  induction k using Nat.strongRecOn with
  | _ k ih =>
    obtain ⟨user, huser, hdepends⟩ := exists_user_of_single_request h (Nat.succ_pos k) hlt
    rcases Nat.lt_or_eq_of_le (Nat.le_of_lt_succ huser) with hbefore | rfl
    · have hnext := ih user hbefore (by omega)
      have heq : user + 1 = k + 1 := hchain.dependency_unique hnext hdepends
      omega
    · exact hdepends

theorem countsFall_iff_of_unbranched (h : ServiceGraph.resolve catalog [head] = .ok graph)
    (hchain : graph.Unbranched) : graph.CountsFall ↔ graph.size ≤ 2 := by
  constructor
  · intro hfall
    by_contra hlarge
    have hfirst : graph.DependsOn 0 1 := dependsOn_succ_of_unbranched h hchain (by omega)
    have hsecond : graph.DependsOn 1 2 := dependsOn_succ_of_unbranched h hchain (by omega)
    have hcounts := hfall 0 1 hfirst
    rw [hchain.dependencyCount_eq_one hfirst, hchain.dependencyCount_eq_one hsecond] at hcounts
    rcases hcounts with hless | ⟨_, hbefore⟩
    · exact Nat.lt_irrefl 1 hless
    · exact Nat.not_lt_zero 1 hbefore
  · exact hchain.countsFall_of_size_le (wellFormed_of_resolve h)

end SingleRequest

/-- In a forest, a dependency that was discovered before its user was requested by itself. -/
theorem requested_of_lt_user {requests : List TypeIdentity} {graph : ServiceGraph}
    (h : ServiceGraph.resolve catalog requests = .ok graph) (hforest : graph.SharedForest)
    {id dependency : NodeId} (hdepends : graph.DependsOn id dependency) (hlt : dependency < id) :
    ∃ node, graph.node? dependency = some node ∧ node.requested ∈ requests := by
  obtain ⟨node, found⟩ :=
    ServiceGraph.exists_node?_of_lt ((wellFormed_of_resolve h).dependency_lt hdepends)
  refine ⟨node, found, ?_⟩
  rcases requested_or_used h found with hrequest | ⟨user, huser, hother⟩
  · exact hrequest
  · obtain rfl := hforest.user_unique hother hdepends
    exact absurd huser (Nat.lt_asymm hlt)

/-- The order by number of dependencies puts the dependencies of a resolved forest first, and a
class is emitted in it, exactly if the number of dependencies falls along each dependency or stays
where the dependency was discovered first. In a forest that is so only for one that was requested by
itself. A chain requested at its head has the right order exactly if it has at most two services. -/
theorem dependency_count_order_iff {requests : List TypeIdentity} {graph : ServiceGraph}
    (hresolve : ServiceGraph.resolve catalog requests = .ok graph) (hforest : graph.SharedForest) :
    (graph.DependenciesFirst graph.dependencyCountOrder ↔ graph.CountsFall) ∧
    (∀ names, (∃ text, graph.emit names graph.dependencyCountOrder = .ok text) ↔
      graph.CountsFall) ∧
    (∀ names error, graph.emit names graph.dependencyCountOrder = .error error →
      error.IsMissingField) ∧
    (∀ id dependency, graph.DependsOn id dependency → dependency < id →
      ∃ node, graph.node? dependency = some node ∧ node.requested ∈ requests) ∧
    ∀ head, requests = [head] → graph.Unbranched → (graph.CountsFall ↔ graph.size ≤ 2) := by
  have hgraph := wellFormed_of_resolve hresolve
  refine ⟨ServiceGraph.dependenciesFirst_iff hgraph, fun names => ?_, fun names error => ?_,
    fun id dependency => ?_, ?_⟩
  · rw [← isOk_iff]
    exact ServiceGraph.isOk_emit_iff_countsFall hgraph hforest.shared names
  · exact ServiceGraph.isMissingField_of_emit hgraph
  · exact requested_of_lt_user hresolve hforest
  · rintro head rfl hchain
    exact countsFall_iff_of_unbranched hresolve hchain

def diskCatalog : List TypeInfo :=
  [{ identity := ⟨"App"⟩, constructors := [{ parameters := [⟨"Store"⟩] }] },
    { identity := ⟨"Store"⟩, constructors := [{ parameters := [⟨"Disk"⟩] }] },
    { identity := ⟨"Disk"⟩ }]

def diskGraph : ServiceGraph where
  nodes :=
    [⟨⟨"App"⟩, ⟨"App"⟩, .shared, [1], "app"⟩, ⟨⟨"Store"⟩, ⟨"Store"⟩, .shared, [2], "store"⟩,
      ⟨⟨"Disk"⟩, ⟨"Disk"⟩, .shared, [], "disk"⟩]
  memo := [(⟨"Disk"⟩, 2), (⟨"Store"⟩, 1), (⟨"App"⟩, 0)]
  identifiers := ["disk", "store", "app"]

theorem resolve_diskGraph : ServiceGraph.resolve diskCatalog [⟨"App"⟩] = .ok diskGraph := by
  decide +kernel

theorem sharedForest_diskGraph : diskGraph.SharedForest where
  shared := by decide
  used_once := by decide

/-- The application has no more dependencies than its store, and comes first. -/
theorem disk_chain_misordered :
    ServiceGraph.resolve diskCatalog [⟨"App"⟩] = .ok diskGraph ∧ diskGraph.SharedForest ∧
    diskGraph.Unbranched ∧ ¬ diskGraph.DependenciesFirst diskGraph.dependencyCountOrder ∧
    ∀ names, ∃ error, diskGraph.emit names diskGraph.dependencyCountOrder = .error error ∧
      error.IsMissingField := by
  have hchain : diskGraph.Unbranched := by
    unfold ServiceGraph.Unbranched
    decide
  obtain ⟨hfirst, hemit, hmissing, _, hsize⟩ :=
    dependency_count_order_iff resolve_diskGraph sharedForest_diskGraph
  have hfall : ¬ diskGraph.CountsFall := by
    rw [hsize _ rfl hchain]
    decide
  refine ⟨resolve_diskGraph, sharedForest_diskGraph, hchain, fun h => hfall (hfirst.mp h),
    fun names => ?_⟩
  cases hresult : diskGraph.emit names diskGraph.dependencyCountOrder with
  | ok text => exact absurd ((hemit names).mp ⟨text, hresult⟩) hfall
  | error error => exact ⟨error, rfl, hmissing names error hresult⟩

/-- Not every chain is in the right order. -/
theorem not_every_forest_in_order :
    ¬ ∀ (catalog : List TypeInfo) (requests : List TypeIdentity) (graph : ServiceGraph),
      ServiceGraph.resolve catalog requests = .ok graph → graph.SharedForest →
        graph.DependenciesFirst graph.dependencyCountOrder ∧
        ∀ names, ∃ text, graph.emit names graph.dependencyCountOrder = .ok text := by
  intro h
  obtain ⟨hfirst, _⟩ := h _ _ _ resolve_diskGraph sharedForest_diskGraph
  have hfall := (ServiceGraph.dependenciesFirst_iff (wellFormed_of_resolve resolve_diskGraph)).mp
    hfirst
  have hdepends : diskGraph.DependsOn 0 1 := ⟨_, rfl, List.mem_cons_self⟩
  exact absurd (hfall 0 1 hdepends) (by decide)

end CompositionRoot
