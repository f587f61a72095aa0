import CompositionRoot.Proofs.FieldUses

/-! Creations within creations. A per-request dependency is created in place, and dependencies have
no cycle, so a creation never comes back to a service whose own creation is not finished. The
recursion is well-founded for that reason, takes no node outside the graph, and has `construct` as
its only solution. -/
namespace CompositionRoot

open Relation

namespace ServiceGraph

/-- The argument that a constructor takes for a dependency, where the creation of a per-request
service is left to `nested`. A dependency outside the graph has no outcome. -/
def argumentRound (graph : ServiceGraph) (declared : List NodeId)
    (nested : ServiceNode → Option (Except GenerationError Expression))
    (implementation : TypeIdentity) (id : NodeId) : Option (Except GenerationError Expression) :=
  (graph.node? id).bind fun dependency =>
    if dependency.isShared then
      if id ∈ declared then some (.ok (.field dependency.fieldName))
      else some (.error (.missingField dependency.identifier implementation))
    else nested dependency

def creationRound (graph : ServiceGraph) (declared : List NodeId)
    (nested : ServiceNode → Option (Except GenerationError Expression)) (node : ServiceNode) :
    Option (Except GenerationError Expression) :=
  (collect (node.dependencies.map
    (graph.argumentRound declared nested node.implementation))).map fun arguments =>
      arguments.map (Expression.create node.implementation)

variable {graph : ServiceGraph} {declared : List NodeId} {id : NodeId} {node : ServiceNode}
  {nested other : ServiceNode → Option (Except GenerationError Expression)}
  {outcome : Except GenerationError Expression}

theorem collect_map_mono {argument argument' : NodeId → Option (Except GenerationError Expression)}
    {ids : List NodeId} {values : Except GenerationError (List Expression)}
    (h : ∀ id outcome, argument id = some outcome → argument' id = some outcome)
    (hvalues : collect (ids.map argument) = some values) :
    collect (ids.map argument') = some values := by
  induction ids generalizing values with
  | nil => exact hvalues
  | cons id ids ih =>
    rw [List.map_cons] at hvalues ⊢
    cases hargument : argument id with
    | none =>
      rw [hargument] at hvalues
      cases hvalues
    | some result =>
      rw [hargument] at hvalues
      rw [h id result hargument]
      cases result with
      | error error => exact hvalues
      | ok value =>
        obtain ⟨rest, hrest, hmap⟩ := Option.map_eq_some_iff.mp hvalues
        rw [collect, ih hrest, Option.map_some, hmap]

theorem argumentRound_mono {implementation : TypeIdentity}
    (h : ∀ id target, graph.node? id = some target → ∀ outcome,
      nested target = some outcome → other target = some outcome)
    (hargument : graph.argumentRound declared nested implementation id = some outcome) :
    graph.argumentRound declared other implementation id = some outcome := by
  obtain ⟨target, found, htarget⟩ := Option.bind_eq_some_iff.mp hargument
  rw [argumentRound, found, Option.bind_some]
  by_cases shared : target.isShared
  · rwa [if_pos shared] at htarget ⊢
  · rw [if_neg shared] at htarget ⊢
    exact h id target found outcome htarget

/-- The more outcomes nested creations have, the more a round has. -/
theorem creationRound_mono
    (h : ∀ id target, graph.node? id = some target → ∀ outcome,
      nested target = some outcome → other target = some outcome)
    (hround : graph.creationRound declared nested node = some outcome) :
    graph.creationRound declared other node = some outcome := by
  obtain ⟨values, hvalues, rfl⟩ := Option.map_eq_some_iff.mp hround
  have harguments : collect (node.dependencies.map
      (graph.argumentRound declared other node.implementation)) = some values :=
    collect_map_mono (fun _ _ hargument => argumentRound_mono h hargument) hvalues
  rw [creationRound, harguments, Option.map_some]

theorem constructWithin_eq_creationRound (hgraph : graph.WellFormed)
    (found : graph.node? id = some node) (depth : Nat) :
    graph.constructWithin declared (depth + 1) node =
      graph.creationRound declared (graph.constructWithin declared depth) node := by
  have harguments : ∀ dependency ∈ node.dependencies,
      graph.argumentWithin declared depth node.implementation dependency =
        some (graph.argumentRound declared (graph.constructWithin declared depth)
          node.implementation dependency) := by
    intro dependency hmem
    obtain ⟨target, htarget, _⟩ := hgraph.exists_dependency found hmem
    rw [argumentWithin, argumentRound, htarget]
    rfl
  rw [constructWithin_succ, List.filterMap_congr harguments, List.filterMap_eq_map']
  rfl

theorem constructWithin_succ_of_some (hgraph : graph.WellFormed) {depth : Nat}
    (found : graph.node? id = some node)
    (h : graph.constructWithin declared depth node = some outcome) :
    graph.constructWithin declared (depth + 1) node = some outcome := by
  induction depth generalizing id node outcome with
  | zero => cases h
  | succ depth ih =>
    rw [constructWithin_eq_creationRound hgraph found] at h ⊢
    exact creationRound_mono (fun _ _ htarget _ => ih htarget) h

/-- A limit of as many levels as the graph has nodes is not reached, nor is any beyond. -/
theorem constructWithin_of_size_le (hgraph : graph.WellFormed) {depth : Nat}
    (found : graph.node? id = some node) (hdepth : graph.size ≤ depth) :
    graph.constructWithin declared depth node = some (graph.construct declared node) := by
  induction hdepth with
  | refl => exact constructWithin_size hgraph found
  | step _ ih => exact constructWithin_succ_of_some hgraph found ih

theorem construct_recursion (hgraph : graph.WellFormed) (found : graph.node? id = some node) :
    graph.creationRound declared (fun node => some (graph.construct declared node)) node =
      some (graph.construct declared node) := by
  have hround : graph.constructWithin declared (graph.size + 1) node =
      some (graph.construct declared node) :=
    constructWithin_of_size_le hgraph found (Nat.le_succ _)
  rw [constructWithin_eq_creationRound hgraph found] at hround
  refine creationRound_mono (fun id target htarget outcome houtcome => ?_) hround
  rw [← houtcome, constructWithin_size hgraph htarget]

/-- A solution of the recursion has the outcomes of the limited creations. -/
theorem eq_of_constructWithin (hgraph : graph.WellFormed)
    (hsolution : ∀ id node, graph.node? id = some node →
      nested node = graph.creationRound declared nested node) {depth : Nat}
    (found : graph.node? id = some node)
    (h : graph.constructWithin declared depth node = some outcome) :
    nested node = some outcome := by
  induction depth generalizing id node outcome with
  | zero => cases h
  | succ depth ih =>
    rw [constructWithin_eq_creationRound hgraph found] at h
    rw [hsolution id node found]
    exact creationRound_mono (fun _ _ htarget _ => ih htarget) h

theorem none_mem_of_collect {values : List (Option (Except GenerationError Expression))}
    (h : collect values = none) : none ∈ values := by
  induction values with
  | nil => cases h
  | cons value values ih =>
    cases value with
    | none => exact List.mem_cons_self
    | some result =>
      cases result with
      | error error => cases h
      | ok value => exact List.mem_cons_of_mem _ (ih (Option.map_eq_none_iff.mp h))

/-- Where a limit is reached, that many creations have begun one within the other. -/
theorem exists_stack_of_constructWithin {depth : Nat} (found : graph.node? id = some node)
    (h : graph.constructWithin declared depth node = none) :
    ∃ stack, stack.length = depth ∧ List.IsChain graph.CreatesInPlace (id :: stack) := by
  induction depth generalizing id node with
  | zero => exact ⟨[], rfl, .singleton id⟩
  | succ depth ih =>
    rw [constructWithin_succ, Option.map_eq_none_iff] at h
    obtain ⟨dependency, hmem, hargument⟩ := List.mem_filterMap.mp (none_mem_of_collect h)
    obtain ⟨target, htarget, hnone⟩ := Option.map_eq_some_iff.mp hargument
    by_cases shared : target.isShared
    · rw [if_pos shared] at hnone
      split at hnone <;> cases hnone
    · rw [if_neg shared] at hnone
      obtain ⟨stack, hlength, hchain⟩ := ih htarget hnone
      have hstep : graph.CreatesInPlace id dependency :=
        ⟨⟨node, found, hmem⟩, target, htarget, shared⟩
      exact ⟨dependency :: stack, congrArg (· + 1) hlength,
        List.isChain_cons_cons.mpr ⟨hstep, hchain⟩⟩

namespace WellFormed

theorem wellFounded_createsInPlace (h : graph.WellFormed) :
    WellFounded fun inner outer => graph.CreatesInPlace outer inner :=
  Subrelation.wf (fun hstep => h.rank_lt hstep.1) (measure graph.rank).wf

/-- No service is created within its own creation. -/
theorem nodup_of_isChain (h : graph.WellFormed) {stack : List NodeId}
    (hchain : List.IsChain graph.CreatesInPlace stack) : stack.Nodup := by
  have hdepends : List.IsChain (TransGen graph.DependsOn) stack :=
    hchain.imp fun _ _ hstep => .single hstep.1
  refine hdepends.pairwise.imp fun {outer inner} hpath heq => ?_
  exact h.not_cyclic outer (heq ▸ hpath)

end WellFormed

end ServiceGraph

/-- In the graph after any session, creation ends for every node, whatever is declared. Services in
creation, one within the other, are all different, so a limit of as many levels as there are nodes
is not reached. All dependencies are nodes, and the recursion has the outcomes of `construct` and no
others. -/
theorem creation_terminates {κ : Type} [TypeCatalog κ] (catalog : κ) (types : List TypeIdentity)
    {graph : ServiceGraph} (hsession : (Builder.afterSession catalog types {}).graph = graph) :
    (WellFounded fun inner outer => graph.CreatesInPlace outer inner) ∧
    (∀ stack, List.IsChain graph.CreatesInPlace stack → stack.Nodup) ∧
    (∀ user dependency, graph.DependsOn user dependency → dependency < graph.size) ∧
    (∀ declared id node, graph.node? id = some node →
      (∀ depth, graph.constructWithin declared depth node = none →
        ∃ stack, stack.length = depth ∧ List.IsChain graph.CreatesInPlace (id :: stack)) ∧
      ∀ depth, graph.size ≤ depth →
        graph.constructWithin declared depth node = some (graph.construct declared node)) ∧
    ∀ declared (solution : ServiceNode → Option (Except GenerationError Expression)),
      (∀ id node, graph.node? id = some node →
        solution node = graph.creationRound declared solution node) ↔
      ∀ id node, graph.node? id = some node →
        solution node = some (graph.construct declared node) := by
  have hgraph : graph.WellFormed := hsession ▸ wellFormed_afterSession catalog types
  refine ⟨hgraph.wellFounded_createsInPlace, fun stack => hgraph.nodup_of_isChain,
    fun user dependency => hgraph.dependency_lt, fun declared id node found => ⟨?_, ?_⟩,
    fun declared solution => ⟨?_, ?_⟩⟩
  · intro depth hlimit
    exact ServiceGraph.exists_stack_of_constructWithin found hlimit
  · intro depth hdepth
    exact ServiceGraph.constructWithin_of_size_le hgraph found hdepth
  · intro hsolution id node found
    have hlimited : graph.constructWithin declared graph.size node =
        some (graph.construct declared node) := ServiceGraph.constructWithin_size hgraph found
    exact ServiceGraph.eq_of_constructWithin hgraph hsolution found hlimited
  · intro hsolution id node found
    rw [hsolution id node found]
    refine (ServiceGraph.creationRound_mono (fun id target htarget outcome houtcome => ?_)
      (ServiceGraph.construct_recursion hgraph found)).symm
    rw [hsolution id target htarget, houtcome]

/-- The page is created within the report, so one level is too few for the report. -/
theorem report_creation_terminates :
    (Builder.afterSession reportCatalog [⟨"Report"⟩] {}).graph = reportGraph ∧
    reportGraph.node? 0 = some reportNode ∧
    List.IsChain reportGraph.CreatesInPlace [0, 1] ∧ ([0, 1] : List NodeId).Nodup ∧
    reportGraph.constructWithin [2, 3] 1 reportNode = none ∧
    reportGraph.constructWithin [2, 3] 4 reportNode =
      some (reportGraph.construct [2, 3] reportNode) := by
  have hsession : (Builder.afterSession reportCatalog [⟨"Report"⟩] {}).graph = reportGraph := by
    decide +kernel
  have found : reportGraph.node? 0 = some reportNode := rfl
  have hpage : reportGraph.node? 1 =
      some ⟨⟨"Page"⟩, ⟨"Page"⟩, .perRequest, [2, 3], "page"⟩ := rfl
  have hstep : reportGraph.CreatesInPlace 0 1 :=
    ⟨⟨reportNode, found, by decide⟩, _, hpage, by decide⟩
  have hchain : List.IsChain reportGraph.CreatesInPlace [0, 1] :=
    List.isChain_cons_cons.mpr ⟨hstep, .singleton 1⟩
  obtain ⟨_, hstacks, _, hlimit, _⟩ := creation_terminates reportCatalog [⟨"Report"⟩] hsession
  obtain ⟨_, hdeep⟩ := hlimit [2, 3] 0 reportNode found
  exact ⟨hsession, found, hchain, hstacks [0, 1] hchain, rfl, hdeep 4 (Nat.le_refl 4)⟩

end CompositionRoot
