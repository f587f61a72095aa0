import CompositionRoot.Graph.Resolution

/-! Rules of resolution without a bound on its depth. The equations of `resolve` and of
`resolveList`, its run through a list of types, and the induction along their recursion. -/
namespace CompositionRoot.Builder

variable {κ : Type} [TypeCatalog κ]

theorem resolveEach_mono {step step' : TypeIdentity → Builder → Option (Outcome NodeId)}
    (hstep : ∀ type builder outcome, step type builder = some outcome →
      step' type builder = some outcome)
    {types : List TypeIdentity} {builder : Builder} {outcome : Outcome (List NodeId)}
    (h : resolveEach step types builder = some outcome) :
    resolveEach step' types builder = some outcome := by
  induction types generalizing builder outcome with
  | nil => exact h
  | cons type types ih =>
    unfold resolveEach at h ⊢
    cases hfirst : step type builder with
    | none => simp [hfirst] at h
    | some first =>
      rw [hstep _ _ _ hfirst]
      obtain ⟨result, resolved⟩ := first
      cases result with
      | error error => simpa [hfirst] using h
      | ok id =>
        simp only [hfirst, Option.map_eq_some_iff] at h ⊢
        obtain ⟨rest, hrest, heq⟩ := h
        exact ⟨rest, ih hrest, heq⟩

/-- A deeper limit keeps every answer. -/
theorem resolveWithin_succ {catalog : κ} {depth : Nat} {type : TypeIdentity} {builder : Builder}
    {outcome : Outcome NodeId} (h : resolveWithin catalog depth type builder = some outcome) :
    resolveWithin catalog (depth + 1) type builder = some outcome := by
  induction depth generalizing type builder outcome with
  | zero => cases h
  | succ depth ih =>
    rw [resolveWithin] at h ⊢
    cases hmemo : builder.graph.nodeId? type with
    | some id => simpa [hmemo] using h
    | none =>
      cases hserved : serving? catalog type with
      | none => simpa [hmemo, hserved] using h
      | some pair =>
        simp only [hmemo, hserved] at h ⊢
        cases hrun : resolveEach (resolveWithin catalog depth) pair.2.parameters
            (builder.start type pair.2.identity (Lifetime.of pair.1)) with
        | none => simp [hrun] at h
        | some run =>
          rw [resolveEach_mono (fun _ _ _ => ih) hrun]
          simpa [hrun] using h

theorem resolveWithin_mono {catalog : κ} {depth depth' : Nat} (hle : depth ≤ depth')
    {type : TypeIdentity} {builder : Builder} {outcome : Outcome NodeId}
    (h : resolveWithin catalog depth type builder = some outcome) :
    resolveWithin catalog depth' type builder = some outcome := by
  induction hle with
  | refl => exact h
  | step _ ih => exact resolveWithin_succ ih

/-- The bound that `resolve` gives itself is deep enough for an answer. -/
theorem resolveWithin_missing (catalog : κ) (type : TypeIdentity) (builder : Builder) :
    resolveWithin catalog (builder.missing catalog + 1) type builder =
      some (builder.resolve catalog type) :=
  (Option.some_get _).symm

/-- Whatever the limit, an answer is that of `resolve`. -/
theorem resolve_eq_of_resolveWithin {catalog : κ} {depth : Nat} {type : TypeIdentity}
    {builder : Builder} {outcome : Outcome NodeId}
    (h : resolveWithin catalog depth type builder = some outcome) :
    builder.resolve catalog type = outcome := by
  have hdeep := resolveWithin_mono (Nat.le_max_left depth (builder.missing catalog + 1)) h
  have hown := resolveWithin_mono (Nat.le_max_right depth (builder.missing catalog + 1))
    (resolveWithin_missing catalog type builder)
  exact Option.some.inj (hown.symm.trans hdeep)

def resolveList (catalog : κ) : List TypeIdentity → Builder → Outcome (List NodeId)
  | [], builder => (.ok [], builder)
  | type :: types, builder =>
    match builder.resolve catalog type with
    | (.error error, failed) => (.error error, failed)
    | (.ok id, resolved) =>
      match resolveList catalog types resolved with
      | (.error error, failed) => (.error error, failed)
      | (.ok ids, last) => (.ok (id :: ids), last)

theorem resolveAll_eq (catalog : κ) (types : List TypeIdentity) (builder : Builder) :
    resolveAll catalog types builder =
      match resolveList catalog types builder with
      | (.ok _, later) => .ok later
      | (.error error, _) => .error error := by
  induction types generalizing builder with
  | nil => rfl
  | cons type types ih =>
    rw [resolveAll, resolveList]
    obtain ⟨result, resolved⟩ := builder.resolve catalog type
    cases result with
    | error error => rfl
    | ok id =>
      simp only [ih]
      obtain ⟨result, last⟩ := resolveList catalog types resolved
      cases result <;> rfl

/-- A graph is resolved exactly by a run through all requests on a new builder. -/
theorem resolve_eq_ok_iff {catalog : κ} {requests : List TypeIdentity} {graph : ServiceGraph} :
    ServiceGraph.resolve catalog requests = .ok graph ↔
      ∃ ids later, resolveList catalog requests {} = (.ok ids, later) ∧ later.graph = graph := by
  rw [ServiceGraph.resolve, resolveAll_eq]
  obtain ⟨result, later⟩ := resolveList catalog requests {}
  cases result with
  | error error => simp [Except.map]
  | ok ids =>
    constructor
    · intro hok
      exact ⟨ids, later, rfl, Except.ok.inj hok⟩
    · rintro ⟨_, _, heq, rfl⟩
      cases heq
      rfl

theorem resolveEach_resolve (catalog : κ) (types : List TypeIdentity) (builder : Builder) :
    resolveEach (fun type builder => some (builder.resolve catalog type)) types builder =
      some (resolveList catalog types builder) := by
  induction types generalizing builder with
  | nil => rfl
  | cons type types ih =>
    rw [resolveEach, resolveList]
    obtain ⟨result, resolved⟩ := builder.resolve catalog type
    cases result with
    | error error => rfl
    | ok id =>
      simp only [ih]
      obtain ⟨result, last⟩ := resolveList catalog types resolved
      cases result <;> rfl

theorem resolveList_eq_of_resolveEach {catalog : κ} {depth : Nat} {types : List TypeIdentity}
    {builder : Builder} {outcome : Outcome (List NodeId)}
    (h : resolveEach (resolveWithin catalog depth) types builder = some outcome) :
    resolveList catalog types builder = outcome := by
  have hstep : ∀ type builder outcome, resolveWithin catalog depth type builder = some outcome →
      some (builder.resolve catalog type) = some outcome := fun _ _ _ hwithin =>
    congrArg some (resolve_eq_of_resolveWithin hwithin)
  exact Option.some.inj
    ((resolveEach_resolve catalog types builder).symm.trans (resolveEach_mono hstep h))

section Equations

variable {catalog : κ} {type : TypeIdentity} {builder : Builder}

theorem resolve_of_inProgress {id : NodeId} (hmemo : builder.graph.nodeId? type = some id)
    (hprogress : id ∈ builder.inProgress) : builder.resolve catalog type =
      (.error (.dependencyCycle (builder.progressFrom id ++ [type])), builder) := by
  have hrun : resolveWithin catalog 1 type builder =
      some (.error (.dependencyCycle (builder.progressFrom id ++ [type])), builder) := by
    simp [resolveWithin, hmemo, hprogress]
  exact resolve_eq_of_resolveWithin hrun

theorem resolve_of_finished {id : NodeId} (hmemo : builder.graph.nodeId? type = some id)
    (hfinished : id ∉ builder.inProgress) : builder.resolve catalog type = (.ok id, builder) := by
  have hrun : resolveWithin catalog 1 type builder = some (.ok id, builder) := by
    simp [resolveWithin, hmemo, hfinished]
  exact resolve_eq_of_resolveWithin hrun

theorem resolve_of_unserved (hmemo : builder.graph.nodeId? type = none)
    (hunserved : serving? catalog type = none) :
    builder.resolve catalog type = (.error (.unresolvedType type), builder) := by
  have hrun : resolveWithin catalog 1 type builder =
      some (.error (.unresolvedType type), builder) := by
    simp [resolveWithin, hmemo, hunserved]
  exact resolve_eq_of_resolveWithin hrun

theorem resolve_of_served {pair : TypeInfo × TypeInfo}
    (hmemo : builder.graph.nodeId? type = none) (hserved : serving? catalog type = some pair) :
    builder.resolve catalog type =
      match resolveList catalog pair.2.parameters
          (builder.start type pair.2.identity (Lifetime.of pair.1)) with
      | (.ok dependencies, resolved) =>
        (.ok builder.graph.size, resolved.finish builder.graph.size dependencies)
      | (.error error, failed) => (.error error, failed.abandon builder.graph.size) := by
  have hrun := resolveWithin_missing catalog type builder
  rw [resolveWithin] at hrun
  simp only [hmemo, hserved] at hrun
  cases heach : resolveEach (resolveWithin catalog (builder.missing catalog)) pair.2.parameters
      (builder.start type pair.2.identity (Lifetime.of pair.1)) with
  | none => simp [heach] at hrun
  | some run =>
    rw [resolveList_eq_of_resolveEach heach]
    obtain ⟨result, last⟩ := run
    cases result <;> simpa [heach, eq_comm] using hrun

end Equations

/-- Properties of the outcomes for types and for lists of types that every rule of resolution
carries from the outcomes below to its own. -/
structure RuleClosed (catalog : κ) (P : TypeIdentity → Builder → Outcome NodeId → Prop)
    (Q : List TypeIdentity → Builder → Outcome (List NodeId) → Prop) : Prop where
  inProgress : ∀ type builder id, builder.graph.nodeId? type = some id →
    id ∈ builder.inProgress →
    P type builder (.error (.dependencyCycle (builder.progressFrom id ++ [type])), builder)
  finished : ∀ type builder id, builder.graph.nodeId? type = some id →
    id ∉ builder.inProgress → P type builder (.ok id, builder)
  unserved : ∀ type builder, builder.graph.nodeId? type = none →
    serving? catalog type = none → P type builder (.error (.unresolvedType type), builder)
  abandoned : ∀ type builder pair error failed, builder.graph.nodeId? type = none →
    serving? catalog type = some pair →
    Q pair.2.parameters (builder.start type pair.2.identity (Lifetime.of pair.1))
      (.error error, failed) →
    P type builder (.error error, failed.abandon builder.graph.size)
  completed : ∀ type builder pair dependencies resolved, builder.graph.nodeId? type = none →
    serving? catalog type = some pair →
    Q pair.2.parameters (builder.start type pair.2.identity (Lifetime.of pair.1))
      (.ok dependencies, resolved) →
    P type builder (.ok builder.graph.size, resolved.finish builder.graph.size dependencies)
  nil : ∀ builder, Q [] builder (.ok [], builder)
  head_error : ∀ type types builder error failed, P type builder (.error error, failed) →
    Q (type :: types) builder (.error error, failed)
  tail_error : ∀ type types builder id resolved error failed, P type builder (.ok id, resolved) →
    Q types resolved (.error error, failed) → Q (type :: types) builder (.error error, failed)
  cons : ∀ type types builder id resolved ids last, P type builder (.ok id, resolved) →
    Q types resolved (.ok ids, last) → Q (type :: types) builder (.ok (id :: ids), last)

namespace RuleClosed

variable {catalog : κ} {P : TypeIdentity → Builder → Outcome NodeId → Prop}
  {Q : List TypeIdentity → Builder → Outcome (List NodeId) → Prop}

theorem resolveEach (h : RuleClosed catalog P Q)
    {step : TypeIdentity → Builder → Option (Outcome NodeId)}
    (hstep : ∀ type builder outcome, step type builder = some outcome → P type builder outcome)
    {types : List TypeIdentity} {builder : Builder} {outcome : Outcome (List NodeId)}
    (hrun : Builder.resolveEach step types builder = some outcome) : Q types builder outcome := by
  induction types generalizing builder outcome with
  | nil =>
    obtain rfl := Option.some.inj hrun
    exact h.nil builder
  | cons type types ih =>
    unfold Builder.resolveEach at hrun
    split at hrun
    · cases hrun
    · next error failed hfirst =>
      obtain rfl := Option.some.inj hrun
      exact h.head_error _ _ _ _ _ (hstep _ _ _ hfirst)
    · next id resolved hfirst =>
      obtain ⟨⟨result, last⟩, hrest, rfl⟩ := Option.map_eq_some_iff.mp hrun
      cases result with
      | error error => exact h.tail_error _ _ _ _ _ _ _ (hstep _ _ _ hfirst) (ih hrest)
      | ok ids => exact h.cons _ _ _ _ _ _ _ (hstep _ _ _ hfirst) (ih hrest)

/-- Induction on the depth; the run through the parameters is one level further down. -/
theorem resolveWithin (h : RuleClosed catalog P Q) {depth : Nat} {type : TypeIdentity}
    {builder : Builder} {outcome : Outcome NodeId}
    (hrun : Builder.resolveWithin catalog depth type builder = some outcome) :
    P type builder outcome := by
  induction depth generalizing type builder outcome with
  | zero => cases hrun
  | succ depth ih =>
    unfold Builder.resolveWithin at hrun
    split at hrun
    · next id hmemo =>
      split at hrun
      · next hprogress =>
        obtain rfl := Option.some.inj hrun
        exact h.inProgress _ _ _ hmemo hprogress
      · next hfinished =>
        obtain rfl := Option.some.inj hrun
        exact h.finished _ _ _ hmemo hfinished
    · next hmemo =>
      split at hrun
      · next hunserved =>
        obtain rfl := Option.some.inj hrun
        exact h.unserved _ _ hmemo hunserved
      · next requested implementation hserved =>
        split at hrun
        · cases hrun
        · next dependencies resolved heach =>
          obtain rfl := Option.some.inj hrun
          exact h.completed _ _ (requested, implementation) _ _ hmemo hserved
            (h.resolveEach (fun _ _ _ => ih) heach)
        · next error failed heach =>
          obtain rfl := Option.some.inj hrun
          exact h.abandoned _ _ (requested, implementation) _ _ hmemo hserved
            (h.resolveEach (fun _ _ _ => ih) heach)

theorem resolve (h : RuleClosed catalog P Q) (type : TypeIdentity) (builder : Builder) :
    P type builder (builder.resolve catalog type) :=
  h.resolveWithin (resolveWithin_missing catalog type builder)

theorem resolveList (h : RuleClosed catalog P Q) (types : List TypeIdentity) (builder : Builder) :
    Q types builder (Builder.resolveList catalog types builder) := by
  refine h.resolveEach (fun type builder outcome heq => ?_)
    (resolveEach_resolve catalog types builder)
  obtain rfl := Option.some.inj heq
  exact h.resolve type builder

end RuleClosed

/-- Properties of graphs that each change in the course of a resolution keeps. -/
structure GraphClosed (P : ServiceGraph → Prop) : Prop where
  insert : ∀ graph type implementation lifetime, graph.nodeId? type = none → P graph →
    P (graph.insert type implementation lifetime)
  setDependencies : ∀ graph id dependencies, P graph → P (graph.setDependencies id dependencies)
  truncate : ∀ graph id, P graph → P (graph.truncate id)

namespace GraphClosed

variable {catalog : κ} {P : ServiceGraph → Prop}

theorem ruleClosed (h : GraphClosed P) : RuleClosed catalog
    (fun _ builder outcome => P builder.graph → P outcome.2.graph)
    (fun _ builder outcome => P builder.graph → P outcome.2.graph) where
  inProgress _ _ _ _ _ hP := hP
  finished _ _ _ _ _ hP := hP
  unserved _ _ _ _ hP := hP
  abandoned _ _ _ _ _ hnew _ hlist hP :=
    h.truncate _ _ (hlist (h.insert _ _ _ _ hnew hP))
  completed _ _ _ _ _ hnew _ hlist hP :=
    h.setDependencies _ _ _ (hlist (h.insert _ _ _ _ hnew hP))
  nil _ hP := hP
  head_error _ _ _ _ _ hhead hP := hhead hP
  tail_error _ _ _ _ _ _ _ hhead htail hP := htail (hhead hP)
  cons _ _ _ _ _ _ _ hhead htail hP := htail (hhead hP)

theorem of_resolve (h : GraphClosed P) (hempty : P {}) {requests : List TypeIdentity}
    {graph : ServiceGraph} (hresolve : ServiceGraph.resolve catalog requests = .ok graph) :
    P graph := by
  have hclosed : RuleClosed catalog _ _ := h.ruleClosed
  have hrun := hclosed.resolveList requests {} hempty
  obtain ⟨ids, later, hlist, rfl⟩ := resolve_eq_ok_iff.mp hresolve
  rw [hlist] at hrun
  exact hrun

theorem afterSession (h : GraphClosed P) (types : List TypeIdentity) {builder : Builder}
    (hbuilder : P builder.graph) : P (Builder.afterSession catalog types builder).graph := by
  induction types generalizing builder with
  | nil => exact hbuilder
  | cons type types ih =>
    have hclosed : RuleClosed catalog _ _ := h.ruleClosed
    exact ih (hclosed.resolve type builder hbuilder)

end GraphClosed

end CompositionRoot.Builder
