import CompositionRoot.Proofs.ResolutionRules
import Mathlib.Order.WellFounded

/-! Termination of resolution. A type has its node before its parameters are resolved, and an error
ends the run through them, so every nested resolution finds one more type of the catalog in the
memo. The recursion is well-founded for that reason, and has no other solution than `resolve`. -/
namespace CompositionRoot.Builder

variable {κ : Type} [TypeCatalog κ]

/-- One round of resolution, in which the parameters are left to `nested`. -/
def resolveRound (catalog : κ) (nested : TypeIdentity → Builder → Option (Outcome NodeId))
    (type : TypeIdentity) (builder : Builder) : Option (Outcome NodeId) :=
  match builder.graph.nodeId? type with
  | some id =>
    if id ∈ builder.inProgress then
      some (.error (.dependencyCycle (builder.progressFrom id ++ [type])), builder)
    else
      some (.ok id, builder)
  | none =>
    match serving? catalog type with
    | none => some (.error (.unresolvedType type), builder)
    | some (requested, implementation) =>
      match resolveEach nested implementation.parameters
          (builder.start type implementation.identity (Lifetime.of requested)) with
      | none => none
      | some (.ok dependencies, resolved) =>
        some (.ok builder.graph.size, resolved.finish builder.graph.size dependencies)
      | some (.error error, failed) => some (.error error, failed.abandon builder.graph.size)

theorem resolveWithin_eq_resolveRound (catalog : κ) (depth : Nat) (type : TypeIdentity)
    (builder : Builder) : resolveWithin catalog (depth + 1) type builder =
      resolveRound catalog (resolveWithin catalog depth) type builder :=
  rfl

/-- The resolution of a type makes one of a parameter, in the state in which those of the parameters
before it have left the builder. -/
inductive Nests (catalog : κ) : TypeIdentity × Builder → TypeIdentity × Builder → Prop where
  | parameter {type parameter : TypeIdentity} {builder inner : Builder}
      {pair : TypeInfo × TypeInfo} {done rest : List TypeIdentity} {ids : List NodeId} {depth : Nat}
      (new : builder.graph.nodeId? type = none) (served : serving? catalog type = some pair)
      (split : pair.2.parameters = done ++ parameter :: rest)
      (before : resolveEach (resolveWithin catalog depth) done
        (builder.start type pair.2.identity (Lifetime.of pair.1)) = some (.ok ids, inner)) :
      Nests catalog (type, builder) (parameter, inner)

namespace Nests

variable {catalog : κ} {outer inner : TypeIdentity × Builder}

/-- The type of a resolution with nested ones is new, and the nested ones find it in the memo. -/
theorem remembers (h : Nests catalog outer inner) :
    outer.1 ∈ (TypeCatalog.types catalog).map (·.identity) ∧
      outer.2.graph.nodeId? outer.1 = none ∧
      (outer.1, outer.2.graph.size) :: outer.2.graph.memo <:+ inner.2.graph.memo := by
  cases h with
  | parameter new served split before =>
    have hmemo := memo_suffix_of_resolveEach (fun _ _ _ _ => memo_suffix_of_resolveWithin) before
    exact ⟨mem_types_of_serving? served, new, hmemo⟩

theorem missing_lt (h : Nests catalog outer inner) :
    inner.2.missing catalog < outer.2.missing catalog := by
  cases h with
  | @parameter type _ builder inner pair _ _ _ _ new served split before =>
    have hmemo := memo_suffix_of_resolveEach (fun _ _ _ _ => memo_suffix_of_resolveWithin) before
    have hfewer := missing_start_lt catalog new (mem_types_of_serving? served) pair.2.identity
      (Lifetime.of pair.1)
    exact Nat.lt_of_le_of_lt (missing_le_of_suffix catalog hmemo) hfewer

theorem wellFounded (catalog : κ) :
    WellFounded fun inner outer : TypeIdentity × Builder => Nests catalog outer inner :=
  Subrelation.wf missing_lt
    (measure fun call : TypeIdentity × Builder => call.2.missing catalog).wf

end Nests

/-- Resolutions that agree wherever fewer types are missing agree on lists there. -/
theorem resolveEach_congr (catalog : κ)
    {step step' : TypeIdentity → Builder → Option (Outcome NodeId)} {bound : Nat}
    (hgrows : ∀ type builder id later, step' type builder = some (.ok id, later) →
      builder.graph.memo <:+ later.graph.memo)
    (hstep : ∀ type builder, builder.missing catalog < bound →
      step type builder = step' type builder)
    (types : List TypeIdentity) (builder : Builder) (hmissing : builder.missing catalog < bound) :
    resolveEach step types builder = resolveEach step' types builder := by
  induction types generalizing builder with
  | nil => rfl
  | cons type types ih =>
    unfold resolveEach
    rw [hstep type builder hmissing]
    cases hfirst : step' type builder with
    | none => rfl
    | some first =>
      obtain ⟨result, resolved⟩ := first
      cases result with
      | error error => rfl
      | ok id =>
        have hle := missing_le_of_suffix catalog (hgrows _ _ _ _ hfirst)
        simp only [ih resolved (Nat.lt_of_le_of_lt hle hmissing)]

/-- A solution of the recursion agrees with the limited resolutions that are deep enough. -/
theorem eq_resolveWithin_of_recursion {catalog : κ}
    {solution : TypeIdentity → Builder → Option (Outcome NodeId)}
    (h : ∀ type builder, solution type builder = resolveRound catalog solution type builder)
    (depth : Nat) (type : TypeIdentity) (builder : Builder)
    (hmissing : builder.missing catalog < depth) :
    solution type builder = resolveWithin catalog depth type builder := by
  induction depth generalizing type builder with
  | zero => exact absurd hmissing (Nat.not_lt_zero _)
  | succ depth ih =>
    rw [h, resolveWithin_eq_resolveRound]
    unfold resolveRound
    split
    · rfl
    · next new =>
      split
      · rfl
      · next requested implementation served =>
        -- one type fewer is missing once `type` has its node, so `depth` is enough for the nested
        have hfewer := missing_start_lt catalog new (mem_types_of_serving? served)
          implementation.identity (Lifetime.of requested)
        rw [resolveEach_congr catalog (fun _ _ _ _ => memo_suffix_of_resolveWithin) ih
          implementation.parameters _ (Nat.lt_of_lt_of_le hfewer (Nat.le_of_lt_succ hmissing))]

theorem resolve_recursion (catalog : κ) (type : TypeIdentity) (builder : Builder) :
    some (builder.resolve catalog type) =
      resolveRound catalog (fun type builder => some (builder.resolve catalog type))
        type builder := by
  unfold resolveRound
  split
  · next id hid =>
    split
    · next hprogress => rw [resolve_of_inProgress hid hprogress]
    · next hfinished => rw [resolve_of_finished hid hfinished]
  · next hnew =>
    split
    · next hunserved => rw [resolve_of_unserved hnew hunserved]
    · next requested implementation hserved =>
      rw [resolve_of_served hnew hserved, resolveEach_resolve]
      dsimp only
      split <;> simp_all

/-- Resolution terminates in every state. No chain of nested resolutions is infinite, since each
finds a further type of the catalog in the memo; hence a limit of one level for each type without a
node and one more is never hit, and the recursion determines its outcome. -/
theorem resolution_terminates {κ : Type} [TypeCatalog κ] (catalog : κ) :
    (WellFounded fun inner outer : TypeIdentity × Builder => Nests catalog outer inner) ∧
    (∀ (type : TypeIdentity) (builder : Builder) (pair : TypeInfo × TypeInfo),
      builder.graph.nodeId? type = none → serving? catalog type = some pair →
        type ∈ (TypeCatalog.types catalog).map (·.identity) ∧
        (builder.start type pair.2.identity (Lifetime.of pair.1)).graph.memo =
          (type, builder.graph.size) :: builder.graph.memo) ∧
    (∀ outer inner, Nests catalog outer inner →
      outer.1 ∈ (TypeCatalog.types catalog).map (·.identity) ∧
      outer.2.graph.nodeId? outer.1 = none ∧
      (outer.1, outer.2.graph.size) :: outer.2.graph.memo <:+ inner.2.graph.memo) ∧
    (∀ (type : TypeIdentity) (builder : Builder) (depth : Nat),
      builder.missing catalog + 1 ≤ depth →
        resolveWithin catalog depth type builder = some (builder.resolve catalog type)) ∧
    ∀ solution : TypeIdentity → Builder → Option (Outcome NodeId),
      (∀ type builder, solution type builder = resolveRound catalog solution type builder) ↔
        ∀ type builder, solution type builder = some (builder.resolve catalog type) := by
  have hlimit : ∀ (type : TypeIdentity) (builder : Builder) (depth : Nat),
      builder.missing catalog + 1 ≤ depth →
        resolveWithin catalog depth type builder = some (builder.resolve catalog type) := by
    intro type builder depth hdepth
    exact resolveWithin_mono hdepth (resolveWithin_missing catalog type builder)
  refine ⟨Nests.wellFounded catalog, ?_, ?_, hlimit, fun solution => ⟨?_, ?_⟩⟩
  · intro type builder pair _ hserved
    exact ⟨mem_types_of_serving? hserved, rfl⟩
  · intro outer inner hnests
    exact hnests.remembers
  · intro hsolution type builder
    have hdeep : builder.missing catalog < builder.missing catalog + 1 := Nat.lt_succ_self _
    rw [eq_resolveWithin_of_recursion hsolution _ type builder hdeep, hlimit type builder _ hdeep]
  · intro hsolution
    have heq : solution = fun type builder => some (builder.resolve catalog type) := by
      funext type builder
      exact hsolution type builder
    intro type builder
    rw [heq]
    exact resolve_recursion catalog type builder

/-- With two types that need each other, the limit cannot be lower. -/
example :
    let catalog : List TypeInfo :=
      [{ identity := ⟨"Left"⟩, constructors := [{ parameters := [⟨"Right"⟩] }] },
        { identity := ⟨"Right"⟩, constructors := [{ parameters := [⟨"Left"⟩] }] }]
    ({} : Builder).missing catalog = 2 ∧ resolveWithin catalog 2 ⟨"Left"⟩ {} = none ∧
      resolveWithin catalog 3 ⟨"Left"⟩ {} =
        some (.error (.dependencyCycle [⟨"Left"⟩, ⟨"Right"⟩, ⟨"Left"⟩]), {}) := by
  decide +kernel

end CompositionRoot.Builder
