import CompositionRoot.Graph.Builder

/-! Resolution of requested types into a graph of services. A node is added before its dependencies
are resolved and stays in progress until they are, so that a request for it in between is a cycle.
A failed resolution takes back the nodes that it added. Each nested resolution that does not end at
once gives a further type of the catalog a node, which bounds the depth of nesting. -/
namespace CompositionRoot

/-- A result and the state in which it leaves the builder. -/
abbrev Outcome (α : Type) := Except GenerationError α × Builder

namespace Builder

/-- Resolves types from left to right up to the first that fails. -/
def resolveEach (step : TypeIdentity → Builder → Option (Outcome NodeId)) :
    List TypeIdentity → Builder → Option (Outcome (List NodeId))
  | [], builder => some (.ok [], builder)
  | type :: types, builder =>
    match step type builder with
    | none => none
    | some (.error error, failed) => some (.error error, failed)
    | some (.ok id, resolved) =>
      (resolveEach step types resolved).map fun (ids, last) => (ids.map (id :: ·), last)

variable {κ : Type} [TypeCatalog κ]

/-- The type of the catalog that a request names, with the type that serves it. -/
def serving? (catalog : κ) (type : TypeIdentity) : Option (TypeInfo × TypeInfo) :=
  (TypeCatalog.find? catalog type).bind fun requested =>
    (implementation? catalog requested).map (requested, ·)

/-- Resolves a type with at most `depth` nested resolutions, this one included. -/
def resolveWithin (catalog : κ) : Nat → TypeIdentity → Builder → Option (Outcome NodeId)
  | 0, _, _ => none
  | depth + 1, type, builder =>
    match builder.graph.nodeId? type with
    | some id =>
      if id ∈ builder.inProgress then
        some (.error (.dependencyCycle (builder.progressFrom id ++ [type])), builder)
      else
        some (.ok id, builder)
    | none =>
      match serving? catalog type with
      | none => some (.error (.unresolvedType type), builder)
      | some (requested, implementation) =>
        match resolveEach (resolveWithin catalog depth) implementation.parameters
            (builder.start type implementation.identity (Lifetime.of requested)) with
        | none => none
        | some (.ok dependencies, resolved) =>
          some (.ok builder.graph.size, resolved.finish builder.graph.size dependencies)
        | some (.error error, failed) => some (.error error, failed.abandon builder.graph.size)

theorem serving?_eq_some_iff {catalog : κ} {type : TypeIdentity} {pair : TypeInfo × TypeInfo} :
    serving? catalog type = some pair ↔
      TypeCatalog.find? catalog type = some pair.1 ∧
        implementation? catalog pair.1 = some pair.2 := by
  simp only [serving?, Option.bind_eq_some_iff, Option.map_eq_some_iff]
  constructor
  · rintro ⟨requested, found, entry, serves, rfl⟩
    exact ⟨found, serves⟩
  · rintro ⟨found, serves⟩
    exact ⟨pair.1, found, pair.2, serves, rfl⟩

theorem mem_types_of_serving? {catalog : κ} {type : TypeIdentity} {pair : TypeInfo × TypeInfo}
    (h : serving? catalog type = some pair) :
    type ∈ (TypeCatalog.types catalog).map (·.identity) := by
  obtain ⟨found, _⟩ := serving?_eq_some_iff.mp h
  rw [TypeCatalog.find?_eq] at found
  have same := List.find?_some found
  exact List.mem_map.mpr ⟨pair.1, List.mem_of_find?_eq_some found, eq_of_beq same⟩

/-- What is remembered before successful resolutions is remembered after them. -/
theorem memo_suffix_of_resolveEach {step : TypeIdentity → Builder → Option (Outcome NodeId)}
    (grows : ∀ type builder id later, step type builder = some (.ok id, later) →
      builder.graph.memo <:+ later.graph.memo)
    {types : List TypeIdentity} {builder later : Builder} {ids : List NodeId}
    (h : resolveEach step types builder = some (.ok ids, later)) :
    builder.graph.memo <:+ later.graph.memo := by
  induction types generalizing builder ids with
  | nil => simp_all [resolveEach]
  | cons type types ih =>
    unfold resolveEach at h
    split at h
    · cases h
    · cases h
    · next id resolved first =>
      obtain ⟨⟨rest, last⟩, others, eq⟩ := Option.map_eq_some_iff.mp h
      obtain ⟨mapped, rfl⟩ := Prod.mk.inj eq
      cases rest with
      | error => cases mapped
      | ok rest => exact (grows _ _ _ _ first).trans (ih others)

theorem memo_suffix_of_resolveWithin {catalog : κ} {depth : Nat} {type : TypeIdentity}
    {builder later : Builder} {id : NodeId}
    (h : resolveWithin catalog depth type builder = some (.ok id, later)) :
    builder.graph.memo <:+ later.graph.memo := by
  induction depth generalizing type builder later id with
  | zero => cases h
  | succ depth ih =>
    unfold resolveWithin at h
    split at h
    · split at h <;> simp_all
    · split at h
      · simp at h
      · split at h
        · cases h
        · next resolved others =>
          obtain ⟨_, rfl⟩ := Prod.mk.inj (Option.some.inj h)
          exact (List.suffix_cons _ _).trans
            (memo_suffix_of_resolveEach (fun _ _ _ _ => ih) others)
        · simp at h

theorem isSome_resolveEach (catalog : κ)
    {step : TypeIdentity → Builder → Option (Outcome NodeId)} {bound : Nat}
    (grows : ∀ type builder id later, step type builder = some (.ok id, later) →
      builder.graph.memo <:+ later.graph.memo)
    (total : ∀ type builder, builder.missing catalog < bound → (step type builder).isSome)
    (types : List TypeIdentity) (builder : Builder) (enough : builder.missing catalog < bound) :
    (resolveEach step types builder).isSome := by
  induction types generalizing builder with
  | nil => rfl
  | cons type types ih =>
    unfold resolveEach
    split
    · next absent =>
      have := total type builder enough
      simp [absent] at this
    · rfl
    · next id resolved first =>
      rw [Option.isSome_map]
      exact ih _ (Nat.lt_of_le_of_lt (missing_le_of_suffix catalog (grows _ _ _ _ first)) enough)

/-- One level of nesting for each missing type and one more are enough. -/
theorem isSome_resolveWithin (catalog : κ) (depth : Nat) (type : TypeIdentity) (builder : Builder)
    (enough : builder.missing catalog < depth) :
    (resolveWithin catalog depth type builder).isSome := by
  induction depth generalizing type builder with
  | zero => cases enough
  | succ depth ih =>
    unfold resolveWithin
    split
    · split <;> rfl
    · next new =>
      split
      · rfl
      · next requested implementation served =>
        have fewer := missing_start_lt catalog new (mem_types_of_serving? served)
          implementation.identity (Lifetime.of requested)
        have := isSome_resolveEach catalog (fun _ _ _ _ => memo_suffix_of_resolveWithin) ih
          implementation.parameters _ (Nat.lt_of_lt_of_le fewer (Nat.lt_succ_iff.mp enough))
        split <;> simp_all

/-- Resolves a type to a node: the node that it has, or a new one with all that it depends on. After
an error the builder is as it was before. -/
def resolve (catalog : κ) (type : TypeIdentity) (builder : Builder) : Outcome NodeId :=
  (resolveWithin catalog (builder.missing catalog + 1) type builder).get
    (isSome_resolveWithin catalog _ type builder (Nat.lt_succ_self _))

/-- Resolves types one after another, whether or not those before them failed, and gives the outcome
of each. -/
def session (catalog : κ) : List TypeIdentity → Builder → List (Outcome NodeId)
  | [], _ => []
  | type :: types, builder =>
    builder.resolve catalog type :: session catalog types (builder.resolve catalog type).2

def afterSession (catalog : κ) (types : List TypeIdentity) (builder : Builder) : Builder :=
  types.foldl (fun builder type => (builder.resolve catalog type).2) builder

def resolveAll (catalog : κ) : List TypeIdentity → Builder → Except GenerationError Builder
  | [], builder => .ok builder
  | type :: types, builder =>
    match builder.resolve catalog type with
    | (.ok _, resolved) => resolveAll catalog types resolved
    | (.error error, _) => .error error

end Builder

def ServiceGraph.resolve {κ : Type} [TypeCatalog κ] (catalog : κ) (requested : List TypeIdentity) :
    Except GenerationError ServiceGraph :=
  (Builder.resolveAll catalog requested {}).map Builder.graph

end CompositionRoot
