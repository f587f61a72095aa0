import CompositionRoot.Graph.Resolution
import Mathlib.Logic.Relation

/-! What a catalog says of the types it can construct, apart from any search: which entry serves a
type, which types that entry needs in turn, and which types can be constructed at all. A search that
visits the needs of a type from left to right meets a definite first error if there is one. -/
namespace CompositionRoot

open Relation

variable {κ : Type} [TypeCatalog κ]

/-- The entry that serves requests for `type`: the one of that identity if it is concrete, and the
first concrete one with that capability if it is abstract. -/
def ResolvesTo (catalog : κ) (type : TypeIdentity) (entry : TypeInfo) : Prop :=
  ∃ requested, TypeCatalog.find? catalog type = some requested ∧
    (requested.isAbstract = false ∧ entry = requested ∨
      requested.isAbstract = true ∧ (TypeCatalog.types catalog).find? (fun candidate =>
        !candidate.isAbstract && candidate.capabilities.contains type) = some entry)

/-- What serves `type` is created by a constructor that takes a `parameter`. -/
def Needs (catalog : κ) (type parameter : TypeIdentity) : Prop :=
  ∃ entry constructor, ResolvesTo catalog type entry ∧
    entry.constructor? = some constructor ∧ parameter ∈ constructor.parameters

theorem resolvesTo_iff {catalog : κ} {type : TypeIdentity} {entry : TypeInfo} :
    ResolvesTo catalog type entry ↔
      ∃ requested, Builder.serving? catalog type = some (requested, entry) := by
  have hidentity (requested : TypeInfo)
      (h : TypeCatalog.find? catalog type = some requested) : requested.identity = type := by
    rw [TypeCatalog.find?_eq] at h
    have hfound := List.find?_some h
    exact eq_of_beq hfound
  simp only [ResolvesTo, Builder.serving?_eq_some_iff]
  refine exists_congr fun requested => and_congr_right fun hfind => ?_
  cases habstract : requested.isAbstract with
  | false => simp [implementation?, habstract, eq_comm]
  | true =>
    simp [implementation?, habstract, locate?, locateAll, List.head?_filter,
      hidentity requested hfind, TypeInfo.implements]

theorem exists_resolvesTo_iff {catalog : κ} {type : TypeIdentity} :
    (∃ entry, ResolvesTo catalog type entry) ↔ Builder.serving? catalog type ≠ none := by
  rw [Option.ne_none_iff_exists']
  constructor
  · rintro ⟨entry, hentry⟩
    obtain ⟨requested, hserving⟩ := resolvesTo_iff.mp hentry
    exact ⟨_, hserving⟩
  · rintro ⟨⟨requested, entry⟩, hserving⟩
    exact ⟨entry, resolvesTo_iff.mpr ⟨requested, hserving⟩⟩

theorem needs_iff {catalog : κ} {type parameter : TypeIdentity} :
    Needs catalog type parameter ↔
      ∃ pair, Builder.serving? catalog type = some pair ∧ parameter ∈ pair.2.parameters := by
  have hparameters (entry : TypeInfo) : parameter ∈ entry.parameters ↔
      ∃ constructor, entry.constructor? = some constructor ∧
        parameter ∈ constructor.parameters := by
    cases h : entry.constructor? <;> simp [TypeInfo.parameters, h]
  constructor
  · rintro ⟨entry, constructor, hentry, hconstructor, hmem⟩
    obtain ⟨requested, hserving⟩ := resolvesTo_iff.mp hentry
    exact ⟨_, hserving, (hparameters entry).mpr ⟨constructor, hconstructor, hmem⟩⟩
  · rintro ⟨⟨requested, entry⟩, hserving, hmem⟩
    obtain ⟨constructor, hconstructor, hmem⟩ := (hparameters entry).mp hmem
    exact ⟨entry, constructor, resolvesTo_iff.mpr ⟨_, hserving⟩, hconstructor, hmem⟩

/-- A type can be constructed when something serves it and all that it needs can be constructed. -/
inductive Constructible (catalog : κ) : TypeIdentity → Prop where
  | intro {type : TypeIdentity} {pair : TypeInfo × TypeInfo}
      (served : Builder.serving? catalog type = some pair)
      (parameters : ∀ parameter ∈ pair.2.parameters, Constructible catalog parameter) :
      Constructible catalog type

namespace Constructible

variable {catalog : κ} {type other : TypeIdentity}

theorem served (h : Constructible catalog type) : Builder.serving? catalog type ≠ none := by
  cases h with
  | intro served _ => simp [served]

theorem of_needs (h : Constructible catalog type) (hneeds : Needs catalog type other) :
    Constructible catalog other := by
  cases h with
  | intro served parameters =>
    obtain ⟨pair, hserving, hmem⟩ := needs_iff.mp hneeds
    obtain rfl := Option.some.inj (served.symm.trans hserving)
    exact parameters other hmem

theorem of_reaches (h : Constructible catalog type)
    (hreach : ReflTransGen (Needs catalog) type other) : Constructible catalog other := by
  induction hreach with
  | refl => exact h
  | tail _ hstep ih => exact ih.of_needs hstep

/-- A step around a cycle gives a cycle through the next type, which can be constructed too. -/
theorem not_cyclic (h : Constructible catalog type) : ¬ TransGen (Needs catalog) type type := by
  induction h with
  | intro served parameters ih =>
    intro hcycle
    obtain ⟨next, hstep, hback⟩ := TransGen.head'_iff.mp hcycle
    obtain ⟨pair, hserving, hmem⟩ := needs_iff.mp hstep
    obtain rfl := Option.some.inj (served.symm.trans hserving)
    exact ih next hmem (TransGen.tail' hback hstep)

end Constructible

/-- The first member of a list without some property does not depend on how the list is cut
there. -/
theorem eq_of_append_cons_eq {α : Type} {P : α → Prop} {done done' rest rest' : List α} {a a' : α}
    (h : done ++ a :: rest = done' ++ a' :: rest') (hdone : ∀ x ∈ done, P x)
    (hdone' : ∀ x ∈ done', P x) (ha : ¬ P a) (ha' : ¬ P a') : a = a' := by
  rcases List.append_eq_append_iff.mp h with ⟨middle, rfl, htail⟩ | ⟨middle, rfl, htail⟩
  · cases middle with
    | nil => exact (List.cons.inj htail).1
    | cons first middle =>
      obtain ⟨rfl, _⟩ := List.cons.inj htail
      exact absurd (hdone' _ (by simp)) ha
  · cases middle with
    | nil => exact (List.cons.inj htail).1.symm
    | cons first middle =>
      obtain ⟨rfl, _⟩ := List.cons.inj htail
      exact absurd (hdone _ (by simp)) ha'

/-- The first error in a search from `type`, left to right, while the types of `waiting` wait for
one another, the outermost first. -/
inductive Fails (catalog : κ) : List TypeIdentity → TypeIdentity → GenerationError → Prop where
  | cycle {waiting : List TypeIdentity} {type : TypeIdentity} (waits : type ∈ waiting) :
      Fails catalog waiting type
        (.dependencyCycle (waiting.dropWhile (· != type) ++ [type]))
  | unresolved {waiting : List TypeIdentity} {type : TypeIdentity} (new : type ∉ waiting)
      (unserved : Builder.serving? catalog type = none) :
      Fails catalog waiting type (.unresolvedType type)
  | parameter {waiting : List TypeIdentity} {type parameter : TypeIdentity}
      {error : GenerationError} {pair : TypeInfo × TypeInfo} {done rest : List TypeIdentity}
      (new : type ∉ waiting) (served : Builder.serving? catalog type = some pair)
      (split : pair.2.parameters = done ++ parameter :: rest)
      (before : ∀ earlier ∈ done, Constructible catalog earlier)
      (fails : Fails catalog (waiting ++ [type]) parameter error) :
      Fails catalog waiting type error

namespace Fails

variable {catalog : κ} {waiting : List TypeIdentity} {type : TypeIdentity}
  {error : GenerationError}

theorem needs_of_split {pair : TypeInfo × TypeInfo} {done rest : List TypeIdentity}
    {parameter : TypeIdentity} (served : Builder.serving? catalog type = some pair)
    (split : pair.2.parameters = done ++ parameter :: rest) : Needs catalog type parameter :=
  needs_iff.mpr ⟨pair, served, by simp [split]⟩

theorem kind (h : Fails catalog waiting type error) :
    (∃ missing, error = .unresolvedType missing) ∨ ∃ chain, error = .dependencyCycle chain := by
  induction h with
  | cycle => exact Or.inr ⟨_, rfl⟩
  | unresolved => exact Or.inl ⟨_, rfl⟩
  | parameter _ _ _ _ _ ih => exact ih

/-- A type reported as unresolved is reached, and nothing serves it. -/
theorem unresolved_spec {missing : TypeIdentity}
    (h : Fails catalog waiting type (.unresolvedType missing)) :
    ReflTransGen (Needs catalog) type missing ∧ Builder.serving? catalog missing = none := by
  generalize herror : GenerationError.unresolvedType missing = error at h
  induction h with
  | cycle => cases herror
  | unresolved _ unserved =>
    cases herror
    exact ⟨.refl, unserved⟩
  | parameter _ served split _ _ ih =>
    obtain ⟨hreach, hunserved⟩ := ih herror
    exact ⟨.head (needs_of_split served split) hreach, hunserved⟩

/-- What waits for a type waits for each of its parameters, and so does the type. -/
theorem needs_parameter {parameter : TypeIdentity}
    (hwaiting : ∀ outer ∈ waiting, TransGen (Needs catalog) outer type)
    (hstep : Needs catalog type parameter) :
    ∀ outer ∈ waiting ++ [type], TransGen (Needs catalog) outer parameter := by
  intro outer hmem
  rcases List.mem_append.mp hmem with hmem | hmem
  · exact (hwaiting outer hmem).tail hstep
  · exact List.mem_singleton.mp hmem ▸ .single hstep

/-- A search reports a cycle only where some type that it reaches needs itself, provided that all
types that wait do so for the present one. -/
theorem cycle_spec {chain : List TypeIdentity}
    (h : Fails catalog waiting type (.dependencyCycle chain))
    (hwaiting : ∀ outer ∈ waiting, TransGen (Needs catalog) outer type) :
    ∃ self, ReflTransGen (Needs catalog) type self ∧ TransGen (Needs catalog) self self := by
  generalize herror : GenerationError.dependencyCycle chain = error at h
  induction h with
  | @cycle waiting type waits => exact ⟨type, .refl, hwaiting type waits⟩
  | unresolved => cases herror
  | @parameter waiting type parameter _ _ _ _ _ served split _ _ ih =>
    have hstep := needs_of_split served split
    obtain ⟨self, hreach, hself⟩ := ih (needs_parameter hwaiting hstep) herror
    exact ⟨self, .head hstep hreach, hself⟩

/-- A search does not fail at a type that can be constructed. -/
theorem not_constructible (h : Fails catalog waiting type error)
    (hwaiting : ∀ outer ∈ waiting, TransGen (Needs catalog) outer type) :
    ¬ Constructible catalog type := by
  intro hconstructible
  rcases h.kind with ⟨missing, rfl⟩ | ⟨chain, rfl⟩
  · obtain ⟨hreach, hunserved⟩ := h.unresolved_spec
    exact (hconstructible.of_reaches hreach).served hunserved
  · obtain ⟨self, hreach, hself⟩ := h.cycle_spec hwaiting
    exact (hconstructible.of_reaches hreach).not_cyclic hself

/-- The first error of a search is determined: of the parameters of a type, the first that cannot
be constructed is the one that fails. -/
theorem error_unique {other : GenerationError} (h : Fails catalog waiting type error)
    (h' : Fails catalog waiting type other)
    (hwaiting : ∀ outer ∈ waiting, TransGen (Needs catalog) outer type) : error = other := by
  induction h with
  | cycle waits =>
    cases h' with
    | cycle => rfl
    | unresolved new => exact absurd waits new
    | parameter new => exact absurd waits new
  | unresolved new unserved =>
    cases h' with
    | cycle waits => exact absurd waits new
    | unresolved => rfl
    | parameter _ served =>
      rw [unserved] at served
      cases served
  | parameter new served split before fails ih =>
    cases h' with
    | cycle waits => exact absurd waits new
    | unresolved _ unserved =>
      rw [unserved] at served
      cases served
    | parameter _ served' split' before' fails' =>
      obtain rfl := Option.some.inj (served.symm.trans served')
      have hinner := needs_parameter hwaiting (needs_of_split served split)
      have hinner' := needs_parameter hwaiting (needs_of_split served split')
      obtain rfl := eq_of_append_cons_eq (split.symm.trans split') before before'
        (fails.not_constructible hinner) (fails'.not_constructible hinner')
      exact ih fails' hinner

end Fails

end CompositionRoot
