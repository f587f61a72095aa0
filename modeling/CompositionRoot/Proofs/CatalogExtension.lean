import CompositionRoot.Proofs.ResolutionRules
import Mathlib.Logic.Basic

/-! Catalogs with types appended. Searches take the first entry that fits, so what was found before
is found again, and a resolution goes the same way until it asks for a type that only the new
entries serve. -/
namespace CompositionRoot

namespace Catalog

theorem contains_iff {catalog : Catalog} {type : TypeIdentity} :
    catalog.contains type ↔ ∃ entry ∈ catalog.types, entry.identity = type := by
  rw [contains, Std.HashMap.contains_eq_isSome_getElem?, getElem?_index, Array.findIdx?_isSome,
    ← Array.any_toList, List.any_eq_true]
  simp [types]

theorem exists_register {catalog : Catalog} {entry : TypeInfo}
    (hnew : ¬ catalog.contains entry.identity) :
    ∃ extended, catalog.register entry = .ok extended := by
  obtain ⟨extended, hoffer, _⟩ := offer_of_not_contains hnew
  exact ⟨extended, by rw [register, hoffer]; rfl⟩

/-- An accepted entry becomes the last one. -/
theorem types_of_register {catalog extended : Catalog} {entry : TypeInfo}
    (h : catalog.register entry = .ok extended) : extended.types = catalog.types ++ [entry] := by
  by_cases hcontains : catalog.contains entry.identity
  · rw [register, offer_of_contains hcontains] at h
    cases h
  · obtain ⟨accepting, hoffer, htypes⟩ := offer_of_not_contains hcontains
    rw [register, hoffer] at h
    cases h
    exact htypes

theorem types_of_foldlM_register {catalog extended : Catalog} {more : List TypeInfo}
    (h : more.foldlM register catalog = .ok extended) :
    extended.types = catalog.types ++ more := by
  induction more generalizing catalog with
  | nil =>
    cases h
    exact (List.append_nil _).symm
  | cons entry more ih =>
    rw [List.foldlM_cons] at h
    cases hnext : catalog.register entry with
    | error error =>
      rw [hnext] at h
      cases h
    | ok next =>
      rw [hnext] at h
      rw [ih h, types_of_register hnext, List.append_assoc, List.singleton_append]

/-- Entries of new identities, no two alike, are accepted one after another. -/
theorem exists_foldlM_register {catalog : Catalog} {more : List TypeInfo}
    (hnew : ∀ entry ∈ more, ¬ catalog.contains entry.identity)
    (hnodup : (more.map (·.identity)).Nodup) :
    ∃ extended, more.foldlM register catalog = .ok extended := by
  induction more generalizing catalog with
  | nil => exact ⟨catalog, rfl⟩
  | cons entry more ih =>
    obtain ⟨next, hnext⟩ := exists_register (hnew entry List.mem_cons_self)
    rw [List.map_cons, List.nodup_cons] at hnodup
    have hrest : ∀ other ∈ more, ¬ next.contains other.identity := by
      intro other hmem hcontains
      obtain ⟨known, hknown, hsame⟩ := contains_iff.mp hcontains
      rw [types_of_register hnext, List.mem_append, List.mem_singleton] at hknown
      rcases hknown with hknown | rfl
      · exact hnew other (List.mem_cons_of_mem _ hmem) (contains_iff.mpr ⟨known, hknown, hsame⟩)
      · exact hnodup.1 (List.mem_map.mpr ⟨other, hmem, hsame.symm⟩)
    obtain ⟨extended, hextended⟩ := ih hrest hnodup.2
    refine ⟨extended, ?_⟩
    rw [List.foldlM_cons, hnext]
    exact hextended

end Catalog

/-- Some of the entries are of the type, or serve it. -/
def Repairs (more : List TypeInfo) (type : TypeIdentity) : Prop :=
  ∃ entry ∈ more, entry.identity = type ∨ entry.isAbstract = false ∧ type ∈ entry.capabilities

section Extension

variable {κ κ' : Type} [TypeCatalog κ] [TypeCatalog κ'] {catalog : κ} {extended : κ'}
  {more : List TypeInfo} {type : TypeIdentity}

theorem find?_extended
    (h : TypeCatalog.types extended = TypeCatalog.types catalog ++ more) :
    TypeCatalog.find? extended type =
      (TypeCatalog.find? catalog type).or (more.find? (·.identity == type)) := by
  rw [TypeCatalog.find?_eq, TypeCatalog.find?_eq, h, List.find?_append]

theorem locate?_extended
    (h : TypeCatalog.types extended = TypeCatalog.types catalog ++ more) :
    locate? extended type = (locate? catalog type).or
      (more.filter fun entry => !entry.isAbstract && entry.implements type).head? := by
  rw [locate?, locate?, locateAll, locateAll, h, List.filter_append, List.head?_append]

theorem serving?_extended_of_some
    (h : TypeCatalog.types extended = TypeCatalog.types catalog ++ more)
    {pair : TypeInfo × TypeInfo} (hserved : Builder.serving? catalog type = some pair) :
    Builder.serving? extended type = some pair := by
  obtain ⟨hfound, hentry⟩ := Builder.serving?_eq_some_iff.mp hserved
  have hfound' : TypeCatalog.find? extended type = some pair.1 := by
    rw [find?_extended h, hfound, Option.some_or]
  have hentry' : implementation? extended pair.1 = some pair.2 := by
    unfold implementation? at hentry ⊢
    split
    · next habstract =>
      rw [if_pos habstract] at hentry
      rw [locate?_extended h, hentry, Option.some_or]
    · next hconcrete =>
      rw [if_neg hconcrete] at hentry
      exact hentry
  exact Builder.serving?_eq_some_iff.mpr ⟨hfound', hentry'⟩

theorem serving?_extended_of_none
    (h : TypeCatalog.types extended = TypeCatalog.types catalog ++ more)
    (hunserved : Builder.serving? catalog type = none) (hmore : ¬ Repairs more type) :
    Builder.serving? extended type = none := by
  have hidentity : more.find? (·.identity == type) = none := by
    refine List.find?_eq_none.mpr fun entry hmem hsame => hmore ⟨entry, hmem, Or.inl ?_⟩
    exact eq_of_beq hsame
  have hcapability :
      (more.filter fun entry => !entry.isAbstract && entry.implements type).head? = none := by
    rw [List.head?_eq_none_iff, List.filter_eq_nil_iff]
    intro entry hmem hserves
    refine hmore ⟨entry, hmem, Or.inr ?_⟩
    simpa [TypeInfo.implements] using hserves
  rw [Builder.serving?, find?_extended h, hidentity, Option.or_none]
  rw [Builder.serving?] at hunserved
  cases hfound : TypeCatalog.find? catalog type with
  | none => rfl
  | some requested =>
    rw [hfound, Option.bind_some, Option.map_eq_none_iff] at hunserved
    have htype : requested.identity = type := by
      rw [TypeCatalog.find?_eq] at hfound
      have hsame := List.find?_some hfound
      exact eq_of_beq hsame
    rw [Option.bind_some, Option.map_eq_none_iff]
    unfold implementation? at hunserved ⊢
    split
    · next habstract =>
      rw [if_pos habstract, htype] at hunserved
      rw [htype, locate?_extended h, hunserved, Option.none_or, hcapability]
    · next hconcrete =>
      rw [if_neg hconcrete] at hunserved
      cases hunserved

def GenerationError.Lasting (more : List TypeInfo) (error : GenerationError) : Prop :=
  ∀ type, error = .unresolvedType type → ¬ Repairs more type

namespace Builder

/-- The runs with and without the new entries go in step, through the same states, up to an error
that the new entries repair. -/
theorem ruleClosed_extended (h : TypeCatalog.types extended = TypeCatalog.types catalog ++ more) :
    RuleClosed catalog
      (fun type builder outcome => (∀ error, outcome.1 = .error error → error.Lasting more) →
        builder.resolve extended type = outcome)
      (fun types builder outcome => (∀ error, outcome.1 = .error error → error.Lasting more) →
        resolveList extended types builder = outcome) where
  inProgress type builder id hid hprogress _ := resolve_of_inProgress hid hprogress
  finished type builder id hid hfinished _ := resolve_of_finished hid hfinished
  unserved type builder hnew hunserved hlasting :=
    resolve_of_unserved hnew (serving?_extended_of_none h hunserved (hlasting _ rfl type rfl))
  abandoned type builder pair error failed hnew hserved hlist hlasting := by
    have hrun := hlist fun _ herror => hlasting _ (by cases herror; rfl)
    rw [resolve_of_served hnew (serving?_extended_of_some h hserved), hrun]
  completed type builder pair dependencies resolved hnew hserved hlist _ := by
    have hrun := hlist fun _ herror => by cases herror
    rw [resolve_of_served hnew (serving?_extended_of_some h hserved), hrun]
  nil builder _ := rfl
  head_error type types builder error failed hhead hlasting := by
    have hrun := hhead fun _ herror => hlasting _ (by cases herror; rfl)
    rw [resolveList, hrun]
  tail_error type types builder id resolved error failed hhead htail hlasting := by
    have hrun := hhead fun _ herror => by cases herror
    have hrest := htail fun _ herror => hlasting _ (by cases herror; rfl)
    simp only [resolveList, hrun, hrest]
  cons type types builder id resolved ids last hhead htail _ := by
    have hrun := hhead fun _ herror => by cases herror
    have hrest := htail fun _ herror => by cases herror
    simp only [resolveList, hrun, hrest]

end Builder

/-- With types appended to the catalog, requests resolve as before, unless nothing served some type
that the new entries repair. -/
theorem resolve_extended (h : TypeCatalog.types extended = TypeCatalog.types catalog ++ more)
    (requests : List TypeIdentity) :
    ServiceGraph.resolve extended requests = ServiceGraph.resolve catalog requests ∨
      ∃ type, ServiceGraph.resolve catalog requests = .error (.unresolvedType type) ∧
        Repairs more type := by
  have hstep := (Builder.ruleClosed_extended h).resolveList requests {}
  simp only [ServiceGraph.resolve, Builder.resolveAll_eq]
  cases hrun : Builder.resolveList catalog requests {} with
  | mk result last =>
    rw [hrun] at hstep
    by_cases hlasting : ∀ error, result = .error error → error.Lasting more
    · exact Or.inl (by rw [hstep hlasting])
    · simp only [GenerationError.Lasting, not_forall, not_not] at hlasting
      obtain ⟨error, rfl, missing, rfl, hrepairs⟩ := hlasting
      exact Or.inr ⟨missing, rfl, hrepairs⟩

end Extension

/-- Types appended to a catalog, be it a list or one that refuses repeated identities, change the
result of a resolution only where it reported a type that they repair. -/
theorem resolve_of_appended_types :
    (∀ (catalog more : List TypeInfo) (requests : List TypeIdentity),
      ServiceGraph.resolve (catalog ++ more) requests = ServiceGraph.resolve catalog requests ∨
        ∃ type, ServiceGraph.resolve catalog requests = .error (.unresolvedType type) ∧
          Repairs more type) ∧
    ∀ (catalog : Catalog) (more : List TypeInfo),
      ((∀ entry ∈ more, ¬ catalog.contains entry.identity) → (more.map (·.identity)).Nodup →
        ∃ extended, more.foldlM Catalog.register catalog = .ok extended) ∧
      ∀ extended, more.foldlM Catalog.register catalog = .ok extended →
        extended.types = catalog.types ++ more ∧
        ∀ requests : List TypeIdentity,
          ServiceGraph.resolve extended requests = ServiceGraph.resolve catalog requests ∨
            ∃ type, ServiceGraph.resolve catalog requests = .error (.unresolvedType type) ∧
              Repairs more type := by
  constructor
  · intro catalog more requests
    exact resolve_extended rfl requests
  · intro catalog more
    refine ⟨Catalog.exists_foldlM_register, fun extended hextended => ?_⟩
    have htypes := Catalog.types_of_foldlM_register hextended
    exact ⟨htypes, fun requests => resolve_extended htypes requests⟩

def openTypes : List TypeInfo :=
  [{ identity := ⟨"IStore"⟩, isAbstract := true },
    { identity := ⟨"App"⟩, constructors := [{ parameters := [⟨"IStore"⟩] }] },
    { identity := ⟨"Log"⟩ }]

def storeTypes : List TypeInfo :=
  [{ identity := ⟨"Store"⟩, capabilities := [⟨"IStore"⟩] }]

theorem exists_open_catalog_extended : ∃ catalog extended : Catalog,
    catalog.types = openTypes ∧
    storeTypes.foldlM Catalog.register catalog = .ok extended ∧
    extended.types = openTypes ++ storeTypes ∧
    ∀ requests : List TypeIdentity,
      ServiceGraph.resolve extended requests = ServiceGraph.resolve catalog requests ∨
        ∃ type, ServiceGraph.resolve catalog requests = .error (.unresolvedType type) ∧
          Repairs storeTypes type := by
  have hempty : ∀ entry ∈ openTypes, ¬ ({} : Catalog).contains entry.identity := by
    simp [Catalog.contains_iff, Catalog.types]
  have hnodup : (openTypes.map (·.identity)).Nodup := by decide
  obtain ⟨catalog, hcatalog⟩ := Catalog.exists_foldlM_register hempty hnodup
  have htypes : catalog.types = openTypes := Catalog.types_of_foldlM_register hcatalog
  obtain ⟨haccepts, hconserves⟩ := resolve_of_appended_types.2 catalog storeTypes
  have hnew : ∀ entry ∈ storeTypes, ¬ catalog.contains entry.identity := by
    simp only [Catalog.contains_iff, htypes]
    decide
  obtain ⟨extended, hextended⟩ := haccepts hnew (by decide)
  obtain ⟨hall, hresolve⟩ := hconserves extended hextended
  exact ⟨catalog, extended, htypes, hextended, htypes ▸ hall, hresolve⟩

example : ¬ (ServiceGraph.resolve openTypes [⟨"App"⟩]).isOk ∧
    (ServiceGraph.resolve (openTypes ++ storeTypes) [⟨"App"⟩]).isOk := by
  decide +kernel

end CompositionRoot
