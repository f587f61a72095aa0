import CompositionRoot.Generator.Basic
import CompositionRoot.Proofs.CatalogExtension
import CompositionRoot.Proofs.ServiceErrors

/-! The types that a generator adds to a catalog. They come after the user's and implement nothing,
so they make a difference only where one of them is asked for and the user has none. -/
namespace CompositionRoot

namespace Catalog

theorem contains_of_prefix {catalog extended : Catalog} (h : catalog.types <+: extended.types)
    {type : TypeIdentity} (hcontains : catalog.contains type) : extended.contains type := by
  obtain ⟨entry, hmem, hsame⟩ := contains_iff.mp hcontains
  exact contains_iff.mpr ⟨entry, h.subset hmem, hsame⟩

theorem find?_ne_none_of_contains {catalog : Catalog} {type : TypeIdentity}
    (hcontains : catalog.contains type) : catalog.find? type ≠ none := by
  obtain ⟨entry, hmem, rfl⟩ := contains_iff.mp hcontains
  rw [find?_eq]
  intro hnone
  have hother := List.find?_eq_none.mp hnone entry hmem
  simp at hother

end Catalog

namespace Scaffolding

variable {catalog complete : Catalog} {type : TypeIdentity} {types added : List TypeIdentity}

/-- A catalog with some types, which has entries of its own for those that another lacks. -/
structure Completes (catalog : Catalog) (types added : List TypeIdentity) (complete : Catalog) :
    Prop where
  types_eq : complete.types = catalog.types ++ added.map fun type => { identity := type }
  contains : ∀ type ∈ types, complete.contains type
  mem_of_added : ∀ type ∈ added, type ∈ types ∧ ¬ catalog.contains type

namespace Completes

theorem types_prefix (h : Completes catalog types added complete) :
    catalog.types <+: complete.types := by
  rw [h.types_eq]
  exact List.prefix_append _ _

theorem nil (catalog : Catalog) : Completes catalog [] [] catalog := by
  constructor <;> simp

theorem cons {next : Catalog} {first : List TypeIdentity}
    (h : Completes catalog [type] first next) (hrest : Completes next types added complete) :
    Completes catalog (type :: types) (first ++ added) complete where
  types_eq := by rw [hrest.types_eq, h.types_eq, List.append_assoc, List.map_append]
  contains := by
    refine List.forall_mem_cons.mpr ⟨?_, hrest.contains⟩
    exact Catalog.contains_of_prefix hrest.types_prefix (h.contains type List.mem_cons_self)
  mem_of_added other hmem := by
    rcases List.mem_append.mp hmem with hmem | hmem
    · obtain ⟨htype, hnew⟩ := h.mem_of_added other hmem
      exact ⟨List.mem_singleton.mp htype ▸ List.mem_cons_self, hnew⟩
    · obtain ⟨htypes, hnew⟩ := hrest.mem_of_added other hmem
      exact ⟨List.mem_cons_of_mem type htypes,
        fun hcontains => hnew (Catalog.contains_of_prefix h.types_prefix hcontains)⟩

end Completes

theorem exists_ensure (catalog : Catalog) (type : TypeIdentity) :
    ∃ complete added, ensure catalog type = .ok complete ∧
      Completes catalog [type] added complete := by
  -- The type may be there already: the user has registered it, or another of the generator's types
  -- has its name.
  by_cases hcontains : catalog.contains type
  · refine ⟨catalog, [], if_pos hcontains, ?_⟩
    constructor <;> simp [hcontains]
  · obtain ⟨complete, hregister⟩ :
        ∃ complete, catalog.register { identity := type } = .ok complete :=
      Catalog.exists_register hcontains
    have htypes := Catalog.types_of_register hregister
    refine ⟨complete, [type], (if_neg hcontains).trans hregister, htypes, ?_, ?_⟩
    · simp [Catalog.contains_iff, htypes]
    · simpa using hcontains

theorem exists_foldlM_ensure (types : List TypeIdentity) (catalog : Catalog) :
    ∃ complete added, types.foldlM ensure catalog = .ok complete ∧
      Completes catalog types added complete := by
  induction types generalizing catalog with
  | nil => exact ⟨catalog, [], rfl, .nil catalog⟩
  | cons type types ih =>
    obtain ⟨next, first, hensure, hnext⟩ := exists_ensure catalog type
    obtain ⟨complete, added, hrest, hcomplete⟩ := ih next
    refine ⟨complete, first ++ added, ?_, hnext.cons hcomplete⟩
    rw [List.foldlM_cons, hensure]
    exact hrest

theorem foldlM_ensure_of_contains (h : ∀ type ∈ types, catalog.contains type) :
    types.foldlM ensure catalog = .ok catalog := by
  induction types with
  | nil => rfl
  | cons type types ih =>
    obtain ⟨htype, htypes⟩ := List.forall_mem_cons.mp h
    have hensure : ensure catalog type = .ok catalog := if_pos htype
    rw [List.foldlM_cons, hensure]
    exact ih htypes

theorem verify_of_contains (scaffolding : Scaffolding)
    (h : ∀ type ∈ scaffolding.identities, catalog.contains type) :
    scaffolding.verify catalog = .ok () := by
  have hnone : (scaffolding.identities.find? fun type =>
      (TypeCatalog.find? catalog type).isNone) = none := by
    refine List.find?_eq_none.mpr fun type hmem hmissing => ?_
    exact Catalog.find?_ne_none_of_contains (h type hmem) (Option.isNone_iff_eq_none.mp hmissing)
  rw [verify, hnone]

/-- The entries added implement no type, so they serve none but their own. -/
theorem mem_added_of_repairs
    (h : Repairs (added.map fun type => { identity := type }) type) : type ∈ added := by
  obtain ⟨entry, hmem, hserves⟩ := h
  obtain ⟨other, hother, rfl⟩ := List.mem_map.mp hmem
  rcases hserves with rfl | ⟨_, hcapability⟩
  · exact hother
  · cases hcapability

end Scaffolding

namespace Generator

theorem exists_buildServicesClass_eq (generator : Generator) (catalog : Catalog) :
    ∃ complete added,
      Scaffolding.Completes catalog generator.scaffolding.identities added complete ∧
      ∀ requested, generator.buildServicesClass catalog requested =
        synthesize complete generator.ordering generator.config.toClassNames requested := by
  obtain ⟨complete, added, hadd, hcomplete⟩ :=
    Scaffolding.exists_foldlM_ensure generator.scaffolding.identities catalog
  refine ⟨complete, added, hcomplete, fun requested => ?_⟩
  have hverify := generator.scaffolding.verify_of_contains hcomplete.contains
  rw [buildServicesClass, Scaffolding.addTo, hadd]
  change (generator.scaffolding.verify complete).bind _ = _
  rw [hverify]
  rfl

theorem category_of_buildServicesClass {generator : Generator} {strategy : OrderingStrategy}
    (hordering : generator.ordering = strategy.policy) {catalog : Catalog}
    {requested : List TypeIdentity} {error : GenerationError}
    (h : generator.buildServicesClass catalog requested = .error error) :
    error.category = "DI.Services" := by
  obtain ⟨complete, _, _, hbuild⟩ := generator.exists_buildServicesClass_eq catalog
  rw [hbuild, hordering] at h
  exact category_of_synthesize h

end Generator

theorem GenerationError.id_ne_of_category {error : GenerationError}
    (h : error.category = "DI.Services") : error.id ≠ "INTER001" ∧ error.id ≠ "INTER002" := by
  cases error <;> simp_all [category, id]

/-- The generator's own types can be added to any catalog, whatever their names are, and change no
result but that of a resolution which one of them was missing. With an order of its own the
generator never reports itself. -/
theorem scaffolding_is_transparent :
    (∀ (scaffolding : Scaffolding) (catalog : Catalog), ∃ complete,
      scaffolding.addTo catalog = .ok complete ∧ catalog.types <+: complete.types ∧
      scaffolding.addTo complete = .ok complete ∧ scaffolding.verify complete = .ok ()) ∧
    (∀ (generator : Generator) (catalog : Catalog) (requested : List TypeIdentity),
      generator.buildServicesClass catalog requested =
          synthesize catalog generator.ordering generator.config.toClassNames requested ∨
        ∃ type ∈ generator.scaffolding.identities, ¬ catalog.contains type ∧
          ServiceGraph.resolve catalog requested = .error (.unresolvedType type)) ∧
    ∀ (config : GeneratorConfig) (strategy : OrderingStrategy) (catalog : Catalog)
      (requested : List TypeIdentity),
      ∀ diagnostic ∈
          (Generator.execute { config, ordering := strategy.policy } catalog requested).diagnostics,
        diagnostic.id ≠ "INTER001" ∧ diagnostic.id ≠ "INTER002" := by
  refine ⟨fun scaffolding catalog => ?_, fun generator catalog requested => ?_,
    fun config strategy catalog requested diagnostic hmem => ?_⟩
  · obtain ⟨complete, added, hadd, hcomplete⟩ :=
      Scaffolding.exists_foldlM_ensure scaffolding.identities catalog
    exact ⟨complete, hadd, hcomplete.types_prefix,
      Scaffolding.foldlM_ensure_of_contains hcomplete.contains,
      scaffolding.verify_of_contains hcomplete.contains⟩
  · obtain ⟨complete, added, hcomplete, hbuild⟩ := generator.exists_buildServicesClass_eq catalog
    have htypes : TypeCatalog.types complete =
        TypeCatalog.types catalog ++ added.map fun type => { identity := type } :=
      hcomplete.types_eq
    rw [hbuild]
    rcases resolve_extended htypes requested with hsame | ⟨type, herror, hrepairs⟩
    · left
      rw [synthesize, synthesize, hsame]
    · obtain ⟨hidentity, hnew⟩ :=
        hcomplete.mem_of_added type (Scaffolding.mem_added_of_repairs hrepairs)
      exact Or.inr ⟨type, hidentity, hnew, herror⟩
  · let generator : Generator := { config, ordering := strategy.policy }
    cases hbuild : generator.buildServicesClass catalog requested with
    | ok text =>
      rw [Generator.execute, hbuild] at hmem
      cases hmem
    | error error =>
      rw [Generator.execute, hbuild] at hmem
      obtain rfl := List.mem_singleton.mp hmem
      exact GenerationError.id_ne_of_category (Generator.category_of_buildServicesClass rfl hbuild)

/-- A generator whose class has the name of one of its attributes. -/
def attributeNamedGenerator : Generator where
  config := { className := "TransientAttribute" }

theorem attributeNamedGenerator_is_transparent :
    attributeNamedGenerator.scaffolding.servicesStub =
      attributeNamedGenerator.scaffolding.transientAttribute ∧
    (∃ complete, attributeNamedGenerator.scaffolding.addTo {} = .ok complete ∧
      attributeNamedGenerator.scaffolding.verify complete = .ok ()) ∧
    attributeNamedGenerator.buildServicesClass {} [⟨"App"⟩] = .error (.unresolvedType ⟨"App"⟩) ∧
    ∃ diagnostic ∈ (attributeNamedGenerator.execute {} [⟨"App"⟩]).diagnostics,
      diagnostic.id ≠ "INTER001" ∧ diagnostic.id ≠ "INTER002" := by
  obtain ⟨hadds, hbuilds, hreports⟩ := scaffolding_is_transparent
  have hunserved : Builder.serving? ({} : Catalog) ⟨"App"⟩ = none := by
    rw [Builder.serving?, TypeCatalog.find?_eq]
    rfl
  have hresolve : ServiceGraph.resolve ({} : Catalog) [⟨"App"⟩] =
      .error (.unresolvedType ⟨"App"⟩) := by
    rw [ServiceGraph.resolve, Builder.resolveAll, Builder.resolve_of_unserved rfl hunserved]
    rfl
  have hbuild : attributeNamedGenerator.buildServicesClass {} [⟨"App"⟩] =
      .error (.unresolvedType ⟨"App"⟩) := by
    rcases hbuilds attributeNamedGenerator {} [⟨"App"⟩] with hsame | ⟨type, hmem, _, herror⟩
    · rw [hsame, synthesize_of_error hresolve]
    · cases hresolve.symm.trans herror
      revert hmem
      decide
  have hdiagnostics : (attributeNamedGenerator.execute {} [⟨"App"⟩]).diagnostics =
      [(GenerationError.unresolvedType ⟨"App"⟩).diagnostic] := by
    rw [Generator.execute, hbuild]
  obtain ⟨complete, hadd, _, _, hverify⟩ := hadds attributeNamedGenerator.scaffolding {}
  have hmem : (GenerationError.unresolvedType ⟨"App"⟩).diagnostic ∈
      (attributeNamedGenerator.execute {} [⟨"App"⟩]).diagnostics := by
    rw [hdiagnostics]
    exact List.mem_singleton_self _
  exact ⟨by decide, ⟨complete, hadd, hverify⟩, hbuild, _, hmem,
    hreports attributeNamedGenerator.config .topological {} [⟨"App"⟩] _ hmem⟩

end CompositionRoot
