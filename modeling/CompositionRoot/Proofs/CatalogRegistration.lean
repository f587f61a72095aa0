import CompositionRoot.Proofs.CatalogExtension
import CompositionRoot.Proofs.Construction
import CompositionRoot.Synthesis

/-! Catalogs as lists of types. After any registrations, refused ones among them, a catalog has the
accepted types in the order in which they came, and its index finds what a scan of them finds. So
resolution does not tell a catalog from the bare list of its types. -/
namespace CompositionRoot

namespace Catalog

/-- The answers to the registration of types one after another, whether or not those before them
were refused, and the catalog in the end. -/
def offerAll (catalog : Catalog) :
    List TypeInfo → List (Except GenerationError Unit) × Catalog
  | [] => ([], catalog)
  | type :: types =>
    let (answer, next) := catalog.offer type
    let (answers, last) := next.offerAll types
    (answer :: answers, last)

def accepted (types : List TypeInfo) (answers : List (Except GenerationError Unit)) :
    List TypeInfo :=
  ((types.zip answers).filter (·.2.isOk)).map Prod.fst

/-- A registration adds what it accepts at the end. -/
theorem types_offer (catalog : Catalog) (type : TypeInfo) :
    (catalog.offer type).2.types = catalog.types ++ accepted [type] [(catalog.offer type).1] := by
  by_cases h : catalog.contains type.identity
  · rw [offer_of_contains h]
    exact (List.append_nil _).symm
  · obtain ⟨extended, hoffer, htypes⟩ := offer_of_not_contains h
    rw [hoffer]
    exact htypes

theorem accepted_cons (type : TypeInfo) (types : List TypeInfo)
    (answer : Except GenerationError Unit) (answers : List (Except GenerationError Unit)) :
    accepted (type :: types) (answer :: answers) =
      accepted [type] [answer] ++ accepted types answers := by
  simp only [accepted, List.zip_cons_cons, List.filter_cons, List.zip_nil_left, List.filter_nil]
  split <;> rfl

theorem types_offerAll (catalog : Catalog) (types : List TypeInfo) :
    (catalog.offerAll types).2.types =
      catalog.types ++ accepted types (catalog.offerAll types).1 := by
  induction types generalizing catalog with
  | nil => simp [offerAll, accepted]
  | cons type types ih =>
    simp only [offerAll]
    rw [ih, types_offer, accepted_cons type types, List.append_assoc]

theorem length_answers_offerAll (catalog : Catalog) (types : List TypeInfo) :
    (catalog.offerAll types).1.length = types.length := by
  induction types generalizing catalog with
  | nil => rfl
  | cons type types ih => simp [offerAll, ih]

theorem offerAll_concat (catalog : Catalog) (types : List TypeInfo) (type : TypeInfo) :
    catalog.offerAll (types ++ [type]) =
      ((catalog.offerAll types).1 ++ [((catalog.offerAll types).2.offer type).1],
        ((catalog.offerAll types).2.offer type).2) := by
  induction types generalizing catalog with
  | nil => rfl
  | cons first types ih => simp [offerAll, ih]

theorem contains_eq_isSome_find? (catalog : Catalog) (identity : TypeIdentity) :
    catalog.contains identity = (catalog.types.find? (·.identity == identity)).isSome := by
  rw [Bool.eq_iff_iff, contains_iff, List.find?_isSome]
  simp

/-- A catalog is the list of the types that it accepted. It accepts a further type exactly if none
of them has its identity, and else it stays as it is. -/
structure AgreesWithList (types : List TypeInfo) (answers : List (Except GenerationError Unit))
    (catalog : Catalog) : Prop where
  length_answers : answers.length = types.length
  types_eq : catalog.types = accepted types answers
  find?_eq_scan : ∀ identity,
    catalog.find? identity = catalog.types.find? (·.identity == identity)
  contains_eq_scan : ∀ identity,
    catalog.contains identity = (catalog.types.find? (·.identity == identity)).isSome
  refuses : ∀ type, (∃ entry ∈ accepted types answers, entry.identity = type.identity) →
    offerAll {} (types ++ [type]) =
      (answers ++ [.error (.duplicateType type.identity)], catalog)
  accepts : ∀ type, (∀ entry ∈ accepted types answers, entry.identity ≠ type.identity) →
    ∃ extended, offerAll {} (types ++ [type]) = (answers ++ [.ok ()], extended) ∧
      extended.types = catalog.types ++ [type]

theorem agreesWithList (types : List TypeInfo) :
    AgreesWithList types (offerAll {} types).1 (offerAll {} types).2 := by
  have htypes : (offerAll {} types).2.types = accepted types (offerAll {} types).1 :=
    types_offerAll {} types
  refine ⟨length_answers_offerAll {} types, htypes, find?_eq _, contains_eq_isSome_find? _,
    fun type hold => ?_, fun type hnew => ?_⟩
  · rw [← htypes, ← contains_iff] at hold
    rw [offerAll_concat, offer_of_contains hold]
  · have hnot : ¬ (offerAll {} types).2.contains type.identity := by
      rw [contains_iff, htypes]
      rintro ⟨entry, hmem, hsame⟩
      exact hnew entry hmem hsame
    obtain ⟨extended, hoffer, hextended⟩ := offer_of_not_contains hnot
    exact ⟨extended, by rw [offerAll_concat, hoffer], hextended⟩

/-- Types of different identities are all accepted. -/
theorem exists_ofTypes {types : List TypeInfo} (h : (types.map (·.identity)).Nodup) :
    ∃ catalog, ofTypes types = .ok catalog ∧ catalog.types = types := by
  have hempty : ∀ entry ∈ types, ¬ ({} : Catalog).contains entry.identity := by
    simp [contains_iff, Catalog.types]
  obtain ⟨catalog, hcatalog⟩ := exists_foldlM_register hempty h
  exact ⟨catalog, hcatalog, types_of_foldlM_register hcatalog⟩

end Catalog

section

variable {κ κ' : Type} [TypeCatalog κ] [TypeCatalog κ'] {catalog : κ} {other : κ'}

theorem resolve_eq_of_types_eq (h : TypeCatalog.types catalog = TypeCatalog.types other)
    (requested : List TypeIdentity) :
    ServiceGraph.resolve catalog requested = ServiceGraph.resolve other requested := by
  have hextended : TypeCatalog.types catalog = TypeCatalog.types other ++ [] := by simp [h]
  rcases resolve_extended hextended requested with hsame | ⟨_, _, _, hmem, _⟩
  · exact hsame
  · cases hmem

theorem synthesize_eq_of_types_eq (h : TypeCatalog.types catalog = TypeCatalog.types other)
    (ordering : OrderingPolicy) (names : ClassNames) (requested : List TypeIdentity) :
    synthesize catalog ordering names requested = synthesize other ordering names requested := by
  rw [synthesize, synthesize, resolve_eq_of_types_eq h]

end

/-- Every catalog that registrations make is the list of the types that it accepted, in order, with
searches that scan this list. Requests of the catalog of some types of different identities have the
results that they have of the bare list. -/
theorem registered_catalog_agrees_with_list :
    (∀ types : List TypeInfo, Catalog.AgreesWithList types (Catalog.offerAll {} types).1
      (Catalog.offerAll {} types).2) ∧
    ∀ types : List TypeInfo, (types.map (·.identity)).Nodup →
      ∃ catalog, Catalog.ofTypes types = .ok catalog ∧ catalog.types = types ∧
        ∀ requested : List TypeIdentity,
          ServiceGraph.resolve catalog requested = ServiceGraph.resolve types requested ∧
          ∀ ordering names, synthesize catalog ordering names requested =
            synthesize types ordering names requested := by
  refine ⟨Catalog.agreesWithList, fun types hnodup => ?_⟩
  obtain ⟨catalog, hcatalog, htypes⟩ := Catalog.exists_ofTypes hnodup
  refine ⟨catalog, hcatalog, htypes, fun requested => ⟨?_, fun ordering names => ?_⟩⟩
  · exact resolve_eq_of_types_eq htypes requested
  · exact synthesize_eq_of_types_eq htypes ordering names requested

/-- The second clock is refused, also while it claims to be abstract, and a lookup still finds the
first. -/
theorem clock_refused_twice :
    (∃ catalog, Catalog.offerAll {} [{ identity := ⟨"Clock"⟩ },
        { identity := ⟨"Clock"⟩, isAbstract := true }] =
          ([.ok (), .error (.duplicateType ⟨"Clock"⟩)], catalog) ∧
      catalog.types = [{ identity := ⟨"Clock"⟩ }] ∧
      catalog.find? ⟨"Clock"⟩ = some { identity := ⟨"Clock"⟩ }) ∧
    ∃ catalog, Catalog.ofTypes openTypes = .ok catalog ∧
      ServiceGraph.resolve catalog [⟨"App"⟩] = .error (.unresolvedType ⟨"IStore"⟩) := by
  obtain ⟨hruns, hlists⟩ := registered_catalog_agrees_with_list
  constructor
  · obtain ⟨catalog, hfirst, htypes⟩ := (hruns []).accepts { identity := ⟨"Clock"⟩ } (by decide)
    have hsecond := (hruns [{ identity := ⟨"Clock"⟩ }]).refuses
      { identity := ⟨"Clock"⟩, isAbstract := true }
    rw [List.nil_append] at hfirst
    rw [hfirst] at hsecond
    refine ⟨catalog, hsecond ⟨_, List.mem_singleton_self _, rfl⟩, htypes, ?_⟩
    rw [Catalog.find?_eq, htypes]
    rfl
  · obtain ⟨catalog, hcatalog, _, hresults⟩ := hlists openTypes (by decide)
    refine ⟨catalog, hcatalog, ?_⟩
    rw [(hresults [⟨"App"⟩]).1]
    decide +kernel

end CompositionRoot
