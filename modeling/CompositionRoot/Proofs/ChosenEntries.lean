import CompositionRoot.Proofs.ReachedServices

/-! The entries of the catalog behind a node. The first entry of a type says how long its service
lives, the entry that serves the type says what is created, and the constructor that is chosen there
says on what the service depends. All of this holds whatever was resolved since, or failed to. -/
namespace CompositionRoot

/-- The parameters that creating an instance of a type takes: those of the first public constructor
marked primary, where there is none of the first public one, and otherwise none. -/
inductive TypeInfo.Takes (entry : TypeInfo) : List TypeIdentity → Prop where
  | primary {constructor : Constructor}
      (chosen : entry.constructors.find? (fun c => c.isPublic && c.isPrimary) = some constructor) :
      Takes entry constructor.parameters
  | first {constructor : Constructor}
      (unmarked : ∀ c ∈ entry.constructors, ¬ (c.isPublic ∧ c.isPrimary))
      (chosen : entry.constructors.find? Constructor.isPublic = some constructor) :
      Takes entry constructor.parameters
  | nothing (hidden : ∀ c ∈ entry.constructors, ¬ c.isPublic) : Takes entry []

namespace TypeInfo

/-- The position of a constructor finds the same as a search for the constructor. -/
theorem constructor?_eq (entry : TypeInfo) : entry.constructor? =
    (entry.constructors.find? (fun c => c.isPublic && c.isPrimary)).or
      (entry.constructors.find? Constructor.isPublic) := by
  rw [constructor?, constructorIndex?, Option.orElse_eq_orElse, Option.orElse_eq_or,
    List.find?_eq_bind_findIdx?_getElem?, List.find?_eq_bind_findIdx?_getElem?]
  cases hprimary : entry.constructors.findIdx? (fun c => c.isPublic && c.isPrimary) with
  | none => rfl
  | some position =>
    obtain ⟨hlt, _⟩ := List.findIdx?_eq_some_iff_getElem.mp hprimary
    simp [hlt]

theorem find?_primary_eq_none_iff {entry : TypeInfo} :
    entry.constructors.find? (fun c => c.isPublic && c.isPrimary) = none ↔
      ∀ c ∈ entry.constructors, ¬ (c.isPublic ∧ c.isPrimary) := by
  simp only [List.find?_eq_none, Bool.and_eq_true]

theorem takes_iff {entry : TypeInfo} {parameters : List TypeIdentity} :
    entry.Takes parameters ↔ parameters = entry.parameters := by
  rw [TypeInfo.parameters, constructor?_eq]
  constructor
  · intro h
    cases h with
    | primary chosen => rw [chosen, Option.some_or, Option.map_some, Option.getD_some]
    | first unmarked chosen =>
      rw [find?_primary_eq_none_iff.mpr unmarked, chosen, Option.none_or, Option.map_some,
        Option.getD_some]
    | nothing hidden =>
      have hunmarked : ∀ c ∈ entry.constructors, ¬ (c.isPublic ∧ c.isPrimary) :=
        fun c hmem hc => hidden c hmem hc.1
      rw [find?_primary_eq_none_iff.mpr hunmarked, List.find?_eq_none.mpr hidden]
      rfl
  · rintro rfl
    cases hprimary : entry.constructors.find? (fun c => c.isPublic && c.isPrimary) with
    | some constructor => exact .primary hprimary
    | none =>
      cases hfirst : entry.constructors.find? Constructor.isPublic with
      | some constructor => exact .first (find?_primary_eq_none_iff.mp hprimary) hfirst
      | none => exact .nothing (List.find?_eq_none.mp hfirst)

end TypeInfo

variable {κ : Type} [TypeCatalog κ] {catalog : κ}

/-- What the catalog says of a node through two of its entries, the one that is found for the
requested type and the one that serves it. -/
structure ServiceNode.ChosenFrom (catalog : κ) (node : ServiceNode) (requested entry : TypeInfo) :
    Prop where
  found : TypeCatalog.find? catalog node.requested = some requested
  perRequest_iff : node.lifetime = .perRequest ↔ requested.isTransient = true
  mem_types : entry ∈ TypeCatalog.types catalog
  concrete : entry.isAbstract = false
  implementation_eq : node.implementation = entry.identity
  of_concrete : requested.isAbstract = false → entry = requested
  of_abstract : requested.isAbstract = true → (TypeCatalog.types catalog).find?
    (fun candidate => !candidate.isAbstract && candidate.implements node.requested) = some entry

theorem Lifetime.of_eq_perRequest_iff {type : TypeInfo} :
    Lifetime.of type = .perRequest ↔ type.isTransient = true := by
  cases h : type.isTransient <;> simp [Lifetime.of, h]

theorem ResolvesTo.mem_types {type : TypeIdentity} {entry : TypeInfo}
    (h : ResolvesTo catalog type entry) : entry ∈ TypeCatalog.types catalog := by
  obtain ⟨requested, hfound, ⟨_, rfl⟩ | ⟨_, hfirst⟩⟩ := h
  · rw [TypeCatalog.find?_eq] at hfound
    exact List.mem_of_find?_eq_some hfound
  · exact List.mem_of_find?_eq_some hfirst

theorem ResolvesTo.concrete {type : TypeIdentity} {entry : TypeInfo}
    (h : ResolvesTo catalog type entry) : entry.isAbstract = false := by
  obtain ⟨requested, _, ⟨hconcrete, rfl⟩ | ⟨_, hfirst⟩⟩ := h
  · exact hconcrete
  · have hentry := List.find?_some hfirst
    simp only [Bool.and_eq_true, Bool.not_eq_true'] at hentry
    exact hentry.1

theorem ServiceNode.Serves.chosenFrom {node : ServiceNode} {pair : TypeInfo × TypeInfo}
    (h : node.Serves catalog pair) : node.ChosenFrom catalog pair.1 pair.2 := by
  obtain ⟨hfound, _⟩ := Builder.serving?_eq_some_iff.mp h.serving
  have hresolves : ResolvesTo catalog node.requested pair.2 := resolvesTo_iff.mpr ⟨_, h.serving⟩
  have ⟨requested, hrequested, hentry⟩ := hresolves
  obtain rfl := Option.some.inj (hfound.symm.trans hrequested)
  constructor
  · exact hfound
  · rw [h.lifetime_eq, Lifetime.of_eq_perRequest_iff]
  · exact hresolves.mem_types
  · exact hresolves.concrete
  · exact h.implementation_eq
  · intro hconcrete
    rcases hentry with ⟨_, heq⟩ | ⟨habstract, _⟩
    · exact heq
    · simp [hconcrete] at habstract
  · intro habstract
    rcases hentry with ⟨hconcrete, _⟩ | ⟨_, hfirst⟩
    · simp [hconcrete] at habstract
    · exact hfirst

/-- After any resolutions, failed ones among them, each node has its lifetime from the entry of its
type, its implementation from the entry that serves the type, and nodes of the parameters of the
constructor chosen there as its dependencies. -/
theorem nodes_chosenFrom_after_session {κ : Type} [TypeCatalog κ] (catalog : κ)
    (types : List TypeIdentity) :
    ∀ node ∈ (Builder.afterSession catalog types {}).graph.nodes, ∃ requested entry parameters,
      node.ChosenFrom catalog requested entry ∧ entry.Takes parameters ∧
      node.dependencies.map (fun id =>
        ((Builder.afterSession catalog types {}).graph.node? id).map (·.requested)) =
          parameters.map some := by
  intro node hmem
  have hidle := (Builder.idle_empty catalog).afterSession types
  obtain ⟨pair, hserving, himplementation, hlifetime, hdependencies⟩ :=
    hidle.describedBy_of_mem_services (List.mem_map_of_mem hmem)
  have hserves : node.Serves catalog pair := ⟨hserving, himplementation, hlifetime⟩
  exact ⟨pair.1, pair.2, pair.2.parameters, hserves.chosenFrom, TypeInfo.takes_iff.mpr rfl,
    hdependencies⟩

/-- Two entries of one identity. A search finds the abstract one, which the other one serves. -/
def repeatedCatalog : List TypeInfo :=
  [{ identity := ⟨"Cache"⟩, isAbstract := true, isTransient := true },
    { identity := ⟨"Clock"⟩ },
    { identity := ⟨"Cache"⟩, capabilities := [⟨"Cache"⟩],
      constructors := [{ isPublic := false, isPrimary := true, parameters := [⟨"Missing"⟩] },
        { parameters := [] }, { isPrimary := true, parameters := [⟨"Clock"⟩, ⟨"Clock"⟩] }] }]

def cacheNode : ServiceNode :=
  ⟨⟨"Cache"⟩, ⟨"Cache"⟩, .perRequest, [0, 0], "cache"⟩

theorem cacheNode_chosenFrom :
    cacheNode ∈ (Builder.afterSession repeatedCatalog
      [⟨"Clock"⟩, ⟨"Missing"⟩, ⟨"Cache"⟩, ⟨"Missing"⟩] {}).graph.nodes ∧
    ∃ requested entry parameters, cacheNode.ChosenFrom repeatedCatalog requested entry ∧
      entry.Takes parameters ∧
      cacheNode.dependencies.map (fun id => ((Builder.afterSession repeatedCatalog
        [⟨"Clock"⟩, ⟨"Missing"⟩, ⟨"Cache"⟩, ⟨"Missing"⟩] {}).graph.node? id).map (·.requested)) =
          parameters.map some := by
  have hmem : cacheNode ∈ (Builder.afterSession repeatedCatalog
      [⟨"Clock"⟩, ⟨"Missing"⟩, ⟨"Cache"⟩, ⟨"Missing"⟩] {}).graph.nodes := by
    decide +kernel
  exact ⟨hmem, nodes_chosenFrom_after_session repeatedCatalog _ cacheNode hmem⟩

end CompositionRoot
