import CompositionRoot.Proofs.NamesInUse
import CompositionRoot.Proofs.ClassSources

/-! Names of fields beside the names that the user chooses for the class. A field has its name from
its service alone, whatever the class and its method are called, so the names are apart exactly if
no listed shared service has one of the two. Field names have no letter that lower case replaces,
and a chosen name with such a letter is no field's. The escape sign is no part of a name: a method
`@clock` beside a field `clock` is spelled differently and called the same. -/
namespace CompositionRoot

namespace Text

def InLowerCase (c : Char) : Prop :=
  lowerOf c = [c]

instance : DecidablePred InLowerCase := fun c =>
  inferInstanceAs (Decidable (lowerOf c = [c]))

namespace CaseRun

variable {run other : CaseRun} {c d : Char}

def holds (run : CaseRun) (code : Nat) : Bool :=
  run.first.ble code && code.ble run.last && (code - run.first) % run.stride == 0

theorem shift?_eq_none (h : run.holds c.toNat = false) : run.shift? c = none := by
  unfold shift?
  rw [if_neg]
  rintro ⟨hfirst, hlast, hstride⟩
  rw [holds, Nat.ble_eq_true_of_le hfirst, Nat.ble_eq_true_of_le hlast, hstride] at h
  cases h

/-- Whether no lower-case run holds a target of this one. Most runs lie off its targets altogether,
and only for the others each target is looked up. -/
def settles (run : CaseRun) : Bool :=
  let near := lowerRuns.filter fun other =>
    (run.first + run.offset).toNat.ble other.last && other.first.ble (run.last + run.offset).toNat
  near.all fun other => run.targets.all fun code => !other.holds code

theorem not_holds_of_settles (hrun : run.settles) {code : Nat} (hcode : code ∈ run.targets)
    (hfirst : (run.first + run.offset).toNat ≤ code)
    (hlast : code ≤ (run.last + run.offset).toNat) (hother : other ∈ lowerRuns) :
    other.holds code = false := by
  by_contra hholds
  rw [Bool.not_eq_false] at hholds
  have hbounds : other.first ≤ code ∧ code ≤ other.last := by
    simp only [holds, Bool.and_eq_true, Nat.ble_eq] at hholds
    exact hholds.1
  have hnear : (run.first + run.offset).toNat ≤ other.last ∧
      other.first ≤ (run.last + run.offset).toNat := by
    omega
  unfold settles at hrun
  have htargets := List.all_eq_true.mp hrun other
    (List.mem_filter.mpr ⟨hother, by simpa using hnear⟩)
  have hfree := List.all_eq_true.mp htargets code hcode
  rw [hholds] at hfree
  cases hfree

end CaseRun

section

variable {c d : Char} {text : List Char}

theorem settles_of_mem_lowerRuns : ∀ run ∈ lowerRuns, run.settles :=
  List.all_eq_true.mp (by decide +kernel)

theorem inLowerCase_of_not_holds (hdotted : c ≠ 'İ')
    (h : ∀ run ∈ lowerRuns, run.holds c.toNat = false) : InLowerCase c := by
  have hshift : lowerRuns.findSome? (CaseRun.shift? · c) = none :=
    List.findSome?_eq_none_iff.mpr fun run hrun => CaseRun.shift?_eq_none (h run hrun)
  rw [InLowerCase, lowerOf, if_neg hdotted, shiftCase, hshift, Option.getD_none]

/-- The capital `A` is the first character with a lower-case counterpart. -/
theorem inLowerCase_of_lt (h : c.toNat < 'A'.toNat) : InLowerCase c := by
  have hfirst : ∀ run ∈ lowerRuns, 'A'.toNat ≤ run.first := by decide +kernel
  apply inLowerCase_of_not_holds
  · rintro rfl
    exact absurd h (by decide)
  · intro run hrun
    have hle := hfirst run hrun
    have hbelow : run.first.ble c.toNat = false := by
      rw [← Bool.not_eq_true, Nat.ble_eq]
      omega
    simp [CaseRun.holds, hbelow]

theorem inLowerCase_of_shift? {run : CaseRun} (hrun : run ∈ lowerRuns)
    (h : run.shift? c = some d) : InLowerCase d := by
  obtain ⟨code, hcode, rfl, hfirst, hlast⟩ := CaseRun.exists_target h
  by_cases hvalid : code.isValidChar
  · have hundotted : ∀ run ∈ lowerRuns, 'İ'.toNat ∉ run.targets := by decide +kernel
    have hcodes := toNat_ofNat_of_isValidChar hvalid
    apply inLowerCase_of_not_holds
    · intro hdotted
      rw [hdotted] at hcodes
      exact hundotted run hrun (hcodes ▸ hcode)
    · intro other hother
      rw [hcodes]
      exact CaseRun.not_holds_of_settles (settles_of_mem_lowerRuns run hrun) hcode hfirst hlast
        hother
  · -- The null character stands for what is no code point of a character.
    apply inLowerCase_of_lt
    rw [Char.ofNat, dif_neg hvalid]
    decide

/-- Lower case gives characters that it leaves as they are. -/
theorem inLowerCase_of_mem_lowerOf (h : d ∈ lowerOf c) : InLowerCase d := by
  by_cases hdotted : c = 'İ'
  · rw [lowerOf, if_pos hdotted] at h
    rcases List.mem_pair.mp h with rfl | rfl
    · decide +kernel
    · decide +kernel
  · have hd : d = shiftCase lowerRuns c := by
      rwa [lowerOf, if_neg hdotted, List.mem_singleton] at h
    cases hshift : lowerRuns.findSome? (CaseRun.shift? · c) with
    | none =>
      have heq : d = c := by rw [hd, shiftCase, hshift, Option.getD_none]
      rw [heq, InLowerCase, lowerOf, if_neg hdotted, ← hd, heq]
    | some target =>
      have heq : d = target := by rw [hd, shiftCase, hshift, Option.getD_some]
      obtain ⟨run, hrun, htarget⟩ := List.exists_of_findSome?_eq_some hshift
      exact heq ▸ inLowerCase_of_shift? hrun htarget

theorem inLowerCase_of_mem_flatCase (h : d ∈ flatCase text) : InLowerCase d := by
  obtain ⟨word, _, hd⟩ := List.mem_flatMap.mp h
  rcases mem_lowercaseAfter hd with ⟨c, _, hlower⟩ | rfl | rfl
  · exact inLowerCase_of_mem_lowerOf hlower
  · decide +kernel
  · decide +kernel

end

end Text

open Text

def HasCapital (name : String) : Prop :=
  ∃ c ∈ name.toList, ¬ InLowerCase c

instance : DecidablePred HasCapital := fun name =>
  decidable_of_iff (name.toList.any fun c => !decide (InLowerCase c)) (by simp [HasCapital])

theorem not_hasCapital_iff {name : String} :
    ¬ HasCapital name ↔ ∀ c ∈ name.toList, InLowerCase c := by
  simp [HasCapital]

theorem not_hasCapital_baseIdentifier (type : TypeIdentity) : ¬ HasCapital type.baseIdentifier := by
  have hadded : ¬ HasCapital "_service" := by decide +kernel
  rw [not_hasCapital_iff] at hadded ⊢
  intro c hmem
  by_cases hrepair : c ∈ "_service".toList
  · exact hadded c hrepair
  · rw [TypeIdentity.baseIdentifier, String.toList_ofList, identifierOf_eq,
      mem_repairName_iff hrepair] at hmem
    exact inLowerCase_of_mem_flatCase hmem

theorem not_hasCapital_freshIdentifier {base : String} (h : ¬ HasCapital base)
    (taken : List String) : ¬ HasCapital (freshIdentifier taken base) := by
  rcases freshIdentifier_cases taken base with heq | ⟨k, heq⟩
  · rwa [heq]
  · rw [not_hasCapital_iff] at h ⊢
    rw [heq, numbered, String.toList_append, List.forall_mem_append]
    refine ⟨h, fun c hmem => inLowerCase_of_lt ?_⟩
    rw [Nat.toString_eq_repr, Nat.toList_repr] at hmem
    have hdigit := Nat.isDigit_of_mem_toDigits (by decide) (by decide) hmem
    have hle := (Char.isDigit_iff_toNat.mp hdigit).2
    exact Nat.lt_of_le_of_lt hle (by decide)

namespace ServicesClass

/-- No field is spelled as the method or as the class itself. -/
def SpellingsApart (services : ServicesClass) : Prop :=
  ∀ field ∈ services.fields,
    field.name ≠ services.names.resolveMethod ∧ field.name ≠ services.names.className

/-- No field is called as the method or as the class itself, where an escape sign is left out. -/
def NamesApart (services : ServicesClass) : Prop :=
  ∀ field ∈ services.fields,
    withoutEscape field.name ≠ withoutEscape services.names.resolveMethod ∧
      withoutEscape field.name ≠ withoutEscape services.names.className

instance : DecidablePred SpellingsApart := fun services =>
  inferInstanceAs (Decidable (∀ field ∈ services.fields,
    field.name ≠ services.names.resolveMethod ∧ field.name ≠ services.names.className))

instance : DecidablePred NamesApart := fun services =>
  inferInstanceAs (Decidable (∀ field ∈ services.fields,
    withoutEscape field.name ≠ withoutEscape services.names.resolveMethod ∧
      withoutEscape field.name ≠ withoutEscape services.names.className))

theorem NamesApart.spellingsApart {services : ServicesClass} (h : services.NamesApart) :
    services.SpellingsApart := by
  intro field hfield
  obtain ⟨hmethod, hclass⟩ := h field hfield
  exact ⟨fun heq => hmethod (congrArg withoutEscape heq),
    fun heq => hclass (congrArg withoutEscape heq)⟩

end ServicesClass

namespace ServiceGraph

variable {graph : ServiceGraph} {id : NodeId} {node : ServiceNode}

theorem Named.not_hasCapital_identifier (h : graph.Named) (found : graph.node? id = some node) :
    ¬ HasCapital node.identifier := by
  rw [h.identifier_eq id node found]
  exact not_hasCapital_freshIdentifier (not_hasCapital_baseIdentifier _) _

/-- The escape sign is no capital, so a name keeps its capitals without it. -/
theorem Named.identifier_ne_of_hasCapital (h : graph.Named) (found : graph.node? id = some node)
    {name : String} (hname : HasCapital name) : node.identifier.toList ≠ withoutEscape name := by
  obtain ⟨c, hmem, hcapital⟩ := hname
  have hsign : c ≠ '@' := by
    rintro rfl
    exact hcapital (by decide +kernel)
  intro heq
  have hidentifier : c ∈ node.identifier.toList := by
    rw [heq]
    exact (mem_withoutEscape_iff hsign).mpr hmem
  exact h.not_hasCapital_identifier found ⟨c, hidentifier, hcapital⟩

theorem Written.forall_field_iff {order all : List NodeId} {fields : List Field}
    {tests : List (TypeIdentity × Expression)} (h : graph.Written order all fields tests)
    {p : String → Prop} : (∀ field ∈ fields, p field.name) ↔
      ∀ id ∈ order, ∀ node, graph.node? id = some node → node.isShared → p node.fieldName := by
  have hnames := h.declares.map_name
  constructor
  · intro hfields id hmem node found shared
    have hall : id ∈ all := (h.declared id).mpr ⟨hmem, node, found, shared⟩
    have hname := fieldName_mem_fieldNames found hall
    rw [← hnames] at hname
    obtain ⟨field, hfield, heq⟩ := List.mem_map.mp hname
    exact heq ▸ hfields field hfield
  · intro hnodes field hfield
    have hname : field.name ∈ graph.fieldNames all := hnames ▸ List.mem_map_of_mem hfield
    obtain ⟨node, hnode, heq⟩ := List.mem_map.mp hname
    obtain ⟨id, hall, found⟩ := List.mem_filterMap.mp hnode
    obtain ⟨hmem, other, hother, shared⟩ := (h.declared id).mp hall
    cases found.symm.trans hother
    exact heq ▸ hnodes id hmem node found shared

end ServiceGraph

theorem ServiceGraph.Written.namesApart_iff {graph : ServiceGraph} (hnamed : graph.Named)
    {order all : List NodeId} {fields : List Field} {tests : List (TypeIdentity × Expression)}
    (h : graph.Written order all fields tests) {names : ClassNames} {dispatch : Dispatch} :
    (ServicesClass.mk names fields dispatch).NamesApart ↔
      ∀ id ∈ order, ∀ node, graph.node? id = some node → node.isShared →
        node.identifier.toList ≠ withoutEscape names.resolveMethod ∧
          node.identifier.toList ≠ withoutEscape names.className := by
  have hplain {id : NodeId} {node : ServiceNode} (found : graph.node? id = some node) :
      withoutEscape node.fieldName = node.identifier.toList :=
    ServiceNode.withoutEscape_fieldName (hnamed.at_notMem_identifier found)
  refine Iff.trans (h.forall_field_iff (p := fun name =>
    withoutEscape name ≠ withoutEscape names.resolveMethod ∧
      withoutEscape name ≠ withoutEscape names.className)) ?_
  constructor
  · intro hnodes id hmem node found shared
    rw [← hplain found]
    exact hnodes id hmem node found shared
  · intro hnodes id hmem node found shared
    rw [hplain found]
    exact hnodes id hmem node found shared

/-- In the class of a resolved graph, no field is spelled as the method or as the class exactly if
no listed shared service has a field so spelled, and none is called so exactly if no listed shared
service is. Since the names that services get are in lower case, chosen names with a capital are
never met. -/
theorem names_apart_iff {κ : Type} [TypeCatalog κ] {catalog : κ} {requests : List TypeIdentity}
    {graph : ServiceGraph} {names : ClassNames} {order : List NodeId} {text : String}
    (hresolve : ServiceGraph.resolve catalog requests = .ok graph)
    (hemit : graph.emit names order = .ok text) :
    ∃ services, graph.servicesClass names order = .ok services ∧ services.render = text ∧
      (services.SpellingsApart ↔
        ∀ id ∈ order, ∀ node, graph.node? id = some node → node.isShared →
          node.fieldName ≠ names.resolveMethod ∧ node.fieldName ≠ names.className) ∧
      (services.NamesApart ↔
        ∀ id ∈ order, ∀ node, graph.node? id = some node → node.isShared →
          node.identifier.toList ≠ withoutEscape names.resolveMethod ∧
            node.identifier.toList ≠ withoutEscape names.className) ∧
      (HasCapital names.resolveMethod → HasCapital names.className →
        services.NamesApart ∧ services.SpellingsApart) := by
  have hnamed := named_of_resolve hresolve
  obtain ⟨fields, all, tests, hclass, hrender, hwritten⟩ :=
    ServiceGraph.exists_written_of_emit (wellFormed_of_resolve hresolve) hemit
  have hspellings := hwritten.forall_field_iff
    (p := fun name => name ≠ names.resolveMethod ∧ name ≠ names.className)
  have hnames : (ServicesClass.mk names fields (.ofBranches tests)).NamesApart ↔ _ :=
    hwritten.namesApart_iff hnamed
  refine ⟨_, hclass, hrender, hspellings, hnames, fun hmethod hclassName => ?_⟩
  have hapart := hnames.mpr fun id _ node found _ =>
    ⟨hnamed.identifier_ne_of_hasCapital found hmethod,
      hnamed.identifier_ne_of_hasCapital found hclassName⟩
  exact ⟨hapart, hapart.spellingsApart⟩

def clockCatalog : List TypeInfo :=
  [{ identity := ⟨"Clock"⟩ }]

def clockGraph : ServiceGraph where
  nodes := [⟨⟨"Clock"⟩, ⟨"Clock"⟩, .shared, [], "clock"⟩]
  memo := [(⟨"Clock"⟩, 0)]
  identifiers := ["clock"]

def clockClass (names : ClassNames) : ServicesClass where
  names := names
  fields := [⟨⟨"Clock"⟩, "clock", .create ⟨"Clock"⟩ []⟩]
  dispatch := .otherwise (.field "clock")

theorem resolve_clockGraph : ServiceGraph.resolve clockCatalog [⟨"Clock"⟩] = .ok clockGraph := by
  decide +kernel

/-- The names that are chosen for the clock's class have capitals. -/
theorem clock_names_apart :
    ServiceGraph.resolve clockCatalog [⟨"Clock"⟩] = .ok clockGraph ∧
    clockGraph.emit {} [0] = .ok (clockClass {}).render ∧
    HasCapital "Resolve" ∧ HasCapital "Services" ∧
    ∃ services, clockGraph.servicesClass {} [0] = .ok services ∧
      services.render = (clockClass {}).render ∧
      services.NamesApart ∧ services.SpellingsApart := by
  have hemit : clockGraph.emit {} [0] = .ok (clockClass {}).render := by rfl
  have hmethod : HasCapital "Resolve" := by decide +kernel
  have hclassName : HasCapital "Services" := by decide +kernel
  obtain ⟨services, hclass, hrender, _, _, hapart⟩ := names_apart_iff resolve_clockGraph hemit
  exact ⟨resolve_clockGraph, hemit, hmethod, hclassName, services, hclass, hrender,
    hapart hmethod hclassName⟩

/-- The field of the clock and a method for requests of the same name stand in one class. -/
theorem clock_method_meets_field :
    ¬ ∀ (catalog : List TypeInfo) (requests : List TypeIdentity) (graph : ServiceGraph)
      (names : ClassNames) (order : List NodeId) (text : String),
      ServiceGraph.resolve catalog requests = .ok graph → graph.emit names order = .ok text →
      ∃ services, graph.servicesClass names order = .ok services ∧ services.render = text ∧
        services.SpellingsApart := by
  intro h
  have hclock : clockGraph.servicesClass { resolveMethod := "clock" } [0] =
      .ok (clockClass { resolveMethod := "clock" }) := by rfl
  have hemit : clockGraph.emit { resolveMethod := "clock" } [0] =
      .ok (clockClass { resolveMethod := "clock" }).render := by rfl
  obtain ⟨services, hclass, _, hapart⟩ := h _ _ _ _ _ _ resolve_clockGraph hemit
  rw [hclock] at hclass
  cases hclass
  exact (hapart _ List.mem_cons_self).1 rfl

example : (clockClass { resolveMethod := "@clock" }).SpellingsApart ∧
    ¬ (clockClass { resolveMethod := "@clock" }).NamesApart := by
  decide +kernel

end CompositionRoot
