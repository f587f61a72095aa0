import CompositionRoot.Graph.Identifier
import CompositionRoot.Proofs.FlatCase

/-! Characters of the identifier of a type. A character that cannot stand in one is turned into a
space, and dropping the spaces is left to the separation of words. That works on clusters, so a
space stays where it has come to stand beside a character that joins it. -/
namespace CompositionRoot
open Text

/-- A character that can stand in an identifier, or the space that takes its place. -/
def orSpace (c : Char) : Char :=
  if isIdentifierChar c then c else ' '

variable {simpleName : List Char} {c d : Char}

theorem orSpace_eq_space_iff : orSpace c = ' ' ↔ isIdentifierChar c = false := by
  have hspace : isIdentifierChar ' ' = false := by decide +kernel
  cases hkept : isIdentifierChar c with
  | false => simp [orSpace, hkept]
  | true =>
    have hne : c ≠ ' ' := by
      rintro rfl
      rw [hspace] at hkept
      cases hkept
    simp [orSpace, hkept, hne]

theorem identifierOf_eq (simpleName : List Char) :
    identifierOf simpleName = repairName (flatCase (simpleName.map orSpace)) :=
  rfl

/-- Characters that neither the underscore before a digit nor the name of what has none brings in
come from the name that is repaired. -/
theorem mem_repairName_iff {name : List Char} (h : c ∉ "_service".toList) :
    c ∈ repairName name ↔ c ∈ name := by
  unfold repairName
  split
  · simp_all
  · split <;> simp_all

theorem mem_identifierOf_cases (h : c ∈ identifierOf simpleName) :
    isIdentifierChar c ∨ c = ' ' ∨ 'İ' ∈ simpleName ∧ c = '\u0307' := by
  have hadded : ∀ c ∈ "_service".toList, isIdentifierChar c :=
    List.all_eq_true.mp (by decide +kernel)
  have hmap : ∀ c ∈ simpleName.map orSpace, c ∈ simpleName ∧ isIdentifierChar c ∨ c = ' ' := by
    intro c hc
    obtain ⟨original, hmem, rfl⟩ := List.mem_map.mp hc
    unfold orSpace
    split
    · next hkept => exact Or.inl ⟨hmem, hkept⟩
    · exact Or.inr rfl
  by_cases hrepair : c ∈ "_service".toList
  · exact Or.inl (hadded c hrepair)
  · rw [identifierOf_eq, mem_repairName_iff hrepair] at h
    rcases mem_flatCase_cases h with hc | hletter | ⟨hdotted, hdot⟩
    · rcases hmap c hc with ⟨_, hkept⟩ | hspace
      · exact Or.inl hkept
      · exact Or.inr (Or.inl hspace)
    · exact Or.inl (by simp [isIdentifierChar, hletter])
    · rcases hmap 'İ' hdotted with ⟨hmem, _⟩ | hspace
      · exact Or.inr (Or.inr ⟨hmem, hdot⟩)
      · exact absurd hspace (by decide)

/-- Whether a character joins any character before it. -/
def isMark (c : Char) : Bool :=
  graphemeExtendRanges.contains c || spacingMarkRanges.contains c

theorem isMark_space : isMark ' ' = false := by
  decide +kernel

theorem joinsCluster_space_left : joinsCluster ' ' d = isMark d := by
  have hprepend : prependRanges.contains ' ' = false := by decide +kernel
  have hpart : syllablePart? ' ' = none := by decide +kernel
  simp [joinsCluster, isMark, hprepend, hpart]

theorem joinsCluster_space_right : joinsCluster c ' ' = prependRanges.contains c := by
  have hpart : syllablePart? ' ' = none := by decide +kernel
  have hmark := isMark_space
  rw [isMark, Bool.or_eq_false_iff] at hmark
  simp [joinsCluster, hmark, hpart]

/-- Whether a character that cannot stand in an identifier is followed by a mark that can, or comes
after a letter that can and that joins what follows it. -/
def KeepsSpace (simpleName : List Char) : Prop :=
  ∃ c d, [c, d] <:+: simpleName ∧
    (isIdentifierChar c = false ∧ isIdentifierChar d ∧ isMark d ∨
      isIdentifierChar c ∧ prependRanges.contains c ∧ isIdentifierChar d = false)

theorem joinsCluster_beside_space_iff :
    joinsCluster (orSpace c) (orSpace d) ∧ (orSpace c = ' ' ∨ orSpace d = ' ') ↔
      isIdentifierChar c = false ∧ isIdentifierChar d ∧ isMark d ∨
        isIdentifierChar c ∧ prependRanges.contains c ∧ isIdentifierChar d = false := by
  rw [orSpace_eq_space_iff, orSpace_eq_space_iff]
  cases hc : isIdentifierChar c <;> cases hd : isIdentifierChar d
  · simp [orSpace, hc, hd, joinsCluster_space_left, isMark_space]
  · simp [orSpace, hc, hd, joinsCluster_space_left]
  · simp [orSpace, hc, hd, joinsCluster_space_right]
  · simp

theorem exists_of_pair_isInfix_map {α β : Type} {f : α → β} {l : List α} {c d : β}
    (h : [c, d] <:+: l.map f) : ∃ a b, [a, b] <:+: l ∧ f a = c ∧ f b = d := by
  obtain ⟨pair, hpair, hmap⟩ := List.infix_map_iff.mp h
  obtain ⟨a, rest, rfl, ha, hrest⟩ := List.map_eq_cons_iff.mp hmap.symm
  obtain ⟨b, rfl, hb⟩ := List.map_eq_singleton_iff.mp hrest
  exact ⟨a, b, hpair, ha, hb⟩

theorem space_mem_identifierOf_iff :
    ' ' ∈ identifierOf simpleName ↔ KeepsSpace simpleName := by
  rw [identifierOf_eq, mem_repairName_iff (by decide), space_mem_flatCase_iff]
  constructor
  · rintro ⟨_, _, hpair, hjoin⟩
    obtain ⟨c, d, hname, rfl, rfl⟩ := exists_of_pair_isInfix_map hpair
    exact ⟨c, d, hname, joinsCluster_beside_space_iff.mp hjoin⟩
  · rintro ⟨c, d, hname, h⟩
    exact ⟨orSpace c, orSpace d, hname.map orSpace, joinsCluster_beside_space_iff.mpr h⟩

/-- An identifier is made of characters that can stand in one, the dot of a dotted capital and the
spaces that were not dropped. -/
theorem baseIdentifier_characters (type : TypeIdentity) :
    (∀ c ∈ type.baseIdentifier.toList, isIdentifierChar c ∨ c = ' ' ∨
      'İ' ∈ type.simpleName.toList ∧ c = '\u0307') ∧
    (' ' ∈ type.baseIdentifier.toList ↔ KeepsSpace type.simpleName.toList) := by
  simp only [TypeIdentity.baseIdentifier, TypeIdentity.simpleName, String.toList_ofList]
  exact ⟨fun c => mem_identifierOf_cases, space_mem_identifierOf_iff⟩

/-- The space in the place of a bracket is one cluster with the mark after it, so it stays. -/
theorem baseIdentifier_keeps_space :
    ¬ ∀ type : TypeIdentity, ' ' ∉ type.baseIdentifier.toList := by
  have hname : (⟨"Cache<\u0345>"⟩ : TypeIdentity).baseIdentifier = "cache \u0345" := by
    decide +kernel
  intro h
  have hspace := h ⟨"Cache<\u0345>"⟩
  rw [hname] at hspace
  exact hspace (by decide)

/-- Without marks and letters that join, an identifier has no spaces. -/
theorem space_notMem_baseIdentifier (type : TypeIdentity)
    (h : ∀ c ∈ type.simpleName.toList, isMark c = false ∧ prependRanges.contains c = false) :
    ' ' ∉ type.baseIdentifier.toList := by
  rw [TypeIdentity.baseIdentifier, String.toList_ofList, space_mem_identifierOf_iff]
  rw [TypeIdentity.simpleName, String.toList_ofList] at h
  rintro ⟨c, d, hpair, ⟨_, _, hmark⟩ | ⟨_, hprepend, _⟩⟩
  · rw [(h d (hpair.subset (by simp))).1] at hmark
    cases hmark
  · rw [(h c (hpair.subset (by simp))).2] at hprepend
    cases hprepend

end CompositionRoot
