import CompositionRoot.Text.Alphabetic
import CompositionRoot.Text.Words
import Mathlib.Data.List.Flatten
import Mathlib.Data.List.SplitBy

/-! Characters of a text in flat case. The words keep the clusters that are no separators, and
lower case adds nothing but letters and the dot that a dotted capital leaves. A separator is a
cluster of its own, so a space that joins the character beside it is kept. -/
namespace CompositionRoot.Text

section Words

variable {text : List Char}

theorem flatten_splitOnP {α : Type} (p : α → Bool) (l : List α) :
    (l.splitOnP p).flatten = l.filter fun a => !p a := by
  induction l with
  | nil => rw [List.splitOnP_nil, List.filter_nil, List.flatten_singleton]
  | cons a l ih =>
    rw [List.splitOnP_cons_eq_if_modifyHead]
    cases ha : p a with
    | true =>
      simpa [ha] using ih
    | false =>
      obtain ⟨first, parts, hparts⟩ := List.exists_cons_of_ne_nil (List.splitOnP_ne_nil p l)
      rw [hparts, List.flatten_cons] at ih
      simp [hparts, ha, ← ih]

@[simp] theorem flatten_humps (parts : List Cluster) : (humps parts).flatten = parts := by
  induction parts with
  | nil => rfl
  | cons part parts ih =>
    rw [humps]
    cases hwords : humps parts with
    | nil => simp_all
    | cons word words =>
      rw [hwords] at ih
      dsimp only
      split <;> simp [← ih]

theorem flatten_clusters (text : List Char) : (clusters text).flatten = text :=
  List.flatten_splitBy joinsCluster text

theorem flatten_words (text : List Char) :
    (words text).flatten =
      ((clusters text).filter fun cluster => !isSeparator cluster).flatten := by
  have hhumps : (((clusters text).splitOnP isSeparator).flatMap humps).flatten =
      ((clusters text).splitOnP isSeparator).flatten := by
    rw [List.flatMap_def, List.flatten_flatten, List.map_map]
    simp [Function.comp_def]
  rw [words, ← List.flatten_flatten, hhumps, flatten_splitOnP]

theorem exists_mem_words_iff {c : Char} : (∃ word ∈ words text, c ∈ word) ↔
    ∃ cluster ∈ clusters text, isSeparator cluster = false ∧ c ∈ cluster := by
  rw [← List.mem_flatten, flatten_words, List.mem_flatten]
  simp only [List.mem_filter, Bool.not_eq_true', and_assoc]

theorem mem_of_mem_words {word : List Char} (hword : word ∈ words text) {c : Char}
    (hc : c ∈ word) : c ∈ text := by
  obtain ⟨cluster, hcluster, _, hmem⟩ := exists_mem_words_iff.mp ⟨word, hword, hc⟩
  rw [← flatten_clusters text]
  exact List.mem_flatten_of_mem hcluster hmem

end Words

section LowerCase

theorem mem_lowercaseAfter {before text : List Char} {d : Char}
    (h : d ∈ lowercaseAfter before text) :
    (∃ c ∈ text, d ∈ lowerOf c) ∨ d = 'ς' ∨ d = 'σ' := by
  induction text generalizing before with
  | nil => cases h
  | cons c rest ih =>
    rw [lowercaseAfter, List.mem_append] at h
    rcases h with h | h
    · split at h
      · rw [List.mem_singleton] at h
        subst h
        split <;> simp
      · exact Or.inl ⟨c, List.mem_cons_self, h⟩
    · rcases ih h with ⟨other, hmem, hd⟩ | hsigma
      · exact Or.inl ⟨other, List.mem_cons_of_mem _ hmem, hd⟩
      · exact Or.inr hsigma

theorem mem_lowercaseAfter_of_mem {before text : List Char} {c d : Char} (hc : c ∈ text)
    (hsigma : c ≠ 'Σ') (hd : d ∈ lowerOf c) : d ∈ lowercaseAfter before text := by
  induction text generalizing before with
  | nil => cases hc
  | cons other rest ih =>
    rw [lowercaseAfter, List.mem_append]
    rcases List.mem_cons.mp hc with rfl | hc
    · rw [if_neg hsigma]
      exact Or.inl hd
    · exact Or.inr (ih hc)

def Ranges.covers (ranges : Ranges) (first last : Nat) : Bool :=
  ranges.any fun range => range.1.ble first && last.ble range.2

theorem toNat_ofNat_of_isValidChar {code : Nat} (h : code.isValidChar) :
    (Char.ofNat code).toNat = code := by
  rw [Char.ofNat, dif_pos h]
  rfl

theorem isAlphabetic_ofNat {first code last : Nat} (h : alphabeticRanges.covers first last)
    (hfirst : first ≤ code) (hlast : code ≤ last) : isAlphabetic (Char.ofNat code) := by
  -- No range of alphabetic characters meets the surrogates.
  have hvalid : ∀ range ∈ alphabeticRanges,
      range.2 < 0xD800 ∨ 0xDFFF < range.1 ∧ range.2 < 0x110000 := by decide +kernel
  obtain ⟨range, hrange, hcovers⟩ := List.any_eq_true.mp h
  rw [Bool.and_eq_true, Nat.ble_eq, Nat.ble_eq] at hcovers
  have hcode : code.isValidChar := by
    rcases hvalid range hrange with hbelow | ⟨habove, hbound⟩
    · exact Or.inl (by omega)
    · exact Or.inr ⟨by omega, by omega⟩
  have htoNat := toNat_ofNat_of_isValidChar hcode
  have hbounds : range.1 ≤ code ∧ code ≤ range.2 := by omega
  rw [isAlphabetic, Ranges.contains, List.any_eq_true]
  exact ⟨range, hrange, by simp [htoNat, hbounds]⟩

namespace CaseRun

variable {run : CaseRun} {c d : Char}

def targets (run : CaseRun) : List Nat :=
  (List.range ((run.last - run.first) / run.stride + 1)).map fun k =>
    (((run.first + run.stride * k : Nat) : Int) + run.offset).toNat

theorem exists_target (h : run.shift? c = some d) : ∃ code ∈ run.targets, Char.ofNat code = d ∧
    (run.first + run.offset).toNat ≤ code ∧ code ≤ (run.last + run.offset).toNat := by
  unfold shift? at h
  split at h
  · next hbounds =>
    obtain ⟨hfirst, hlast, hstride⟩ := hbounds
    refine ⟨_, List.mem_map.mpr ⟨(c.toNat - run.first) / run.stride, ?_, ?_⟩,
      Option.some.inj h, by omega, by omega⟩
    · rw [List.mem_range, Nat.lt_add_one_iff]
      exact Nat.div_le_div_right (by omega)
    · rw [Nat.mul_div_cancel' (Nat.dvd_of_mod_eq_zero hstride), Nat.add_sub_cancel' hfirst]
  · cases h

/-- Whether a run takes its characters to letters. Where its stride passes over characters that are
none, each target is looked up. -/
def leadsToLetters (run : CaseRun) : Bool :=
  alphabeticRanges.covers (run.first + run.offset).toNat (run.last + run.offset).toNat ||
    run.targets.all fun code => alphabeticRanges.covers code code

theorem isAlphabetic_of_shift? (hrun : run.leadsToLetters) (h : run.shift? c = some d) :
    isAlphabetic d := by
  obtain ⟨code, hcode, rfl, hfirst, hlast⟩ := exists_target h
  rcases Bool.or_eq_true_iff.mp hrun with hwhole | hall
  · exact isAlphabetic_ofNat hwhole hfirst hlast
  · exact isAlphabetic_ofNat (List.all_eq_true.mp hall _ hcode) le_rfl le_rfl

end CaseRun

theorem leadsToLetters_of_mem_lowerRuns : ∀ run ∈ lowerRuns, run.leadsToLetters :=
  List.all_eq_true.mp (by decide +kernel)

/-- Lower case leaves a character as it is or makes a letter of it, but for the dot of a dotted
capital. -/
theorem mem_lowerOf_cases {c d : Char} (h : d ∈ lowerOf c) :
    d = c ∨ isAlphabetic d ∨ c = 'İ' ∧ d = '\u0307' := by
  unfold lowerOf at h
  split at h
  · next hdotted =>
    rcases List.mem_pair.mp h with rfl | hdot
    · exact Or.inr (Or.inl (by decide +kernel))
    · exact Or.inr (Or.inr ⟨hdotted, hdot⟩)
  · rw [List.mem_singleton, shiftCase] at h
    cases hshift : lowerRuns.findSome? (CaseRun.shift? · c) with
    | none =>
      rw [hshift] at h
      exact Or.inl h
    | some e =>
      rw [hshift, Option.getD_some] at h
      obtain ⟨run, hrun, he⟩ := List.exists_of_findSome?_eq_some hshift
      exact Or.inr (Or.inl (h ▸
        CaseRun.isAlphabetic_of_shift? (leadsToLetters_of_mem_lowerRuns run hrun) he))

theorem mem_flatCase_cases {text : List Char} {d : Char} (h : d ∈ flatCase text) :
    d ∈ text ∨ isAlphabetic d ∨ 'İ' ∈ text ∧ d = '\u0307' := by
  obtain ⟨word, hword, hd⟩ := List.mem_flatMap.mp h
  rcases mem_lowercaseAfter hd with ⟨c, hc, hlower⟩ | rfl | rfl
  · have hc := mem_of_mem_words hword hc
    rcases mem_lowerOf_cases hlower with rfl | hletter | ⟨rfl, hdot⟩
    · exact Or.inl hc
    · exact Or.inr (Or.inl hletter)
    · exact Or.inr (Or.inr ⟨hc, hdot⟩)
  · exact Or.inr (Or.inl (by decide +kernel))
  · exact Or.inr (Or.inl (by decide +kernel))

end LowerCase

section Spaces

variable {text : List Char}

theorem space_mem_lowercase_iff : ' ' ∈ lowercase text ↔ ' ' ∈ text := by
  have hletter : ¬ isAlphabetic ' ' := by decide +kernel
  have hlower : lowerOf ' ' = [' '] := by decide +kernel
  constructor
  · intro h
    rcases mem_lowercaseAfter h with ⟨c, hc, hspace⟩ | hsigma
    · rcases mem_lowerOf_cases hspace with rfl | halphabetic | ⟨_, hdot⟩
      · exact hc
      · exact absurd halphabetic hletter
      · exact absurd hdot (by decide)
    · exact absurd hsigma (by decide)
  · intro h
    exact mem_lowercaseAfter_of_mem h (by decide) (hlower ▸ List.mem_singleton_self ' ')

theorem isChain_clusters (text : List Char) : text.IsChain fun c d =>
    joinsCluster c d → ∃ cluster ∈ clusters text, [c, d] <:+: cluster := by
  have hwithin : ∀ cluster ∈ clusters text, cluster.IsChain fun c d =>
      joinsCluster c d → ∃ cluster ∈ clusters text, [c, d] <:+: cluster := by
    refine fun cluster hcluster => List.isChain_iff_forall_rel_of_append_cons_cons.mpr ?_
    rintro c d before after rfl _
    exact ⟨_, hcluster, before, after, by simp⟩
  have hbetween : (clusters text).IsChain fun cluster next => ∀ c ∈ cluster.getLast?,
      ∀ d ∈ next.head?, joinsCluster c d →
        ∃ cluster ∈ clusters text, [c, d] <:+: cluster := by
    refine (List.isChain_getLast_head_splitBy joinsCluster text).imp ?_
    rintro cluster next ⟨hcluster, hnext, hapart⟩ c hc d hd hjoin
    rw [List.getLast_of_mem_getLast? hc, List.head_of_mem_head? hd, hjoin] at hapart
    cases hapart
  have h := (List.isChain_flatten (List.nil_notMem_splitBy joinsCluster text)).mpr
    ⟨hwithin, hbetween⟩
  rwa [List.flatten_splitBy] at h

/-- Neighbours are in one cluster exactly if they join. -/
theorem exists_mem_clusters_iff {c d : Char} :
    (∃ cluster ∈ clusters text, [c, d] <:+: cluster) ↔
      [c, d] <:+: text ∧ joinsCluster c d := by
  constructor
  · rintro ⟨cluster, hcluster, hpair⟩
    have htext := List.infix_of_mem_flatten hcluster
    rw [flatten_clusters] at htext
    have hchain := List.IsChain.infix (List.isChain_of_mem_splitBy hcluster) hpair
    exact ⟨hpair.trans htext, by simpa using hchain⟩
  · rintro ⟨hpair, hjoin⟩
    have hchain := List.IsChain.infix (isChain_clusters text) hpair
    exact List.isChain_pair.mp hchain hjoin

theorem space_mem_flatCase_iff : ' ' ∈ flatCase text ↔
    ∃ c d, [c, d] <:+: text ∧ joinsCluster c d ∧ (c = ' ' ∨ d = ' ') := by
  simp only [flatCase, List.mem_flatMap, space_mem_lowercase_iff, exists_mem_words_iff]
  constructor
  · rintro ⟨cluster, hcluster, hseparator, hspace⟩
    -- The space is not alone in its cluster, so it has a neighbour there.
    obtain ⟨before, after, rfl⟩ := List.append_of_mem hspace
    have hpair : ∃ c d, [c, d] <:+: before ++ ' ' :: after ∧ (c = ' ' ∨ d = ' ') := by
      cases after with
      | cons d rest => exact ⟨' ', d, ⟨before, rest, by simp⟩, Or.inl rfl⟩
      | nil =>
        rcases List.eq_nil_or_concat before with rfl | ⟨front, c, rfl⟩
        · cases hseparator
        · exact ⟨c, ' ', ⟨front, [], by simp⟩, Or.inr rfl⟩
    obtain ⟨c, d, hpair, heq⟩ := hpair
    obtain ⟨htext, hjoin⟩ := exists_mem_clusters_iff.mp ⟨_, hcluster, hpair⟩
    exact ⟨c, d, htext, hjoin, heq⟩
  · rintro ⟨c, d, hpair, hjoin, heq⟩
    obtain ⟨cluster, hcluster, before, after, rfl⟩ := exists_mem_clusters_iff.mpr ⟨hpair, hjoin⟩
    refine ⟨_, hcluster, ?_, ?_⟩
    · simp [isSeparator, List.append_eq_singleton_iff]
    · rcases heq with rfl | rfl <;> simp

end Spaces

end CompositionRoot.Text
