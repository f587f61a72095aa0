import CompositionRoot.Graph.Identifier
import Mathlib.Data.List.Nodup
import Mathlib.Data.List.Perm.Subperm
import Std.Data.String.ToNat

/-! Fresh identifiers. There is one more candidate than names taken and no two candidates agree, so
one of them is free, and the search comes to the first that is. -/
namespace CompositionRoot

theorem numbered_injective (base : String) : Function.Injective (numbered base) := by
  intro k l h
  have h := congrArg String.toList h
  simp only [numbered, String.toList_append] at h
  exact Nat.repr_injective (String.toList_inj.mp (List.append_cancel_left h))

/-- The names that are tried once the base name is taken, in the order in which they are tried. -/
def numberedCandidates (taken : List String) (base : String) : List String :=
  (List.range' 2 (taken.length + 1)).map (numbered base)

/-- Some candidate is free, by the number of them. -/
theorem exists_free_candidate (taken : List String) (base : String) :
    ∃ name ∈ numberedCandidates taken base, name ∉ taken := by
  by_contra h
  have hsub : numberedCandidates taken base ⊆ taken := by
    intro name hname
    by_contra hfree
    exact h ⟨name, hname, hfree⟩
  have hnodup : (numberedCandidates taken base).Nodup :=
    List.Nodup.map (numbered_injective base) List.nodup_range'
  have hle := (List.subperm_of_subset hnodup hsub).length_le
  simp only [numberedCandidates, List.length_map, List.length_range'] at hle
  omega

/-- The search for a candidate succeeds, with the first that is free. -/
theorem find?_numberedCandidates (taken : List String) (base : String) :
    ∃ name, (numberedCandidates taken base).find? (· ∉ taken) = some name ∧ name ∉ taken := by
  obtain ⟨free, hmem, hfree⟩ := exists_free_candidate taken base
  have hsome : ((numberedCandidates taken base).find? (· ∉ taken)).isSome :=
    List.find?_isSome.mpr ⟨free, hmem, decide_eq_true hfree⟩
  obtain ⟨name, hname⟩ := Option.isSome_iff_exists.mp hsome
  have hfound := List.find?_some hname
  exact ⟨name, hname, of_decide_eq_true hfound⟩

/-- The first name for a base that is not taken: the base itself, or else the base with the least
number from two on that makes it free. Fewer numbers are taken than names, since the base is one of
these. -/
inductive FirstFree (taken : List String) (base : String) : String → Prop where
  | base (free : base ∉ taken) : FirstFree taken base base
  | numbered {k : Nat} (used : base ∈ taken) (two_le : 2 ≤ k) (le : k ≤ taken.length + 1)
      (free : numbered base k ∉ taken) (least : ∀ j, 2 ≤ j → j < k → numbered base j ∈ taken) :
      FirstFree taken base (numbered base k)

theorem numbered_ne_base (base : String) (k : Nat) : numbered base k ≠ base := by
  intro h
  have h := congrArg String.length h
  simp [numbered, String.length_append] at h

/-- The base and its candidates before the first free one are as many distinct names. -/
theorem le_length_of_least {taken : List String} {base : String} {k : Nat} (used : base ∈ taken)
    (least : ∀ j, 2 ≤ j → j < k → numbered base j ∈ taken) : k ≤ taken.length + 1 := by
  let candidates := (List.range' 2 (k - 2)).map (numbered base)
  have hsub : base :: candidates ⊆ taken := by
    refine List.cons_subset.mpr ⟨used, fun name hname => ?_⟩
    obtain ⟨j, hj, rfl⟩ := List.mem_map.mp hname
    rw [List.mem_range'_1] at hj
    exact least j hj.1 (by omega)
  have hnodup : (base :: candidates).Nodup := by
    refine List.nodup_cons.mpr ⟨fun hbase => ?_, ?_⟩
    · obtain ⟨j, _, hj⟩ := List.mem_map.mp hbase
      exact numbered_ne_base base j hj
    · exact List.Nodup.map (numbered_injective base) List.nodup_range'
  have hle := (List.subperm_of_subset hnodup hsub).length_le
  simp only [candidates, List.length_cons, List.length_map, List.length_range'] at hle
  omega

namespace FirstFree

variable {taken others : List String} {base name other : String}

theorem notMem (h : FirstFree taken base name) : name ∉ taken := by
  cases h with
  | base free => exact free
  | numbered _ _ _ free => exact free

theorem unique (h : FirstFree taken base name) (h' : FirstFree taken base other) :
    name = other := by
  cases h with
  | base free =>
    cases h' with
    | base => rfl
    | numbered used => exact absurd used free
  | @numbered k used two_le _ free least =>
    cases h' with
    | base free => exact absurd used free
    | @numbered l _ two_le' _ free' least' =>
      rcases Nat.lt_trichotomy k l with hlt | rfl | hgt
      · exact absurd (least' k two_le hlt) free
      · rfl
      · exact absurd (least l two_le' hgt) free'

/-- The order of the taken names does not matter. -/
theorem perm (h : FirstFree taken base name) (hperm : taken.Perm others) :
    FirstFree others base name := by
  cases h with
  | base free => exact .base (hperm.mem_iff.not.mp free)
  | numbered used two_le le free least =>
    exact .numbered (hperm.mem_iff.mp used) two_le (hperm.length_eq ▸ le)
      (hperm.mem_iff.not.mp free) fun j hj hlt => hperm.mem_iff.mp (least j hj hlt)

end FirstFree

/-- Where the base is taken, the identifier is what the search finds. -/
theorem find?_eq_freshIdentifier {taken : List String} {base : String} (used : base ∈ taken) :
    (numberedCandidates taken base).find? (· ∉ taken) = some (freshIdentifier taken base) := by
  obtain ⟨name, hname, _⟩ := find?_numberedCandidates taken base
  have hidentifier : freshIdentifier taken base =
      ((numberedCandidates taken base).find? (· ∉ taken)).getD "" := if_pos used
  rw [hidentifier, hname, Option.getD_some]

theorem firstFree_freshIdentifier (taken : List String) (base : String) :
    FirstFree taken base (freshIdentifier taken base) := by
  by_cases used : base ∈ taken
  · have hfound := find?_eq_freshIdentifier used
    rw [numberedCandidates, List.find?_map, Option.map_eq_some_iff] at hfound
    obtain ⟨k, hk, hname⟩ := hfound
    obtain ⟨hfree, hrange, hearlier⟩ := List.find?_range'_eq_some.mp hk
    have free : numbered base k ∉ taken := by simpa using hfree
    have least : ∀ j, 2 ≤ j → j < k → numbered base j ∈ taken := by
      intro j hj hlt
      simpa using hearlier j hj hlt
    rw [← hname]
    exact .numbered used (List.mem_range'_1.mp hrange).1 (le_length_of_least used least) free least
  · rw [freshIdentifier, if_neg used]
    exact .base used

theorem freshIdentifier_notMem (taken : List String) (base : String) :
    freshIdentifier taken base ∉ taken :=
  (firstFree_freshIdentifier taken base).notMem

end CompositionRoot
