import CompositionRoot.Graph.Identifier

/-! Names of types without their qualifiers. Behind a dot outside brackets the scan of a name goes
on as if the name began there, so what stands before the last such dot has no influence. The dot is
one byte, and a cut behind it does not split a character. -/
namespace CompositionRoot

def depthAfter (depth : Nat) (text : List Char) : Nat :=
  text.foldl bracketDepth depth

@[simp] theorem depthAfter_nil (depth : Nat) : depthAfter depth [] = depth :=
  rfl

@[simp] theorem depthAfter_cons (depth : Nat) (c : Char) (rest : List Char) :
    depthAfter depth (c :: rest) = depthAfter (bracketDepth depth c) rest :=
  rfl

@[simp] theorem bracketDepth_dot (depth : Nat) : bracketDepth depth '.' = depth :=
  rfl

def HasOuterDot (depth : Nat) (text : List Char) : Prop :=
  ∃ before after, text = before ++ '.' :: after ∧ depthAfter depth before = 0

theorem not_hasOuterDot_nil (depth : Nat) : ¬ HasOuterDot depth [] := by
  rintro ⟨before, after, heq, _⟩
  simp at heq

theorem hasOuterDot_cons_iff {depth : Nat} {c : Char} {rest : List Char} :
    HasOuterDot depth (c :: rest) ↔
      c = '.' ∧ depth = 0 ∨ HasOuterDot (bracketDepth depth c) rest := by
  constructor
  · rintro ⟨before, after, heq, hdepth⟩
    cases before with
    | nil =>
      obtain ⟨rfl, rfl⟩ := List.cons.inj heq
      exact Or.inl ⟨rfl, hdepth⟩
    | cons first before =>
      obtain ⟨rfl, rfl⟩ := List.cons.inj heq
      exact Or.inr ⟨before, after, rfl, hdepth⟩
  · rintro (⟨rfl, rfl⟩ | ⟨before, after, rfl, hdepth⟩)
    · exact ⟨[], rest, rfl, rfl⟩
    · exact ⟨c :: before, after, rfl, hdepth⟩

/-- Behind the last dot at depth zero there is none, whatever the depth at the beginning was. -/
theorem HasOuterDot.exists_last {depth : Nat} {text : List Char} (h : HasOuterDot depth text) :
    ∃ outer rest, text = outer ++ '.' :: rest ∧ depthAfter depth outer = 0 ∧
      ¬ HasOuterDot 0 rest := by
  induction text generalizing depth with
  | nil => exact absurd h (not_hasOuterDot_nil depth)
  | cons c rest ih =>
    by_cases hlater : HasOuterDot (bracketDepth depth c) rest
    · obtain ⟨outer, last, rfl, hdepth, hlast⟩ := ih hlater
      exact ⟨c :: outer, last, rfl, hdepth, hlast⟩
    · obtain ⟨rfl, rfl⟩ := (hasOuterDot_cons_iff.mp h).resolve_right hlater
      exact ⟨[], rest, rfl, rfl, hlater⟩

theorem lastSegmentFrom_of_not_hasOuterDot {depth : Nat} {text : List Char}
    (h : ¬ HasOuterDot depth text) (segment : List Char) :
    lastSegmentFrom depth segment text = segment.reverse ++ text := by
  induction text generalizing depth segment with
  | nil => simp [lastSegmentFrom]
  | cons c rest ih =>
    rw [hasOuterDot_cons_iff, not_or] at h
    rw [lastSegmentFrom, if_neg h.1, ih h.2]
    simp

theorem lastSegment_of_not_hasOuterDot {text : List Char} (h : ¬ HasOuterDot 0 text) :
    lastSegment text = text :=
  lastSegmentFrom_of_not_hasOuterDot h []

/-- The scan begins anew behind a dot at depth zero. -/
theorem lastSegmentFrom_append_dot {depth : Nat} {outer : List Char}
    (h : depthAfter depth outer = 0) (segment rest : List Char) :
    lastSegmentFrom depth segment (outer ++ '.' :: rest) = lastSegment rest := by
  induction outer generalizing depth segment with
  | nil =>
    rw [depthAfter_nil] at h
    subst h
    rw [List.nil_append, lastSegmentFrom, if_pos ⟨rfl, rfl⟩, lastSegment]
  | cons c outer ih =>
    rw [List.cons_append, lastSegmentFrom]
    split
    · next hdot =>
      obtain ⟨rfl, rfl⟩ := hdot
      exact ih h []
    · exact ih h (c :: segment)

theorem lastSegment_append_dot {outer : List Char} (h : depthAfter 0 outer = 0)
    (rest : List Char) : lastSegment (outer ++ '.' :: rest) = lastSegment rest :=
  lastSegmentFrom_append_dot h [] rest

/-- The byte at which the last segment begins, for a scan that has come to the byte `offset` at
`depth`, in a segment that begins at the byte `start`. -/
def segmentStartFrom (depth offset start : Nat) : List Char → Nat
  | [] => start
  | c :: rest =>
    segmentStartFrom (bracketDepth depth c) (offset + c.utf8Size)
      (if c = '.' ∧ depth = 0 then offset + 1 else start) rest

def TypeIdentity.segmentStart (type : TypeIdentity) : Nat :=
  segmentStartFrom 0 0 0 type.name.toList

theorem utf8ByteSize_ofList_cons (c : Char) (rest : List Char) :
    (String.ofList (c :: rest)).utf8ByteSize =
      c.utf8Size + (String.ofList rest).utf8ByteSize := by
  rw [String.ofList_cons, String.utf8ByteSize_append, String.utf8ByteSize_singleton]

theorem segmentStartFrom_of_not_hasOuterDot {depth : Nat} {text : List Char}
    (h : ¬ HasOuterDot depth text) (offset start : Nat) :
    segmentStartFrom depth offset start text = start := by
  induction text generalizing depth offset with
  | nil => rfl
  | cons c rest ih =>
    rw [hasOuterDot_cons_iff, not_or] at h
    rw [segmentStartFrom, if_neg h.1, ih h.2]

/-- A dot is one byte, so the segment behind it begins at a character. -/
theorem segmentStartFrom_append_dot {depth : Nat} {outer rest : List Char}
    (h : depthAfter depth outer = 0) (hrest : ¬ HasOuterDot 0 rest) (offset start : Nat) :
    segmentStartFrom depth offset start (outer ++ '.' :: rest) =
      offset + (String.ofList outer).utf8ByteSize + 1 := by
  induction outer generalizing depth offset start with
  | nil =>
    rw [depthAfter_nil] at h
    subst h
    rw [List.nil_append, segmentStartFrom, if_pos ⟨rfl, rfl⟩, bracketDepth_dot,
      segmentStartFrom_of_not_hasOuterDot hrest]
    rfl
  | cons c outer ih =>
    rw [List.cons_append, segmentStartFrom, ih h, utf8ByteSize_ofList_cons]
    omega

namespace TypeIdentity

/-- A name begins with a qualifier, which is empty or ends with a dot at depth zero. The simple name
is what follows, and the byte found by the scan is the first behind the qualifier. -/
theorem exists_qualifier (type : TypeIdentity) :
    ∃ qualifier, type.name = qualifier ++ type.simpleName ∧
      type.segmentStart = qualifier.utf8ByteSize ∧ ¬ HasOuterDot 0 type.simpleName.toList ∧
      (qualifier = "" ∨ ∃ outer, qualifier = outer ++ "." ∧ depthAfter 0 outer.toList = 0) := by
  have hname : type.name = String.ofList type.name.toList := String.ofList_toList.symm
  rw [simpleName, segmentStart, String.toList_ofList]
  by_cases hdot : HasOuterDot 0 type.name.toList
  · obtain ⟨outer, rest, heq, hdepth, hrest⟩ := hdot.exists_last
    rw [hname, heq, String.toList_ofList, lastSegment_append_dot hdepth,
      lastSegment_of_not_hasOuterDot hrest]
    refine ⟨String.ofList outer ++ ".", ?_, ?_, hrest, Or.inr ⟨String.ofList outer, rfl, ?_⟩⟩
    · rw [String.append_assoc, String.ofList_append, String.ofList_cons]
      rfl
    · rw [segmentStartFrom_append_dot hdepth hrest, String.utf8ByteSize_append, Nat.zero_add]
      rfl
    · rw [String.toList_ofList]
      exact hdepth
  · rw [lastSegment_of_not_hasOuterDot hdot, segmentStartFrom_of_not_hasOuterDot hdot]
    refine ⟨"", ?_, rfl, hdot, Or.inl rfl⟩
    rw [String.empty_append]
    exact hname

/-- The start of the simple name is a position of the name, between two of its characters or at one
of its ends. -/
theorem exists_segmentStart_pos (type : TypeIdentity) :
    ∃ start : type.name.Pos, start.offset.byteIdx = type.segmentStart ∧
      (type.name.sliceFrom start).copy = type.simpleName := by
  obtain ⟨qualifier, hname, hstart, _⟩ := type.exists_qualifier
  have hvalid : qualifier.rawEndPos.IsValid type.name :=
    String.Pos.Raw.isValid_iff_exists_append.mpr ⟨qualifier, type.simpleName, hname, rfl⟩
  have hsplits : (⟨qualifier.rawEndPos, hvalid⟩ : type.name.Pos).Splits qualifier type.simpleName :=
    ⟨hname, rfl⟩
  exact ⟨_, hstart.symm, (String.Pos.splits _).eq_right hsplits⟩

theorem simpleName_of_not_hasOuterDot {type : TypeIdentity}
    (h : ¬ HasOuterDot 0 type.name.toList) : type.simpleName = type.name := by
  rw [simpleName, lastSegment_of_not_hasOuterDot h, String.ofList_toList]

theorem simpleName_qualified {qualifier : String} (h : depthAfter 0 qualifier.toList = 0)
    (name : String) : simpleName ⟨qualifier ++ "." ++ name⟩ = simpleName ⟨name⟩ := by
  have hname : (qualifier ++ "." ++ name).toList = qualifier.toList ++ '.' :: name.toList := by
    rw [String.append_assoc, String.toList_append, String.toList_append]
    rfl
  simp only [simpleName, hname, lastSegment_append_dot h]

theorem baseIdentifier_eq (type : TypeIdentity) :
    type.baseIdentifier = String.ofList (identifierOf type.simpleName.toList) := by
  rw [baseIdentifier, simpleName, String.toList_ofList]

end TypeIdentity

/-- The simple name is the whole name or what follows a dot at depth zero, has no such dot itself,
and is what a cut at a byte leaves. Hence it is its own simple name, and neither it nor the
identifier depends on a qualifier that ends at depth zero. -/
theorem simpleName_follows_last_outer_dot (type : TypeIdentity) :
    (type.simpleName = type.name ∨ ∃ outer,
      type.name = outer ++ "." ++ type.simpleName ∧ depthAfter 0 outer.toList = 0) ∧
    ¬ HasOuterDot 0 type.simpleName.toList ∧
    (∃ start : type.name.Pos, start.offset.byteIdx = type.segmentStart ∧
      (type.name.sliceFrom start).copy = type.simpleName) ∧
    TypeIdentity.simpleName ⟨type.simpleName⟩ = type.simpleName ∧
    ∀ qualifier : String, depthAfter 0 qualifier.toList = 0 →
      TypeIdentity.simpleName ⟨qualifier ++ "." ++ type.name⟩ = type.simpleName ∧
      TypeIdentity.baseIdentifier ⟨qualifier ++ "." ++ type.name⟩ = type.baseIdentifier := by
  obtain ⟨before, hname, _, hnodot, hbefore⟩ := type.exists_qualifier
  refine ⟨?_, hnodot, type.exists_segmentStart_pos, ?_, fun qualifier hdepth => ?_⟩
  · rcases hbefore with rfl | ⟨outer, rfl, hdepth⟩
    · rw [String.empty_append] at hname
      exact Or.inl hname.symm
    · exact Or.inr ⟨outer, hname, hdepth⟩
  · exact TypeIdentity.simpleName_of_not_hasOuterDot hnodot
  · have hsimple : TypeIdentity.simpleName ⟨qualifier ++ "." ++ type.name⟩ = type.simpleName :=
      TypeIdentity.simpleName_qualified hdepth type.name
    refine ⟨hsimple, ?_⟩
    rw [TypeIdentity.baseIdentifier_eq, hsimple, ← TypeIdentity.baseIdentifier_eq]

/-- A bracket that closes nothing leaves the depth at zero, so it can stand in a qualifier. -/
theorem repository_name_qualified :
    depthAfter 0 "Café>.App".toList = 0 ∧
    TypeIdentity.simpleName ⟨"Café>.App" ++ "." ++ "Repository<App.User>"⟩ =
      "Repository<App.User>" ∧
    TypeIdentity.baseIdentifier ⟨"Café>.App" ++ "." ++ "Repository<App.User>"⟩ =
      "repositoryappuser" := by
  have hdepth : depthAfter 0 "Café>.App".toList = 0 := by decide
  obtain ⟨_, _, _, _, hqualified⟩ :=
    simpleName_follows_last_outer_dot ⟨"Repository<App.User>"⟩
  obtain ⟨hsimple, hidentifier⟩ := hqualified "Café>.App" hdepth
  have hname : TypeIdentity.simpleName ⟨"Repository<App.User>"⟩ = "Repository<App.User>" := by
    decide +kernel
  have hbase : TypeIdentity.baseIdentifier ⟨"Repository<App.User>"⟩ = "repositoryappuser" := by
    decide +kernel
  exact ⟨hdepth, hsimple.trans hname, hidentifier.trans hbase⟩

/-- Behind a bracket that stays open there is no dot at depth zero. -/
example : TypeIdentity.simpleName ⟨"App.Cache[App.User"⟩ = "Cache[App.User" := by
  decide +kernel

end CompositionRoot
