import CompositionRoot.Text.CaseTable

/-! Letter case of whole texts. A letter may have several characters as its counterpart, and a
capital sigma at the end of a word takes its final form in lower case. -/
namespace CompositionRoot.Text

/-- The counterpart of `c` in the other case, if the run holds `c`. -/
def CaseRun.shift? (run : CaseRun) (c : Char) : Option Char :=
  if run.first ≤ c.toNat ∧ c.toNat ≤ run.last ∧ (c.toNat - run.first) % run.stride = 0 then
    some (Char.ofNat (c.toNat + run.offset).toNat)
  else
    none

/-- The counterpart of `c` by the first run that holds it; other characters stay. -/
def shiftCase (runs : List CaseRun) (c : Char) : Char :=
  (runs.findSome? (CaseRun.shift? · c)).getD c

def lowerOf (c : Char) : List Char :=
  if c = 'İ' then ['i', '\u0307'] else [shiftCase lowerRuns c]

def upperOf (c : Char) : List Char :=
  match upperExpansions.lookup c.toNat with
  | some expansion => expansion.map Char.ofNat
  | none => [shiftCase upperRuns c]

/-- Whether a cased letter comes first, characters that casing ignores left aside. -/
def meetsCased (text : List Char) : Bool :=
  (text.dropWhile caseIgnorableRanges.contains).head?.any casedRanges.contains

/-- The lower-case form of a text that follows the characters `before`, the nearest first. -/
def lowercaseAfter (before : List Char) : List Char → List Char
  | [] => []
  | c :: rest =>
    let lowered :=
      if c = 'Σ' then [if meetsCased before && !meetsCased rest then 'ς' else 'σ'] else lowerOf c
    lowered ++ lowercaseAfter (c :: before) rest

def lowercase (text : List Char) : List Char :=
  lowercaseAfter [] text

def uppercase (text : List Char) : List Char :=
  text.flatMap upperOf

end CompositionRoot.Text
