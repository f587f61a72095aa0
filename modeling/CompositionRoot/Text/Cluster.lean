import CompositionRoot.Text.ClusterTable

/-! User-perceived characters: a character and the marks that join it, or a syllable block. The
rules cover texts of letters, marks, digits, underscores and spaces. -/
namespace CompositionRoot.Text

/-- Characters read as one. -/
abbrev Cluster := List Char

inductive SyllablePart where
  | lead
  | vowel
  | trail
  | leadVowel
  | leadVowelTrail
deriving DecidableEq

def syllablePart? (c : Char) : Option SyllablePart :=
  let code := c.toNat
  if Ranges.contains [(0x1100, 0x115F), (0xA960, 0xA97C)] c then
    some .lead
  else if Ranges.contains
      [(0x1160, 0x11A7), (0xD7B0, 0xD7C6), (0x16D63, 0x16D63), (0x16D67, 0x16D6A)] c then
    some .vowel
  else if Ranges.contains [(0x11A8, 0x11FF), (0xD7CB, 0xD7FB)] c then
    some .trail
  else if Ranges.contains [(0xAC00, 0xD7A3)] c then
    some (if (code - 0xAC00) % 28 = 0 then .leadVowel else .leadVowelTrail)
  else
    none

/-- Whether the second part continues the syllable block of the first. -/
def SyllablePart.joins : SyllablePart → SyllablePart → Bool
  | .lead, .trail => false
  | .lead, _ => true
  | .vowel, .vowel | .vowel, .trail => true
  | .leadVowel, .vowel | .leadVowel, .trail => true
  | .trail, .trail | .leadVowelTrail, .trail => true
  | _, _ => false

/-- Whether `d` belongs to the cluster of the character `c` before it. -/
def joinsCluster (c d : Char) : Bool :=
  graphemeExtendRanges.contains d || spacingMarkRanges.contains d || prependRanges.contains c ||
    match syllablePart? c, syllablePart? d with
    | some part, some next => part.joins next
    | _, _ => false

def clusters (text : List Char) : List Cluster :=
  text.splitBy joinsCluster

end CompositionRoot.Text
