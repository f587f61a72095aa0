/-! Readers of text. A reader takes a value from the front of a text, or refuses the text. -/
namespace CompositionRoot

/-- Takes a value from the front of a text. -/
abbrev Reader (α : Type) := StateT (List Char) Option α

namespace Reader

def peek? : Reader (Option Char) :=
  return (← get).head?

def next? : Reader (Option Char) := do
  let rest ← get
  set rest.tail
  return rest.head?

def next : Reader Char := do
  match ← next? with
  | some c => return c
  | none => failure

def accept (c : Char) : Reader Bool := do
  if (← peek?) = some c then
    set (← get).tail
    return true
  else
    return false

def expect (c : Char) : Reader Unit := do
  if !(← accept c) then failure

def expectAll (text : String) : Reader Unit :=
  text.toList.forM expect

def takeWhile (p : Char → Bool) : Reader (List Char) := do
  let rest ← get
  set (rest.dropWhile p)
  return rest.takeWhile p

def skipWhile (p : Char → Bool) : Reader Unit :=
  modify (·.dropWhile p)

def exactly (p : Char → Bool) : Nat → Reader (List Char)
  | 0 => return []
  | count + 1 => do
    let c ← next
    if p c then return c :: (← exactly p count) else failure

def gatherWithin {α : Type} (step : Reader (Option α)) : Nat → Reader (List α)
  | 0 => failure
  | limit + 1 => do
    match ← step with
    | none => return []
    | some value => return value :: (← gatherWithin step limit)

/-- Takes values as long as there is another; each is at least one character. -/
def gather {α : Type} (step : Reader (Option α)) : Reader (List α) := do
  gatherWithin step ((← get).length + 1)

def readAll? {α : Type} (reader : Reader α) (text : List Char) : Option α :=
  match reader.run text with
  | some (value, []) => some value
  | _ => none

/-- The number that digits in a base below seventeen stand for. -/
def digitsValue (base : Nat) (digits : List Char) : Nat :=
  let digit (c : Char) : Nat :=
    if c.isDigit then c.toNat - '0'.toNat else c.toLower.toNat - 'a'.toNat + 10
  digits.foldl (fun value c => value * base + digit c) 0

/-- Whether an integer fits into 64 bits, one of which is its sign. -/
def isWord (value : Int) : Bool :=
  -9223372036854775808 ≤ value && value ≤ 9223372036854775807

def isHexDigit (c : Char) : Bool :=
  c.isDigit || ('a' ≤ c && c ≤ 'f') || ('A' ≤ c && c ≤ 'F')

/-- Takes the hexadecimal code point of a character, in a number of digits. -/
def codePoint (count : Nat) : Reader Char := do
  let code := digitsValue 16 (← exactly isHexDigit count)
  if code.isValidChar then return Char.ofNat code else failure

end Reader

end CompositionRoot
