import CompositionRoot.Settings.Reader
import CompositionRoot.Settings.Value

/-! Values of JSON texts. Lists and tables are nested at most 127 deep, integers outside 64 bits are
doubles, and of a repeated key the last value counts. -/
namespace CompositionRoot.Json
open Reader

def skipBlanks : Reader Unit :=
  skipWhile fun c => c == ' ' || c == '\t' || c == '\n' || c == '\r'

/-- Takes the code point after `\u`, in one escape or in a pair of surrogates. -/
def unicodeEscape : Reader Char := do
  let high := digitsValue 16 (← exactly isHexDigit 4)
  if 0xD800 ≤ high && high ≤ 0xDBFF then
    expectAll "\\u"
    let low := digitsValue 16 (← exactly isHexDigit 4)
    if 0xDC00 ≤ low && low ≤ 0xDFFF then
      return Char.ofNat (0x10000 + (high - 0xD800) * 0x400 + (low - 0xDC00))
    else failure
  else if high.isValidChar then return Char.ofNat high
  else failure

def escape : Reader Char := do
  match ← next with
  | '"' => return '"'
  | '\\' => return '\\'
  | '/' => return '/'
  | 'b' => return '\x08'
  | 'f' => return '\x0c'
  | 'n' => return '\n'
  | 'r' => return '\r'
  | 't' => return '\t'
  | 'u' => unicodeEscape
  | _ => failure

def stringChar : Reader (Option Char) := do
  match ← next with
  | '"' => return none
  | '\\' => some <$> escape
  | c => if c < ' ' then failure else return some c

def string : Reader String := do
  expect '"'
  return String.ofList (← gather stringChar)

/-- Significands have 64 bits. -/
def significandLimit : Nat := 1 <<< 64

structure Scale where
  significand : Nat
  exponent : Int

/-- Adds digits to a significand as long as it stays below the limit. Gives it with the number of
the digits that found room. -/
def addDigits (significand : Nat) : List Char → Nat × Nat
  | [] => (significand, 0)
  | c :: rest =>
    let longer := significand * 10 + (c.toNat - '0'.toNat)
    if longer < significandLimit then
      let (all, count) := addDigits longer rest
      (all, count + 1)
    else (significand, 0)

/-- The double for a significand and a power of ten, each step of the scaling rounded. Nothing is
too small; what is too large is refused. -/
def scaled (limit : Nat) (value : Float) (exponent : Int) : Option Float :=
  let power (n : Nat) : Float := Float.ofScientific 1 false n
  if exponent.natAbs ≤ 308 then
    let factor := power exponent.natAbs
    let result := if exponent < 0 then value / factor else value * factor
    if result.isInf then none else some result
  else if value == 0 then some value
  else if 0 ≤ exponent then none
  else match limit with
    | 0 => some 0
    | limit + 1 => scaled limit (value / power 308) (exponent + 308)

/-- The double for a significand with a power of ten and its sign. A double is zero after two steps
of the scaling. -/
def toFloat (negative : Bool) (scale : Scale) : Option Float :=
  (scaled 4 (Float.ofNat scale.significand) scale.exponent).map fun value =>
    if negative then -value else value

def exponentPart : Reader (Option (Bool × Nat)) := do
  if (← accept 'e') || (← accept 'E') then
    let negative ← accept '-'
    if !negative then discard (accept '+')
    let digits ← takeWhile Char.isDigit
    if digits.isEmpty then failure
    return some (negative, digitsValue 10 digits)
  else
    return none

/-- The double for a significand, the power of ten of its last digit, and a written power. A written
power beyond 32 bits gives zero, unless the number is then too large. -/
def withExponent (negative : Bool) (scale : Scale) : Option (Bool × Nat) → Option Float
  | none => toFloat negative scale
  | some (down, size) =>
    if size ≤ 2147483647 then
      toFloat negative
        { scale with exponent := if down then scale.exponent - size else scale.exponent + size }
    else if scale.significand ≠ 0 && !down then none
    else some (if negative then -0.0 else 0.0)

def number : Reader (Kind Setting) := do
  let negative ← accept '-'
  let whole ← takeWhile Char.isDigit
  if whole.isEmpty || (whole.head? == some '0' && 1 < whole.length) then failure
  let (significand, used) := addDigits 0 whole
  let left := whole.length - used
  if (← peek?) = some '.' then
    expect '.'
    let fraction ← takeWhile Char.isDigit
    if fraction.isEmpty then failure
    let (longer, places) := addDigits significand fraction
    let scale : Scale := ⟨longer, (left : Int) - places⟩
    .float <$> withExponent negative scale (← exponentPart)
  else
    match ← exponentPart with
    | some power => .float <$> withExponent negative ⟨significand, left⟩ (some power)
    | none =>
      let value : Int := if negative then -(significand : Int) else significand
      if left = 0 && isWord value && !(negative && significand == 0) then
        return .integer value
      else
        .float <$> toFloat negative ⟨significand, left⟩

def scalar (origin : Option String) : Reader Setting := do
  match ← peek? with
  | some '"' => return ⟨origin, .text (← string)⟩
  | some 't' => expectAll "true"; return ⟨origin, .bool true⟩
  | some 'f' => expectAll "false"; return ⟨origin, .bool false⟩
  | some 'n' => expectAll "null"; return ⟨origin, .null⟩
  | _ => return ⟨origin, ← number⟩

/-- Takes items with commas between them, after the opening bracket and with the closing one. -/
def separated {α : Type} (item : Reader α) (close : Char) : Reader (List α) := do
  skipBlanks
  if ← accept close then return []
  let first ← item
  let rest ← gather do
    skipBlanks
    if ← accept close then return none
    expect ','
    skipBlanks
    some <$> item
  return first :: rest

/-- Takes a value with at most `levels` lists and tables around each of its parts. -/
def value (origin : Option String) : Nat → Reader Setting
  | 0 => scalar origin
  | levels + 1 => do
    match ← peek? with
    | some '[' =>
      expect '['
      return ⟨origin, .list (← separated (value origin levels) ']')⟩
    | some '{' =>
      expect '{'
      let entries ← separated (do
        let key ← string
        skipBlanks
        expect ':'
        skipBlanks
        return (key, ← value origin levels)) '}'
      let unique := entries.foldl (fun entries (key, value) => Entries.put entries key value) []
      return ⟨origin, .table unique⟩
    | _ => scalar origin

def read? (origin : Option String) (text : String) : Option Setting :=
  Reader.readAll? (do
    skipBlanks
    let setting ← value origin 127
    skipBlanks
    return setting) text.toList

end CompositionRoot.Json
