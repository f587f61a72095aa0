import CompositionRoot.Decimal.Nearest
import CompositionRoot.Settings.Toml.DateTime
import CompositionRoot.Settings.Toml.Text
import CompositionRoot.Settings.Value

/-! Numbers, dates and times of TOML texts. A date is the text that shows it. -/
namespace CompositionRoot.Toml
open Reader

/-- Splits digits from the front of a word. Single underscores may stand between digits; a zero in
front stands alone unless zeros may lead. -/
def digitRun (isDigit : Char → Bool) (zerosLead : Bool) (word : List Char) :
    Option (List Char × List Char) :=
  let run := word.takeWhile fun c => isDigit c || c == '_'
  let apart := !(run.zip run.tail).contains ('_', '_')
  if run.isEmpty || run.head? == some '_' || run.getLast? == some '_' || !apart ||
      (!zerosLead && run.head? == some '0' && 1 < run.length) then none
  else some (run.filter (· != '_'), word.drop run.length)

def splitSign (word : List Char) : Bool × List Char :=
  match word with
  | '-' :: rest => (true, rest)
  | '+' :: rest => (false, rest)
  | _ => (false, word)

def integer (base : Nat) (isDigit : Char → Bool) (negative : Bool) (word : List Char) :
    Option (Kind Setting) := do
  let (digits, rest) ← digitRun isDigit (base != 10) word
  let value : Int := digitsValue base digits
  let signed := if negative then -value else value
  if rest.isEmpty && isWord signed then some (.integer signed) else none

def power (signed : Bool) (word : List Char) : Option Int := do
  let (negative, body) := if signed then splitSign word else (false, word)
  let (digits, rest) ← digitRun Char.isDigit true body
  if !rest.isEmpty then none
  let value : Int := digitsValue 10 digits
  return if negative then -value else value

/-- Takes the rest of a double, of which `word` and the word after the point are read. -/
def float (word : List Char) (after? : Option (List Char)) : Reader (Kind Setting) := do
  let (negative, body) := splitSign word
  let (whole, rest) ← digitRun Char.isDigit false body
  let (fraction, suffix) ←
    match after? with
    | none => pure ([], rest)
    | some after => if rest.isEmpty then digitRun Char.isDigit true after else failure
  let exponent ←
    match suffix with
    | [] => pure 0
    | [e] =>
      if e ≠ 'e' ∧ e ≠ 'E' then failure
      discard (accept '+')
      power false (← takeWhile isBare)
    | e :: word => if e == 'e' || e == 'E' then power true word else failure
  let value := Decimal.nearest (digitsValue 10 (whole ++ fraction)) (exponent - fraction.length)
  if value.isInf then failure
  return .float (if negative then -value else value)

def number (word : List Char) : Reader (Kind Setting) := do
  match word with
  | '0' :: 'x' :: digits => integer 16 isHexDigit false digits
  | '0' :: 'o' :: digits => integer 8 (fun c => '0' ≤ c && c ≤ '7') false digits
  | '0' :: 'b' :: digits => integer 2 (fun c => c == '0' || c == '1') false digits
  | _ =>
    if word.contains 'e' || word.contains 'E' then float word none
    else if ← accept '.' then
      let after ← takeWhile isBare
      if after.isEmpty then failure
      float word (some after)
    else
      match String.ofList word with
      | "inf" => return .float (1 / 0)
      | "-inf" => return .float (-1 / 0)
      | "nan" | "-nan" => return .float (0 / 0)
      | _ => let (negative, body) := splitSign word; integer 10 Char.isDigit negative body

def dateWord : Reader (List Char) := do
  let word ← takeWhile isBare
  if word.isEmpty then failure else return word

def dateWordAfter (c : Char) : Reader (List Char) := do
  if ← accept c then return c :: (← dateWord) else return []

/-- Takes the rest of a date or time that starts with `word`; the time may follow after a space. -/
def dateText (word : List Char) : Reader (List Char) := do
  let hour ←
    match ← get with
    | ' ' :: c :: _ => if isBare c then discard next; pure (' ' :: (← dateWord)) else pure []
    | _ => pure []
  if (← peek?) = some ':' then
    let minute ← dateWordAfter ':'
    expect ':'
    let second ← dateWord
    let fraction ← dateWordAfter '.'
    let offset ← dateWordAfter '+'
    let offsetMinute ← dateWordAfter ':'
    return word ++ hour ++ minute ++ [':'] ++ second ++ fraction ++ offset ++ offsetMinute
  else
    return word ++ hour

def numberOrDate : Reader (Kind Setting) := do
  let word ← takeWhile isBare
  let text := String.ofList word
  let hyphenated := (word.drop 1).contains '-' &&
    !(word.zip word.tail).any fun pair => pair == ('e', '-') || pair == ('E', '-')
  let starts := word.head?.any fun c => c == '-' || c.isDigit
  if !starts && text != "inf" && text != "nan" then failure
  if word.contains 'T' || word.contains 't' || hyphenated || (← peek?) == some ':' then
    let shown ← dateTime.readAll? (← dateText word)
    return .text (String.ofList shown)
  else
    number word

end CompositionRoot.Toml
