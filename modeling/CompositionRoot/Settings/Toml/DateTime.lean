import CompositionRoot.Settings.Reader

/-! Dates and times of TOML texts. -/
namespace CompositionRoot.Toml
open Reader

def bounded (count low high : Nat) : Reader (List Char) := do
  let digits ← exactly Char.isDigit count
  let value := digitsValue 10 digits
  if low ≤ value && value ≤ high then return digits else failure

def date : Reader (List Char) := do
  let year ← bounded 4 0 9999
  expect '-'
  let month ← bounded 2 1 12
  expect '-'
  let day ← bounded 2 1 31
  return year ++ ['-'] ++ month ++ ['-'] ++ day

/-- Takes the part of a second after the point; nine places of it count, zeros at the end aside. -/
def fraction : Reader (List Char) := do
  if !(← accept '.') then return []
  let digits ← takeWhile Char.isDigit
  if digits.isEmpty then failure
  let kept := ((digits.take 9).reverse.dropWhile (· == '0')).reverse
  return if kept.isEmpty then [] else '.' :: kept

def time : Reader (List Char) := do
  let hour ← bounded 2 0 24
  expect ':'
  let minute ← bounded 2 0 59
  expect ':'
  let second ← bounded 2 0 59
  return hour ++ [':'] ++ minute ++ [':'] ++ second ++ (← fraction)

/-- Takes the distance from universal time, if there is one. -/
def offset : Reader (List Char) := do
  match ← next? with
  | none => return []
  | some 'Z' | some 'z' => return ['Z']
  | some sign =>
    if sign ≠ '+' ∧ sign ≠ '-' then failure
    let hours ← exactly Char.isDigit 2
    expect ':'
    let minutes ← exactly Char.isDigit 2
    let written := if digitsValue 10 hours = 0 then '+' else sign
    return written :: hours ++ [':'] ++ minutes

/-- Takes a date, a time or both in the form in which it is shown. Only both together may have a
distance from universal time. -/
def dateTime : Reader (List Char) := do
  if ((← get).drop 2).head? = some ':' then
    time
  else
    let day ← date
    match ← peek? with
    | some 'T' | some 't' | some ' ' =>
      discard next
      let clock ← time
      return day ++ ['T'] ++ clock ++ (← offset)
    | _ => return day

end CompositionRoot.Toml
