import CompositionRoot.Settings.Reader

/-! Blanks, comments, strings and keys of TOML texts. -/
namespace CompositionRoot.Toml
open Reader

/-- Whether a character may stand in a bare key, a number or a date. -/
def isBare (c : Char) : Bool :=
  c.isAlphanum || c == '_' || c == '-'

def skipBlanks : Reader Unit :=
  skipWhile fun c => c == ' ' || c == '\t'

def lineEnd : Reader Unit := do
  match ← next? with
  | none | some '\n' => return
  | some _ => failure

def comment : Reader Bool := do
  if ← accept '#' then
    skipWhile fun c => c == '\t' || ' ' ≤ c
    lineEnd
    return true
  else
    return false

def restOfLine : Reader Unit := do
  skipBlanks
  if !(← comment) then lineEnd

def skipLines : Reader Unit :=
  discard <| gather do
    skipBlanks
    if ← accept '\n' then return some ()
    else if ← comment then return some ()
    else return none

def isPlain (c : Char) : Bool :=
  c == '\t' || (' ' ≤ c && c != '\x7f')

/-- Takes the line break after a backslash, with the blanks before it and the blanks and empty lines
after it. -/
def foldedLine : Reader Unit := do
  skipBlanks
  expect '\n'
  skipWhile fun c => c == ' ' || c == '\t' || c == '\n'

def escape (multiline : Bool) : Reader (List Char) := do
  match ← peek? with
  | some ' ' | some '\t' | some '\n' =>
    if multiline then foldedLine; return [] else failure
  | _ =>
    match ← next with
    | '"' => return ['"']
    | '\\' => return ['\\']
    | 'b' => return ['\x08']
    | 'f' => return ['\x0c']
    | 'n' => return ['\n']
    | 'r' => return ['\r']
    | 't' => return ['\t']
    | 'u' => return [← codePoint 4]
    | 'U' => return [← codePoint 8]
    | _ => failure

/-- Takes a piece of a string of several lines, or the three quotes that end it; up to two more
before them belong to the text. -/
def multilinePiece (quote : Char) : Reader (Option (List Char)) := do
  let quotes := ((← get).takeWhile (· == quote)).length
  if 3 ≤ quotes then
    return none
  match ← next with
  | '\n' => return some ['\n']
  | '\\' => if quote == '"' then some <$> escape true else return some ['\\']
  | c => if c == quote || isPlain c then return some [c] else failure

def multilineString (quote : Char) : Reader (List Char) := do
  discard (accept '\n')
  let pieces ← gather (multilinePiece quote)
  discard (exactly (· == quote) 3)
  let mut extra := []
  if ← accept quote then extra := extra ++ [quote]
  if ← accept quote then extra := extra ++ [quote]
  return pieces.flatten ++ extra

def piece (quote : Char) : Reader (Option (List Char)) := do
  match ← next with
  | '\\' => if quote == '"' then some <$> escape false else return some ['\\']
  | c =>
    if c == quote then return none
    else if isPlain c then return some [c]
    else failure

/-- Takes a string in quotes of either kind, and tells whether it may have several lines. -/
def quotedString (quote : Char) : Reader (Bool × String) := do
  expect quote
  if ← accept quote then
    if ← accept quote then
      return (true, String.ofList (← multilineString quote))
    else
      return (false, "")
  else
    return (false, String.ofList (← gather (piece quote)).flatten)

def key : Reader String := do
  match ← peek? with
  | some '"' | some '\'' =>
    let (multiline, text) ← quotedString ((← peek?).getD '"')
    if multiline then failure else return text
  | _ =>
    let chars ← takeWhile isBare
    if chars.isEmpty then failure else return String.ofList chars

def dottedKey : Reader (List String) := do
  let first ← key
  skipBlanks
  let rest ← gather do
    if ← accept '.' then
      skipBlanks
      let part ← key
      skipBlanks
      return some part
    else
      return none
  return first :: rest

end CompositionRoot.Toml
