import CompositionRoot.Settings.Toml.Document
import CompositionRoot.Settings.Toml.Number

/-! Values of TOML texts: keys with values, and the sections that headers begin. -/
namespace CompositionRoot.Toml
open Reader

/-- Takes items with commas, blanks, comments and line ends between them, after the opening bracket
and with the closing one. -/
def items {α : Type} (item : Reader α) : Reader (List α) := do
  let more ← gather do
    skipLines
    if (← peek?) = some ']' then return none
    let value ← item
    skipLines
    if !(← accept ',') && (← peek?) ≠ some ']' then failure
    return some value
  skipLines
  expect ']'
  return more

def keyValue (value : Reader Setting) : Reader (List String × Setting) := do
  let path ← dottedKey
  skipBlanks
  expect '='
  skipBlanks
  return (path, ← value)

/-- The parts that keys with values stand for, if no two of them are in conflict. -/
def ofKeys (pairs : List (List String × Setting)) : Option (Entries Node) :=
  pairs.foldlM (fun entries (path, value) => addKey value path entries) []

def inlineEntries (value : Reader Setting) : Reader (List (List String × Setting)) := do
  skipBlanks
  if ← accept '}' then return []
  let first ← keyValue value
  let rest ← gather do
    skipBlanks
    if ← accept '}' then return none
    expect ','
    skipBlanks
    some <$> keyValue value
  return first :: rest

/-- Takes a value in which lists and tables are nested less than `levels` deep. -/
def value (origin : Option String) : Nat → Reader Setting
  | 0 => failure
  | levels + 1 => do
    match ← peek? with
    | some '"' => return ⟨origin, .text (← quotedString '"').2⟩
    | some '\'' => return ⟨origin, .text (← quotedString '\'').2⟩
    | some '[' =>
      expect '['
      return ⟨origin, .list (← items (value origin levels))⟩
    | some '{' =>
      expect '{'
      let entries ← ofKeys (← inlineEntries (value origin levels))
      return ⟨origin, .table (Node.toEntries origin entries)⟩
    | some '+' =>
      expect '+'
      let word ← takeWhile isBare
      if word.isEmpty then failure
      return ⟨origin, ← number word⟩
    | _ =>
      let word := String.ofList ((← get).takeWhile isBare)
      if word == "true" || word == "false" then
        expectAll word
        return ⟨origin, .bool (word == "true")⟩
      else
        return ⟨origin, ← numberOrDate⟩

def sectionKeys (value : Reader Setting) : Reader (Entries Node) := do
  let pairs ← gather do
    skipLines
    match ← peek? with
    | none | some '[' => return none
    | some _ =>
      let pair ← keyValue value
      restOfLine
      return some pair
  ofKeys pairs

def headed (value : Reader Setting) : Reader (Option Section) := do
  if !(← accept '[') then return none
  let isItem ← accept '['
  skipBlanks
  let path ← dottedKey
  expect ']'
  if isItem then expect ']'
  restOfLine
  return some ⟨path, isItem, ← sectionKeys value⟩

def foldLineEnds : List Char → List Char
  | [] => []
  | '\r' :: '\n' :: rest => '\n' :: foldLineEnds rest
  | c :: rest => c :: foldLineEnds rest

def read? (origin : Option String) (text : String) : Option Setting := do
  let chars := foldLineEnds text.toList
  let content := if chars.head? = some '\uFEFF' then chars.tail else chars
  let entries ← Reader.readAll? (do
    let setting := value origin (content.length + 1)
    let keys ← sectionKeys setting
    let sections ← gather (headed setting)
    liftM (ofSections origin keys sections)) content
  return ⟨origin, .table entries⟩

end CompositionRoot.Toml
