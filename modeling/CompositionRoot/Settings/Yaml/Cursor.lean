/-! Positions in YAML texts, and the tokens found up to one. -/
namespace CompositionRoot.Yaml

/-- The tokens of YAML. Collections that are marked by indentation alone have tokens of their own
where they begin and end. -/
inductive Token where
  | directive
  | documentStart
  | documentEnd
  | blockSequenceStart
  | blockMappingStart
  | blockEnd
  | flowSequenceStart
  | flowSequenceEnd
  | flowMappingStart
  | flowMappingEnd
  | blockEntry
  | flowEntry
  | key
  | value
  | alias (name : String)
  | anchor (name : String)
  | tag (handle suffix : String)
  | scalar (isPlain : Bool) (text : String)
deriving DecidableEq, Repr

structure Cursor where
  rest : List Char
  index : Nat := 0
  line : Nat := 0
  column : Nat := 0
deriving Repr

/-- A place where a key may have begun: its token would stand at a number among all tokens. -/
structure KeyStart where
  isRequired : Bool
  tokenNumber : Nat
  index : Nat
  line : Nat
  column : Nat
deriving Repr

/-- A text that is read up to a cursor. `keys` holds the possible key of each flow collection around
it, the innermost first, and of the text; `limit` is longer than the text. -/
structure Progress where
  cursor : Cursor
  limit : Nat
  tokens : Array Token := #[]
  keyAllowed : Bool := true
  keys : List (Option KeyStart) := [none]
  indent : Int := -1
  outerIndents : List Int := []
  adjacentValueAt : Nat := 0
deriving Repr

/-- Steps on a text that may be refused. -/
abbrev TextReader (α : Type) := StateT Progress Option α

def isBreak (c : Char) : Bool := c == '\n' || c == '\r'

def isBreakOrEnd (c : Char) : Bool := isBreak c || c == '\x00'

def isBlank (c : Char) : Bool := c == ' ' || c == '\t'

def isBlankOrEnd (c : Char) : Bool := isBlank c || isBreakOrEnd c

def isFlowIndicator (c : Char) : Bool := [',', '[', ']', '{', '}'].contains c

/-- Whether a character may stand in the name of an anchor, tag or directive. -/
def isWordChar (c : Char) : Bool := c.isAlphanum || c == '_' || c == '-'

def Cursor.advance (cursor : Cursor) : Cursor :=
  match cursor.rest with
  | [] => cursor
  | '\n' :: rest => ⟨rest, cursor.index + 1, cursor.line + 1, 0⟩
  | _ :: rest => ⟨rest, cursor.index + 1, cursor.line, cursor.column + 1⟩

namespace TextReader

/-- The character that follows at a distance. Behind the text there are null characters. -/
def charAt (distance : Nat) : TextReader Char :=
  return ((← get).cursor.rest.drop distance).headD '\x00'

def char : TextReader Char := charAt 0

def column : TextReader Nat := return (← get).cursor.column

def flowLevel : TextReader Nat := return (← get).keys.length - 1

def inFlow : TextReader Bool := return 0 < (← flowLevel)

def skip (count : Nat) : TextReader Unit :=
  modify fun progress => { progress with cursor := count.repeat Cursor.advance progress.cursor }

def takeWhile (p : Char → Bool) : TextReader (List Char) := do
  let taken := (← get).cursor.rest.takeWhile p
  skip taken.length
  return taken

def skipWhile (p : Char → Bool) : TextReader Unit :=
  discard (takeWhile p)

def skipBreak : TextReader Unit := do
  if (← char) == '\r' && (← charAt 1) == '\n' then skip 2
  else if isBreak (← char) then skip 1

def skipComment : TextReader Unit := do
  skipWhile isBlank
  if (← char) == '#' then skipWhile fun c => !isBreakOrEnd c
  if !isBreakOrEnd (← char) then failure
  skipBreak

def atDocumentMark (mark : Char) : TextReader Bool := do
  let rest := (← get).cursor.rest
  return (← column) == 0 && rest.take 3 == [mark, mark, mark] && isBlankOrEnd (← charAt 3)

def atDocumentEnd : TextReader Bool :=
  return (← atDocumentMark '-') || (← atDocumentMark '.')

def gatherWithin {α : Type} (step : TextReader (Option α)) : Nat → TextReader (List α)
  | 0 => failure
  | limit + 1 => do
    match ← step with
    | none => return []
    | some value => return value :: (← gatherWithin step limit)

def gather {α : Type} (step : TextReader (Option α)) : TextReader (List α) := do
  gatherWithin step (← get).limit

/-- Repeats a step that is at least one character until it is not possible. -/
def repeatStep (step : TextReader Bool) : TextReader Unit :=
  discard (gather do if ← step then return some () else return none)

def push (token : Token) : TextReader Unit :=
  modify fun progress => { progress with tokens := progress.tokens.push token }

def insertAt (number : Nat) (token : Token) : TextReader Unit :=
  modify fun progress =>
    { progress with tokens := progress.tokens.insertIdxIfInBounds number token }

def allowKey (allowed : Bool) : TextReader Unit :=
  modify fun progress => { progress with keyAllowed := allowed }

/-- Gives up the possible key of the innermost collection. -/
def dropKey : TextReader Unit := do
  match (← get).keys with
  | some start :: _ => if start.isRequired then failure
  | _ => pure ()
  modify fun progress => { progress with keys := none :: progress.keys.tail }

/-- Notes that the next token may begin a key, if one may begin here. -/
def noteKey : TextReader Unit := do
  let progress ← get
  if progress.keyAllowed then
    let cursor := progress.cursor
    dropKey
    let start : KeyStart := {
      isRequired := 1 < progress.keys.length && progress.indent == cursor.column
      tokenNumber := progress.tokens.size
      index := cursor.index
      line := cursor.line
      column := cursor.column }
    modify fun progress => { progress with keys := some start :: progress.keys.tail }

/-- Gives up the possible keys that began on an earlier line or too far back. -/
def dropStaleKeys : TextReader Unit := do
  let progress ← get
  let isStale (start : KeyStart) : Bool :=
    start.line < progress.cursor.line || start.index + 1024 < progress.cursor.index
  if progress.keys.any (·.any fun start => isStale start && start.isRequired) then failure
  set { progress with keys := progress.keys.map (Option.filter (!isStale ·)) }

/-- Begins a block collection in a column further in than the one around it, with its token before
the one of the given number or at the end. -/
def indentTo (column : Nat) (number? : Option Nat) (token : Token) : TextReader Unit := do
  if !(← inFlow) && (← get).indent < column then
    modify fun progress => { progress with
      outerIndents := progress.indent :: progress.outerIndents
      indent := column }
    match number? with
    | some number => insertAt number token
    | none => push token

/-- Takes the indents from the innermost on that lie beyond a column, and those that remain. -/
def splitIndents (column : Int) (indent : Int) : List Int → Nat × Int × List Int
  | [] => (0, indent, [])
  | outer :: rest =>
    if column < indent then
      let (count, remaining) := splitIndents column outer rest
      (count + 1, remaining)
    else (0, indent, outer :: rest)

/-- Ends the block collections that lie further in than a column. -/
def unindentTo (column : Int) : TextReader Unit := do
  if !(← inFlow) then
    modify fun progress =>
      let (count, indent, outer) := splitIndents column progress.indent progress.outerIndents
      { progress with
        tokens := progress.tokens ++ Array.replicate count Token.blockEnd
        indent := indent
        outerIndents := outer }

end TextReader

end CompositionRoot.Yaml
