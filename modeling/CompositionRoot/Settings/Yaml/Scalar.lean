import CompositionRoot.Settings.Reader
import CompositionRoot.Settings.Yaml.Cursor

/-! Scalars of YAML texts: in quotes, as blocks of lines, and plain. A single line break between
words is a space, and of several all but the first are kept. -/
namespace CompositionRoot.Yaml
open TextReader

def countBreaks : List Char → Nat
  | [] => 0
  | '\r' :: '\n' :: rest => countBreaks rest + 1
  | c :: rest => if isBreak c then countBreaks rest + 1 else countBreaks rest

def folded (run : List Char) : List Char :=
  match countBreaks run with
  | 0 => run
  | 1 => [' ']
  | count + 1 => List.replicate count '\n'

def codeEscape (count : Nat) : TextReader Char := do
  let digits := (← get).cursor.rest.take count
  if digits.length < count || !digits.all Reader.isHexDigit then failure
  let code := Reader.digitsValue 16 digits
  if !code.isValidChar then failure
  skip count
  return Char.ofNat code

def escape : TextReader Char := do
  let c ← char
  skip 1
  match c with
  | '0' => return '\x00'
  | 'a' => return '\x07'
  | 'b' => return '\x08'
  | 't' | '\t' => return '\t'
  | 'n' => return '\n'
  | 'v' => return '\x0b'
  | 'f' => return '\x0c'
  | 'r' => return '\r'
  | 'e' => return '\x1b'
  | ' ' | '"' | '\'' | '\\' => return c
  | 'N' => return '\u0085'
  | '_' => return '\u00a0'
  | 'L' => return '\u2028'
  | 'P' => return '\u2029'
  | 'x' => codeEscape 2
  | 'u' => codeEscape 4
  | 'U' => codeEscape 8
  | _ => failure

/-- Takes a piece of a scalar in quotes, or nothing before the quote that ends it. -/
def quotedPiece (quote : Char) : TextReader (Option (List Char)) := do
  if ← atDocumentEnd then failure
  let c ← char
  let following ← charAt 1
  if c == '\x00' then failure
  else if c == quote && quote == '\'' && following == quote then
    skip 2
    return some [quote]
  else if c == quote then
    return none
  else if isBlank c || isBreak c then
    return some (folded (← takeWhile fun c => isBlank c || isBreak c))
  else if c == '\\' && quote == '"' then
    skip 1
    if isBreak following then
      skipBreak
      let run ← takeWhile fun c => isBlank c || isBreak c
      return some (List.replicate (countBreaks run) '\n')
    else
      return some [← escape]
  else
    skip 1
    return some [c]

def quotedScalar (quote : Char) : TextReader Token := do
  skip 1
  let pieces ← gather (quotedPiece quote)
  skip 1
  return .scalar false (String.ofList pieces.flatten)

inductive Chomping where
  | strip
  | clip
  | keep
deriving DecidableEq, Repr

def chomping? : TextReader (Option Chomping) := do
  match ← char with
  | '+' => skip 1; return some .keep
  | '-' => skip 1; return some .strip
  | _ => return none

def indentation? : TextReader (Option Nat) := do
  let c ← char
  if c == '0' then failure
  if c.isDigit then
    skip 1
    return some (c.toNat - '0'.toNat)
  else
    return none

def blockHeader : TextReader (Option Chomping × Option Nat) := do
  match ← chomping? with
  | some chomping => return (some chomping, ← indentation?)
  | none =>
    match ← indentation? with
    | some indentation => return (← chomping?, some indentation)
    | none => return (none, none)

/-- Takes empty lines and the indentation of the line after them. Gives the number of the lines and
the greatest column that was reached. Where the indentation is not known, all spaces belong to
it. -/
def emptyLines (indent? : Option Nat) : TextReader (Nat × Nat) := do
  let reached ← gather do
    let column ← column
    let spaces := ((← get).cursor.rest.takeWhile (· == ' ')).length
    skip (match indent? with
      | none => spaces
      | some indent => min spaces (indent - column))
    let column ← TextReader.column
    if (← char) == '\t' && indent?.all (column < ·) then failure
    if isBreak (← char) then
      skipBreak
      return some column
    else
      return none
  return (reached.length, reached.foldl max (← column))

/-- Takes the lines of a block, of which some line breaks come before the next line: `breaks` is
none at the start, else the number of empty lines since the last one. Gives the text, and the breaks
at its end in the same way. -/
def blockLines (isLiteral : Bool) (indent : Nat) :
    Nat → (breaks : Option Nat) → (empty : Nat) → (afterBlank : Bool) →
      TextReader (List Char × Option Nat × Nat)
  | 0, _, _, _ => failure
  | limit + 1, breaks, empty, afterBlank => do
    if (← column) ≠ indent || (← char) == '\x00' then
      return ([], breaks, empty)
    let startsBlank := isBlank (← char)
    let joint :=
      if breaks.isNone then []
      else if !isLiteral && !afterBlank && !startsBlank then (if empty = 0 then [' '] else [])
      else ['\n']
    let line ← takeWhile fun c => !isBreakOrEnd c
    let text := joint ++ List.replicate empty '\n' ++ line
    if (← char) == '\x00' then
      return (text, none, 0)
    skipBreak
    let (count, _) ← emptyLines (some indent)
    let (rest, last) ← blockLines isLiteral indent limit (some 0) count startsBlank
    return (text ++ rest, last)

/-- Takes a block of lines, which keep their breaks if it is literal. -/
def blockScalar (isLiteral : Bool) : TextReader Token := do
  skip 1
  let (chomping?, indentation?) ← blockHeader
  skipComment
  let outer := (← get).indent
  let given? := indentation?.map fun indentation => outer.toNat + indentation
  let (empty, reached) ← emptyLines given?
  let indent := given?.getD (max (max reached (outer + 1).toNat) 1)
  let (text, breaks, last) ←
    blockLines isLiteral indent (← get).limit none empty false
  let chomping := chomping?.getD .clip
  let final := if chomping == .strip || breaks.isNone then [] else ['\n']
  let kept := if chomping == .keep then List.replicate last '\n' else []
  return .scalar false (String.ofList (text ++ final ++ kept))

/-- Takes the blanks and line breaks after a word of a plain scalar. A line must not be indented by
tabs. -/
def plainBlanks (indent : Int) : TextReader (List Char) := do
  let start := (← get).cursor
  let run ← takeWhile fun c => isBlank c || isBreak c
  let places := (List.range run.length).map fun count => count.repeat Cursor.advance start
  let isIndent (place : Cursor) : Bool :=
    place.rest.head? == some '\t' && place.column < indent &&
      (run.take (place.index - start.index)).any isBreak
  if places.any isIndent then failure
  return run

def plainWord : TextReader (List Char) := do
  let inFlow ← inFlow
  gather do
    let c ← char
    let following ← charAt 1
    if isBlankOrEnd c then return none
    else if c == ':' && (isBlankOrEnd following || inFlow && isFlowIndicator following) then
      return none
    else if inFlow && isFlowIndicator c then return none
    else
      skip 1
      return some c

/-- Takes the words of a plain scalar, the first of which follows the blanks `before`. -/
def plainWords (indent : Int) : Nat → (before : List Char) → TextReader (List Char)
  | 0, _ => failure
  | limit + 1, before => do
    let isEnd := (← atDocumentEnd) || (← char) == '#'
    let word ← if isEnd then pure [] else plainWord
    let text := if word.isEmpty then [] else folded before ++ word
    let pending := if word.isEmpty then before else []
    if isEnd || !(isBlank (← char) || isBreak (← char)) then
      if pending.any isBreak then allowKey true
      return text
    let blanks ← plainBlanks indent
    if !(← inFlow) && (← column) < indent then
      if blanks.any isBreak then allowKey true
      return text
    return text ++ (← plainWords indent limit (pending ++ blanks))

def plainScalar : TextReader Token := do
  let progress ← get
  return .scalar true (String.ofList (← plainWords (progress.indent + 1) progress.limit []))

end CompositionRoot.Yaml
