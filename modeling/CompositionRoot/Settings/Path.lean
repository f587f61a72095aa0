import CompositionRoot.Settings.Reader
import CompositionRoot.Settings.Value

/-! Keys that name a place inside tables and lists, such as `types[0].identity`. -/
namespace CompositionRoot

inductive PathStep where
  | member (name : String)
  | element (position : Int)
deriving DecidableEq, Repr

namespace PathStep

def isNameChar (c : Char) : Bool :=
  c.isAlphanum || c == '_' || c == '-' || c == ' '

def name : Reader PathStep := do
  let chars ← Reader.takeWhile isNameChar
  if chars.isEmpty then failure else return .member (String.ofList chars)

def position : Reader PathStep := do
  let isBlank (c : Char) : Bool := c == ' ' || c == '\t'
  Reader.skipWhile isBlank
  let negative ← Reader.accept '-'
  if !negative then discard (Reader.accept '+')
  let digits ← Reader.takeWhile Char.isDigit
  Reader.skipWhile isBlank
  Reader.expect ']'
  let value : Int := Reader.digitsValue 10 digits
  let signed := if negative then -value else value
  if digits.isEmpty || !Reader.isWord signed then failure
  return .element signed

def further : Reader (Option PathStep) := do
  match ← Reader.next? with
  | none => return none
  | some '.' => some <$> name
  | some '[' => some <$> position
  | some _ => failure

def path : Reader (PathStep × List PathStep) := do
  let first ← name
  return (first, ← Reader.gather further)

/-- The steps that a key stands for. A key that is no path names a place as it is. -/
def ofKey (key : String) : PathStep × List PathStep :=
  (path.readAll? key.toList).getD (.member key, [])

end PathStep

namespace Setting

def assignAt (value : Setting) : PathStep → List PathStep → Setting → Setting
  | .member name, [], setting => setting.asTable.assign name value
  | .element position, [], setting => setting.modifyItem position fun _ => value
  | .member name, step :: rest, setting => setting.modifyEntry name (value.assignAt step rest)
  | .element position, step :: rest, setting =>
    setting.modifyItem position (value.assignAt step rest)

/-- Gives the places that the keys of some entries name their values. -/
def overlay (setting : Setting) (entries : Entries Setting) : Setting :=
  entries.foldl (fun setting (key, value) =>
    value.assignAt (PathStep.ofKey key).1 (PathStep.ofKey key).2 setting) setting

end Setting

end CompositionRoot
