import CompositionRoot.Decimal.Shortest
import CompositionRoot.Settings.Value
import CompositionRoot.Text.Casing
import CompositionRoot.Text.Quoted

/-! Settings as the values that they stand for, with the place of the first one that stands for
none. -/
namespace CompositionRoot

inductive SettingError where
  /-- A text is not valid in its format. -/
  | malformed
  /-- The file has no extension of a known format. -/
  | unknownFormat (path : String)
  /-- There is no such file. -/
  | notFound (name : String)
  /-- The value at a key has another type. -/
  | wrongType (found : Kind Setting) (expected key : String) (origin : Option String)
  /-- A value has parts where none are expected, or none where some are. -/
  | wrongShape (found : Kind Setting) (expected : String)
  /-- A table lacks a field. -/
  | missingField (name : String)
  /-- A list of fields lacks its first one. -/
  | noFields (expected : String)
  /-- A choice has no alternative of this name. -/
  | unknownChoice (choice name : String)
  /-- A choice is neither a name nor a table with one key. -/
  | noChoice (choice : String)

def Kind.describe {α : Type} : Kind α → String
  | null => "unit value"
  | bool value => "boolean `" ++ toString value ++ "`"
  | integer value => "integer `" ++ toString value ++ "`"
  | float value => "floating point `" ++ Decimal.renderFractional value ++ "`"
  | text value => "string " ++ Text.quoted value
  | list _ => "sequence"
  | table _ => "map"

namespace SettingError

def message : SettingError → String
  | malformed => "malformed text"
  | unknownFormat path =>
    "configuration file \"" ++ path ++ "\" is not of a registered file format"
  | notFound name => "configuration file \"" ++ name ++ "\" not found"
  | wrongType found expected key origin =>
    "invalid type: " ++ found.describe ++ ", expected " ++ expected ++ " for key `" ++ key ++ "`" ++
      (match origin with
      | none => ""
      | some origin => " in " ++ origin)
  | wrongShape found expected => "invalid type: " ++ found.describe ++ ", expected " ++ expected
  | missingField name => "missing field `" ++ name ++ "`"
  | noFields expected => "invalid length 0, expected " ++ expected
  | unknownChoice choice name =>
    "enum " ++ choice ++ " does not have variant constructor " ++ name
  | noChoice choice =>
    "value of enum " ++ choice ++
      " should be represented by either string or table with exactly one key"

def underKey (name : String) : SettingError → SettingError
  | wrongType found expected key origin =>
    let dot := if key.isEmpty || key.startsWith "[" then "" else "."
    wrongType found expected (name ++ dot ++ key) origin
  | error => error

def underIndex (index : Nat) : SettingError → SettingError
  | wrongType found expected key origin =>
    wrongType found expected ("[" ++ toString index ++ "]" ++ key) origin
  | error => error

end SettingError

abbrev Decoded (α : Type) := Except SettingError α

namespace Setting

def toText (setting : Setting) : Decoded String :=
  match setting.kind with
  | .text value => .ok value
  | .bool value => .ok (toString value)
  | .integer value => .ok (toString value)
  | .float value => .ok (Decimal.render value)
  | found => .error (.wrongType found "a string" "" setting.origin)

/-- The truth value that a scalar stands for. A number stands for whether it is not zero, a text for
its meaning in any case of letters. -/
def toBool (setting : Setting) : Decoded Bool :=
  match setting.kind with
  | .bool value => .ok value
  | .integer value => .ok (value != 0)
  | .float value => .ok (value != 0)
  | .text value =>
    let lowered := String.ofList (Text.lowercase value.toList)
    if lowered ∈ ["1", "true", "on", "yes"] then .ok true
    else if lowered ∈ ["0", "false", "off", "no"] then .ok false
    else .error (.wrongType (.text lowered) "a boolean" "" setting.origin)
  | found => .error (.wrongType found "a boolean" "" setting.origin)

def decodeItems {α : Type} (decode : Setting → Decoded α) (position : Nat) :
    List Setting → Decoded (List α)
  | [] => .ok []
  | setting :: rest => do
    let value ← (decode setting).mapError (.underIndex position)
    return value :: (← decodeItems decode (position + 1) rest)

def toListOf {α : Type} (decode : Setting → Decoded α) (setting : Setting) : Decoded (List α) :=
  match setting.kind with
  | .list items => decodeItems decode 0 items
  | found => .error (.wrongShape found "a sequence")

/-- The value of a field, if it is there: by name in a table, by position in a list. -/
def field? {α : Type} (setting : Setting) (position : Nat) (name : String)
    (decode : Setting → Decoded α) : Decoded (Option α) :=
  match setting.kind with
  | .table entries =>
    match entries.lookup name with
    | none => .ok none
    | some part => ((decode part).mapError (.underKey name)).map some
  | .list items =>
    match items[position]? with
    | none => .ok none
    | some part => ((decode part).mapError (.underIndex position)).map some
  | _ => .ok none

def fieldOr {α : Type} (setting : Setting) (position : Nat) (name : String) (fallback : α)
    (decode : Setting → Decoded α) : Decoded α :=
  (setting.field? position name decode).map (·.getD fallback)

def expectFields (setting : Setting) (expected : String) : Decoded Unit :=
  match setting.kind with
  | .table _ | .list _ => .ok ()
  | found => .error (.wrongShape found expected)

def optional {α : Type} (decode : Setting → Decoded α) (setting : Setting) : Decoded (Option α) :=
  match setting.kind with
  | .null => .ok none
  | _ => (decode setting).map some

/-- The alternative that a name stands for, on its own or as the only key of a table. -/
def toChoice {α : Type} (choice : String) (ofName? : String → Option α) (setting : Setting) :
    Decoded α :=
  let named (name : String) : Decoded α :=
    match ofName? name with
    | some value => .ok value
    | none => .error (.unknownChoice choice name)
  match setting.kind with
  | .text name => named name
  | .table [(name, _)] => named name
  | _ => .error (.noChoice choice)

end Setting

end CompositionRoot
