import CompositionRoot.Decimal.Nearest
import CompositionRoot.Settings.Reader
import CompositionRoot.Settings.Value

/-! Nodes of YAML documents. What a plain scalar stands for is told by its form. -/
namespace CompositionRoot.Yaml

/-- A node. Of a mapping, the entries whose keys are texts are kept. -/
inductive Node where
  /-- A scalar that its tag does not admit, or an alias inside its own anchor. -/
  | invalid
  | null
  | bool (value : Bool)
  | integer (value : Int)
  /-- A double as it is written. -/
  | real (text : String)
  | text (value : String)
  | sequence (items : List Node)
  | mapping (entries : List (String × Node))

/-- The integer that digits with an optional sign stand for, if it has 64 bits. -/
def integer? (base : Nat) (isDigit : Char → Bool) (word : List Char) : Option Int :=
  let (negative, digits) :=
    match word with
    | '-' :: rest => (true, rest)
    | '+' :: rest => (false, rest)
    | _ => (false, word)
  let value : Int := Reader.digitsValue base digits
  let signed := if negative then -value else value
  if !digits.isEmpty && digits.all isDigit && Reader.isWord signed then some signed else none

def decimal? (word : List Char) : Option Int :=
  integer? 10 Char.isDigit word

/-- The double that a word stands for: digits with an optional point and power of ten, or a name of
a value that is not finite. -/
def double? (word : List Char) : Option Float := do
  let (negative, body) :=
    match word with
    | '-' :: rest => (true, rest)
    | '+' :: rest => (false, rest)
    | _ => (false, word)
  let magnitude ←
    match String.ofList (body.map Char.toLower) with
    | "inf" | "infinity" => some (1 / 0)
    | "nan" => some (0 / 0)
    | _ =>
      let whole := body.takeWhile Char.isDigit
      let afterWhole := body.drop whole.length
      let (fraction, suffix) :=
        match afterWhole with
        | '.' :: rest => (rest.takeWhile Char.isDigit, rest.dropWhile Char.isDigit)
        | _ => ([], afterWhole)
      let exponent ←
        match suffix with
        | [] => some 0
        | 'e' :: '-' :: digits | 'E' :: '-' :: digits =>
          if digits.isEmpty || !digits.all Char.isDigit then none
          else some (-(Reader.digitsValue 10 digits : Int))
        | 'e' :: '+' :: digits | 'E' :: '+' :: digits | 'e' :: digits | 'E' :: digits =>
          if digits.isEmpty || !digits.all Char.isDigit then none
          else some (Reader.digitsValue 10 digits : Int)
        | _ => none
      if whole.isEmpty && fraction.isEmpty then none
      else some (Decimal.nearest (Reader.digitsValue 10 (whole ++ fraction))
        (exponent - fraction.length))
  return if negative then -magnitude else magnitude

def isReal (word : List Char) : Bool :=
  [".inf", ".Inf", ".INF", "+.inf", "+.Inf", "+.INF", "-.inf", "-.Inf", "-.INF", ".nan", "NaN",
    ".NAN"].contains (String.ofList word) || (double? word).isSome

def Node.ofPlain (text : String) : Node :=
  let word := text.toList
  let inBase? (mark : Char) (base : Nat) (isDigit : Char → Bool) : Option Int :=
    match word with
    | '0' :: c :: digits => if c == mark then integer? base isDigit digits else none
    | _ => none
  let signed? : Option Int :=
    match word with
    | '+' :: rest => decimal? rest
    | _ => none
  match inBase? 'x' 16 Reader.isHexDigit <|> inBase? 'o' 8 (fun c => '0' ≤ c && c ≤ '7') <|>
    signed? with
  | some value => .integer value
  | none =>
    if text == "~" || text == "null" then .null
    else if text == "true" then .bool true
    else if text == "false" then .bool false
    else match decimal? word with
      | some value => .integer value
      | none => if isReal word then .real text else .text text

/-- The node of a scalar with its tag. Tags of other kinds than the basic ones make it a text. -/
def Node.ofScalar (isPlain : Bool) (text : String) (tag? : Option (String × String)) : Node :=
  if !isPlain then .text text
  else match tag? with
    | none => .ofPlain text
    | some ("!!", "bool") =>
      if text == "true" then .bool true else if text == "false" then .bool false else .invalid
    | some ("!!", "int") => ((decimal? text.toList).map Node.integer).getD .invalid
    | some ("!!", "float") => if isReal text.toList then .real text else .invalid
    | some ("!!", "null") => if text == "~" || text == "null" then .null else .invalid
    | some _ => .text text

/-- The entries of a mapping from its keys and values in turn. An invalid key is passed over. -/
def Node.pairUp : List Node → Entries Node
  | [] => []
  | .invalid :: rest => pairUp rest
  | [_] => []
  | .text key :: value :: rest =>
    let entries := pairUp rest
    if entries.any (·.1 == key) then entries else (key, value) :: entries
  | _ :: _ :: rest => pairUp rest

mutual

/-- The setting that a node stands for, unless it holds a double that cannot be read. -/
def Node.toSetting? (origin : Option String) : Node → Option Setting
  | .invalid | .null => some ⟨origin, .null⟩
  | .bool value => some ⟨origin, .bool value⟩
  | .integer value => some ⟨origin, .integer value⟩
  | .real text => (double? text.toList).map fun value => ⟨origin, .float value⟩
  | .text value => some ⟨origin, .text value⟩
  | .sequence items => (toItems? origin items).map fun items => ⟨origin, .list items⟩
  | .mapping entries => (toEntries? origin entries).map fun entries => ⟨origin, .table entries⟩

def toItems? (origin : Option String) : List Node → Option (List Setting)
  | [] => some []
  | item :: rest => do return (← item.toSetting? origin) :: (← toItems? origin rest)

def toEntries? (origin : Option String) : List (String × Node) → Option (Entries Setting)
  | [] => some []
  | (key, value) :: rest => do
    return (key, ← value.toSetting? origin) :: (← toEntries? origin rest)

end

end CompositionRoot.Yaml
