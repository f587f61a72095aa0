import CompositionRoot.Settings.Yaml.Node
import CompositionRoot.Settings.Yaml.Token

/-! The documents of a YAML text, with aliases replaced by what they stand for. -/
namespace CompositionRoot.Yaml

/-- Tokens that are left, the number of each anchor in use, and the node of each number. -/
structure Remaining where
  tokens : List Token
  anchors : Entries Nat := []
  nodes : List (Nat × Node) := []
  anchorCount : Nat := 0

abbrev NodeReader (α : Type) := StateT Remaining Option α

namespace NodeReader

def peek? : NodeReader (Option Token) := return (← get).tokens.head?

def skip : NodeReader Unit :=
  modify fun remaining => { remaining with tokens := remaining.tokens.tail }

def accept (token : Token) : NodeReader Bool := do
  if (← peek?) = some token then
    skip
    return true
  else
    return false

def isNext (tokens : List Token) : NodeReader Bool := do
  return (← peek?).any tokens.contains

/-- A null where one of some tokens comes next, else the node that follows. -/
def nodeUnless (tokens : List Token) (node : NodeReader Node) : NodeReader Node := do
  if ← isNext tokens then return .null else node

def gatherWithin {α : Type} (step : NodeReader (Option α)) : Nat → NodeReader (List α)
  | 0 => failure
  | limit + 1 => do
    match ← step with
    | none => return []
    | some value => return value :: (← gatherWithin step limit)

def gather {α : Type} (step : NodeReader (Option α)) : NodeReader (List α) := do
  gatherWithin step ((← get).tokens.length + 1)

def addAnchor (name : String) : NodeReader Nat := do
  let number := (← get).anchorCount
  modify fun remaining => { remaining with
    anchors := remaining.anchors.put name number
    anchorCount := number + 1 }
  return number

def aliased (name : String) : NodeReader Node := do
  match (← get).anchors.lookup name with
  | none => failure
  | some number => return ((← get).nodes.lookup number).getD .invalid

def properties : NodeReader (Option Nat × Option (String × String)) := do
  match ← peek? with
  | some (.anchor name) =>
    skip
    let number ← addAnchor name
    match ← peek? with
    | some (.tag handle suffix) => skip; return (some number, some (handle, suffix))
    | _ => return (some number, none)
  | some (.tag handle suffix) =>
    skip
    match ← peek? with
    | some (.anchor name) => skip; return (some (← addAnchor name), some (handle, suffix))
    | _ => return (none, some (handle, suffix))
  | _ => return (none, none)

def blockSequence (node : NodeReader Node) : NodeReader Node := do
  skip
  .sequence <$> gather do
    if ← accept .blockEnd then return none
    else if ← accept .blockEntry then
      some <$> nodeUnless [.blockEntry, .blockEnd] node
    else failure

/-- Takes the entries of a sequence that is indented no further than the mapping around it. -/
def indentlessSequence (node : NodeReader Node) : NodeReader Node :=
  .sequence <$> gather do
    if ← accept .blockEntry then
      some <$> nodeUnless [.blockEntry, .key, .value, .blockEnd] node
    else return none

def blockMapping (node : NodeReader Node) : NodeReader Node := do
  skip
  let ends := [Token.key, .value, .blockEnd]
  let pairs ← gather do
    if ← accept .blockEnd then return none
    let key ←
      if ← accept .key then nodeUnless ends node
      else nodeUnless [.value] failure
    let value ← if ← accept .value then nodeUnless ends node else pure .null
    return some [key, value]
  return .mapping (Node.pairUp pairs.flatten)

def singlePair (node : NodeReader Node) : NodeReader Node := do
  let key ←
    if ← isNext [.value, .flowEntry, .flowSequenceEnd] then
      skip
      pure .null
    else node
  let value ←
    if ← accept .value then nodeUnless [.flowEntry, .flowSequenceEnd] node else pure .null
  return .mapping (Node.pairUp [key, value])

def flowPair (node : NodeReader Node) : NodeReader (List Node) := do
  let ends := [Token.flowEntry, .flowMappingEnd]
  let value : NodeReader Node := do
    if ← accept .value then nodeUnless ends node else return .null
  if ← accept .key then
    let key ← nodeUnless (.value :: ends) node
    return [key, ← value]
  else if ← isNext [.value] then
    return [.null, ← value]
  else
    return [← node, .null]

/-- Takes the entries of a flow collection, with its tokens at both ends. A comma may follow the
last entry. -/
def flowEntries {α : Type} (close : Token) (entry : NodeReader α) : NodeReader (List α) := do
  skip
  if ← accept close then return []
  let first ← entry
  let rest ← gather do
    if ← accept close then return none
    if !(← accept .flowEntry) then failure
    if ← accept close then return none
    some <$> entry
  return first :: rest

def flowSequence (node : NodeReader Node) : NodeReader Node :=
  .sequence <$> flowEntries .flowSequenceEnd do
    if ← accept .key then singlePair node else node

def flowMapping (node : NodeReader Node) : NodeReader Node := do
  let pairs ← flowEntries .flowMappingEnd (flowPair node)
  return .mapping (Node.pairUp pairs.flatten)

/-- Takes a node in which others are nested less than `levels` deep; `inBlock` tells whether block
collections may begin here, and `afterKey` whether a sequence may without further indentation. -/
def node : Nat → (inBlock afterKey : Bool) → NodeReader Node
  | 0, _, _ => failure
  | levels + 1, inBlock, afterKey => do
    if let some (.alias name) ← peek? then
      skip
      return ← aliased name
    let (number?, tag?) ← properties
    let content ←
      match ← peek? with
      | some .blockEntry =>
        if afterKey then indentlessSequence (node levels true false)
        else if number?.isSome || tag?.isSome then pure (.ofScalar true "" tag?)
        else failure
      | some (.scalar isPlain text) => do skip; pure (.ofScalar isPlain text tag?)
      | some .flowSequenceStart => flowSequence (node levels false false)
      | some .flowMappingStart => flowMapping (node levels false false)
      | next =>
        if inBlock && next == some .blockSequenceStart then
          blockSequence (node levels true false)
        else if inBlock && next == some .blockMappingStart then
          blockMapping (node levels true true)
        else if number?.isSome || tag?.isSome then pure (.ofScalar true "" tag?)
        else failure
    if let some number := number? then
      modify fun remaining => { remaining with nodes := (number, content) :: remaining.nodes }
    return content

def markedDocument (root : NodeReader Node) : NodeReader Node := do
  discard (gather do if ← accept .directive then return some () else return none)
  if !(← accept .documentStart) then failure
  match ← peek? with
  | none => return .null
  | some _ => nodeUnless [.directive, .documentStart, .documentEnd] root

def documents : NodeReader (List Node) := do
  let root := node ((← get).tokens.length + 1) true false
  if (← peek?).isNone then return []
  let first ←
    if ← isNext [.directive, .documentStart] then markedDocument root else root
  discard (accept .documentEnd)
  let rest ← gather do
    discard (gather do if ← accept .documentEnd then return some () else return none)
    if (← peek?).isNone then return none
    modify fun remaining => { remaining with anchors := [] }
    let next ← markedDocument root
    discard (accept .documentEnd)
    return some next
  return first :: rest

end NodeReader

/-- The value of a YAML text with one document. A text without documents is an empty table. -/
def read? (origin : Option String) (text : String) : Option Setting := do
  let tokens ← tokens? text.toList
  let (documents, _) ← NodeReader.documents.run { tokens }
  match documents with
  | [] => some ⟨origin, .table []⟩
  | [document] => document.toSetting? origin
  | _ => none

end CompositionRoot.Yaml
