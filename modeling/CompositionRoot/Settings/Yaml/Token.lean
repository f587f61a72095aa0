import CompositionRoot.Settings.Yaml.Scalar

/-! The tokens of a YAML text. A key is known as such only by the colon after it, so that its token
and that of its mapping are put before it then. -/
namespace CompositionRoot.Yaml
open TextReader

def skipToToken : TextReader Unit :=
  repeatStep do
    let c ← char
    if c == ' ' || (c == '\t' && ((← inFlow) || !(← get).keyAllowed)) then
      skip 1
      return true
    else if isBreak c then
      skipBreak
      if !(← inFlow) then allowKey true
      return true
    else if c == '#' then
      skipWhile fun c => !isBreakOrEnd c
      return true
    else
      return false

/-- Ends all block collections, before a directive, a document mark or the end of the text. -/
def endBlocks : TextReader Unit := do
  unindentTo (-1)
  dropKey
  allowKey false

def versionDigits : TextReader Unit := do
  let digits ← takeWhile Char.isDigit
  if digits.isEmpty || 9 < digits.length then failure

def octet : TextReader Nat := do
  let digits := ((← get).cursor.rest.drop 1).take 2
  if (← char) ≠ '%' || digits.length < 2 || !digits.all Reader.isHexDigit then failure
  skip 3
  return Reader.digitsValue 16 digits

/-- Takes an escaped character of a tag. Of two octets, the first has the higher place value. -/
def escapedChar : TextReader Char := do
  let first ← octet
  if first < 0x80 then
    return Char.ofNat first
  let second ← octet
  if first < 0xC0 || 0xD8 ≤ first || second < 0x80 || 0xC0 ≤ second then failure
  return Char.ofNat (first * 256 + second)

def tagSuffix : TextReader (List Char) :=
  gather do
    let c ← char
    if c == '%' then
      some <$> escapedChar
    else if isWordChar c || ";/?:@&=+$,.!~*'()[]".toList.contains c then
      skip 1
      return some c
    else
      return none

/-- Takes the handle of a tag: an exclamation mark, or two with a word between them. Without the
second, the word belongs to the suffix. -/
def tagHandle : TextReader (List Char) := do
  if (← char) ≠ '!' then failure
  skip 1
  let word ← takeWhile isWordChar
  if (← char) == '!' then
    skip 1
    return '!' :: word ++ ['!']
  else
    return '!' :: word

def directive : TextReader Unit := do
  endBlocks
  skip 1
  let name ← takeWhile isWordChar
  if name.isEmpty || !isBlankOrEnd (← char) then failure
  match String.ofList name with
  | "YAML" =>
    skipWhile isBlank
    versionDigits
    if (← char) ≠ '.' then failure
    skip 1
    versionDigits
  | "TAG" =>
    skipWhile isBlank
    let handle ← tagHandle
    if handle.getLast? ≠ some '!' then failure
    skipWhile isBlank
    let suffix ← tagSuffix
    if suffix.isEmpty || !isBlankOrEnd (← char) then failure
  | _ => skipWhile fun c => !isBreakOrEnd c
  skipComment
  push .directive

def documentMark (token : Token) : TextReader Unit := do
  endBlocks
  skip 3
  push token

def tag : TextReader Unit := do
  noteKey
  allowKey false
  let token ←
    if (← charAt 1) == '<' then
      skip 2
      let suffix ← tagSuffix
      if suffix.isEmpty || (← char) ≠ '>' then failure
      skip 1
      pure (Token.tag "" (String.ofList suffix))
    else
      let handle ← tagHandle
      let suffix ← tagSuffix
      if 2 ≤ handle.length && handle.getLast? == some '!' then
        if suffix.isEmpty then failure
        pure (Token.tag (String.ofList handle) (String.ofList suffix))
      else
        let whole := handle.tail ++ suffix
        pure (if whole.isEmpty then Token.tag "" "!" else Token.tag "!" (String.ofList whole))
  if !isBlankOrEnd (← char) then failure
  push token

def anchorName : TextReader String := do
  noteKey
  allowKey false
  skip 1
  let name ← takeWhile isWordChar
  let c ← char
  if name.isEmpty || !(isBlankOrEnd c || "?:,]\x7d%@`".toList.contains c) then failure
  return String.ofList name

def flowStart (token : Token) : TextReader Unit := do
  noteKey
  if 255 ≤ (← flowLevel) then failure
  modify fun progress => { progress with keys := none :: progress.keys }
  allowKey true
  skip 1
  push token

def flowEnd (token : Token) : TextReader Unit := do
  dropKey
  modify fun progress =>
    { progress with keys := if 1 < progress.keys.length then progress.keys.tail else progress.keys }
  allowKey false
  skip 1
  push token

def blockEntry : TextReader Unit := do
  if (← inFlow) || !(← get).keyAllowed then failure
  indentTo (← column) none .blockSequenceStart
  dropKey
  allowKey true
  skip 1
  push .blockEntry

def keyMark : TextReader Unit := do
  if !(← inFlow) then
    if !(← get).keyAllowed then failure
    indentTo (← column) none .blockMappingStart
  dropKey
  allowKey !(← inFlow)
  skip 1
  push .key

def valueMark : TextReader Unit := do
  match (← get).keys with
  | some start :: _ =>
    insertAt start.tokenNumber .key
    indentTo start.column (some start.tokenNumber) .blockMappingStart
    modify fun progress => { progress with keys := none :: progress.keys.tail }
    allowKey false
  | _ =>
    if !(← inFlow) then
      if !(← get).keyAllowed then failure
      indentTo (← column) none .blockMappingStart
    allowKey !(← inFlow)
  skip 1
  push .value

/-- Takes a scalar, before which a key may begin and after which none may unless it says so. -/
def scalarToken (keyAfter : Bool) (scalar : TextReader Token) : TextReader Unit := do
  noteKey
  allowKey keyAfter
  push (← scalar)

/-- Takes a scalar in quotes, after which a value may follow at once. -/
def quotedToken (quote : Char) : TextReader Unit := do
  scalarToken false (quotedScalar quote)
  modify fun progress => { progress with adjacentValueAt := progress.cursor.index }

/-- Takes the next token with those that its place implies, unless the text ends. -/
def token : TextReader Bool := do
  skipToToken
  dropStaleKeys
  unindentTo (← column)
  let c ← char
  let following ← charAt 1
  let inFlow ← inFlow
  if c == '\x00' then
    endBlocks
    return false
  if (← column) == 0 && c == '%' then directive
  else if ← atDocumentMark '-' then documentMark .documentStart
  else if ← atDocumentMark '.' then documentMark .documentEnd
  else if c == '[' then flowStart .flowSequenceStart
  else if c == '{' then flowStart .flowMappingStart
  else if c == ']' then flowEnd .flowSequenceEnd
  else if c == '}' then flowEnd .flowMappingEnd
  else if c == ',' then
    dropKey
    allowKey true
    skip 1
    push .flowEntry
  else if c == '-' && isBlankOrEnd following then blockEntry
  else if c == '?' && isBlankOrEnd following then keyMark
  else if c == ':' && (isBlankOrEnd following || inFlow &&
      (isFlowIndicator following || (← get).cursor.index == (← get).adjacentValueAt)) then valueMark
  else if c == '*' then push (.alias (← anchorName))
  else if c == '&' then push (.anchor (← anchorName))
  else if c == '!' then tag
  else if c == '|' && !inFlow then scalarToken true (blockScalar true)
  else if c == '>' && !inFlow then scalarToken true (blockScalar false)
  else if c == '\'' || c == '"' then quotedToken c
  else if c == '%' || c == '@' || c == '\x60' then failure
  else scalarToken false plainScalar
  return true

def tokens? (text : List Char) : Option (List Token) :=
  ((repeatStep token).run { cursor := { rest := text }, limit := text.length + 2 }).map
    fun (_, progress) => progress.tokens.toList

end CompositionRoot.Yaml
