import CompositionRoot.Catalog.TypeIdentity
import CompositionRoot.Text.Alphabetic
import CompositionRoot.Text.Words

/-! Identifiers of services, made from the names of their implementations. -/
namespace CompositionRoot
open Text

def isIdentifierChar (c : Char) : Bool :=
  isAlphabetic c || c.isDigit || c == '_'

/-- Puts an underscore before a name that starts with a digit, and names what has no name. -/
def repairName : List Char → List Char
  | [] => "service".toList
  | c :: rest => if c.isDigit then '_' :: c :: rest else c :: rest

/-- The identifier of a type of this simple name: its words in lower case, everything else left
out. -/
def identifierOf (simpleName : List Char) : List Char :=
  repairName (flatCase (simpleName.map fun c => if isIdentifierChar c then c else ' '))

/-- The identifier of a service that `type` implements, if no other service has it. -/
def TypeIdentity.baseIdentifier (type : TypeIdentity) : String :=
  String.ofList (identifierOf (lastSegment type.name.toList))

def numbered (base : String) (k : Nat) : String :=
  base ++ toString k

/-- The identifier itself if it is not taken, else the first free one of those numbered from two. -/
def freshIdentifier (taken : List String) (base : String) : String :=
  if base ∈ taken then
    (((List.range' 2 (taken.length + 1)).map (numbered base)).find? (· ∉ taken)).getD ""
  else
    base

end CompositionRoot
