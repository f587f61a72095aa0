/-! Identities of types: qualified names, and the last segment of one. -/
namespace CompositionRoot

/-- The qualified name of a type. Two types are the same exactly when their names are. -/
structure TypeIdentity where
  name : String
deriving DecidableEq, Hashable, Repr

instance : ToString TypeIdentity := ⟨TypeIdentity.name⟩

/-- The bracket depth after `c`. Kinds of bracket are not told apart, and a closing bracket that
closes nothing leaves the depth at zero. -/
def bracketDepth (depth : Nat) (c : Char) : Nat :=
  if c = '<' ∨ c = '[' ∨ c = '(' then depth + 1
  else if c = '>' ∨ c = ']' ∨ c = ')' then depth - 1
  else depth

/-- The text after the last dot outside brackets, for a scan at `depth` in a segment that has begun
with the reverse of `segment`. -/
def lastSegmentFrom (depth : Nat) (segment : List Char) : List Char → List Char
  | [] => segment.reverse
  | c :: rest =>
    if c = '.' ∧ depth = 0 then lastSegmentFrom depth [] rest
    else lastSegmentFrom (bracketDepth depth c) (c :: segment) rest

/-- The text after the last dot outside brackets. -/
def lastSegment (text : List Char) : List Char :=
  lastSegmentFrom 0 [] text

def TypeIdentity.simpleName (type : TypeIdentity) : String :=
  String.ofList (lastSegment type.name.toList)

end CompositionRoot
