import CompositionRoot.Catalog.TypeIdentity

/-! Reasons why no services class is generated, and the diagnostics that report them. -/
namespace CompositionRoot

inductive GenerationError where
  /-- Nothing in the catalog implements the type. -/
  | unresolvedType (type : TypeIdentity)
  /-- A constructor takes a shared service whose field is not declared before. -/
  | missingField (identifier : String) (requiredBy : TypeIdentity)
  /-- Services that need each other in turn; the first is repeated at the end. -/
  | dependencyCycle (chain : List TypeIdentity)
  /-- A type of the generator's own is not in the catalog. -/
  | missingScaffolding (type : TypeIdentity)
  /-- The catalog has the type already. -/
  | duplicateType (type : TypeIdentity)
deriving DecidableEq, Repr

structure Diagnostic where
  id : String
  title : String
  message : String
  category : String
deriving DecidableEq, Repr

def Diagnostic.display (diagnostic : Diagnostic) : String :=
  "error " ++ diagnostic.id ++ ": " ++ diagnostic.message ++ " [" ++ diagnostic.category ++ "]"

namespace GenerationError

def message : GenerationError → String
  | unresolvedType type => s!"Could not find an implementation of type '{type}'."
  | missingField identifier requiredBy =>
    s!"Can not find field with name '{identifier}' for service '{requiredBy}' constructor."
  | dependencyCycle chain =>
    "Dependency cycle detected: " ++ " -> ".intercalate (chain.map TypeIdentity.name) ++ "."
  | missingScaffolding type => s!"Could not find '{type}' after adding it to the catalog."
  | duplicateType type => s!"Attempted to register a duplicated type: {type}"

def id : GenerationError → String
  | unresolvedType _ => "DIGEN001"
  | missingField _ _ => "DIGEN002"
  | dependencyCycle _ => "DIGEN003"
  | missingScaffolding _ => "INTER001"
  | duplicateType _ => "INTER002"

def title : GenerationError → String
  | unresolvedType _ | missingScaffolding _ => "Type not found"
  | missingField _ _ => "Field not found"
  | dependencyCycle _ => "Dependency cycle"
  | duplicateType _ => "Duplicate type"

/-- Whether the user's services or the generator is at fault. -/
def category : GenerationError → String
  | unresolvedType _ | missingField _ _ | dependencyCycle _ => "DI.Services"
  | missingScaffolding _ | duplicateType _ => "wiregen"

def diagnostic (error : GenerationError) : Diagnostic :=
  ⟨error.id, error.title, error.message, error.category⟩

end GenerationError

end CompositionRoot
