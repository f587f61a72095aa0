import CompositionRoot.Catalog.Basic

/-! Types that the services class relies on and the user's program does not have: the class itself,
and the attributes that mark transient types and primary constructors. -/
namespace CompositionRoot

/-- The place and name of the services class. -/
structure Scaffolding where
  enclosing : String
  className : String
deriving DecidableEq, Repr

namespace Scaffolding

def transientAttributeFile : String := "TransientAttribute.cs"

def primaryConstructorAttributeFile : String := "PrimaryConstructorAttribute.cs"

def servicesStub (scaffolding : Scaffolding) : TypeIdentity :=
  ⟨scaffolding.enclosing ++ "." ++ scaffolding.className⟩

def transientAttribute (scaffolding : Scaffolding) : TypeIdentity :=
  ⟨scaffolding.enclosing ++ ".TransientAttribute"⟩

def primaryConstructorAttribute (scaffolding : Scaffolding) : TypeIdentity :=
  ⟨scaffolding.enclosing ++ ".PrimaryConstructorAttribute"⟩

def identities (scaffolding : Scaffolding) : List TypeIdentity :=
  [scaffolding.transientAttribute, scaffolding.primaryConstructorAttribute,
    scaffolding.servicesStub]

/-- Adds a concrete type of this identity, unless there is one. -/
def ensure (catalog : Catalog) (type : TypeIdentity) : Except GenerationError Catalog :=
  if catalog.contains type then .ok catalog else catalog.register { identity := type }

def addTo (scaffolding : Scaffolding) (catalog : Catalog) : Except GenerationError Catalog :=
  scaffolding.identities.foldlM ensure catalog

/-- Fails with the first of the types that the catalog lacks. -/
def verify {κ : Type} [TypeCatalog κ] (scaffolding : Scaffolding) (catalog : κ) :
    Except GenerationError Unit :=
  match scaffolding.identities.find? fun type => (TypeCatalog.find? catalog type).isNone with
  | some type => .error (.missingScaffolding type)
  | none => .ok ()

def attributeSource (scaffolding : Scaffolding) (target name : String) : String :=
  "\nusing System;\n\nnamespace " ++ scaffolding.enclosing ++
  "\n\x7b\n    [AttributeUsage(AttributeTargets." ++ target ++
  ")]\n    public class " ++ name ++ " : Attribute \x7b \x7d\n\x7d"

def transientAttributeSource (scaffolding : Scaffolding) : String :=
  scaffolding.attributeSource "Interface" "TransientAttribute"

def primaryConstructorAttributeSource (scaffolding : Scaffolding) : String :=
  scaffolding.attributeSource "Constructor" "PrimaryConstructorAttribute"

end Scaffolding

end CompositionRoot
