import CompositionRoot.Catalog.TypeIdentity

/-! What is known of a type: its markers, the capabilities it implements and its constructors. -/
namespace CompositionRoot

structure Constructor where
  isPublic : Bool := true
  isPrimary : Bool := false
  parameters : List TypeIdentity := []
deriving DecidableEq, Repr

/-- A type of the program. An abstract type is served by one that implements it, and a transient
type by a new instance at each use. -/
structure TypeInfo where
  identity : TypeIdentity
  isAbstract : Bool := false
  isTransient : Bool := false
  capabilities : List TypeIdentity := []
  constructors : List Constructor := []
deriving DecidableEq, Repr

namespace TypeInfo

def implements (type : TypeInfo) (capability : TypeIdentity) : Bool :=
  type.capabilities.contains capability

/-- The position of the constructor that creates instances: the first public one marked primary,
else the first public one. -/
def constructorIndex? (type : TypeInfo) : Option Nat :=
  type.constructors.findIdx? (fun c => c.isPublic && c.isPrimary) <|>
    type.constructors.findIdx? Constructor.isPublic

/-- The constructor that creates instances. A type without a public one is created without
arguments. -/
def constructor? (type : TypeInfo) : Option Constructor :=
  type.constructorIndex?.bind (type.constructors[·]?)

def parameters (type : TypeInfo) : List TypeIdentity :=
  (type.constructor?.map Constructor.parameters).getD []

end TypeInfo

inductive Lifetime where
  /-- One instance for all its users. -/
  | shared
  /-- A new instance at each use. -/
  | perRequest
deriving DecidableEq, Repr

/-- The lifetime of a service that is requested as `type`, whatever implements it. -/
def Lifetime.of (type : TypeInfo) : Lifetime :=
  if type.isTransient then .perRequest else .shared

end CompositionRoot
