import CompositionRoot.Catalog.TypeIdentity

/-! The services class as data: a static field for each shared service, and a method that finds the
instance of a requested type. -/
namespace CompositionRoot

inductive Expression where
  /-- A field of the class. -/
  | field (name : String)
  /-- A constructor call. -/
  | create (implementation : TypeIdentity) (arguments : List Expression)
deriving Repr

structure Field where
  type : TypeIdentity
  name : String
  initializer : Expression
deriving Repr

/-- The body of the method: tests of the requested type from top to bottom. -/
inductive Dispatch where
  /-- Nothing can be requested. -/
  | unreachable
  /-- The instance for every type that comes this far. -/
  | otherwise (value : Expression)
  /-- The instance for one type, and how the others go on. -/
  | test (type : TypeIdentity) (value : Expression) (next : Dispatch)
deriving Repr

namespace Dispatch

/-- Tests the types in order, all but the last: its instance answers whatever is left. -/
def ofBranches : List (TypeIdentity × Expression) → Dispatch
  | [] => unreachable
  | [(_, value)] => otherwise value
  | (type, value) :: branch :: rest => test type value (ofBranches (branch :: rest))

/-- The instance that the method gives for a requested type. -/
def instance? (requested : TypeIdentity) : Dispatch → Option Expression
  | unreachable => none
  | otherwise value => some value
  | test type value next => if requested = type then some value else next.instance? requested

end Dispatch

structure ClassNames where
  enclosing : String := "DI"
  className : String := "Services"
  resolveMethod : String := "Resolve"
deriving DecidableEq, Repr

structure ServicesClass where
  names : ClassNames
  fields : List Field
  dispatch : Dispatch
deriving Repr

end CompositionRoot
