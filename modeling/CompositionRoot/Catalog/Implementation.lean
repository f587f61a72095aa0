import CompositionRoot.Catalog.Basic

/-! Implementations of types. An abstract type is served by the first concrete type in the catalog
that implements it, a concrete one by itself. -/
namespace CompositionRoot

variable {κ : Type} [TypeCatalog κ]

/-- The concrete types that implement a capability, in catalog order. -/
def locateAll (catalog : κ) (capability : TypeIdentity) : List TypeInfo :=
  (TypeCatalog.types catalog).filter fun type => !type.isAbstract && type.implements capability

def locate? (catalog : κ) (capability : TypeIdentity) : Option TypeInfo :=
  (locateAll catalog capability).head?

/-- The concrete type that serves requests for a type of the catalog. -/
def implementation? (catalog : κ) (requested : TypeInfo) : Option TypeInfo :=
  if requested.isAbstract then locate? catalog requested.identity else some requested

end CompositionRoot
