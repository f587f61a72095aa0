import Std.Data.HashMap
import CompositionRoot.Catalog.Error
import CompositionRoot.Catalog.TypeInfo

/-! Catalogs: the known types in order, with a search by identity that agrees with a scan of them.
A bare list of types is a catalog in which identities may repeat; `Catalog` refuses a second type of
one identity and keeps an index of positions. -/
namespace CompositionRoot

/-- A source of types. The first type of an identity is the one that is found. -/
class TypeCatalog (κ : Type) where
  /-- The types in catalog order. -/
  types : κ → List TypeInfo
  /-- The type of an identity. -/
  find? : κ → TypeIdentity → Option TypeInfo
  find?_eq : ∀ catalog type, find? catalog type = (types catalog).find? (·.identity == type)

instance : TypeCatalog (List TypeInfo) where
  types catalog := catalog
  find? catalog type := catalog.find? (·.identity == type)
  find?_eq _ _ := rfl

/-- Types in order of registration, with the position of each by its identity. -/
structure Catalog where
  entries : Array TypeInfo := #[]
  index : Std.HashMap TypeIdentity Nat := {}
  getElem?_index : ∀ type, index[type]? = entries.findIdx? (·.identity == type) := by simp

namespace Catalog

def types (catalog : Catalog) : List TypeInfo :=
  catalog.entries.toList

def contains (catalog : Catalog) (type : TypeIdentity) : Bool :=
  catalog.index.contains type

def size (catalog : Catalog) : Nat :=
  catalog.entries.size

def isEmpty (catalog : Catalog) : Bool :=
  catalog.entries.isEmpty

def find? (catalog : Catalog) (type : TypeIdentity) : Option TypeInfo :=
  catalog.index[type]?.bind (catalog.entries[·]?)

theorem findIdx?_bind_getElem? (p : TypeInfo → Bool) (entries : Array TypeInfo) :
    (entries.findIdx? p).bind (entries[·]?) = entries.toList.find? p := by
  obtain ⟨entries⟩ := entries
  simp only [List.findIdx?_toArray, List.getElem?_toArray]
  induction entries with
  | nil => rfl
  | cons head tail ih =>
    rw [List.findIdx?_cons, List.find?_cons]
    cases p head with
    | true => rfl
    | false => exact (Option.bind_map ..).trans ih

/-- The indexed search and a scan of the types find the same. -/
theorem find?_eq (catalog : Catalog) (type : TypeIdentity) :
    catalog.find? type = catalog.types.find? (·.identity == type) := by
  rw [find?, getElem?_index, findIdx?_bind_getElem?, types]

instance : TypeCatalog Catalog := ⟨types, find?, find?_eq⟩

/-- The index stays right when a type of a new identity is added. -/
theorem getElem?_index_insert (catalog : Catalog) (type : TypeInfo)
    (h : ¬ catalog.contains type.identity) (other : TypeIdentity) :
    (catalog.index.insert type.identity catalog.entries.size)[other]? =
      (catalog.entries.push type).findIdx? (·.identity == other) := by
  rw [contains, Std.HashMap.contains_eq_isSome_getElem?, getElem?_index, Bool.not_eq_true,
    Option.isSome_eq_false_iff, Option.isNone_iff_eq_none] at h
  rw [Std.HashMap.getElem?_insert, getElem?_index, Array.findIdx?_push]
  split
  · next same => rw [← eq_of_beq same, h]; simp
  · simp

/-- The answer to the registration of a type, and the catalog after it. A type of a new identity is
added at the end. -/
def offer (catalog : Catalog) (type : TypeInfo) : Except GenerationError Unit × Catalog :=
  if h : catalog.contains type.identity then
    (.error (.duplicateType type.identity), catalog)
  else
    (.ok (), {
      entries := catalog.entries.push type
      index := catalog.index.insert type.identity catalog.entries.size
      getElem?_index := catalog.getElem?_index_insert type h })

theorem offer_of_contains {catalog : Catalog} {type : TypeInfo}
    (h : catalog.contains type.identity) :
    catalog.offer type = (.error (.duplicateType type.identity), catalog) :=
  dif_pos h

theorem offer_of_not_contains {catalog : Catalog} {type : TypeInfo}
    (h : ¬ catalog.contains type.identity) :
    ∃ extended, catalog.offer type = (.ok (), extended) ∧
      extended.types = catalog.types ++ [type] :=
  ⟨_, dif_neg h, Array.toList_push⟩

/-- The catalog after the registration of a type that is not refused. -/
def register (catalog : Catalog) (type : TypeInfo) : Except GenerationError Catalog :=
  (catalog.offer type).1.map fun _ => (catalog.offer type).2

def ofTypes (types : List TypeInfo) : Except GenerationError Catalog :=
  types.foldlM register {}

end Catalog

end CompositionRoot
