/-! Values of settings: scalars, lists and tables, each with the place that it comes from. -/
namespace CompositionRoot

/-- The kinds of value, where the parts of lists and tables are of type `α`. -/
inductive Kind (α : Type) where
  | null
  | bool (value : Bool)
  | integer (value : Int)
  | float (value : Float)
  | text (value : String)
  | list (items : List α)
  | table (entries : List (String × α))

/-- A value, and the name of its file or other source if it was written there as it is. -/
structure Setting where
  origin : Option String
  kind : Kind Setting

abbrev Entries (α : Type) := List (String × α)

/-- Gives a key a value, in place of the one that it has or after all others. -/
def Entries.put {α : Type} (entries : Entries α) (key : String) (value : α) : Entries α :=
  if entries.any (·.1 == key) then
    entries.map fun entry => if entry.1 == key then (key, value) else entry
  else
    entries ++ [(key, value)]

namespace Setting

def null : Setting := ⟨none, .null⟩

def empty : Setting := ⟨none, .table []⟩

def entries (setting : Setting) : Entries Setting :=
  match setting.kind with
  | .table entries => entries
  | _ => []

def items (setting : Setting) : List Setting :=
  match setting.kind with
  | .list items => items
  | _ => []

/-- The value itself if it is a table, else an empty table in its place. -/
def asTable (setting : Setting) : Setting :=
  match setting.kind with
  | .table _ => setting
  | _ => empty

def asList (setting : Setting) : Setting :=
  match setting.kind with
  | .list _ => setting
  | _ => ⟨none, .list []⟩

theorem sizeOf_lt_of_mem_entries {setting part : Setting} {key : String}
    (h : (key, part) ∈ setting.entries) : sizeOf part < sizeOf setting := by
  obtain ⟨origin, kind⟩ := setting
  cases kind with
  | table entries =>
    have := List.sizeOf_lt_of_mem (show (key, part) ∈ entries from h)
    simp at this ⊢
    omega
  | _ => cases h

/-- Changes one entry of a table, which is null if it was not there. -/
def modifyEntry (setting : Setting) (key : String) (change : Setting → Setting) : Setting :=
  let table := setting.asTable
  { table with
    kind := .table (table.entries.put key (change ((table.entries.lookup key).getD null))) }

/-- Changes one item of a list, which is filled up with nulls as far as needed. A negative position
counts from the end. -/
def modifyItem (setting : Setting) (position : Int) (change : Setting → Setting) : Setting :=
  let list := setting.asList
  let length := list.items.length
  let index := if position < 0 then length - position.natAbs else position.toNat
  let filled := list.items ++ List.replicate (index + 1 - length) null
  { list with kind := .list (filled.modify index change) }

/-- Gives an entry of a table a value. The entries of a table are given one by one to the table that
is there. -/
def assign (setting : Setting) (key : String) (value : Setting) : Setting :=
  match value.kind with
  | .table _ =>
    let target := (setting.entries.lookup key).getD empty
    let merged := value.entries.attach.foldl
      (fun target ⟨(name, part), _⟩ => target.assign name part) target
    setting.modifyEntry key fun _ => merged
  | _ => setting.modifyEntry key fun _ => value
termination_by sizeOf value
decreasing_by exact sizeOf_lt_of_mem_entries ‹_›

end Setting

end CompositionRoot
