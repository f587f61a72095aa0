import CompositionRoot.Settings.Value

/-! Documents of TOML: tables that several sections and dotted keys build up together. -/
namespace CompositionRoot.Toml

/-- A part of a document, with what may still be added to it. -/
inductive Node where
  /-- A value, which is complete. -/
  | value (setting : Setting)
  /-- A table made by dotted keys, to which further keys of its section may be added. -/
  | dotted (entries : List (String × Node))
  /-- A table made by headers, and whether it has a section of its own. -/
  | table (hasSection : Bool) (entries : List (String × Node))
  /-- The tables of a list, of which the last may get further parts. -/
  | tables (items : List (List (String × Node)))

namespace Node

mutual

def toSetting (origin : Option String) : Node → Setting
  | .value setting => setting
  | .dotted entries => ⟨origin, .table (toEntries origin entries)⟩
  | .table _ entries => ⟨origin, .table (toEntries origin entries)⟩
  | .tables items => ⟨origin, .list (toItems origin items)⟩

def toEntries (origin : Option String) : List (String × Node) → Entries Setting
  | [] => []
  | (key, node) :: rest => (key, node.toSetting origin) :: toEntries origin rest

def toItems (origin : Option String) : List (List (String × Node)) → List Setting
  | [] => []
  | entries :: rest => ⟨origin, .table (toEntries origin entries)⟩ :: toItems origin rest

end

end Node

/-- Adds a value under a dotted key; refuses what is there already. -/
def addKey (value : Setting) : List String → Entries Node → Option (Entries Node)
  | [], _ => none
  | [key], entries =>
    match entries.lookup key with
    | none => some (entries.put key (.value value))
    | some _ => none
  | key :: rest, entries =>
    match entries.lookup key with
    | none => (addKey value rest []).map fun inner => entries.put key (.dotted inner)
    | some (.dotted inner) => (addKey value rest inner).map fun inner =>
      entries.put key (.dotted inner)
    | some _ => none

/-- Adds named parts to others; refuses a name that both have. -/
def disjoint (entries : Entries Node) (more : Entries Node) : Option (Entries Node) :=
  if more.any fun entry => entries.any (·.1 == entry.1) then none else some (entries ++ more)

structure Section where
  path : List String
  isItem : Bool
  keys : Entries Node

/-- Adds a section under its path; refuses a table that has one already. -/
def addSection (isItem : Bool) (keys : Entries Node) :
    List String → Entries Node → Option (Entries Node)
  | [], _ => none
  | [key], entries =>
    match entries.lookup key with
    | none => some (entries.put key (if isItem then .tables [keys] else .table true keys))
    | some (.table false inner) =>
      if isItem then none
      else (disjoint inner keys).map fun inner => entries.put key (.table true inner)
    | some (.tables items) =>
      if isItem then some (entries.put key (.tables (items ++ [keys]))) else none
    | some _ => none
  | key :: rest, entries =>
    match entries.lookup key with
    | none => (addSection isItem keys rest []).map fun inner =>
      entries.put key (.table false inner)
    | some (.table hasSection inner) => (addSection isItem keys rest inner).map fun inner =>
      entries.put key (.table hasSection inner)
    | some (.tables items) =>
      (addSection isItem keys rest (items.getLast?.getD [])).map fun inner =>
        entries.put key (.tables (items.dropLast ++ [inner]))
    | some _ => none

def ofSections (origin : Option String) (keys : Entries Node) (sections : List Section) :
    Option (Entries Setting) :=
  let add (entries : Entries Node) (part : Section) : Option (Entries Node) :=
    addSection part.isItem part.keys part.path entries
  (sections.foldlM add keys).map (Node.toEntries origin)

end CompositionRoot.Toml
