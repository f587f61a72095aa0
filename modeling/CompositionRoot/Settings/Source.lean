import CompositionRoot.Settings.Decoding
import CompositionRoot.Settings.Json
import CompositionRoot.Settings.Path
import CompositionRoot.Settings.Toml.Basic
import CompositionRoot.Settings.Yaml.Document

/-! Sources of settings: texts, files and the environment. Settings of later sources replace those
of earlier ones. -/
namespace CompositionRoot

inductive SettingFormat where
  | json
  | toml
  | yaml
deriving DecidableEq, Repr

namespace SettingFormat

def extensions : List (String × SettingFormat) :=
  [("json", json), ("toml", toml), ("yaml", yaml), ("yml", yaml)]

def read? (format : SettingFormat) (origin : Option String) (text : String) : Option Setting :=
  match format with
  | json => Json.read? origin text
  | toml => Toml.read? origin text
  | yaml => Yaml.read? origin text

/-- The entries of the table that a text holds; a text without a table has none. -/
def entries (format : SettingFormat) (origin : Option String) (text : String) :
    Decoded (Entries Setting) :=
  match format.read? origin text with
  | some setting => .ok setting.entries
  | none => .error .malformed

end SettingFormat

structure Folder where
  path : String
  files : List (String × String)

namespace Folder

/-- What follows the last dot of a file name, unless the name starts with that dot. -/
def extension? (name : String) : Option String :=
  let reversed := name.toList.reverse
  match reversed.dropWhile (· != '.') with
  | _ :: _ :: _ => some (String.ofList (reversed.takeWhile (· != '.')).reverse)
  | _ => none

/-- The name and format of the file that a name stands for: the file itself, or one whose name has
an extension of a known format in addition. -/
def locate (folder : Folder) (name : String) : Decoded (String × SettingFormat) :=
  let has (file : String) : Bool := (folder.files.lookup file).isSome
  if has name then
    match (extension? name).bind (SettingFormat.extensions.lookup ·) with
    | some format => .ok (name, format)
    | none => .error (.unknownFormat (folder.path ++ "/" ++ name))
  else
    match SettingFormat.extensions.find? fun entry => has (name ++ "." ++ entry.1) with
    | some (extension, format) => .ok (name ++ "." ++ extension, format)
    | none => .error (.notFound name)

def entries (folder : Folder) (name : String) : Decoded (Entries Setting) := do
  let (file, format) ← folder.locate name
  format.entries (some file) ((folder.files.lookup file).getD "")

def optionalEntries (folder : Folder) (name : String) : Decoded (Entries Setting) :=
  match folder.locate name with
  | .ok (file, format) => format.entries (some file) ((folder.files.lookup file).getD "")
  | .error _ => .ok []

end Folder

/-- The entries that environment variables of a common start make, under what follows it in lower
case. -/
def environmentEntries (start : String) (environment : List (String × String)) : Entries Setting :=
  environment.filterMap fun (name, value) =>
    let lowered := Text.lowercase name.toList
    if start.toList.isPrefixOf lowered then
      some (String.ofList (lowered.drop start.length), ⟨some "the environment", .text value⟩)
    else
      none

/-- The table of all sources in order. The keys of each are read as paths, and those of the result
once more. -/
def Setting.ofSources (sources : List (Entries Setting)) : Setting :=
  Setting.empty.overlay (sources.foldl Setting.overlay Setting.empty).entries

end CompositionRoot
