import CompositionRoot.Catalog.Basic
import CompositionRoot.Settings.Source

/-! Manifests: the known types and the requested ones, as a file lists them. -/
namespace CompositionRoot

structure Manifest where
  requests : List TypeIdentity := []
  types : List TypeInfo := []
deriving DecidableEq, Repr

namespace Manifest

def decodeIdentity (setting : Setting) : Decoded TypeIdentity :=
  setting.toText.map TypeIdentity.mk

def decodeIdentities : Setting → Decoded (List TypeIdentity) :=
  Setting.toListOf decodeIdentity

/-- The constructor that a setting describes; it is public unless it says otherwise. -/
def decodeConstructor (setting : Setting) : Decoded Constructor := do
  setting.expectFields "struct ConstructorEntry"
  return {
    isPublic := ← setting.fieldOr 0 "public" true Setting.toBool
    isPrimary := ← setting.fieldOr 1 "primary" false Setting.toBool
    parameters := ← setting.fieldOr 2 "parameters" [] decodeIdentities }

def decodeType (setting : Setting) : Decoded TypeInfo := do
  setting.expectFields "struct TypeEntry"
  let some identity ← setting.field? 0 "identity" decodeIdentity
    | throw (match setting.kind with
      | .list _ => .noFields "struct TypeEntry with 5 elements"
      | _ => .missingField "identity")
  return {
    identity
    isAbstract := ← setting.fieldOr 1 "abstract" false Setting.toBool
    isTransient := ← setting.fieldOr 2 "transient" false Setting.toBool
    capabilities := ← setting.fieldOr 3 "implements" [] decodeIdentities
    constructors := ← setting.fieldOr 4 "constructors" [] (Setting.toListOf decodeConstructor) }

def ofEntries (entries : Entries Setting) : Decoded Manifest := do
  let setting := Setting.ofSources [entries]
  return {
    requests := ← setting.fieldOr 0 "requests" [] decodeIdentities
    types := ← setting.fieldOr 1 "types" [] (Setting.toListOf decodeType) }

def read (format : SettingFormat) (text : String) : Decoded Manifest := do
  ofEntries (← format.entries none text)

def load (folder : Folder) (name : String) : Decoded Manifest := do
  ofEntries (← folder.entries name)

def toCatalog (manifest : Manifest) : Except GenerationError Catalog :=
  Catalog.ofTypes manifest.types

end Manifest

end CompositionRoot
