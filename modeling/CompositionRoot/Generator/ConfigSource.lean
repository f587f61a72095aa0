import CompositionRoot.Generator.Config
import CompositionRoot.Settings.Source

/-! Configurations from files and the environment. What no source gives keeps its default. -/
namespace CompositionRoot.GeneratorConfig

def defaultFile : String := "wiregen.json"

def variableStart : String := "wiregen_"

/-- The configuration that some sources make. A null gives nothing. -/
def ofSources (sources : List (Entries Setting)) : Decoded GeneratorConfig := do
  let setting := Setting.ofSources sources
  let given {α : Type} (name : String) (fallback : α) (decode : Setting → Decoded α) : Decoded α :=
    (setting.fieldOr 0 name none (Setting.optional decode)).map (·.getD fallback)
  let default : GeneratorConfig := {}
  return {
    enclosing := ← given "namespace" default.enclosing Setting.toText
    className := ← given "class_name" default.className Setting.toText
    resolveMethod := ← given "resolve_method" default.resolveMethod Setting.toText
    fileName := ← given "file_name" default.fileName Setting.toText
    ordering := ← given "ordering" default.ordering
      (Setting.toChoice "OrderingStrategy" OrderingStrategy.ofName?)
    installsLogger := ← given "install_tracing_logger" default.installsLogger Setting.toBool }

def load (folder : Folder) (name : String) : Decoded GeneratorConfig := do
  ofSources [← folder.entries name]

def ofEnvironment (folder : Folder) (environment : List (String × String)) :
    Decoded GeneratorConfig := do
  ofSources [← folder.optionalEntries defaultFile, environmentEntries variableStart environment]

end CompositionRoot.GeneratorConfig
