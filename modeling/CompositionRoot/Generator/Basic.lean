import CompositionRoot.Generator.Config
import CompositionRoot.Generator.Scaffolding
import CompositionRoot.Synthesis

/-! The generator: from a catalog and requested types to the source files of the services class and
its attributes, or to one diagnostic. -/
namespace CompositionRoot

structure GeneratedSource where
  hintName : String
  text : String
deriving DecidableEq, Repr

structure GeneratorOutput where
  sources : List GeneratedSource := []
  diagnostics : List Diagnostic := []
deriving DecidableEq, Repr

namespace GeneratorOutput

def isSuccess (output : GeneratorOutput) : Bool :=
  output.diagnostics.isEmpty

def source? (output : GeneratorOutput) (hintName : String) : Option GeneratedSource :=
  output.sources.find? (·.hintName == hintName)

end GeneratorOutput

structure Generator where
  config : GeneratorConfig
  ordering : OrderingPolicy := config.ordering.policy

namespace Generator

def scaffolding (generator : Generator) : Scaffolding :=
  ⟨generator.config.enclosing, generator.config.className⟩

def buildServicesClass (generator : Generator) (catalog : Catalog) (requested : List TypeIdentity) :
    Except GenerationError String := do
  let complete ← generator.scaffolding.addTo catalog
  generator.scaffolding.verify complete
  synthesize complete generator.ordering generator.config.toClassNames requested

/-- The attributes and the services class, or the diagnostic of the error that prevents them. -/
def execute (generator : Generator) (catalog : Catalog) (requested : List TypeIdentity) :
    GeneratorOutput :=
  match generator.buildServicesClass catalog requested with
  | .ok services => {
      sources := [
        ⟨Scaffolding.transientAttributeFile, generator.scaffolding.transientAttributeSource⟩,
        ⟨Scaffolding.primaryConstructorAttributeFile,
          generator.scaffolding.primaryConstructorAttributeSource⟩,
        ⟨generator.config.fileName, services⟩] }
  | .error error => { diagnostics := [error.diagnostic] }

end Generator

end CompositionRoot
