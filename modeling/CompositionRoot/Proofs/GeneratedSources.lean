import CompositionRoot.Proofs.TransparentScaffolding

/-! Sources of a run. A run that succeeds has the files of the two attributes and the one of the
services class, whose name the user chooses. A name finds the first file that has it, so the class
is out of reach where it is called like an attribute. -/
namespace CompositionRoot

/-- Sources of different names are found by their names. -/
theorem GeneratorOutput.source?_of_mem {output : GeneratorOutput}
    (hnodup : (output.sources.map (·.hintName)).Nodup) {source : GeneratedSource}
    (hmem : source ∈ output.sources) : output.source? source.hintName = some source := by
  obtain ⟨sources, diagnostics⟩ := output
  rw [source?]
  induction sources with
  | nil => cases hmem
  | cons first rest ih =>
    rw [List.map_cons, List.nodup_cons] at hnodup
    rcases List.mem_cons.mp hmem with rfl | hmem
    · exact List.find?_cons_of_pos (beq_self_eq_true _)
    · have hne : first.hintName ≠ source.hintName := fun heq =>
        hnodup.1 (heq ▸ List.mem_map_of_mem hmem)
      rw [List.find?_cons_of_neg (by simpa using hne)]
      exact ih hnodup.2 hmem

def Scaffolding.attributeFiles : List String :=
  [transientAttributeFile, primaryConstructorAttributeFile]

theorem head?_toList_append {start : String} {c : Char} (h : start.toList.head? = some c)
    (rest : String) : (start ++ rest).toList.head? = some c := by
  rw [String.toList_append, List.head?_append, h, Option.some_or]

theorem ServicesClass.head?_render (services : ServicesClass) :
    services.render.toList.head? = some '/' := by
  have hcomment : (line 0 "// <auto-generated />").toList.head? = some '/' := by
    simp [line, String.join]
  simp only [render, String.append_assoc]
  exact head?_toList_append hcomment _

theorem Scaffolding.head?_attributeSource (scaffolding : Scaffolding) (target name : String) :
    (scaffolding.attributeSource target name).toList.head? = some '\n' := by
  have hstart : "\nusing System;\n\nnamespace ".toList.head? = some '\n' := rfl
  unfold attributeSource
  simp only [String.append_assoc]
  exact head?_toList_append hstart _

theorem head?_of_synthesize {κ : Type} [TypeCatalog κ] {catalog : κ} {ordering : OrderingPolicy}
    {names : ClassNames} {requested : List TypeIdentity} {text : String}
    (h : synthesize catalog ordering names requested = .ok text) :
    text.toList.head? = some '/' := by
  cases hresolve : ServiceGraph.resolve catalog requested with
  | error error =>
    rw [synthesize_of_error hresolve] at h
    cases h
  | ok graph =>
    rw [synthesize_of_ok hresolve] at h
    cases horder : ordering graph with
    | error error =>
      rw [horder] at h
      cases h
    | ok order =>
      rw [horder] at h
      obtain ⟨_, _, _, _, _, rfl⟩ := ServiceGraph.emit_eq_ok_iff.mp h
      exact ServicesClass.head?_render _

namespace Generator

variable {generator : Generator} {catalog : Catalog} {requested : List TypeIdentity}
  {text : String}

theorem execute_of_ok (h : generator.buildServicesClass catalog requested = .ok text) :
    generator.execute catalog requested = {
      sources := [
        ⟨Scaffolding.transientAttributeFile, generator.scaffolding.transientAttributeSource⟩,
        ⟨Scaffolding.primaryConstructorAttributeFile,
          generator.scaffolding.primaryConstructorAttributeSource⟩,
        ⟨generator.config.fileName, text⟩] } := by
  rw [execute, h]

theorem execute_of_error {error : GenerationError}
    (h : generator.buildServicesClass catalog requested = .error error) :
    generator.execute catalog requested = { diagnostics := [error.diagnostic] } := by
  rw [execute, h]

/-- The class begins with a comment and the attributes with an empty line. -/
theorem attributeSource_ne_of_build (h : generator.buildServicesClass catalog requested = .ok text)
    (target name : String) : generator.scaffolding.attributeSource target name ≠ text := by
  obtain ⟨complete, _, _, hbuild⟩ := generator.exists_buildServicesClass_eq catalog
  rw [hbuild] at h
  intro heq
  have hclass := head?_of_synthesize h
  rw [← heq, Scaffolding.head?_attributeSource] at hclass
  cases hclass

/-- What the user of a generator relies on: the files of the attributes and of the class, each found
by its name and the class by the name that the user chose, or no sources and the diagnostic of the
error. -/
inductive Reports (fileName : String) :
    Except GenerationError String → GeneratorOutput → Prop where
  | sources {text : String} {output : GeneratorOutput} (diagnostics : output.diagnostics = [])
      (hintNames : output.sources.map (·.hintName) = Scaffolding.attributeFiles ++ [fileName])
      (nodup : (output.sources.map (·.hintName)).Nodup)
      (finds : ∀ source ∈ output.sources, output.source? source.hintName = some source)
      (findsClass : (output.source? fileName).map (·.text) = some text) :
      Reports fileName (.ok text) output
  | diagnostic {error : GenerationError} {output : GeneratorOutput} (sources : output.sources = [])
      (diagnostics : output.diagnostics = [error.diagnostic]) :
      Reports fileName (.error error) output

theorem nodup_hintNames_iff (h : generator.buildServicesClass catalog requested = .ok text) :
    ((generator.execute catalog requested).sources.map (·.hintName)).Nodup ↔
      generator.config.fileName ∉ Scaffolding.attributeFiles := by
  have hfixed :
      Scaffolding.transientAttributeFile ≠ Scaffolding.primaryConstructorAttributeFile := by
    decide
  rw [execute_of_ok h]
  simp [Scaffolding.attributeFiles, hfixed, eq_comm]

/-- Where the class is called like an attribute, its name finds the attribute and every other name
finds no class either. -/
theorem text_source?_ne (h : generator.buildServicesClass catalog requested = .ok text)
    (hfile : generator.config.fileName ∈ Scaffolding.attributeFiles) (name : String) :
    ((generator.execute catalog requested).source? name).map (·.text) ≠ some text := by
  have htext := attributeSource_ne_of_build h
  rw [execute_of_ok h, GeneratorOutput.source?]
  by_cases htransient : name = Scaffolding.transientAttributeFile
  · simpa [htransient, Scaffolding.transientAttributeSource] using
      htext "Interface" "TransientAttribute"
  by_cases hprimary : name = Scaffolding.primaryConstructorAttributeFile
  · rw [List.find?_cons_of_neg (by simpa using Ne.symm htransient)]
    simpa [hprimary, Scaffolding.primaryConstructorAttributeSource] using
      htext "Constructor" "PrimaryConstructorAttribute"
  · have hname : generator.config.fileName ≠ name := by
      rintro rfl
      simp [Scaffolding.attributeFiles, htransient, hprimary] at hfile
    simp [Ne.symm htransient, Ne.symm hprimary, hname]

theorem reports_of_ok (h : generator.buildServicesClass catalog requested = .ok text)
    (hfile : generator.config.fileName ∉ Scaffolding.attributeFiles) :
    Reports generator.config.fileName (.ok text) (generator.execute catalog requested) := by
  have hnodup := (nodup_hintNames_iff h).mpr hfile
  have hfinds : ∀ source ∈ (generator.execute catalog requested).sources,
      (generator.execute catalog requested).source? source.hintName = some source :=
    fun _ hmem => GeneratorOutput.source?_of_mem hnodup hmem
  have hclass := hfinds ⟨generator.config.fileName, text⟩ (by simp [execute_of_ok h])
  refine .sources ?_ ?_ hnodup hfinds ?_
  · rw [execute_of_ok h]
  · rw [execute_of_ok h]
    rfl
  · rw [hclass, Option.map_some]

end Generator

/-- A run either fails with one diagnostic, that of the error, or has the three sources, and these
can be told apart by their names exactly if the class is not called like an attribute. If it is, no
name finds it. -/
theorem execute_reports_iff (generator : Generator) (catalog : Catalog)
    (requested : List TypeIdentity) :
    (Generator.Reports generator.config.fileName (generator.buildServicesClass catalog requested)
        (generator.execute catalog requested) ↔
      ∀ text, generator.buildServicesClass catalog requested = .ok text →
        generator.config.fileName ∉ Scaffolding.attributeFiles) ∧
    ∀ text, generator.buildServicesClass catalog requested = .ok text →
      generator.config.fileName ∈ Scaffolding.attributeFiles →
      ∀ name, ((generator.execute catalog requested).source? name).map (·.text) ≠ some text := by
  refine ⟨?_, fun text hok hfile name => Generator.text_source?_ne hok hfile name⟩
  cases hbuild : generator.buildServicesClass catalog requested with
  | error error =>
    have hreports : Generator.Reports generator.config.fileName (.error error)
        (generator.execute catalog requested) := by
      rw [Generator.execute_of_error hbuild]
      exact .diagnostic rfl rfl
    simp [hreports]
  | ok text =>
    constructor
    · intro hreports other _
      cases hreports with
      | sources _ _ hnodup => exact (Generator.nodup_hintNames_iff hbuild).mp hnodup
    · intro hfile
      exact Generator.reports_of_ok hbuild (hfile text rfl)

/-- A generator that writes the class where the attribute for transient types is written. -/
def overwritingGenerator : Generator where
  config := { fileName := "TransientAttribute.cs" }

theorem overwritingGenerator_loses_class :
    ¬ ∀ (generator : Generator) (catalog : Catalog) (requested : List TypeIdentity),
      Generator.Reports generator.config.fileName (generator.buildServicesClass catalog requested)
        (generator.execute catalog requested) := by
  obtain ⟨complete, _, _, hbuild⟩ := overwritingGenerator.exists_buildServicesClass_eq {}
  have hresolve : ServiceGraph.resolve complete [] = .ok {} := rfl
  obtain ⟨_, text, _, _, htext⟩ :=
    exists_text_of_resolve hresolve overwritingGenerator.config.toClassNames
  have hok : overwritingGenerator.buildServicesClass {} [] = .ok text := (hbuild []).trans htext
  have hfile : overwritingGenerator.config.fileName ∈ Scaffolding.attributeFiles := by decide
  intro hreports
  have hclass := hreports overwritingGenerator {} []
  rw [hok] at hclass
  cases hclass with
  | sources _ _ hnodup => exact (Generator.nodup_hintNames_iff hok).mp hnodup hfile

end CompositionRoot
