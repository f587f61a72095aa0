import CompositionRoot.Proofs.ClassReading
import CompositionRoot.Proofs.DeclaredFields
import CompositionRoot.Proofs.NamesInUse
import CompositionRoot.Proofs.Synthesis

/-! Sources of graphs. The text that is emitted for a graph stands for one class by the rules of the
language, and where the names of types are legible, this is the class that its reader finds. What is
shown of the class is so shown of the text. -/
namespace CompositionRoot

/-- Reading does not take any part of a name in the graph for something else. -/
def ServiceGraph.Legible (graph : ServiceGraph) : Prop :=
  ∀ node ∈ graph.nodes, node.requested.Legible ∧ node.implementation.Legible ∧
    ' ' ∉ node.identifier.toList

instance : DecidablePred ServiceGraph.Legible := fun graph => inferInstanceAs
  (Decidable (∀ node ∈ graph.nodes, node.requested.Legible ∧ node.implementation.Legible ∧
    ' ' ∉ node.identifier.toList))

/-- A text is the source of a class. It stands for the class by the rules of the language, and
where the names in the graph and those that the user chose are legible, the reader finds no other
class. -/
structure ServicesClass.HasSource (services : ServicesClass) (graph : ServiceGraph)
    (text : String) : Prop where
  spelled : services.SpelledAs text
  read : graph.Legible → services.names.Legible → ServicesClass.read? text = some services

theorem Dispatch.legible_ofBranches {tests : List (TypeIdentity × Expression)}
    (h : ∀ test ∈ tests, test.1.Legible ∧ test.2.Legible) : (ofBranches tests).Legible := by
  fun_induction ofBranches tests with
  | case1 => exact trivial
  | case2 type value => exact (h _ List.mem_cons_self).2
  | case3 type value branch rest ih =>
    obtain ⟨hfirst, hrest⟩ := List.forall_mem_cons.mp h
    exact ⟨hfirst.1, hfirst.2, ih hrest⟩

namespace ServiceGraph

variable {graph : ServiceGraph} {declared ids order : List NodeId} {id : NodeId}
  {node : ServiceNode} {value : Expression} {fields : List Field}

namespace Legible

theorem of_node (h : graph.Legible) (found : graph.node? id = some node) :
    node.requested.Legible ∧ node.implementation.Legible ∧ ' ' ∉ node.identifier.toList :=
  h node (List.mem_of_getElem? found)

theorem fieldName (h : graph.Legible) (hnamed : graph.Named) (found : graph.node? id = some node) :
    LegibleFieldName node.fieldName := by
  have hidentifier : ∀ c ∈ ['\n', '=', '(', ')', ',', ' '], c ∉ node.identifier.toList := by
    intro c hc
    by_cases hspace : c = ' '
    · exact hspace ▸ (h.of_node found).2.2
    · have hseparator : ¬ isIdentifierChar c ∧ c ∉ [' ', '\u0307'] := by
        simp only [List.mem_cons, List.not_mem_nil, or_false, hspace] at hc
        rcases hc with rfl | rfl | rfl | rfl | rfl <;> decide +kernel
      exact hnamed.notMem_identifier hseparator.1 hseparator.2 found
  refine ⟨(hnamed.usableFieldNames.startsName node (List.mem_of_getElem? found)).ne_empty, ?_⟩
  unfold ServiceNode.fieldName
  split
  · intro c hc hmem
    rw [String.toList_append, List.mem_append] at hmem
    rcases hmem with hsign | hmem
    · obtain rfl : c = '@' := List.mem_singleton.mp hsign
      exact absurd hc (by decide)
    · exact hidentifier c hc hmem
  · exact hidentifier

/-- What is created for a node of a legible graph is made of names of the graph. -/
theorem supplies (h : graph.Legible) (hnamed : graph.Named) : ∀ {id : NodeId} {value : Expression},
    graph.Supplies declared id value → value.Legible
  | _, _, .field found _ _ => .field (h.fieldName hnamed found)
  | _, _, .inline found _ supplied =>
    .create (h.of_node found).2.1 (arguments supplied)
where
  arguments : ∀ {ids : List NodeId} {values : List Expression},
      List.Forall₂ (graph.Supplies declared) ids values → ∀ value ∈ values, value.Legible
    | _, _, .nil => fun _ hmem => nomatch hmem
    | _, _, .cons hhead hrest =>
      List.forall_mem_cons.mpr ⟨supplies h hnamed hhead, arguments hrest⟩

theorem creates (h : graph.Legible) (hnamed : graph.Named) (found : graph.node? id = some node)
    (hcreates : graph.Creates declared node value) : value.Legible := by
  obtain ⟨arguments, rfl, supplied⟩ := hcreates
  exact .create (h.of_node found).2.1 (supplies.arguments h hnamed supplied)

theorem declares (h : graph.Legible) (hnamed : graph.Named)
    (hdeclares : graph.Declares declared ids fields) : ∀ field ∈ fields, field.Legible := by
  induction hdeclares with
  | nil => exact fun _ hmem => nomatch hmem
  | cons found _ created _ ih =>
    refine List.forall_mem_cons.mpr ⟨⟨?_, ?_, ?_⟩, ih⟩
    · exact (h.of_node found).1
    · exact h.fieldName hnamed found
    · exact h.creates hnamed found created

theorem branches (h : graph.Legible) (hgraph : graph.WellFormed) (hnamed : graph.Named)
    {tests : List (TypeIdentity × Expression)}
    (hbranches : graph.branches declared order = .ok tests) :
    ∀ test ∈ tests, test.1.Legible ∧ test.2.Legible := by
  intro test hmem
  obtain ⟨node, hnode, htype, hok⟩ :=
    exists_mem_of_forall₂ (forall₂_of_branches hbranches).flip hmem
  obtain ⟨id, _, found⟩ := List.mem_filterMap.mp hnode
  refine ⟨htype ▸ (h.of_node found).1, ?_⟩
  rcases instanceOf_cases hgraph found hok with ⟨_, hvalue⟩ | ⟨_, hcreates⟩
  · rw [hvalue]
    exact .field (h.fieldName hnamed found)
  · exact h.creates hnamed found hcreates

end Legible

/-- The fields and tests of the class in which services are declared in an order. -/
structure Written (graph : ServiceGraph) (order all : List NodeId) (fields : List Field)
    (tests : List (TypeIdentity × Expression)) : Prop where
  declares : graph.Declares [] all fields
  declared : graph.DeclaredFrom order all
  branches : graph.branches all order.eraseDups = .ok tests

theorem written_of_fieldsAfter (h : graph.WellFormed) {all : List NodeId}
    {tests : List (TypeIdentity × Expression)}
    (hfields : graph.fieldsAfter [] order = .ok (fields, all))
    (hbranches : graph.branches all order.eraseDups = .ok tests) :
    graph.Written order all fields tests := by
  obtain ⟨_, rfl, hdeclares⟩ := declares_of_fieldsAfter h hfields
  exact ⟨hdeclares, declaredFrom_order hfields, hbranches⟩

theorem exists_written_of_emit (h : graph.WellFormed) {names : ClassNames} {text : String}
    (hemit : graph.emit names order = .ok text) : ∃ fields all tests,
      graph.servicesClass names order = .ok ⟨names, fields, Dispatch.ofBranches tests⟩ ∧
      (ServicesClass.mk names fields (Dispatch.ofBranches tests)).render = text ∧
      graph.Written order all fields tests := by
  obtain ⟨fields, all, tests, hfields, hbranches, hrender⟩ := emit_eq_ok_iff.mp hemit
  exact ⟨fields, all, tests,
    servicesClass_eq_ok_iff.mpr ⟨fields, all, tests, hfields, hbranches, rfl⟩, hrender,
    written_of_fieldsAfter h hfields hbranches⟩

theorem Written.hasSource {all : List NodeId} {tests : List (TypeIdentity × Expression)}
    (h : graph.Written order all fields tests) (hgraph : graph.WellFormed) (hnamed : graph.Named)
    {names : ClassNames} {text : String}
    (hrender : (ServicesClass.mk names fields (Dispatch.ofBranches tests)).render = text) :
    (ServicesClass.mk names fields (Dispatch.ofBranches tests)).HasSource graph text := by
  have hspelled := hrender ▸ (ServicesClass.mk names fields (.ofBranches tests)).spelledAs_render
  refine ⟨hspelled, fun hlegible hnames => hspelled.read?_eq ⟨hnames, ?_, ?_⟩⟩
  · exact hlegible.declares hnamed h.declares
  · exact Dispatch.legible_ofBranches (hlegible.branches hgraph hnamed h.branches)

end ServiceGraph

end CompositionRoot
