import CompositionRoot.Proofs.ClassSources

/-! The meaning of a services class. Its fields are declared before they are used, and with the
fields replaced by their initial values every expression becomes the tree of constructor calls that
the catalog dictates for the requested type. -/
namespace CompositionRoot

open Expression

/-- Members of a list have counterparts in two others, and the counterparts are related. -/
theorem forall₂_of_common {α β γ δ : Type} {R : α → β → Prop} {S : β → γ → Prop}
    {T : α → δ → Prop} {U : γ → δ → Prop} {as : List α} {bs : List β} {cs : List γ} {ds : List δ}
    (hR : List.Forall₂ R as bs) (hS : List.Forall₂ S bs cs) (hT : List.Forall₂ T as ds)
    (h : ∀ a ∈ as, ∀ b c d, R a b → S b c → T a d → U c d) : List.Forall₂ U cs ds := by
  induction hR generalizing cs ds with
  | nil =>
    cases hS
    cases hT
    exact .nil
  | cons hhead _ ih =>
    cases hS with
    | cons hS hSs =>
      cases hT with
      | cons hT hTs =>
        refine .cons (h _ List.mem_cons_self _ _ _ hhead hS hT) (ih hSs hTs fun a hmem => ?_)
        exact h a (List.mem_cons_of_mem _ hmem)

section Expansion

variable {κ : Type} [TypeCatalog κ] {catalog : κ} {builder : Builder} {fields : List Field}
  {all : List NodeId}

theorem Builder.Idle.expandsTo_creation (h : builder.Idle catalog)
    (hfields : builder.graph.Initialized fields all) {type : TypeIdentity} {id : NodeId}
    {node : ServiceNode} {declared : List NodeId} {value : Expression} {tree : ServiceTree}
    (hid : builder.graph.nodeId? type = some id) (found : builder.graph.node? id = some node)
    (hdeclared : declared ⊆ all) (hvalue : builder.graph.Creates declared node value)
    (htree : Dictates catalog type tree) : ExpandsTo fields value tree.creation := by
  -- A parameter of a constructible type is constructible with fewer steps, whether its service has
  -- a field or is created in place.
  have hconstructible := h.constructible_of_nodeId? hid
  induction hconstructible generalizing id node declared value tree with
  | @intro type pair served _ ih =>
    obtain ⟨other, otherPair, hother, _, hserving, himplementation, _, hlinked⟩ :=
      h.exists_linked hid
    obtain rfl := Option.some.inj (found.symm.trans hother)
    obtain rfl := Option.some.inj (served.symm.trans hserving)
    obtain ⟨arguments, rfl, hsupplied⟩ := hvalue
    obtain ⟨trees, htrees, rfl⟩ := (dictates_iff served).mp htree
    rw [ServiceTree.creation, himplementation]
    refine ExpandsTo.create (List.forall₂_map_right_iff.mpr ?_) _
    refine forall₂_of_common hlinked hsupplied htrees ?_
    intro parameter hparameter dependency argument tree hdependency hargument htree
    cases hargument with
    | field found shared mem =>
      obtain ⟨target, initializer, before, htarget, hinitializer, hbefore, hcreates⟩ :=
        hfields dependency (hdeclared mem)
      obtain rfl := Option.some.inj (found.symm.trans htarget)
      exact .field hinitializer (ih parameter hparameter hdependency found hbefore hcreates htree)
    | inline found perRequest supplied =>
      exact ih parameter hparameter hdependency found hdeclared ⟨_, rfl, supplied⟩ htree

end Expansion

/-- References bind. Fields differ in their names and tests in their types, an initial value refers
to fields declared before its own, and a test to fields of the class. -/
structure WellScoped (fields : List Field) (tests : List (TypeIdentity × Expression)) : Prop where
  names_nodup : (fields.map Field.name).Nodup
  types_nodup : (tests.map Prod.fst).Nodup
  references_earlier : ∀ earlier field later, fields = earlier ++ field :: later →
    field.initializer.references ⊆ earlier.map Field.name
  references_declared : ∀ test ∈ tests, test.2.references ⊆ fields.map Field.name

/-- The expression that a class has for a node: the initial value of its field, which the test of
its type gives, or what the test creates. -/
def WrittenFor (fields : List Field) (tests : List (TypeIdentity × Expression)) (node : ServiceNode)
    (value : Expression) : Prop :=
  if node.isShared then
    ⟨node.requested, node.fieldName, value⟩ ∈ fields ∧
      (node.requested, .field node.fieldName) ∈ tests
  else
    (node.requested, value) ∈ tests

namespace ServiceGraph

variable {graph : ServiceGraph} {order all : List NodeId} {fields : List Field}
  {tests : List (TypeIdentity × Expression)}

theorem references_subset_of_branches (h : graph.WellFormed)
    (hdeclared : graph.DeclaredFrom order all)
    (hbranches : graph.branches all order.eraseDups = .ok tests)
    {test : TypeIdentity × Expression} (hmem : test ∈ tests) :
    test.2.references ⊆ graph.fieldNames all := by
  obtain ⟨node, hnode, _, hok⟩ := exists_mem_of_forall₂ (forall₂_of_branches hbranches).flip hmem
  obtain ⟨id, hid, found⟩ := List.mem_filterMap.mp hnode
  rcases instanceOf_cases h found hok with ⟨shared, hvalue⟩ | ⟨_, hcreates⟩
  · -- A shared service is tested only if it is listed, and then its field is declared.
    have hfield : id ∈ all :=
      (hdeclared id).mpr ⟨List.mem_eraseDups.mp hid, node, found, shared⟩
    rw [hvalue, Expression.references]
    exact List.cons_subset.mpr ⟨fieldName_mem_fieldNames found hfield, List.nil_subset _⟩
  · exact hcreates.references_subset

theorem Written.wellScoped (h : graph.Written order all fields tests) (hgraph : graph.WellFormed)
    (hnamed : graph.Named) : WellScoped fields tests where
  names_nodup := by
    rw [h.declares.map_name]
    exact nodup_map_filterMap (fun _ _ _ _ => hnamed.eq_of_fieldName_eq) h.declares.nodup.1
  types_nodup := by
    rw [types_of_branches h.branches]
    exact nodup_map_filterMap (fun _ _ _ _ => hnamed.eq_of_requested_eq) (nodup_eraseDups order)
  references_earlier earlier field later hsplit := by
    simpa [fieldNames] using h.declares.references_earlier hsplit
  references_declared test hmem := by
    rw [h.declares.map_name]
    exact references_subset_of_branches hgraph h.declared h.branches hmem

end ServiceGraph

section

variable {κ : Type} [TypeCatalog κ] {catalog : κ} {builder : Builder} {order all : List NodeId}
  {fields : List Field} {tests : List (TypeIdentity × Expression)}

theorem Builder.Idle.exists_writtenFor (h : builder.Idle catalog)
    (hwritten : builder.graph.Written order all fields tests)
    (hnames : (fields.map Field.name).Nodup) {id : NodeId} {node : ServiceNode} (hmem : id ∈ order)
    (found : builder.graph.node? id = some node) :
    ∃ value tree, WrittenFor fields tests node value ∧
      (∀ other, Dictates catalog node.requested other ↔ other = tree) ∧
      ExpandsTo fields value tree.creation := by
  have hfields : builder.graph.Initialized fields all := hwritten.declares.initialized hnames
  have hid : builder.graph.nodeId? node.requested = some id :=
    h.consistent.nodeId?_eq_some_iff.mpr ⟨node, found, rfl⟩
  obtain ⟨tree, htree⟩ := (h.constructible_of_nodeId? hid).exists_tree
  obtain ⟨value, htest, hok⟩ := ServiceGraph.exists_test_of_branches hwritten.branches hmem found
  rcases ServiceGraph.instanceOf_cases h.wellFormed found hok with
    ⟨shared, hvalue⟩ | ⟨perRequest, hcreates⟩
  · obtain ⟨other, initializer, before, hother, hfield, hbefore, hcreates⟩ :=
      hwritten.declares.exists_field ((hwritten.declared id).mpr ⟨hmem, node, found, shared⟩)
    obtain rfl := Option.some.inj (found.symm.trans hother)
    refine ⟨initializer, tree, ?_, htree, ?_⟩
    · rw [WrittenFor, if_pos shared]
      exact ⟨hfield, hvalue ▸ htest⟩
    · exact h.expandsTo_creation hfields hid found hbefore hcreates ((htree tree).mpr rfl)
  · refine ⟨value, tree, ?_, htree, ?_⟩
    · rw [WrittenFor, if_neg perRequest]
      exact htest
    · exact h.expandsTo_creation hfields hid found (List.Subset.refl all) hcreates
        ((htree tree).mpr rfl)

/-- The text of a resolved graph is the source of a class in which references bind. With fields
replaced by their initial values, again and again, what is written for each listed service becomes
the constructor calls that the catalog dictates for its type. -/
theorem emitted_class_means_dictated {κ : Type} [TypeCatalog κ] {catalog : κ}
    {requests : List TypeIdentity} {graph : ServiceGraph} {names : ClassNames} {order : List NodeId}
    {text : String} (hresolve : ServiceGraph.resolve catalog requests = .ok graph)
    (hemit : graph.emit names order = .ok text) :
    ∃ fields tests,
      graph.servicesClass names order = .ok ⟨names, fields, Dispatch.ofBranches tests⟩ ∧
      (ServicesClass.mk names fields (Dispatch.ofBranches tests)).HasSource graph text ∧
      tests.map Prod.fst = (order.eraseDups.filterMap graph.node?).map ServiceNode.requested ∧
      WellScoped fields tests ∧
      ∀ id ∈ order, ∀ node, graph.node? id = some node →
        ∃ value tree, WrittenFor fields tests node value ∧
          (∀ other, Dictates catalog node.requested other ↔ other = tree) ∧
          ExpandsTo fields value tree.creation := by
  have hnamed := named_of_resolve hresolve
  obtain ⟨builder, hidle, rfl, _⟩ := exists_idle_of_resolve hresolve
  have hgraph := hidle.wellFormed
  obtain ⟨fields, all, tests, hclass, hrender, hwritten⟩ :=
    ServiceGraph.exists_written_of_emit hgraph hemit
  have hscoped := hwritten.wellScoped hgraph hnamed
  refine ⟨fields, tests, hclass, hwritten.hasSource hgraph hnamed hrender,
    ServiceGraph.types_of_branches hwritten.branches, hscoped, ?_⟩
  intro id hmem node found
  exact hidle.exists_writtenFor hwritten hscoped.names_nodup hmem found

end

/-- A handler of requests, each of which has a context of its own, that all share one lock. -/
def handlerCatalog : List TypeInfo :=
  [{ identity := ⟨"Handler"⟩, constructors := [{ parameters := [⟨"IRequest"⟩, ⟨"Lock"⟩] }] },
    { identity := ⟨"IRequest"⟩, isAbstract := true, isTransient := true },
    { identity := ⟨"Request"⟩, capabilities := [⟨"IRequest"⟩],
      constructors := [{ parameters := [⟨"Context"⟩] }] },
    { identity := ⟨"Context"⟩, isTransient := true,
      constructors := [{ parameters := [⟨"Lock"⟩] }] },
    { identity := ⟨"Lock"⟩ }]

def handlerGraph : ServiceGraph where
  nodes :=
    [⟨⟨"Handler"⟩, ⟨"Handler"⟩, .shared, [1, 3], "handler"⟩,
      ⟨⟨"IRequest"⟩, ⟨"Request"⟩, .perRequest, [2], "request"⟩,
      ⟨⟨"Context"⟩, ⟨"Context"⟩, .perRequest, [3], "context"⟩,
      ⟨⟨"Lock"⟩, ⟨"Lock"⟩, .shared, [], "lock"⟩]
  memo := [(⟨"Lock"⟩, 3), (⟨"Context"⟩, 2), (⟨"IRequest"⟩, 1), (⟨"Handler"⟩, 0)]
  identifiers := ["lock", "context", "request", "handler"]

/-- The fields of the handler's class. The name of the lock is a reserved word. -/
def handlerFields : List Field :=
  [⟨⟨"Lock"⟩, "@lock", .create ⟨"Lock"⟩ []⟩,
    ⟨⟨"Handler"⟩, "handler", .create ⟨"Handler"⟩
      [.create ⟨"Request"⟩ [.create ⟨"Context"⟩ [.field "@lock"]], .field "@lock"]⟩]

def handlerTests : List (TypeIdentity × Expression) :=
  [(⟨"Lock"⟩, .field "@lock"), (⟨"Handler"⟩, .field "handler"),
    (⟨"IRequest"⟩, .create ⟨"Request"⟩ [.create ⟨"Context"⟩ [.field "@lock"]]),
    (⟨"Context"⟩, .create ⟨"Context"⟩ [.field "@lock"])]

def handlerText : String :=
  (ServicesClass.mk {} handlerFields (Dispatch.ofBranches handlerTests)).render

theorem handler_class_means_dictated :
    ServiceGraph.resolve handlerCatalog [⟨"Handler"⟩] = .ok handlerGraph ∧
    handlerGraph.emit {} [3, 0, 1, 2, 0] = .ok handlerText ∧
    ∃ fields tests,
      handlerGraph.servicesClass {} [3, 0, 1, 2, 0] =
        .ok ⟨{}, fields, Dispatch.ofBranches tests⟩ ∧
      ServicesClass.read? handlerText = some ⟨{}, fields, Dispatch.ofBranches tests⟩ ∧
      (ServicesClass.mk {} fields (Dispatch.ofBranches tests)).HasSource handlerGraph handlerText ∧
      tests.map Prod.fst = ([3, 0, 1, 2, 0].eraseDups.filterMap handlerGraph.node?).map
        ServiceNode.requested ∧
      WellScoped fields tests ∧
      ∀ id ∈ [3, 0, 1, 2, 0], ∀ node, handlerGraph.node? id = some node →
        ∃ value tree, WrittenFor fields tests node value ∧
          (∀ other, Dictates handlerCatalog node.requested other ↔ other = tree) ∧
          ExpandsTo fields value tree.creation := by
  have hresolve : ServiceGraph.resolve handlerCatalog [⟨"Handler"⟩] = .ok handlerGraph := by
    decide +kernel
  have hemit : handlerGraph.emit {} [3, 0, 1, 2, 0] = .ok handlerText := by
    rfl
  obtain ⟨fields, tests, hclass, hsource, hmeaning⟩ := emitted_class_means_dictated hresolve hemit
  have hlegible : handlerGraph.Legible := by decide +kernel
  have hnames : ({} : ClassNames).Legible := by decide +kernel
  exact ⟨hresolve, hemit, fields, tests, hclass, hsource.read hlegible hnames, hsource, hmeaning⟩

example : (substitute handlerFields)^[2] (.field "handler") =
    .create ⟨"Handler"⟩ [.create ⟨"Request"⟩ [.create ⟨"Context"⟩ [.create ⟨"Lock"⟩ []]],
      .create ⟨"Lock"⟩ []] := by
  cbv

end CompositionRoot
