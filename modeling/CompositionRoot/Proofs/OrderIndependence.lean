import CompositionRoot.Proofs.ClassMeaning

/-! Classes of one graph in different orders. How a service is created does not depend on which
fields are declared by then, and a test finds its type wherever it stands, so any two classes that
list all nodes have the same fields and the same instances. -/
namespace CompositionRoot

namespace Dispatch

/-- No other test has the type, so the one that has it decides, be it the last. -/
theorem instance?_ofBranches_of_mem {tests : List (TypeIdentity × Expression)}
    (hnodup : (tests.map Prod.fst).Nodup) {type : TypeIdentity} {value : Expression}
    (hmem : (type, value) ∈ tests) : (ofBranches tests).instance? type = some value := by
  fun_induction ofBranches tests with
  | case1 => cases hmem
  | case2 last other =>
    obtain ⟨rfl, rfl⟩ := Prod.mk.inj (List.mem_singleton.mp hmem)
    rfl
  | case3 first other next rest ih =>
    rw [List.map_cons, List.nodup_cons] at hnodup
    rw [instance?]
    rcases List.mem_cons.mp hmem with heq | hrest
    · obtain ⟨rfl, rfl⟩ := Prod.mk.inj heq
      rw [if_pos rfl]
    · have hne : type ≠ first := by
        rintro rfl
        exact hnodup.1 (List.mem_map.mpr ⟨(type, value), hrest, rfl⟩)
      rw [if_neg hne]
      exact ih hnodup.2 hrest

end Dispatch

namespace ServiceGraph

variable {graph : ServiceGraph} {declared others : List NodeId}

theorem Supplies.unique : ∀ {id : NodeId} {value other : Expression},
    graph.Supplies declared id value → graph.Supplies others id other → value = other
  | _, _, _, .field found _ _, .field found' _ _ => by
    obtain rfl := Option.some.inj (found.symm.trans found')
    rfl
  | _, _, _, .field found shared _, .inline found' perRequest _ => by
    obtain rfl := Option.some.inj (found.symm.trans found')
    exact absurd shared perRequest
  | _, _, _, .inline found perRequest _, .field found' shared _ => by
    obtain rfl := Option.some.inj (found.symm.trans found')
    exact absurd shared perRequest
  | _, _, _, .inline found _ supplied, .inline found' _ supplied' => by
    obtain rfl := Option.some.inj (found.symm.trans found')
    rw [arguments_unique supplied supplied']
where
  arguments_unique : ∀ {ids : List NodeId} {values more : List Expression},
      List.Forall₂ (graph.Supplies declared) ids values →
        List.Forall₂ (graph.Supplies others) ids more → values = more
    | _, _, _, .nil, .nil => rfl
    | _, _, _, .cons hhead hrest, .cons hhead' hrest' => by
      rw [hhead.unique hhead', arguments_unique hrest hrest']

/-- Whatever is declared, a service is created by the same expression if it can be created. -/
theorem Creates.unique {node : ServiceNode} {value other : Expression}
    (h : graph.Creates declared node value) (h' : graph.Creates others node other) :
    value = other := by
  obtain ⟨arguments, rfl, supplied⟩ := h
  obtain ⟨more, rfl, supplied'⟩ := h'
  rw [Supplies.unique.arguments_unique supplied supplied']

theorem construct_unique (h : graph.WellFormed) {id : NodeId} {node : ServiceNode}
    {value other : Expression} (found : graph.node? id = some node)
    (hok : graph.construct declared node = .ok value)
    (hok' : graph.construct others node = .ok other) : value = other :=
  (creates_of_construct h found hok).unique (creates_of_construct h found hok')

theorem Declares.exists_id {ids : List NodeId} {fields : List Field} {field : Field}
    (h : graph.Declares declared ids fields) (hmem : field ∈ fields) :
    ∃ id ∈ ids, ∃ node initializer before, graph.node? id = some node ∧
      field = ⟨node.requested, node.fieldName, initializer⟩ ∧
      graph.Creates before node initializer := by
  induction h with
  | nil => cases hmem
  | @cons declared ids id node initializer fields found _ created _ ih =>
    rcases List.mem_cons.mp hmem with rfl | hmem
    · exact ⟨id, List.mem_cons_self, node, initializer, declared, found, rfl, created⟩
    · obtain ⟨later, hlater, hfield⟩ := ih hmem
      exact ⟨later, List.mem_cons_of_mem id hlater, hfield⟩

/-- The instance of a service does not depend on what is declared either. -/
theorem instanceOf_unique (h : graph.WellFormed) {id : NodeId} {node : ServiceNode}
    {value other : Expression} (found : graph.node? id = some node)
    (hok : graph.instanceOf declared node = .ok value)
    (hok' : graph.instanceOf others node = .ok other) : value = other := by
  rcases instanceOf_cases h found hok with ⟨shared, rfl⟩ | ⟨perRequest, hcreates⟩
  · rcases instanceOf_cases h found hok' with ⟨_, rfl⟩ | ⟨perRequest, _⟩
    · rfl
    · exact absurd shared perRequest
  · rcases instanceOf_cases h found hok' with ⟨shared, _⟩ | ⟨_, hcreates'⟩
    · exact absurd shared perRequest
    · exact hcreates.unique hcreates'

namespace Written

variable {order all order' all' : List NodeId} {fields fields' : List Field}
  {tests tests' : List (TypeIdentity × Expression)}

/-- A field of one class is that of a shared node. In a class that lists all nodes the field of this
node has the same initial value. -/
theorem fields_subset (h : graph.Written order all fields tests)
    (h' : graph.Written order' all' fields' tests') (hlists : graph.nodeIds ⊆ order') :
    fields ⊆ fields' := by
  intro field hmem
  obtain ⟨id, hid, node, initializer, before, found, rfl, hcreates⟩ := h.declares.exists_id hmem
  obtain ⟨_, hshared⟩ := (h.declared id).mp hid
  have hlisted : id ∈ order' := hlists (mem_nodeIds.mpr (lt_size_of_node? found))
  have hid' : id ∈ all' := (h'.declared id).mpr ⟨hlisted, hshared⟩
  obtain ⟨other, value, before', hother, hfield, _, hcreates'⟩ := h'.declares.exists_field hid'
  obtain rfl := Option.some.inj (found.symm.trans hother)
  rw [hcreates.unique hcreates']
  exact hfield

theorem fields_perm (h : graph.Written order all fields tests)
    (h' : graph.Written order' all' fields' tests') (hgraph : graph.WellFormed)
    (hnamed : graph.Named) (hlists : graph.nodeIds ⊆ order) (hlists' : graph.nodeIds ⊆ order') :
    fields.Perm fields' := by
  have hsubset : fields ⊆ fields' := h.fields_subset h' hlists'
  have hsubset' : fields' ⊆ fields := h'.fields_subset h hlists
  have hnodup : fields.Nodup := (h.wellScoped hgraph hnamed).names_nodup.of_map _
  have hnodup' : fields'.Nodup := (h'.wellScoped hgraph hnamed).names_nodup.of_map _
  exact (List.perm_ext_iff_of_nodup hnodup hnodup').mpr fun field =>
    ⟨fun hmem => hsubset hmem, fun hmem => hsubset' hmem⟩

theorem exists_instance (h : graph.Written order all fields tests) (hgraph : graph.WellFormed)
    (hnamed : graph.Named) {id : NodeId} {node : ServiceNode} (hmem : id ∈ order)
    (found : graph.node? id = some node) :
    ∃ value, (Dispatch.ofBranches tests).instance? node.requested = some value ∧
      graph.instanceOf all node = .ok value := by
  obtain ⟨value, htest, hok⟩ := exists_test_of_branches h.branches hmem found
  have htypes := (h.wellScoped hgraph hnamed).types_nodup
  exact ⟨value, Dispatch.instance?_ofBranches_of_mem htypes htest, hok⟩

end Written

end ServiceGraph

/-- The texts of a resolved graph for two orders that list every node are the sources of classes
that declare the same fields with the same initial values, and give the same instance for each type
of the graph. -/
theorem class_independent_of_order {κ : Type} [TypeCatalog κ] {catalog : κ}
    {requests : List TypeIdentity} {graph : ServiceGraph} {names : ClassNames}
    {order order' : List NodeId} {text text' : String}
    (hresolve : ServiceGraph.resolve catalog requests = .ok graph)
    (hlists : graph.nodeIds ⊆ order) (hlists' : graph.nodeIds ⊆ order')
    (hemit : graph.emit names order = .ok text) (hemit' : graph.emit names order' = .ok text') :
    ∃ services services' : ServicesClass,
      graph.servicesClass names order = .ok services ∧ services.HasSource graph text ∧
      graph.servicesClass names order' = .ok services' ∧ services'.HasSource graph text' ∧
      services.fields.Perm services'.fields ∧
      ∀ node ∈ graph.nodes, ∃ value,
        services.dispatch.instance? node.requested = some value ∧
        services'.dispatch.instance? node.requested = some value := by
  have hgraph := wellFormed_of_resolve hresolve
  have hnamed := named_of_resolve hresolve
  obtain ⟨fields, all, tests, hclass, hrender, hwritten⟩ :=
    ServiceGraph.exists_written_of_emit hgraph hemit
  obtain ⟨fields', all', tests', hclass', hrender', hwritten'⟩ :=
    ServiceGraph.exists_written_of_emit hgraph hemit'
  refine ⟨_, _, hclass, hwritten.hasSource hgraph hnamed hrender,
    hclass', hwritten'.hasSource hgraph hnamed hrender', ?_, fun node hmem => ?_⟩
  · exact hwritten.fields_perm hwritten' hgraph hnamed hlists hlists'
  · obtain ⟨id, found⟩ := List.mem_iff_getElem?.mp hmem
    have hid : id ∈ graph.nodeIds :=
      ServiceGraph.mem_nodeIds.mpr (ServiceGraph.lt_size_of_node? found)
    obtain ⟨value, hinstance, hok⟩ :=
      hwritten.exists_instance hgraph hnamed (hlists hid) found
    obtain ⟨value', hinstance', hok'⟩ :=
      hwritten'.exists_instance hgraph hnamed (hlists' hid) found
    obtain rfl := ServiceGraph.instanceOf_unique hgraph found hok hok'
    exact ⟨value, hinstance, hinstance'⟩

theorem handler_class_independent_of_order :
    ServiceGraph.resolve handlerCatalog [⟨"Handler"⟩] = .ok handlerGraph ∧
    ∃ text text' services services',
      handlerGraph.emit {} [3, 0, 1, 2, 0] = .ok text ∧
      handlerGraph.emit {} [2, 3, 1, 0] = .ok text' ∧
      handlerGraph.servicesClass {} [3, 0, 1, 2, 0] = .ok services ∧
      services.HasSource handlerGraph text ∧
      handlerGraph.servicesClass {} [2, 3, 1, 0] = .ok services' ∧
      services'.HasSource handlerGraph text' ∧
      services.fields.Perm services'.fields ∧
      ∀ node ∈ handlerGraph.nodes, ∃ value,
        services.dispatch.instance? node.requested = some value ∧
        services'.dispatch.instance? node.requested = some value := by
  have hresolve : ServiceGraph.resolve handlerCatalog [⟨"Handler"⟩] = .ok handlerGraph := by
    decide +kernel
  obtain ⟨text, hemit⟩ : ∃ text, handlerGraph.emit {} [3, 0, 1, 2, 0] = .ok text := ⟨_, rfl⟩
  obtain ⟨text', hemit'⟩ : ∃ text, handlerGraph.emit {} [2, 3, 1, 0] = .ok text := ⟨_, rfl⟩
  obtain ⟨services, services', h⟩ :=
    class_independent_of_order hresolve (by decide) (by decide) hemit hemit'
  exact ⟨hresolve, text, text', services, services', hemit, hemit', h⟩

end CompositionRoot
