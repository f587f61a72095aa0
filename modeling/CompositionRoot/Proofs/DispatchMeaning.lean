import CompositionRoot.Proofs.MissingFields
import CompositionRoot.Proofs.OrderIndependence

/-! The answers of a services class. The tests for the types of the listed nodes are distinct, so
each of these types is answered with the instance of its own node, also where the test is left out
because it is the last. Every other type comes to the last instance. -/
namespace CompositionRoot

/-- A type without a test comes to the end of the method. -/
theorem Dispatch.instance?_ofBranches_of_notMem {tests : List (TypeIdentity × Expression)}
    {type : TypeIdentity} (h : type ∉ tests.map Prod.fst) :
    (ofBranches tests).instance? type = tests.getLast?.map Prod.snd := by
  fun_induction ofBranches tests with
  | case1 => rfl
  | case2 => rfl
  | case3 first value next rest ih =>
    rw [List.map_cons, List.mem_cons, not_or] at h
    rw [instance?, if_neg h.1, ih h.2, List.getLast?_cons_cons]

theorem exists_getLast?_of_forall₂ {α β : Type} {R : α → β → Prop} {l : List α} {l' : List β}
    (h : List.Forall₂ R l l') {a : α} (hlast : l.getLast? = some a) :
    ∃ b, l'.getLast? = some b ∧ R a b := by
  induction h with
  | nil => cases hlast
  | @cons first b l l' hhead hrest ih =>
    cases hrest with
    | nil =>
      obtain rfl := Option.some.inj hlast
      exact ⟨b, rfl, hhead⟩
    | cons =>
      rw [List.getLast?_cons_cons] at hlast ⊢
      exact ih hlast

namespace ServiceGraph

/-- A value is the instance of a node where the fields are those of a class with some order: what is
created for the node, by way of its field if the service is shared. -/
def Provides (graph : ServiceGraph) (order : List NodeId) (fields : List Field) (node : ServiceNode)
    (value : Expression) : Prop :=
  ∃ created, graph.construct order node = .ok created ∧
    if node.isShared then
      value = .field node.fieldName ∧ ⟨node.requested, node.fieldName, created⟩ ∈ fields
    else
      value = created

variable {graph : ServiceGraph} {names : ClassNames} {order all : List NodeId}
  {fields : List Field} {tests : List (TypeIdentity × Expression)} {id : NodeId}
  {node : ServiceNode}

/-- What a listed node requires is listed too, if there is a class. -/
theorem requiredFields_subset_of_emit (h : graph.WellFormed) {text : String}
    (hemit : graph.emit names order = .ok text) (hmem : id ∈ order)
    (found : graph.node? id = some node) : graph.requiredFields id ⊆ order := by
  obtain ⟨hfirst, hinline⟩ := (isOk_emit_iff h).mp (isOk_iff.mpr ⟨text, hemit⟩)
  by_cases shared : node.isShared
  · obtain ⟨earlier, later, hsplit, hnew⟩ := List.eq_append_cons_of_mem hmem
    have hearlier := fieldsFirst_nil_iff.mp hfirst earlier id later node hsplit hnew found shared
    exact List.Subset.trans hearlier (hsplit ▸ List.subset_append_left _ _)
  · intro field hfield
    exact hinline id hmem node found shared field ((mem_requiredFields_iff found).mp hfield)

namespace Written

theorem provides (h : graph.Written order all fields tests) (hgraph : graph.WellFormed)
    {value : Expression} (hmem : id ∈ order) (found : graph.node? id = some node)
    (hrequired : graph.requiredFields id ⊆ order)
    (hok : graph.instanceOf all node = .ok value) : graph.Provides order fields node value := by
  obtain ⟨created, hcreated⟩ := (exists_construct_iff hgraph found).mpr hrequired
  have hcreates := creates_of_construct hgraph found hcreated
  refine ⟨created, hcreated, ?_⟩
  -- the class created the service from the fields declared by then, which gave the same expression
  rcases instanceOf_cases hgraph found hok with ⟨shared, rfl⟩ | ⟨perRequest, hvalue⟩
  · have hall : id ∈ all := (h.declared id).mpr ⟨hmem, node, found, shared⟩
    obtain ⟨other, initializer, _, hother, hfield, _, hinitializer⟩ := h.declares.exists_field hall
    obtain rfl := Option.some.inj (found.symm.trans hother)
    rw [if_pos shared, hcreates.unique hinitializer]
    exact ⟨rfl, hfield⟩
  · rw [if_neg perRequest]
    exact hvalue.unique hcreates

/-- The node that is last, repetitions left aside, has the last test. -/
theorem exists_last (h : graph.Written order all fields tests)
    (hnodes : ∀ id ∈ order, id < graph.size) (hnonempty : order ≠ []) :
    ∃ last node test, order.eraseDups.getLast? = some last ∧ last ∈ order ∧
      graph.node? last = some node ∧ tests.getLast? = some test ∧
      graph.instanceOf all node = .ok test.2 := by
  obtain ⟨first, hfirst⟩ := List.exists_mem_of_ne_nil order hnonempty
  cases hlast : order.eraseDups.getLast? with
  | none =>
    have hempty := List.getLast?_eq_none_iff.mp hlast
    have hmem := List.mem_eraseDups.mpr hfirst
    rw [hempty] at hmem
    cases hmem
  | some last =>
    have hmem : last ∈ order := List.mem_eraseDups.mp (List.mem_of_getLast? hlast)
    obtain ⟨node, found⟩ := exists_node?_of_lt (hnodes last hmem)
    have hnode : (order.eraseDups.filterMap graph.node?).getLast? = some node := by
      obtain ⟨others, hothers⟩ := List.getLast?_eq_some_iff.mp hlast
      rw [hothers, List.filterMap_append, List.filterMap_cons_some found, List.filterMap_nil,
        List.getLast?_concat]
    obtain ⟨test, htest, _, hok⟩ :=
      exists_getLast?_of_forall₂ (forall₂_of_branches h.branches) hnode
    exact ⟨last, node, test, rfl, hmem, found, htest, hok⟩

end Written

end ServiceGraph

/-- The text of the graph after any session, for any list of its nodes in any order, is the source
of a class that answers the type of a listed node with the instance of this node, and every other
type with that of the node that is last when each is kept where it is listed first. -/
theorem dispatch_answers_with_own_instance {κ : Type} [TypeCatalog κ] (catalog : κ)
    (types : List TypeIdentity) {graph : ServiceGraph} {names : ClassNames} {order : List NodeId}
    {text : String} (hsession : (Builder.afterSession catalog types {}).graph = graph)
    (hnodes : ∀ id ∈ order, id < graph.size) (hnonempty : order ≠ [])
    (hemit : graph.emit names order = .ok text) :
    ∃ services : ServicesClass,
      graph.servicesClass names order = .ok services ∧ services.HasSource graph text ∧
      (services.fields.map Field.name).Nodup ∧
      (∀ id ∈ order, ∀ node, graph.node? id = some node → ∃ value,
        services.dispatch.instance? node.requested = some value ∧
        graph.Provides order services.fields node value) ∧
      ∃ last node value, order.eraseDups.getLast? = some last ∧ graph.node? last = some node ∧
        graph.Provides order services.fields node value ∧
        ∀ type, (∀ id ∈ order, ∀ node, graph.node? id = some node → node.requested ≠ type) →
          services.dispatch.instance? type = some value := by
  have hgraph : graph.WellFormed := hsession ▸ wellFormed_afterSession catalog types
  have hnamed : graph.Named :=
    hsession ▸ ServiceGraph.graphClosed_named.afterSession types ServiceGraph.named_empty
  obtain ⟨fields, all, tests, hclass, hrender, hwritten⟩ :=
    ServiceGraph.exists_written_of_emit hgraph hemit
  have hprovides {id : NodeId} {node : ServiceNode} {value : Expression} (hmem : id ∈ order)
      (found : graph.node? id = some node) (hok : graph.instanceOf all node = .ok value) :
      graph.Provides order fields node value :=
    hwritten.provides hgraph hmem found
      (ServiceGraph.requiredFields_subset_of_emit hgraph hemit hmem found) hok
  refine ⟨_, hclass, hwritten.hasSource hgraph hnamed hrender,
    (hwritten.wellScoped hgraph hnamed).names_nodup,
    fun id hmem node found => ?_, ?_⟩
  · obtain ⟨value, hinstance, hok⟩ := hwritten.exists_instance hgraph hnamed hmem found
    exact ⟨value, hinstance, hprovides hmem found hok⟩
  · obtain ⟨last, node, test, hlast, hmem, found, htest, hok⟩ :=
      hwritten.exists_last hnodes hnonempty
    refine ⟨last, node, test.2, hlast, found, hprovides hmem found hok, fun type htype => ?_⟩
    have habsent : type ∉ tests.map Prod.fst := by
      rw [ServiceGraph.types_of_branches hwritten.branches]
      intro hmem
      obtain ⟨other, hother, heq⟩ := List.mem_map.mp hmem
      obtain ⟨id, hid, found⟩ := List.mem_filterMap.mp hother
      exact htype id (List.mem_eraseDups.mp hid) other found heq
    rw [Dispatch.instance?_ofBranches_of_notMem habsent, htest, Option.map_some]

/-- The lock and the request, of which the request is last. -/
theorem dispatch_answers_handler_types :
    (Builder.afterSession handlerCatalog [⟨"Handler"⟩] {}).graph = handlerGraph ∧
    ∃ text, handlerGraph.emit {} [3, 1, 3] = .ok text ∧
    ∃ services : ServicesClass,
      handlerGraph.servicesClass {} [3, 1, 3] = .ok services ∧
      services.HasSource handlerGraph text ∧
      (services.fields.map Field.name).Nodup ∧
      (∀ id ∈ [3, 1, 3], ∀ node, handlerGraph.node? id = some node → ∃ value,
        services.dispatch.instance? node.requested = some value ∧
        handlerGraph.Provides [3, 1, 3] services.fields node value) ∧
      ∃ last node value, [3, 1, 3].eraseDups.getLast? = some last ∧
        handlerGraph.node? last = some node ∧
        handlerGraph.Provides [3, 1, 3] services.fields node value ∧
        ∀ type, (∀ id ∈ [3, 1, 3], ∀ node, handlerGraph.node? id = some node →
          node.requested ≠ type) → services.dispatch.instance? type = some value := by
  have hsession : (Builder.afterSession handlerCatalog [⟨"Handler"⟩] {}).graph = handlerGraph := by
    decide +kernel
  obtain ⟨text, hemit⟩ : ∃ text, handlerGraph.emit {} [3, 1, 3] = .ok text := ⟨_, rfl⟩
  exact ⟨hsession, text, hemit, dispatch_answers_with_own_instance handlerCatalog _ hsession
    (by decide) (by decide) hemit⟩

example : (handlerGraph.servicesClass {} [3, 1, 3]).map
    (fun services => services.dispatch.instance? ⟨"Handler"⟩) =
      .ok (some (.create ⟨"Request"⟩ [.create ⟨"Context"⟩ [.field "@lock"]])) := by
  rfl

end CompositionRoot
