import CompositionRoot.Proofs.OrderIndependence

/-! Single creation of shared services. A class has one field for each shared node that is listed,
however often it is listed, and the constructor call for the node stands in this field only. Every
part of an expression stands for a node, which the path to the part reaches through dependencies. A
shared node is referred to by its field there, and a per-request node is created in place. -/
namespace CompositionRoot

theorem eraseDups_eq_self_of_nodup : ∀ {l : List NodeId}, l.Nodup → l.eraseDups = l
  | [], _ => rfl
  | id :: rest, h => by
    obtain ⟨hnew, hrest⟩ := List.nodup_cons.mp h
    have hkeep : rest.filter (fun other => !other == id) = rest := by
      refine List.filter_eq_self.mpr fun other hmem => ?_
      have hne : other ≠ id := fun heq => hnew (heq ▸ hmem)
      simpa using hne
    rw [List.eraseDups_cons, hkeep, eraseDups_eq_self_of_nodup hrest]

theorem exists_getElem?_of_forall₂ {α β : Type} {R : α → β → Prop} {l : List α} {l' : List β}
    (h : List.Forall₂ R l l') {i : Nat} {b : β} (hb : l'[i]? = some b) :
    ∃ a, l[i]? = some a ∧ R a b := by
  induction h generalizing i with
  | nil => simp at hb
  | cons hhead _ ih =>
    cases i with
    | zero =>
      obtain rfl := Option.some.inj hb
      exact ⟨_, rfl, hhead⟩
    | succ i => exact ih hb

theorem forall₂_filterMap {α β : Type} {f : α → Option β} {l : List α}
    (h : ∀ a ∈ l, ∃ b, f a = some b) :
    List.Forall₂ (fun a b => f a = some b) l (l.filterMap f) := by
  induction l with
  | nil => exact .nil
  | cons a l ih =>
    obtain ⟨⟨b, hb⟩, hrest⟩ := List.forall_mem_cons.mp h
    rw [List.filterMap_cons_some hb]
    exact .cons hb (ih hrest)

/-- The part of an expression at the end of a path. Each step of a path goes to the argument of that
number. -/
def Expression.part? : List Nat → Expression → Option Expression
  | [], value => some value
  | _ :: _, .field _ => none
  | step :: path, .create _ arguments => (arguments[step]?).bind (part? path)

namespace ServiceNode

/-- A constructor call for a node, with an argument for each dependency. -/
def CreatedBy (node : ServiceNode) (value : Expression) : Prop :=
  ∃ arguments, value = .create node.implementation arguments ∧
    arguments.length = node.dependencies.length

/-- What stands for a node wherever it is used: the field of a shared service, and a constructor
call for a per-request service. -/
def UsedAs (node : ServiceNode) (value : Expression) : Prop :=
  if node.isShared then value = .field node.fieldName else node.CreatedBy value

end ServiceNode

namespace ServiceGraph

def nodeAlong? (graph : ServiceGraph) : List Nat → NodeId → Option NodeId
  | [], id => some id
  | step :: path, id =>
    (graph.node? id).bind fun node => (node.dependencies[step]?).bind (graph.nodeAlong? path)

/-- All parts of an expression for a node, the whole aside, are uses of the nodes that the same
paths reach through dependencies. -/
def PartsAreUses (graph : ServiceGraph) (id : NodeId) (value : Expression) : Prop :=
  ∀ step path part, value.part? (step :: path) = some part →
    ∃ owner node, graph.nodeAlong? (step :: path) id = some owner ∧
      graph.node? owner = some node ∧ node.UsedAs part

def DeclaredBy (graph : ServiceGraph) (id : NodeId) (field : Field) : Prop :=
  ∃ node, graph.node? id = some node ∧ field.type = node.requested ∧
    field.name = node.fieldName ∧ node.CreatedBy field.initializer ∧
    graph.PartsAreUses id field.initializer

/-- A test for the type of a node, which answers with a use of it. -/
def AnsweredBy (graph : ServiceGraph) (id : NodeId) (test : TypeIdentity × Expression) : Prop :=
  ∃ node, graph.node? id = some node ∧ test.1 = node.requested ∧ node.UsedAs test.2 ∧
    graph.PartsAreUses id test.2

def sharedAmong (graph : ServiceGraph) (ids : List NodeId) : List NodeId :=
  ids.filter fun id => (graph.node? id).any (·.isShared)

variable {graph : ServiceGraph} {names : ClassNames} {declared order all : List NodeId}
  {fields : List Field} {tests : List (TypeIdentity × Expression)} {id : NodeId}
  {node : ServiceNode}

section Repetitions

/-- A node that has its field, or never gets one, may be left out of the order. -/
theorem fieldsAfter_filter_ne
    (hold : (∃ node, graph.node? id = some node ∧ node.isShared) → id ∈ declared) :
    graph.fieldsAfter declared (order.filter fun other => !other == id) =
      graph.fieldsAfter declared order := by
  induction order generalizing declared with
  | nil => rfl
  | cons next order ih =>
    by_cases heq : next = id
    · subst heq
      have hdrop : (next :: order).filter (fun other => !other == next) =
          order.filter fun other => !other == next := by simp
      rw [hdrop, fieldsAfter_cons_of_old hold, ih hold]
    · have hkeep : (next :: order).filter (fun other => !other == id) =
          next :: order.filter fun other => !other == id := by simp [heq]
      rw [hkeep]
      by_cases hnext : (∃ node, graph.node? next = some node ∧ node.isShared) → next ∈ declared
      · rw [fieldsAfter_cons_of_old hnext, fieldsAfter_cons_of_old hnext, ih hold]
      · obtain ⟨⟨node, found, shared⟩, hnew⟩ := Classical.not_imp.mp hnext
        rw [fieldsAfter_cons_of_new found shared hnew, fieldsAfter_cons_of_new found shared hnew,
          ih fun hnode => List.mem_append_left _ (hold hnode)]

/-- The declared fields keep out repetitions: once a node is seen, it has its field or gets none. -/
theorem fieldsAfter_eraseDups (graph : ServiceGraph) (declared : List NodeId) :
    ∀ order : List NodeId,
      graph.fieldsAfter declared order.eraseDups = graph.fieldsAfter declared order
  | [] => rfl
  | id :: order => by
    rw [List.eraseDups_cons]
    by_cases hold : (∃ node, graph.node? id = some node ∧ node.isShared) → id ∈ declared
    · rw [fieldsAfter_cons_of_old hold, fieldsAfter_cons_of_old hold,
        fieldsAfter_eraseDups graph declared (order.filter fun other => !other == id),
        fieldsAfter_filter_ne hold]
    · obtain ⟨⟨node, found, shared⟩, hnew⟩ := Classical.not_imp.mp hold
      have hdeclared : id ∈ declared ++ [id] := by simp
      rw [fieldsAfter_cons_of_new found shared hnew, fieldsAfter_cons_of_new found shared hnew,
        fieldsAfter_eraseDups graph (declared ++ [id]) (order.filter fun other => !other == id),
        fieldsAfter_filter_ne fun _ => hdeclared]
termination_by order => order.length
decreasing_by all_goals exact Nat.lt_succ_of_le (List.length_filter_le _ _)

/-- The fields and the tests both pass over repetitions. -/
theorem emit_eraseDups (graph : ServiceGraph) (names : ClassNames) (order : List NodeId) :
    graph.emit names order.eraseDups = graph.emit names order := by
  unfold emit servicesClass
  rw [fieldsAfter_eraseDups, eraseDups_eq_self_of_nodup (nodup_eraseDups order)]

/-- Each shared node of an order without repetitions gets its field when it comes. -/
theorem all_eq_of_fieldsAfter (hnodup : order.Nodup) (hnew : ∀ id ∈ order, id ∉ declared)
    (hok : graph.fieldsAfter declared order = .ok (fields, all)) :
    all = declared ++ graph.sharedAmong order := by
  induction order generalizing declared fields with
  | nil =>
    cases hok
    simp [sharedAmong]
  | cons id order ih =>
    obtain ⟨hid, hnodup⟩ := List.nodup_cons.mp hnodup
    obtain ⟨hidnew, hnew⟩ := List.forall_mem_cons.mp hnew
    by_cases hshared : ∃ node, graph.node? id = some node ∧ node.isShared
    · obtain ⟨node, found, shared⟩ := hshared
      rw [fieldsAfter_cons_of_new found shared hidnew] at hok
      split at hok
      · cases hok
      · obtain ⟨⟨rest, _⟩, hrest, hvalue⟩ := map_eq_ok_iff.mp hok
        cases hvalue
        have hstill : ∀ other ∈ order, other ∉ declared ++ [id] := by
          intro other hmem
          have hne : other ≠ id := fun heq => hid (heq ▸ hmem)
          simp [hnew other hmem, hne]
        have hlisted : graph.sharedAmong (id :: order) = id :: graph.sharedAmong order := by
          simp [sharedAmong, found, shared]
        rw [ih hnodup hstill hrest, hlisted, List.append_assoc, List.singleton_append]
    · have hskipped : graph.sharedAmong (id :: order) = graph.sharedAmong order := by
        refine List.filter_cons_of_neg fun hany => hshared ?_
        exact (Option.any_eq_true _ _).mp hany
      rw [fieldsAfter_cons_of_old fun hnode => absurd hnode hshared] at hok
      rw [ih hnodup hnew hok, hskipped]

/-- The shared nodes have their fields in the order of first occurrence. -/
theorem exists_written_firsts (h : graph.WellFormed) {text : String}
    (hemit : graph.emit names order = .ok text) : ∃ fields tests,
      graph.servicesClass names order = .ok ⟨names, fields, Dispatch.ofBranches tests⟩ ∧
      (ServicesClass.mk names fields (Dispatch.ofBranches tests)).render = text ∧
      graph.Written order (graph.sharedAmong order.eraseDups) fields tests := by
  obtain ⟨fields, all, tests, hfields, hbranches, hrender⟩ := emit_eq_ok_iff.mp hemit
  have hfirsts : graph.fieldsAfter [] order.eraseDups = .ok (fields, all) := by
    rw [fieldsAfter_eraseDups, hfields]
  obtain rfl : all = [] ++ graph.sharedAmong order.eraseDups :=
    all_eq_of_fieldsAfter (nodup_eraseDups order) (fun _ _ => List.not_mem_nil) hfirsts
  exact ⟨fields, tests, servicesClass_eq_ok_iff.mpr ⟨fields, _, tests, hfields, hbranches, rfl⟩,
    hrender, written_of_fieldsAfter h hfields hbranches⟩

end Repetitions

section Parts

/-- A step into an argument is a step to the dependency for which it is supplied. -/
theorem exists_use_of_argument {R : NodeId → Expression → Prop} {arguments : List Expression}
    {step : Nat} {path : List Nat} {part : Expression} (found : graph.node? id = some node)
    (supplied : List.Forall₂ R node.dependencies arguments)
    (hpart : (arguments[step]?).bind (Expression.part? path) = some part)
    (huse : ∀ dependency argument, R dependency argument → argument.part? path = some part →
      ∃ owner target, graph.nodeAlong? path dependency = some owner ∧
        graph.node? owner = some target ∧ target.UsedAs part) :
    ∃ owner target, graph.nodeAlong? (step :: path) id = some owner ∧
      graph.node? owner = some target ∧ target.UsedAs part := by
  obtain ⟨argument, hargument, hinner⟩ := Option.bind_eq_some_iff.mp hpart
  obtain ⟨dependency, hdependency, hsupplied⟩ := exists_getElem?_of_forall₂ supplied hargument
  obtain ⟨owner, target, howner, htarget⟩ := huse dependency argument hsupplied hinner
  refine ⟨owner, target, ?_, htarget⟩
  rw [nodeAlong?, found, Option.bind_some, hdependency, Option.bind_some, howner]

theorem Supplies.exists_use {path : List Nat} {value part : Expression}
    (h : graph.Supplies declared id value) (hpart : value.part? path = some part) :
    ∃ owner node, graph.nodeAlong? path id = some owner ∧ graph.node? owner = some node ∧
      node.UsedAs part := by
  induction path generalizing id value with
  | nil =>
    obtain rfl := Option.some.inj hpart
    cases h with
    | @field _ node found shared _ =>
      refine ⟨id, node, rfl, found, ?_⟩
      rw [ServiceNode.UsedAs, if_pos shared]
    | @inline _ node arguments found perRequest supplied =>
      refine ⟨id, node, rfl, found, ?_⟩
      rw [ServiceNode.UsedAs, if_neg perRequest]
      exact ⟨arguments, rfl, supplied.length_eq.symm⟩
  | cons step path ih =>
    cases h with
    | field => cases hpart
    | inline found _ supplied =>
      exact exists_use_of_argument found supplied hpart fun _ _ hsupplies => ih hsupplies

theorem Creates.createdBy {value : Expression} (h : graph.Creates declared node value) :
    node.CreatedBy value := by
  obtain ⟨arguments, rfl, supplied⟩ := h
  exact ⟨arguments, rfl, supplied.length_eq.symm⟩

theorem Creates.partsAreUses {value : Expression} (found : graph.node? id = some node)
    (h : graph.Creates declared node value) : graph.PartsAreUses id value := by
  obtain ⟨arguments, rfl, supplied⟩ := h
  intro step path part hpart
  exact exists_use_of_argument found supplied hpart fun _ _ hsupplies => hsupplies.exists_use

theorem Declares.forall₂_declaredBy {ids : List NodeId} (h : graph.Declares declared ids fields) :
    List.Forall₂ graph.DeclaredBy ids fields := by
  induction h with
  | nil => exact .nil
  | cons found _ created _ ih =>
    exact .cons ⟨_, found, rfl, rfl, created.createdBy, created.partsAreUses found⟩ ih

theorem answeredBy_of_instanceOf (h : graph.WellFormed) {value : Expression}
    (found : graph.node? id = some node) (hok : graph.instanceOf declared node = .ok value) :
    graph.AnsweredBy id (node.requested, value) := by
  rcases instanceOf_cases h found hok with ⟨shared, rfl⟩ | ⟨perRequest, hcreates⟩
  · refine ⟨node, found, rfl, ?_, fun step path part hpart => nomatch hpart⟩
    rw [ServiceNode.UsedAs, if_pos shared]
  · refine ⟨node, found, rfl, ?_, hcreates.partsAreUses found⟩
    rw [ServiceNode.UsedAs, if_neg perRequest]
    exact hcreates.createdBy

theorem forall₂_answeredBy_of_branches (h : graph.WellFormed)
    (hnodes : ∀ id ∈ order, id < graph.size)
    (hok : graph.branches declared order = .ok tests) :
    List.Forall₂ graph.AnsweredBy order tests := by
  have hfound : List.Forall₂ (fun id node => graph.node? id = some node) order
      (order.filterMap graph.node?) :=
    forall₂_filterMap fun id hmem => exists_node?_of_lt (hnodes id hmem)
  have hsame : List.Forall₂ Eq order order := List.forall₂_refl order
  refine (forall₂_of_common hfound (forall₂_of_branches hok) hsame ?_).flip
  rintro id _ node ⟨type, value⟩ _ found ⟨rfl, hinstance⟩ rfl
  exact answeredBy_of_instanceOf h found hinstance

end Parts

end ServiceGraph

theorem WellScoped.references_subset {fields : List Field}
    {tests : List (TypeIdentity × Expression)}
    (h : WellScoped fields tests) {value : Expression}
    (hmem : value ∈ fields.map Field.initializer ++ tests.map Prod.snd) :
    value.references ⊆ fields.map Field.name := by
  rcases List.mem_append.mp hmem with hmem | hmem
  · obtain ⟨field, hfield, rfl⟩ := List.mem_map.mp hmem
    obtain ⟨earlier, later, hsplit⟩ := List.append_of_mem hfield
    have hearlier := h.references_earlier earlier field later hsplit
    refine List.Subset.trans hearlier ?_
    rw [hsplit, List.map_append]
    exact List.subset_append_left _ _
  · obtain ⟨test, htest, rfl⟩ := List.mem_map.mp hmem
    exact h.references_declared test htest

namespace ServiceGraph.Written

variable {graph : ServiceGraph} {order all : List NodeId} {fields : List Field}
  {tests : List (TypeIdentity × Expression)}

/-- A name that is referred to belongs to a shared node. Names differ between nodes, with or without
the escape sign, so it is neither the identifier nor the field name of a per-request node. -/
theorem name_notMem_references (h : graph.Written order all fields tests)
    (hgraph : graph.WellFormed) (hnamed : graph.Named) {id : NodeId} {node : ServiceNode}
    (found : graph.node? id = some node) (perRequest : ¬ node.isShared) {value : Expression}
    (hmem : value ∈ fields.map Field.initializer ++ tests.map Prod.snd) {name : String}
    (hname : withoutEscape name = node.identifier.toList) : name ∉ value.references := by
  intro hreference
  have hfield := (h.wellScoped hgraph hnamed).references_subset hmem hreference
  rw [h.declares.map_name] at hfield
  obtain ⟨other, hother, rfl⟩ := List.mem_map.mp hfield
  obtain ⟨otherId, hid, hfound⟩ := List.mem_filterMap.mp hother
  rw [ServiceNode.withoutEscape_fieldName (hnamed.at_notMem_identifier hfound)] at hname
  obtain rfl := hnamed.eq_of_identifier_eq hfound found (String.toList_inj.mp hname)
  obtain ⟨_, target, htarget, shared⟩ := (h.declared otherId).mp hid
  obtain rfl := Option.some.inj (found.symm.trans htarget)
  exact perRequest shared

end ServiceGraph.Written

/-- Listing a node of the graph after any session again changes neither the text nor the error. The
class of which the text is the source has exactly one field for each shared node listed, in the
order of first occurrence. The constructor call for a shared node is the initial value of its own
field; in any other place for the node, however deep in other calls, stands a reference to this
field. Per-request nodes are always written as constructor calls; nothing refers to them by name. -/
theorem shared_services_created_once {κ : Type} [TypeCatalog κ] (catalog : κ)
    (types : List TypeIdentity) {graph : ServiceGraph} (names : ClassNames) {order : List NodeId}
    (hsession : (Builder.afterSession catalog types {}).graph = graph)
    (hnodes : ∀ id ∈ order, id < graph.size) :
    graph.emit names order.eraseDups = graph.emit names order ∧
    ∀ text, graph.emit names order = .ok text → ∃ fields tests,
      graph.servicesClass names order = .ok ⟨names, fields, Dispatch.ofBranches tests⟩ ∧
      (ServicesClass.mk names fields (Dispatch.ofBranches tests)).HasSource graph text ∧
      (fields.map Field.name).Nodup ∧
      List.Forall₂ graph.DeclaredBy (graph.sharedAmong order.eraseDups) fields ∧
      List.Forall₂ graph.AnsweredBy order.eraseDups tests ∧
      ∀ node ∈ graph.nodes, ¬ node.isShared →
        ∀ value ∈ fields.map Field.initializer ++ tests.map Prod.snd,
          node.identifier ∉ value.references ∧ node.fieldName ∉ value.references := by
  have hgraph : graph.WellFormed := hsession ▸ wellFormed_afterSession catalog types
  have hnamed : graph.Named :=
    hsession ▸ ServiceGraph.graphClosed_named.afterSession types ServiceGraph.named_empty
  refine ⟨graph.emit_eraseDups names order, fun text hemit => ?_⟩
  obtain ⟨fields, tests, hclass, hrender, hwritten⟩ :=
    ServiceGraph.exists_written_firsts hgraph hemit
  have hkept : ∀ id ∈ order.eraseDups, id < graph.size :=
    fun id hmem => hnodes id (List.mem_eraseDups.mp hmem)
  refine ⟨fields, tests, hclass, hwritten.hasSource hgraph hnamed hrender,
    (hwritten.wellScoped hgraph hnamed).names_nodup, hwritten.declares.forall₂_declaredBy,
    ServiceGraph.forall₂_answeredBy_of_branches hgraph hkept hwritten.branches, ?_⟩
  intro node hmem perRequest value hvalue
  obtain ⟨id, found⟩ := List.mem_iff_getElem?.mp hmem
  have hsign := hnamed.at_notMem_identifier found
  constructor
  · exact hwritten.name_notMem_references hgraph hnamed found perRequest hvalue
      (withoutEscape_of_notMem hsign)
  · exact hwritten.name_notMem_references hgraph hnamed found perRequest hvalue
      (ServiceNode.withoutEscape_fieldName hsign)

theorem handler_services_created_once :
    (Builder.afterSession handlerCatalog [⟨"Handler"⟩] {}).graph = handlerGraph ∧
    (∀ id ∈ [3, 1, 3, 0, 1], id < handlerGraph.size) ∧
    handlerGraph.emit {} [3, 1, 3, 0, 1].eraseDups = handlerGraph.emit {} [3, 1, 3, 0, 1] ∧
    ∃ text, handlerGraph.emit {} [3, 1, 3, 0, 1] = .ok text ∧ ∃ fields tests,
      handlerGraph.servicesClass {} [3, 1, 3, 0, 1] =
        .ok ⟨{}, fields, Dispatch.ofBranches tests⟩ ∧
      (ServicesClass.mk {} fields (Dispatch.ofBranches tests)).HasSource handlerGraph text ∧
      (fields.map Field.name).Nodup ∧
      List.Forall₂ handlerGraph.DeclaredBy
        (handlerGraph.sharedAmong [3, 1, 3, 0, 1].eraseDups) fields ∧
      List.Forall₂ handlerGraph.AnsweredBy [3, 1, 3, 0, 1].eraseDups tests ∧
      ∀ node ∈ handlerGraph.nodes, ¬ node.isShared →
        ∀ value ∈ fields.map Field.initializer ++ tests.map Prod.snd,
          node.identifier ∉ value.references ∧ node.fieldName ∉ value.references := by
  have hsession : (Builder.afterSession handlerCatalog [⟨"Handler"⟩] {}).graph = handlerGraph := by
    decide +kernel
  have hnodes : ∀ id ∈ [3, 1, 3, 0, 1], id < handlerGraph.size := by decide
  obtain ⟨text, hemit⟩ : ∃ text, handlerGraph.emit {} [3, 1, 3, 0, 1] = .ok text := ⟨_, rfl⟩
  obtain ⟨hsame, hclass⟩ := shared_services_created_once handlerCatalog _ {} hsession hnodes
  exact ⟨hsession, hnodes, hsame, text, hemit, hclass text hemit⟩

/-- The lock behind the context of the handler's request is written as its field. -/
example : handlerGraph.nodeAlong? [0, 0, 0] 0 = some 3 ∧
    handlerFields.map (·.initializer.part? [0, 0, 0]) = [none, some (.field "@lock")] :=
  ⟨rfl, rfl⟩

end CompositionRoot
