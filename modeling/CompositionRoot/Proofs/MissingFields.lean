import CompositionRoot.Proofs.Emission

/-! Missing fields. A creation that fails does so at the first field, from left to right through the
services created in place, that is not declared. A class is refused for nothing else, so it is
emitted exactly if the fields that each service requires are listed in time. -/
namespace CompositionRoot

namespace ServiceGraph

variable {graph : ServiceGraph} {declared : List NodeId} {error : GenerationError}

/-- The error for the first field that the creation of a service reads and that is not declared. All
that the dependencies before it read is declared. -/
inductive FirstMissing (graph : ServiceGraph) (declared : List NodeId) :
    ServiceNode → GenerationError → Prop where
  | field {node dependency : ServiceNode} {id : NodeId} {done rest : List NodeId}
      (split : node.dependencies = done ++ id :: rest)
      (before : ∀ earlier ∈ done, ∀ field, graph.Reads earlier field → field ∈ declared)
      (found : graph.node? id = some dependency) (shared : dependency.isShared)
      (undeclared : id ∉ declared) :
      FirstMissing graph declared node
        (.missingField dependency.identifier node.implementation)
  | inline {node dependency : ServiceNode} {id : NodeId} {done rest : List NodeId}
      {error : GenerationError} (split : node.dependencies = done ++ id :: rest)
      (before : ∀ earlier ∈ done, ∀ field, graph.Reads earlier field → field ∈ declared)
      (found : graph.node? id = some dependency) (perRequest : ¬ dependency.isShared)
      (missing : FirstMissing graph declared dependency error) :
      FirstMissing graph declared node error

/-- The creation of one service creates a per-request service that it depends on. -/
def CreatesInPlace (graph : ServiceGraph) (id dependency : NodeId) : Prop :=
  graph.DependsOn id dependency ∧
    ∃ node, graph.node? dependency = some node ∧ ¬ node.isShared

namespace FirstMissing

/-- Only the fields of shared nodes count as declared. -/
theorem congr {listed : List NodeId} {node : ServiceNode}
    (h : graph.FirstMissing declared node error)
    (hsame : ∀ id, (∃ node, graph.node? id = some node ∧ node.isShared) →
      (id ∈ declared ↔ id ∈ listed)) : graph.FirstMissing listed node error := by
  have hreads : ∀ {id field : NodeId}, graph.Reads id field →
      (field ∈ declared ↔ field ∈ listed) := fun hfield => hsame _ hfield.exists_shared
  induction h with
  | field split before found shared undeclared =>
    refine .field split (fun earlier hmem field hfield => ?_) found shared ?_
    · exact (hreads hfield).mp (before earlier hmem field hfield)
    · rw [← hsame _ ⟨_, found, shared⟩]
      exact undeclared
  | inline split before found perRequest _ ih =>
    refine .inline split (fun earlier hmem field hfield => ?_) found perRequest ih
    exact (hreads hfield).mp (before earlier hmem field hfield)

/-- The error names a field that a service takes directly: the service that is created, or one
that is created in place for it. -/
theorem exists_user {id : NodeId} {node : ServiceNode}
    (h : graph.FirstMissing declared node error) (found : graph.node? id = some node) :
    ∃ user userNode missing missingNode, Relation.ReflTransGen graph.CreatesInPlace id user ∧
      graph.node? user = some userNode ∧ missing ∈ userNode.dependencies ∧
      graph.node? missing = some missingNode ∧ missingNode.isShared ∧ missing ∉ declared ∧
      error = .missingField missingNode.identifier userNode.implementation := by
  induction h generalizing id with
  | @field node dependency missing _ _ split before target shared undeclared =>
    have hmem : missing ∈ node.dependencies := by simp [split]
    exact ⟨id, node, missing, dependency, .refl, found, hmem, target, shared, undeclared, rfl⟩
  | @inline node dependency next _ _ _ split before target perRequest _ ih =>
    have hmem : next ∈ node.dependencies := by simp [split]
    have hstep : graph.CreatesInPlace id next :=
      ⟨⟨node, found, hmem⟩, dependency, target, perRequest⟩
    obtain ⟨user, userNode, missing, missingNode, hplace, huser⟩ := ih target
    exact ⟨user, userNode, missing, missingNode, .head hstep hplace, huser⟩

end FirstMissing

theorem exists_split_of_collect_eq_error
    {argument : NodeId → Option (Option (Except GenerationError Expression))} {ids : List NodeId}
    (h : collect (ids.filterMap argument) = some (.error error)) :
    ∃ done id rest, ids = done ++ id :: rest ∧ argument id = some (some (.error error)) ∧
      ∀ earlier ∈ done, ∀ creation, argument earlier = some creation →
        ∃ value, creation = some (.ok value) := by
  induction ids with
  | nil => simp [collect] at h
  | cons id ids ih =>
    cases hargument : argument id with
    | none =>
      rw [List.filterMap_cons_none hargument] at h
      obtain ⟨done, next, rest, rfl, hnext, hdone⟩ := ih h
      refine ⟨id :: done, next, rest, rfl, hnext, List.forall_mem_cons.mpr ⟨?_, hdone⟩⟩
      simp [hargument]
    | some creation =>
      rw [List.filterMap_cons_some hargument] at h
      cases creation with
      | none => cases h
      | some outcome =>
        cases outcome with
        | error other =>
          cases h
          exact ⟨[], id, ids, rfl, hargument, by simp⟩
        | ok value =>
          obtain ⟨result, hrest, hmap⟩ := Option.map_eq_some_iff.mp h
          rw [map_eq_error_iff.mp hmap] at hrest
          obtain ⟨done, next, rest, rfl, hnext, hdone⟩ := ih hrest
          refine ⟨id :: done, next, rest, rfl, hnext, List.forall_mem_cons.mpr ⟨?_, hdone⟩⟩
          simp [hargument]

/-- The first error among the arguments is for a field that the constructor takes, or comes from the
creation of a per-request service, which has a smaller rank. -/
theorem firstMissing_of_constructWithin (hgraph : graph.WellFormed) {depth : Nat} {id : NodeId}
    {node : ServiceNode} (found : graph.node? id = some node) (hdepth : graph.rank id < depth)
    (h : graph.constructWithin declared depth node = some (.error error)) :
    graph.FirstMissing declared node error := by
  induction depth generalizing id node with
  | zero => cases h
  | succ depth ih =>
    rw [constructWithin_succ] at h
    obtain ⟨result, hcollect, hmap⟩ := Option.map_eq_some_iff.mp h
    rw [map_eq_error_iff.mp hmap] at hcollect
    obtain ⟨done, next, rest, hsplit, hargument, hdone⟩ :=
      exists_split_of_collect_eq_error hcollect
    -- the arguments before the failing one have values, so what they read is declared
    have hbefore : ∀ earlier ∈ done, ∀ field, graph.Reads earlier field → field ∈ declared := by
      intro earlier hmem
      have hdependency : earlier ∈ node.dependencies := by simp [hsplit, hmem]
      obtain ⟨target, htarget, hlt⟩ := hgraph.exists_dependency found hdependency
      have hrank : graph.rank earlier < depth := by omega
      obtain ⟨creation, hcreation, outcome, rfl, hok⟩ :=
        argumentWithin_decided htarget fun _ => constructWithin_decided hgraph htarget hrank
      obtain ⟨value, hvalue⟩ := hdone earlier hmem _ hcreation
      apply hok.mp
      rw [Option.some.inj hvalue, isOk_ok]
    obtain ⟨dependency, htarget, hcreation⟩ := Option.map_eq_some_iff.mp hargument
    split at hcreation
    · next shared =>
      split at hcreation
      · cases hcreation
      · next undeclared =>
        cases hcreation
        exact .field hsplit hbefore htarget shared undeclared
    · next perRequest =>
      have hdependency : next ∈ node.dependencies := by simp [hsplit]
      have hlt := hgraph.rank_lt ⟨node, found, hdependency⟩
      have hrank : graph.rank next < depth := by omega
      exact .inline hsplit hbefore htarget perRequest (ih htarget hrank hcreation)

theorem firstMissing_of_construct (hgraph : graph.WellFormed) {id : NodeId} {node : ServiceNode}
    (found : graph.node? id = some node) (h : graph.construct declared node = .error error) :
    graph.FirstMissing declared node error := by
  have hrank := hgraph.rank_lt_size (lt_size_of_node? found)
  have hwithin : graph.constructWithin declared graph.size node = some (.error error) := by
    rw [constructWithin_size hgraph found, h]
  exact firstMissing_of_constructWithin hgraph found hrank hwithin

/-- The nodes of an order whose fields are declared when an instance of a listed node is created:
those before a shared node, where it is listed first, and all for a per-request node. -/
inductive InScope (graph : ServiceGraph) (order : List NodeId) :
    NodeId → ServiceNode → List NodeId → Prop where
  | shared {earlier later : List NodeId} {id : NodeId} {node : ServiceNode}
      (split : order = earlier ++ id :: later) (first : id ∉ earlier)
      (found : graph.node? id = some node) (shared : node.isShared) :
      InScope graph order id node earlier
  | perRequest {id : NodeId} {node : ServiceNode} (mem : id ∈ order)
      (found : graph.node? id = some node) (perRequest : ¬ node.isShared) :
      InScope graph order id node order

theorem InScope.node?_eq {order scope : List NodeId} {id : NodeId} {node : ServiceNode}
    (h : graph.InScope order id node scope) : graph.node? id = some node := by
  cases h with
  | shared _ _ found _ => exact found
  | perRequest _ found _ => exact found

/-- The fields fail at a shared node where it is listed first, with the fields declared that are
listed before. -/
theorem exists_firstMissing_of_fieldsAfter (hgraph : graph.WellFormed) {seen order : List NodeId}
    (hdeclared : graph.DeclaredFrom seen declared)
    (h : graph.fieldsAfter declared order = .error error) :
    ∃ earlier id later node, order = earlier ++ id :: later ∧ id ∉ earlier.reverse ++ seen ∧
      graph.node? id = some node ∧ node.isShared ∧
      graph.FirstMissing (earlier.reverse ++ seen) node error := by
  induction order generalizing seen declared with
  | nil => cases h
  | cons first order ih =>
    -- a later failure is one of the rest of the order, with `first` among the nodes seen
    have hlater : ∀ {declared' : List NodeId}, graph.DeclaredFrom (first :: seen) declared' →
        graph.fieldsAfter declared' order = .error error →
        ∃ earlier id later node, first :: order = earlier ++ id :: later ∧
          id ∉ earlier.reverse ++ seen ∧ graph.node? id = some node ∧ node.isShared ∧
          graph.FirstMissing (earlier.reverse ++ seen) node error := by
      intro declared' hdeclared' hfails
      obtain ⟨earlier, id, later, node, rfl, hspec⟩ := ih hdeclared' hfails
      refine ⟨first :: earlier, id, later, node, rfl, ?_⟩
      rwa [List.reverse_cons, List.append_assoc, List.singleton_append]
    by_cases hold : (∃ node, graph.node? first = some node ∧ node.isShared) → first ∈ declared
    · rw [fieldsAfter_cons_of_old hold] at h
      exact hlater (hdeclared.skip first hold) h
    · obtain ⟨⟨node, found, shared⟩, hnew⟩ := Classical.not_imp.mp hold
      rw [fieldsAfter_cons_of_new found shared hnew] at h
      cases hconstruct : graph.construct declared node with
      | error other =>
        rw [hconstruct] at h
        cases h
        have hmissing := firstMissing_of_construct hgraph found hconstruct
        have hunseen : first ∉ seen := by
          intro hseen
          exact hnew ((hdeclared first).mpr ⟨hseen, node, found, shared⟩)
        refine ⟨[], first, order, node, rfl, hunseen, found, shared, hmissing.congr ?_⟩
        intro id hshared
        rw [hdeclared id]
        exact and_iff_left hshared
      | ok initializer =>
        rw [hconstruct] at h
        exact hlater (hdeclared.declare ⟨node, found, shared⟩) (map_eq_error_iff.mp h)

theorem exists_firstMissing_of_branches (hgraph : graph.WellFormed) {order : List NodeId}
    (h : graph.branches declared order = .error error) :
    ∃ id ∈ order, ∃ node, graph.node? id = some node ∧ ¬ node.isShared ∧
      graph.FirstMissing declared node error := by
  induction order with
  | nil => cases h
  | cons first order ih =>
    have hlater : graph.branches declared order = .error error →
        ∃ id ∈ first :: order, ∃ node, graph.node? id = some node ∧ ¬ node.isShared ∧
          graph.FirstMissing declared node error := by
      intro hfails
      obtain ⟨id, hmem, hspec⟩ := ih hfails
      exact ⟨id, List.mem_cons_of_mem first hmem, hspec⟩
    rw [branches] at h
    cases found : graph.node? first with
    | none =>
      rw [found] at h
      exact hlater h
    | some node =>
      rw [found] at h
      dsimp only at h
      cases hinstance : graph.instanceOf declared node with
      | ok value =>
        rw [hinstance] at h
        exact hlater (map_eq_error_iff.mp h)
      | error other =>
        rw [hinstance] at h
        cases h
        unfold instanceOf at hinstance
        split at hinstance
        · cases hinstance
        · next perRequest =>
          exact ⟨first, List.mem_cons_self, node, found, perRequest,
            firstMissing_of_construct hgraph found hinstance⟩

/-- A class is refused for the first missing field of a listed node. -/
theorem exists_firstMissing_of_emit (hgraph : graph.WellFormed) {names : ClassNames}
    {order : List NodeId} (h : graph.emit names order = .error error) :
    ∃ id node scope, graph.InScope order id node scope ∧
      graph.FirstMissing scope node error := by
  rw [emit, map_eq_error_iff, servicesClass] at h
  cases hfields : graph.fieldsAfter [] order with
  | error other =>
    rw [hfields] at h
    cases h
    obtain ⟨earlier, id, later, node, hsplit, hfirst, found, shared, hmissing⟩ :=
      exists_firstMissing_of_fieldsAfter hgraph .nil hfields
    rw [List.append_nil, List.mem_reverse] at hfirst
    refine ⟨id, node, earlier, .shared hsplit hfirst found shared, hmissing.congr ?_⟩
    intro other _
    simp
  | ok result =>
    rw [hfields] at h
    have hdeclared := declaredFrom_order hfields
    obtain ⟨id, hmem, node, found, perRequest, hmissing⟩ :=
      exists_firstMissing_of_branches hgraph (map_eq_error_iff.mp h)
    have hlisted : id ∈ order := List.mem_eraseDups.mp hmem
    refine ⟨id, node, order, .perRequest hlisted found perRequest, hmissing.congr ?_⟩
    intro other hshared
    rw [hdeclared other]
    exact and_iff_left hshared

/-- Each node comes after the fields for which it waits if each shared one does, where it is listed
first, after the fields that it requires. -/
theorem fieldsFirst_nil_iff {order : List NodeId} : graph.FieldsFirst [] order ↔
    ∀ earlier id later node, order = earlier ++ id :: later → id ∉ earlier →
      graph.node? id = some node → node.isShared → graph.requiredFields id ⊆ earlier := by
  simp only [fieldsFirst_iff, List.append_nil, List.mem_reverse]
  constructor
  · intro h earlier id later node hsplit hfirst found shared field hfield
    apply h earlier id later hsplit hfirst
    rw [mem_waitsFor_iff found]
    exact ⟨shared, (mem_requiredFields_iff found).mp hfield⟩
  · intro h earlier id later hsplit hfirst field hfield
    by_cases hshared : ∃ node, graph.node? id = some node ∧ node.isShared
    · obtain ⟨node, found, shared⟩ := hshared
      apply h earlier id later node hsplit hfirst found shared
      rw [mem_requiredFields_iff found]
      exact ((mem_waitsFor_iff found).mp hfield).2
    · rw [waitsFor_eq_nil hshared] at hfield
      cases hfield

end ServiceGraph

/-- Of the graph after any session, a class is emitted for an order exactly if each shared node,
where it is listed first, comes after the fields that it requires, and those of each per-request
node are listed. Otherwise the error names a shared node that is not declared where a listed node,
or one created in place for it, takes it directly. -/
theorem emit_succeeds_iff_fields_in_scope {κ : Type} [TypeCatalog κ] (catalog : κ)
    (types : List TypeIdentity) (names : ClassNames) (order : List NodeId) :
    let graph := (Builder.afterSession catalog types {}).graph
    ((∃ text, graph.emit names order = .ok text) ↔
      (∀ earlier id later node, order = earlier ++ id :: later → id ∉ earlier →
        graph.node? id = some node → node.isShared → graph.requiredFields id ⊆ earlier) ∧
      (∀ id ∈ order, ∀ node, graph.node? id = some node → ¬ node.isShared →
        graph.requiredFields id ⊆ order)) ∧
    ∀ error, graph.emit names order = .error error →
      ∃ id node scope user userNode missing missingNode,
        graph.InScope order id node scope ∧
        Relation.ReflTransGen graph.CreatesInPlace id user ∧
        graph.node? user = some userNode ∧ missing ∈ userNode.dependencies ∧
        graph.node? missing = some missingNode ∧ missingNode.isShared ∧ missing ∉ scope ∧
        error = .missingField missingNode.identifier userNode.implementation := by
  intro graph
  have hgraph : graph.WellFormed := ((Builder.idle_empty catalog).afterSession types).wellFormed
  constructor
  · have hrequired : ∀ id node, graph.node? id = some node →
        ((∀ field, graph.Requires node field → field ∈ order) ↔
          graph.requiredFields id ⊆ order) := by
      intro id node found
      simp only [List.subset_def, ServiceGraph.mem_requiredFields_iff found]
    rw [← isOk_iff, ServiceGraph.isOk_emit_iff hgraph, ServiceGraph.fieldsFirst_nil_iff]
    refine and_congr_right fun _ => ?_
    constructor
    · intro h id hmem node found perRequest
      exact (hrequired id node found).mp (h id hmem node found perRequest)
    · intro h id hmem node found perRequest
      exact (hrequired id node found).mpr (h id hmem node found perRequest)
  · intro error herror
    obtain ⟨id, node, scope, hscope, hmissing⟩ :=
      ServiceGraph.exists_firstMissing_of_emit hgraph herror
    obtain ⟨user, userNode, missing, missingNode, huser⟩ := hmissing.exists_user hscope.node?_eq
    exact ⟨id, node, scope, user, userNode, missing, missingNode, hscope, huser⟩

end CompositionRoot
