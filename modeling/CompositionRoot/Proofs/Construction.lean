import CompositionRoot.Proofs.ReadFields
import CompositionRoot.ServicesClass.Construction

/-! Creation of services in a well-formed graph. The nesting of a creation stays below the number of
nodes, so the bound on it is never reached, and a creation has a value exactly if all fields that
it requires are declared. -/
namespace CompositionRoot

@[simp] theorem isOk_ok {ε α : Type} (value : α) : (Except.ok value : Except ε α).isOk = true :=
  rfl

@[simp] theorem isOk_error {ε α : Type} (error : ε) :
    (Except.error error : Except ε α).isOk = false :=
  rfl

@[simp] theorem isOk_map {ε α β : Type} (f : α → β) (result : Except ε α) :
    (result.map f).isOk = result.isOk := by
  cases result <;> rfl

theorem isOk_iff {ε α : Type} {result : Except ε α} :
    result.isOk ↔ ∃ value, result = .ok value := by
  cases result <;> simp

theorem map_eq_ok_iff {ε α β : Type} {f : α → β} {result : Except ε α} {value : β} :
    result.map f = .ok value ↔ ∃ a, result = .ok a ∧ f a = value := by
  cases result <;> simp [Except.map]

theorem map_eq_error_iff {ε α β : Type} {f : α → β} {result : Except ε α} {error : ε} :
    result.map f = .error error ↔ result = .error error := by
  cases result <;> simp [Except.map]

namespace ServiceGraph

variable {graph : ServiceGraph} {declared : List NodeId}

/-- A creation comes to an end, with a value exactly if the fields that it reads are declared. -/
def Decided (declared : List NodeId) (reads : NodeId → Prop)
    (creation : Option (Except GenerationError Expression)) : Prop :=
  ∃ outcome, creation = some outcome ∧ (outcome.isOk ↔ ∀ field, reads field → field ∈ declared)

def argumentWithin (graph : ServiceGraph) (declared : List NodeId) (depth : Nat)
    (implementation : TypeIdentity) (id : NodeId) :
    Option (Option (Except GenerationError Expression)) :=
  (graph.node? id).map fun dependency =>
    if dependency.isShared then
      if id ∈ declared then some (.ok (.field dependency.fieldName))
      else some (.error (.missingField dependency.identifier implementation))
    else graph.constructWithin declared depth dependency

theorem constructWithin_succ (graph : ServiceGraph) (declared : List NodeId) (depth : Nat)
    (node : ServiceNode) : graph.constructWithin declared (depth + 1) node =
      (collect (node.dependencies.filterMap
        (graph.argumentWithin declared depth node.implementation))).map fun arguments =>
          arguments.map (Expression.create node.implementation) := by
  rw [constructWithin]
  rfl

theorem collect_decided {argument : NodeId → Option (Option (Except GenerationError Expression))}
    {ids : List NodeId}
    (h : ∀ id ∈ ids, ∃ creation, argument id = some creation ∧
      Decided declared (graph.Reads id) creation) :
    ∃ values, collect (ids.filterMap argument) = some values ∧
      (values.isOk ↔ ∀ id ∈ ids, ∀ field, graph.Reads id field → field ∈ declared) := by
  induction ids with
  | nil => exact ⟨.ok [], rfl, by simp⟩
  | cons id rest ih =>
    obtain ⟨creation, hargument, outcome, rfl, houtcome⟩ := h id List.mem_cons_self
    obtain ⟨values, hvalues, hrest⟩ := ih fun other hmem => h other (List.mem_cons_of_mem _ hmem)
    rw [List.filterMap_cons_some hargument]
    simp only [List.forall_mem_cons, ← houtcome, ← hrest]
    cases outcome with
    | error error => exact ⟨.error error, rfl, by simp⟩
    | ok value =>
      refine ⟨values.map (value :: ·), by rw [collect, hvalues]; rfl, ?_⟩
      rw [isOk_map]
      exact ⟨fun hok => ⟨rfl, hok⟩, fun hok => hok.2⟩

/-- A dependency on a shared service is decided by the declaration of its field, and one on a
per-request service by the creation of the service. -/
theorem argumentWithin_decided {depth : Nat} {implementation : TypeIdentity} {id : NodeId}
    {node : ServiceNode} (found : graph.node? id = some node)
    (h : ¬ node.isShared →
      Decided declared (graph.Requires node) (graph.constructWithin declared depth node)) :
    ∃ creation, graph.argumentWithin declared depth implementation id = some creation ∧
      Decided declared (graph.Reads id) creation := by
  refine ⟨_, by rw [argumentWithin, found, Option.map_some], ?_⟩
  by_cases shared : node.isShared
  · simp only [if_pos shared, Decided, reads_iff_of_shared found shared, forall_eq]
    split
    · next hdeclared => exact ⟨_, rfl, by simp [hdeclared]⟩
    · next hmissing => exact ⟨_, rfl, by simp [hmissing]⟩
  · obtain ⟨outcome, hcreation, hok⟩ := h shared
    simp only [if_neg shared, Decided, reads_iff_of_perRequest found shared]
    exact ⟨outcome, hcreation, hok⟩

/-- Creation goes on behind per-request dependencies only, which have a smaller rank. -/
theorem constructWithin_decided (h : graph.WellFormed) {depth : Nat} {id : NodeId}
    {node : ServiceNode} (found : graph.node? id = some node) (hdepth : graph.rank id < depth) :
    Decided declared (graph.Requires node) (graph.constructWithin declared depth node) := by
  induction depth generalizing id node with
  | zero => exact absurd hdepth (Nat.not_lt_zero _)
  | succ depth ih =>
    have harguments : ∀ dependency ∈ node.dependencies, ∃ creation,
        graph.argumentWithin declared depth node.implementation dependency = some creation ∧
          Decided declared (graph.Reads dependency) creation := by
      intro dependency hmem
      obtain ⟨target, htarget, hlt⟩ := h.exists_dependency found hmem
      have hrank : graph.rank dependency < depth := by omega
      exact argumentWithin_decided htarget fun _ => ih htarget hrank
    obtain ⟨values, hvalues, hok⟩ := collect_decided harguments
    rw [constructWithin_succ, hvalues]
    refine ⟨values.map (Expression.create node.implementation), rfl, ?_⟩
    rw [isOk_map, hok]
    exact ⟨fun hall field ⟨dependency, hmem, hfield⟩ => hall dependency hmem field hfield,
      fun hall dependency hmem field hfield => hall field ⟨dependency, hmem, hfield⟩⟩

/-- No creation is nested as deep as the graph has nodes. -/
theorem constructWithin_size (h : graph.WellFormed) {id : NodeId} {node : ServiceNode}
    (found : graph.node? id = some node) : graph.constructWithin declared graph.size node =
      some (graph.construct declared node) := by
  have hrank := h.rank_lt_size (lt_size_of_node? found)
  have hdecided : Decided declared (graph.Requires node)
      (graph.constructWithin declared graph.size node) := constructWithin_decided h found hrank
  obtain ⟨outcome, hcreation, _⟩ := hdecided
  rw [construct, hcreation, Option.getD_some]

/-- A service can be created exactly if all fields that its creation requires are declared. -/
theorem isOk_construct_iff (h : graph.WellFormed) {id : NodeId} {node : ServiceNode}
    (found : graph.node? id = some node) : (graph.construct declared node).isOk ↔
      ∀ field, graph.Requires node field → field ∈ declared := by
  have hdecided :
      Decided declared (graph.Requires node) (some (graph.construct declared node)) := by
    rw [← constructWithin_size h found]
    exact constructWithin_decided h found (h.rank_lt_size (lt_size_of_node? found))
  obtain ⟨outcome, houtcome, hok⟩ := hdecided
  rw [Option.some.inj houtcome, hok]

theorem exists_construct_iff (h : graph.WellFormed) {id : NodeId} {node : ServiceNode}
    (found : graph.node? id = some node) :
    (∃ value, graph.construct declared node = .ok value) ↔ graph.requiredFields id ⊆ declared := by
  rw [← isOk_iff, isOk_construct_iff h found]
  simp only [List.subset_def, mem_requiredFields_iff found]

end ServiceGraph

end CompositionRoot
