import CompositionRoot.Proofs.MissingFields
import CompositionRoot.Proofs.OrderIndependence

/-! Uses of fields in the creation of a service. A walk through the dependencies from left to right,
which goes on behind those that are created in place, meets the uses one after another, some more
than once. The search for required fields, which visits no node twice and goes in another order,
finds the fields of the walk, and a creation fails at the first use of a field that is not
declared. -/
namespace CompositionRoot

structure FieldUse where
  field : NodeId
  identifier : String
  requiredBy : TypeIdentity
deriving DecidableEq, Repr

def FieldUse.missing (use : FieldUse) : GenerationError :=
  .missingField use.identifier use.requiredBy

def firstUndeclared? (declared : List NodeId) (uses : List FieldUse) : Option FieldUse :=
  uses.find? fun use => use.field ∉ declared

@[simp] theorem firstUndeclared?_append (declared : List NodeId) (uses later : List FieldUse) :
    firstUndeclared? declared (uses ++ later) =
      (firstUndeclared? declared uses).or (firstUndeclared? declared later) :=
  List.find?_append

theorem firstUndeclared?_cons_of_notMem {declared : List NodeId} {use : FieldUse}
    (h : use.field ∉ declared) (later : List FieldUse) :
    firstUndeclared? declared (use :: later) = some use :=
  List.find?_cons_of_pos (by simpa using h)

namespace ServiceGraph

/-- The uses that a walk meets when it takes dependencies of an implementation from left to right.
Where one of them is created in place, its own dependencies come before what is on its right. -/
inductive Walk (graph : ServiceGraph) : TypeIdentity → List NodeId → List FieldUse → Prop where
  | nil {implementation : TypeIdentity} : Walk graph implementation [] []
  | field {implementation : TypeIdentity} {id : NodeId} {ids : List NodeId} {node : ServiceNode}
      {uses : List FieldUse} (found : graph.node? id = some node) (shared : node.isShared)
      (rest : Walk graph implementation ids uses) :
      Walk graph implementation (id :: ids) (⟨id, node.identifier, implementation⟩ :: uses)
  | inline {implementation : TypeIdentity} {id : NodeId} {ids : List NodeId} {node : ServiceNode}
      {inner uses : List FieldUse} (found : graph.node? id = some node)
      (perRequest : ¬ node.isShared)
      (dependencies : Walk graph node.implementation node.dependencies inner)
      (rest : Walk graph implementation ids uses) :
      Walk graph implementation (id :: ids) (inner ++ uses)

variable {graph : ServiceGraph} {declared : List NodeId} {id : NodeId} {node : ServiceNode}

/-- Dependencies have smaller ranks, so a walk through them comes to an end. -/
theorem exists_walk (h : graph.WellFormed) {bound : Nat} {ids : List NodeId}
    (hids : ∀ id ∈ ids, id < graph.size ∧ graph.rank id < bound) (implementation : TypeIdentity) :
    ∃ uses, graph.Walk implementation ids uses := by
  induction bound generalizing ids implementation with
  | zero =>
    cases ids with
    | nil => exact ⟨[], .nil⟩
    | cons id ids => exact absurd (hids id List.mem_cons_self).2 (Nat.not_lt_zero _)
  | succ bound ih =>
    induction ids with
    | nil => exact ⟨[], .nil⟩
    | cons id ids ihrest =>
      simp only [List.forall_mem_cons] at hids
      obtain ⟨⟨hlt, hrank⟩, hrest⟩ := hids
      obtain ⟨node, found⟩ := exists_node?_of_lt hlt
      obtain ⟨uses, huses⟩ := ihrest hrest
      by_cases shared : node.isShared
      · exact ⟨_, .field found shared huses⟩
      · have hdependencies : ∀ dependency ∈ node.dependencies,
            dependency < graph.size ∧ graph.rank dependency < bound := by
          intro dependency hmem
          obtain ⟨target, htarget, hsmaller⟩ := h.exists_dependency found hmem
          exact ⟨lt_size_of_node? htarget, by omega⟩
        obtain ⟨inner, hinner⟩ := ih hdependencies node.implementation
        exact ⟨_, .inline found shared hinner huses⟩

namespace Walk

variable {implementation : TypeIdentity} {ids : List NodeId} {uses others : List FieldUse}

theorem cons_iff_of_shared (found : graph.node? id = some node) (shared : node.isShared) :
    graph.Walk implementation (id :: ids) uses ↔ ∃ rest, graph.Walk implementation ids rest ∧
      uses = ⟨id, node.identifier, implementation⟩ :: rest := by
  constructor
  · intro h
    cases h with
    | field other _ hrest =>
      obtain rfl := Option.some.inj (found.symm.trans other)
      exact ⟨_, hrest, rfl⟩
    | inline other perRequest _ _ =>
      obtain rfl := Option.some.inj (found.symm.trans other)
      exact absurd shared perRequest
  · rintro ⟨rest, hrest, rfl⟩
    exact .field found shared hrest

theorem cons_iff_of_perRequest (found : graph.node? id = some node)
    (perRequest : ¬ node.isShared) :
    graph.Walk implementation (id :: ids) uses ↔ ∃ inner rest,
      graph.Walk node.implementation node.dependencies inner ∧
      graph.Walk implementation ids rest ∧ uses = inner ++ rest := by
  constructor
  · intro h
    cases h with
    | field other shared _ =>
      obtain rfl := Option.some.inj (found.symm.trans other)
      exact absurd shared perRequest
    | inline other _ hinner hrest =>
      obtain rfl := Option.some.inj (found.symm.trans other)
      exact ⟨_, _, hinner, hrest, rfl⟩
  · rintro ⟨inner, rest, hinner, hrest, rfl⟩
    exact .inline found perRequest hinner hrest

theorem unique (h : graph.Walk implementation ids uses)
    (h' : graph.Walk implementation ids others) : uses = others := by
  induction h generalizing others with
  | nil =>
    cases h'
    rfl
  | field found shared _ ih =>
    obtain ⟨rest, hrest, rfl⟩ := (cons_iff_of_shared found shared).mp h'
    rw [ih hrest]
  | inline found perRequest _ _ ihinner ih =>
    obtain ⟨inner, rest, hinner, hrest, rfl⟩ := (cons_iff_of_perRequest found perRequest).mp h'
    rw [ihinner hinner, ih hrest]

/-- The fields that a walk meets are those that the dependencies read. -/
theorem mem_fields_iff (h : graph.Walk implementation ids uses) {field : NodeId} :
    field ∈ uses.map (·.field) ↔ ∃ id ∈ ids, graph.Reads id field := by
  induction h with
  | nil => simp
  | field found shared _ ih =>
    rw [List.map_cons, List.mem_cons, ih, List.exists_mem_cons_iff,
      reads_iff_of_shared found shared]
  | inline found perRequest _ _ ihinner ih =>
    rw [List.map_append, List.mem_append, ihinner, ih, List.exists_mem_cons_iff,
      reads_iff_of_perRequest found perRequest, Requires]

theorem exists_split {done rest : List NodeId}
    (h : graph.Walk implementation (done ++ rest) uses) : ∃ before after,
      uses = before ++ after ∧ graph.Walk implementation done before ∧
        graph.Walk implementation rest after := by
  induction done generalizing uses with
  | nil => exact ⟨[], uses, rfl, .nil, h⟩
  | cons id done ih =>
    cases h with
    | field found shared hrest =>
      obtain ⟨before, after, rfl, hdone, hafter⟩ := ih hrest
      exact ⟨_ :: before, after, rfl, .field found shared hdone, hafter⟩
    | @inline _ _ _ _ inner _ found perRequest dependencies hrest =>
      obtain ⟨before, after, rfl, hdone, hafter⟩ := ih hrest
      exact ⟨inner ++ before, after, (List.append_assoc ..).symm,
        .inline found perRequest dependencies hdone, hafter⟩

theorem firstUndeclared?_eq_none (h : graph.Walk implementation ids uses)
    (hdeclared : ∀ id ∈ ids, ∀ field, graph.Reads id field → field ∈ declared) :
    firstUndeclared? declared uses = none := by
  refine List.find?_eq_none.mpr fun use huse => ?_
  obtain ⟨id, hid, hreads⟩ := h.mem_fields_iff.mp (List.mem_map_of_mem huse)
  simpa using hdeclared id hid use.field hreads

end Walk

/-- The first missing field of a creation is that of the first undeclared use on the walk. -/
theorem FirstMissing.exists_use {error : GenerationError} {uses : List FieldUse}
    (h : graph.FirstMissing declared node error)
    (hwalk : graph.Walk node.implementation node.dependencies uses) :
    ∃ use, firstUndeclared? declared uses = some use ∧ error = use.missing := by
  induction h generalizing uses with
  | @field node dependency id done rest split before found shared undeclared =>
    rw [split] at hwalk
    obtain ⟨earlier, later, rfl, hdone, hlater⟩ := hwalk.exists_split
    obtain ⟨last, _, rfl⟩ := (Walk.cons_iff_of_shared found shared).mp hlater
    refine ⟨⟨id, dependency.identifier, node.implementation⟩, ?_, rfl⟩
    rw [firstUndeclared?_append, hdone.firstUndeclared?_eq_none before, Option.none_or,
      firstUndeclared?_cons_of_notMem undeclared]
  | @inline node dependency id done rest error split before found perRequest _ ih =>
    rw [split] at hwalk
    obtain ⟨earlier, later, rfl, hdone, hlater⟩ := hwalk.exists_split
    obtain ⟨inner, last, hinner, _, rfl⟩ := (Walk.cons_iff_of_perRequest found perRequest).mp hlater
    obtain ⟨use, huse, heq⟩ := ih hinner
    refine ⟨use, ?_, heq⟩
    rw [firstUndeclared?_append, hdone.firstUndeclared?_eq_none before, Option.none_or,
      firstUndeclared?_append, huse, Option.some_or]

end ServiceGraph

/-- In the graph after any session, a service can be created from declared fields exactly if all
that it requires are among them, and it is one expression whatever else is declared. A creation that
fails names the first undeclared field on the walk from left to right through what is created in
place, and the implementation that takes it. -/
theorem construct_iff_requiredFields_declared {κ : Type} [TypeCatalog κ] (catalog : κ)
    (types : List TypeIdentity) {graph : ServiceGraph} {id : NodeId} {node : ServiceNode}
    (hsession : (Builder.afterSession catalog types {}).graph = graph)
    (found : graph.node? id = some node) :
    (∀ declared, (∃ value, graph.construct declared node = .ok value) ↔
      graph.requiredFields id ⊆ declared) ∧
    (∃ value, ∀ declared other, graph.construct declared node = .ok other → other = value) ∧
    ∃ uses, (∀ others, graph.Walk node.implementation node.dependencies others ↔ others = uses) ∧
      (∀ field, field ∈ uses.map (·.field) ↔ field ∈ graph.requiredFields id) ∧
      ∀ declared error, graph.construct declared node = .error error →
        ∃ use, firstUndeclared? declared uses = some use ∧
          error = .missingField use.identifier use.requiredBy := by
  have hgraph : graph.WellFormed := hsession ▸ wellFormed_afterSession catalog types
  have hdependencies : ∀ dependency ∈ node.dependencies,
      dependency < graph.size ∧ graph.rank dependency < graph.rank id := by
    intro dependency hmem
    obtain ⟨target, htarget, hrank⟩ := hgraph.exists_dependency found hmem
    exact ⟨ServiceGraph.lt_size_of_node? htarget, hrank⟩
  obtain ⟨uses, hwalk⟩ := ServiceGraph.exists_walk hgraph hdependencies node.implementation
  obtain ⟨value, hvalue⟩ :=
    (ServiceGraph.exists_construct_iff hgraph found).mpr (List.Subset.refl _)
  refine ⟨fun declared => ServiceGraph.exists_construct_iff hgraph found,
    ⟨value, fun declared other hother => ServiceGraph.construct_unique hgraph found hother hvalue⟩,
    uses, fun others => ?_, fun field => ?_, fun declared error herror => ?_⟩
  · exact ⟨fun hother => hother.unique hwalk, fun heq => heq ▸ hwalk⟩
  · rw [hwalk.mem_fields_iff, ServiceGraph.mem_requiredFields_iff found, ServiceGraph.Requires]
  · exact (ServiceGraph.firstMissing_of_construct hgraph found herror).exists_use hwalk

/-- A report that is created with a page. Both take the log. -/
def reportCatalog : List TypeInfo :=
  [{ identity := ⟨"Report"⟩, constructors := [{ parameters := [⟨"Page"⟩, ⟨"Log"⟩] }] },
    { identity := ⟨"Page"⟩, isTransient := true,
      constructors := [{ parameters := [⟨"Font"⟩, ⟨"Log"⟩] }] },
    { identity := ⟨"Font"⟩ }, { identity := ⟨"Log"⟩ }]

def reportNode : ServiceNode :=
  ⟨⟨"Report"⟩, ⟨"Report"⟩, .shared, [1, 3], "report"⟩

def reportGraph : ServiceGraph where
  nodes :=
    [reportNode, ⟨⟨"Page"⟩, ⟨"Page"⟩, .perRequest, [2, 3], "page"⟩,
      ⟨⟨"Font"⟩, ⟨"Font"⟩, .shared, [], "font"⟩, ⟨⟨"Log"⟩, ⟨"Log"⟩, .shared, [], "log"⟩]
  memo := [(⟨"Log"⟩, 3), (⟨"Font"⟩, 2), (⟨"Page"⟩, 1), (⟨"Report"⟩, 0)]
  identifiers := ["log", "font", "page", "report"]

/-- The page's uses of fields come before the report's own. -/
def reportUses : List FieldUse :=
  [⟨2, "font", ⟨"Page"⟩⟩, ⟨3, "log", ⟨"Page"⟩⟩, ⟨3, "log", ⟨"Report"⟩⟩]

theorem report_construct_iff :
    (Builder.afterSession reportCatalog [⟨"Report"⟩] {}).graph = reportGraph ∧
    reportGraph.node? 0 = some reportNode ∧
    (∀ declared, (∃ value, reportGraph.construct declared reportNode = .ok value) ↔
      reportGraph.requiredFields 0 ⊆ declared) ∧
    (∃ value, ∀ declared other, reportGraph.construct declared reportNode = .ok other →
      other = value) ∧
    (∀ field, field ∈ reportUses.map (·.field) ↔ field ∈ reportGraph.requiredFields 0) ∧
    ∀ declared error, reportGraph.construct declared reportNode = .error error →
      ∃ use, firstUndeclared? declared reportUses = some use ∧
        error = .missingField use.identifier use.requiredBy := by
  have hsession : (Builder.afterSession reportCatalog [⟨"Report"⟩] {}).graph = reportGraph := by
    decide +kernel
  have found : reportGraph.node? 0 = some reportNode := rfl
  obtain ⟨hiff, hvalue, uses, hwalk, hfields, hmissing⟩ :=
    construct_iff_requiredFields_declared reportCatalog [⟨"Report"⟩] hsession found
  have hpage : reportGraph.node? 1 =
      some ⟨⟨"Page"⟩, ⟨"Page"⟩, .perRequest, [2, 3], "page"⟩ := rfl
  have hfont : reportGraph.node? 2 = some ⟨⟨"Font"⟩, ⟨"Font"⟩, .shared, [], "font"⟩ := rfl
  have hlog : reportGraph.node? 3 = some ⟨⟨"Log"⟩, ⟨"Log"⟩, .shared, [], "log"⟩ := rfl
  have huses : reportGraph.Walk reportNode.implementation reportNode.dependencies reportUses :=
    .inline hpage (by decide) (.field hfont rfl (.field hlog rfl .nil)) (.field hlog rfl .nil)
  obtain rfl := (hwalk reportUses).mp huses
  exact ⟨hsession, found, hiff, hvalue, hfields, hmissing⟩

end CompositionRoot
