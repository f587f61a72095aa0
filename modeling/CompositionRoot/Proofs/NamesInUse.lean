import CompositionRoot.Proofs.FieldNames

/-! Names in use. The identifiers on record are those of the nodes, and each is the first name for
its implementation that no node before it has, whatever failed resolutions took and gave back. A
field name made from such an identifier can name a field: the escape sign stands only in front of
reserved words, and telling names apart does not depend on it. -/
namespace CompositionRoot

def StartsName (name : String) : Prop :=
  ∃ c rest, name.toList = c :: rest ∧ ¬ c.isDigit

namespace StartsName

variable {name : String}

theorem ne_empty (h : StartsName name) : name ≠ "" := by
  rintro rfl
  obtain ⟨c, rest, hname, _⟩ := h
  cases hname

theorem append (h : StartsName name) (suffix : String) : StartsName (name ++ suffix) := by
  obtain ⟨c, rest, hname, hdigit⟩ := h
  exact ⟨c, rest ++ suffix.toList, by simp [String.toList_append, hname], hdigit⟩

theorem freshIdentifier (h : StartsName name) (taken : List String) :
    StartsName (freshIdentifier taken name) := by
  rcases freshIdentifier_cases taken name with heq | ⟨k, heq⟩
  · rwa [heq]
  · rw [heq, numbered]
    exact h.append (toString k)

end StartsName

theorem exists_repairName_eq_cons (name : List Char) :
    ∃ c rest, repairName name = c :: rest ∧ ¬ c.isDigit := by
  unfold repairName
  split
  · exact ⟨'s', "ervice".toList, rfl, by decide⟩
  · next c rest =>
    split
    · exact ⟨'_', c :: rest, rfl, by decide⟩
    · next hdigit => exact ⟨c, rest, rfl, hdigit⟩

theorem startsName_baseIdentifier (type : TypeIdentity) : StartsName type.baseIdentifier := by
  rw [StartsName, TypeIdentity.baseIdentifier, String.toList_ofList]
  exact exists_repairName_eq_cons _

namespace ServiceGraph

variable {graph : ServiceGraph} {id : NodeId} {node : ServiceNode}

namespace Named

theorem mem_identifiers_iff (h : graph.Named) {name : String} :
    name ∈ graph.identifiers ↔ ∃ node ∈ graph.nodes, node.identifier = name := by
  rw [h.identifiers_eq, List.mem_reverse, List.mem_map]

theorem firstFree_iff (h : graph.Named) (found : graph.node? id = some node) {name : String} :
    FirstFree ((graph.nodes.take id).map (·.identifier)) node.implementation.baseIdentifier name ↔
      name = node.identifier := by
  have hfirst : FirstFree ((graph.nodes.take id).map (·.identifier))
      node.implementation.baseIdentifier node.identifier := by
    rw [h.identifier_eq id node found]
    exact (firstFree_freshIdentifier _ _).perm (List.reverse_perm _)
  exact ⟨fun hname => hname.unique hfirst, fun heq => heq ▸ hfirst⟩

theorem startsName (h : graph.Named) (found : graph.node? id = some node) :
    StartsName node.identifier := by
  rw [h.identifier_eq id node found]
  exact (startsName_baseIdentifier _).freshIdentifier _

end Named

/-- The names of the fields that nodes have, or would have, can all stand in one class. -/
structure UsableFieldNames (graph : ServiceGraph) : Prop where
  startsName : ∀ node ∈ graph.nodes, StartsName node.fieldName
  not_reserved : ∀ node ∈ graph.nodes, node.fieldName ∉ reservedWords
  escapes : ∀ node ∈ graph.nodes, '@' ∈ node.fieldName.toList →
    ∃ word ∈ reservedWords, node.fieldName = "@" ++ word ∧ '@' ∉ word.toList
  nodup : (graph.nodes.map fun node => withoutEscape node.fieldName).Nodup

theorem Named.usableFieldNames (h : graph.Named) : graph.UsableFieldNames := by
  have hnode : ∀ node ∈ graph.nodes, StartsName node.identifier ∧ '@' ∉ node.identifier.toList := by
    intro node hmem
    obtain ⟨id, found⟩ := List.mem_iff_getElem?.mp hmem
    exact ⟨h.startsName found, h.at_notMem_identifier found⟩
  have hwords : ∀ word ∈ reservedWords, '@' ∉ word.toList := by decide +kernel
  have hescaped (name : String) : ("@" ++ name).toList = '@' :: name.toList :=
    String.toList_append
  constructor
  · intro node hmem
    unfold ServiceNode.fieldName
    split
    · exact ⟨'@', node.identifier.toList, hescaped _, by decide⟩
    · exact (hnode node hmem).1
  · intro node hmem
    unfold ServiceNode.fieldName
    split
    · intro hreserved
      exact hwords _ hreserved (by simp [hescaped])
    · assumption
  · intro node hmem
    unfold ServiceNode.fieldName
    split
    · next hreserved =>
      exact fun _ => ⟨node.identifier, hreserved, rfl, hwords _ hreserved⟩
    · intro hsign
      exact absurd hsign (hnode node hmem).2
  · have hplain : graph.nodes.map (fun node => withoutEscape node.fieldName) =
        (graph.nodes.map (·.identifier)).map String.toList := by
      rw [List.map_map]
      exact List.map_congr_left fun node hmem =>
        ServiceNode.withoutEscape_fieldName (hnode node hmem).2
    rw [hplain]
    exact h.identifiers_nodup.map fun _ _ heq => String.toList_injective heq

end ServiceGraph

section

variable {κ : Type} [TypeCatalog κ]

theorem named_afterSession (catalog : κ) (types : List TypeIdentity) :
    (Builder.afterSession catalog types {}).graph.Named :=
  ServiceGraph.graphClosed_named.afterSession types ServiceGraph.named_empty

/-- After every session, failed resolutions among them, the identifiers in use are those of the
nodes and no two nodes share one. Each is the first name for the node's implementation that no node
with a smaller number has, and a number in it is at most one more than the number of these nodes.
The search for a number never comes away empty, whatever is taken. -/
theorem identifiers_first_free (catalog : κ) (types : List TypeIdentity) :
    let graph := (Builder.afterSession catalog types {}).graph
    (∀ name, name ∈ graph.identifiers ↔ ∃ node ∈ graph.nodes, node.identifier = name) ∧
    (graph.nodes.map (·.identifier)).Nodup ∧
    (∀ id node, graph.node? id = some node → node.identifier ≠ "" ∧
      ∀ name, FirstFree ((graph.nodes.take id).map (·.identifier))
        node.implementation.baseIdentifier name ↔ name = node.identifier) ∧
    ∀ taken base, FirstFree taken base (freshIdentifier taken base) ∧
      (base ∈ taken → (numberedCandidates taken base).find? (· ∉ taken) =
        some (freshIdentifier taken base)) := by
  intro graph
  have hnamed : graph.Named := named_afterSession catalog types
  refine ⟨fun name => hnamed.mem_identifiers_iff, hnamed.identifiers_nodup,
    fun id node found => ?_, fun taken base => ?_⟩
  · exact ⟨(hnamed.startsName found).ne_empty, fun name => hnamed.firstFree_iff found⟩
  · exact ⟨firstFree_freshIdentifier taken base, find?_eq_freshIdentifier⟩

/-- Two locks of different origin, a type called as the second of them might be, and a door that
needs one of the locks and a key that nothing provides. -/
def lockCatalog : List TypeInfo :=
  [{ identity := ⟨"Inner.Lock"⟩ }, { identity := ⟨"Outer.Lock"⟩ }, { identity := ⟨"Lock2"⟩ },
    { identity := ⟨"Door"⟩, constructors := [{ parameters := [⟨"Outer.Lock"⟩, ⟨"Key"⟩] }] },
    { identity := ⟨"Map.2D[]"⟩ }, { identity := ⟨"[]"⟩ }]

/-- The door took the second name for its lock and gave it back. -/
example : (Builder.afterSession lockCatalog
    [⟨"Inner.Lock"⟩, ⟨"Door"⟩, ⟨"Lock2"⟩, ⟨"Outer.Lock"⟩] {}).graph.identifiers =
      ["lock3", "lock2", "lock"] := by
  decide +kernel

/-- In every graph, however its types are named, the names of fields begin with a character that is
no digit, are no reserved words and have the escape sign only in front of one. They differ also
where the escape is left out. -/
theorem field_names_usable (catalog : κ) :
    (∀ types, (Builder.afterSession catalog types {}).graph.UsableFieldNames) ∧
    ∀ requests graph, ServiceGraph.resolve catalog requests = .ok graph →
      graph.UsableFieldNames :=
  ⟨fun types => (named_afterSession catalog types).usableFieldNames,
    fun _ _ hresolve => (named_of_resolve hresolve).usableFieldNames⟩

def lockGraph : ServiceGraph where
  nodes :=
    [⟨⟨"Inner.Lock"⟩, ⟨"Inner.Lock"⟩, .shared, [], "lock"⟩,
      ⟨⟨"Outer.Lock"⟩, ⟨"Outer.Lock"⟩, .shared, [], "lock2"⟩,
      ⟨⟨"Map.2D[]"⟩, ⟨"Map.2D[]"⟩, .shared, [], "_2d"⟩, ⟨⟨"[]"⟩, ⟨"[]"⟩, .shared, [], "service"⟩]
  memo := [(⟨"[]"⟩, 3), (⟨"Map.2D[]"⟩, 2), (⟨"Outer.Lock"⟩, 1), (⟨"Inner.Lock"⟩, 0)]
  identifiers := ["service", "_2d", "lock2", "lock"]

theorem lock_field_names_usable :
    ServiceGraph.resolve lockCatalog [⟨"Inner.Lock"⟩, ⟨"Outer.Lock"⟩, ⟨"Map.2D[]"⟩, ⟨"[]"⟩] =
      .ok lockGraph ∧ lockGraph.UsableFieldNames := by
  have hresolve : ServiceGraph.resolve lockCatalog
      [⟨"Inner.Lock"⟩, ⟨"Outer.Lock"⟩, ⟨"Map.2D[]"⟩, ⟨"[]"⟩] = .ok lockGraph := by
    decide +kernel
  exact ⟨hresolve, (field_names_usable lockCatalog).2 _ _ hresolve⟩

end

end CompositionRoot
