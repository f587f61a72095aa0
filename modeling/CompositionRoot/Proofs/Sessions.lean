import CompositionRoot.Proofs.Dependencies
import CompositionRoot.Proofs.ServiceTree

/-! Sessions on one builder. Whatever was resolved before, with success or without, the graph is
sound and nothing is in progress, and the next resolution comes to what it would come to on a new
builder. -/
namespace CompositionRoot.Builder

open Relation

section Invariants

variable {κ : Type} [TypeCatalog κ] {catalog : κ} {builder : Builder}

theorem Idle.memo_lt (h : builder.Idle catalog) {entry : TypeIdentity × NodeId}
    (hmem : entry ∈ builder.graph.memo) : entry.2 < builder.graph.size := by
  rw [h.consistent.memo_eq, List.mem_reverse] at hmem
  have hlt := List.snd_lt_of_mem_zipIdx hmem
  simpa [ServiceGraph.size] using hlt

/-- The rank that the number of nodes below a node gives. -/
theorem Idle.exists_rank (h : builder.Idle catalog) :
    ∃ rank : NodeId → Nat, ∀ id dependency, builder.graph.DependsOn id dependency →
      rank dependency < rank id :=
  ⟨builder.graph.rank, fun _ _ hdepends => h.wellFormed.rank_lt hdepends⟩

end Invariants

/-- A service that takes one service discovered before it and one discovered after it. -/
def crossingCatalog : List TypeInfo :=
  [{ identity := ⟨"Store"⟩ }, { identity := ⟨"Log"⟩ },
    { identity := ⟨"App"⟩, constructors := [{ parameters := [⟨"Store"⟩, ⟨"Log"⟩] }] }]

theorem crossing_dependencies :
    let graph := (afterSession crossingCatalog [⟨"Store"⟩, ⟨"App"⟩] {}).graph
    graph.DependsOn 1 0 ∧ graph.DependsOn 1 2 := by
  have hgraph : (afterSession crossingCatalog [⟨"Store"⟩, ⟨"App"⟩] {}).graph.node? 1 =
      some ⟨⟨"App"⟩, ⟨"App"⟩, .shared, [0, 2], "app"⟩ := by
    decide +kernel
  exact ⟨⟨_, hgraph, by simp⟩, ⟨_, hgraph, by simp⟩⟩

/-- After every session the memo holds exactly the nodes by their types, dependencies stay among
the nodes and are free of cycles, and nothing is in progress. The numbers of the nodes are no rank:
dependencies may have smaller and larger ones. -/
theorem afterSession_graph_sound :
    (∀ {κ : Type} [TypeCatalog κ] (catalog : κ) (types : List TypeIdentity),
      let builder := afterSession catalog types {}
      (∀ type id, builder.graph.nodeId? type = some id ↔
        ∃ node, builder.graph.node? id = some node ∧ node.requested = type) ∧
      (builder.graph.nodes.map (·.requested)).Nodup ∧
      (∀ entry ∈ builder.graph.memo, entry.2 < builder.graph.size) ∧
      (∀ id dependency, builder.graph.DependsOn id dependency →
        dependency < builder.graph.size) ∧
      (∀ id, ¬ TransGen builder.graph.DependsOn id id) ∧
      (∃ rank : NodeId → Nat, ∀ id dependency, builder.graph.DependsOn id dependency →
        rank dependency < rank id) ∧
      builder.inProgress = []) ∧
    ∃ (catalog : List TypeInfo) (types : List TypeIdentity) (id smaller larger : NodeId),
      smaller < id ∧ id < larger ∧
      (afterSession catalog types {}).graph.DependsOn id smaller ∧
      (afterSession catalog types {}).graph.DependsOn id larger := by
  constructor
  · intro κ _ catalog types builder
    have hidle : builder.Idle catalog := (idle_empty catalog).afterSession types
    have hgraph : builder.graph.WellFormed := hidle.wellFormed
    exact ⟨fun type id => hidle.consistent.nodeId?_eq_some_iff, hidle.consistent.requested_nodup,
      fun entry => hidle.memo_lt, fun id dependency => hgraph.dependency_lt, hgraph.not_cyclic,
      hidle.exists_rank, hidle.inProgress_eq⟩
  · obtain ⟨hsmaller, hlarger⟩ := crossing_dependencies
    exact ⟨crossingCatalog, [⟨"Store"⟩, ⟨"App"⟩], 1, 0, 2, by decide, by decide, hsmaller, hlarger⟩

section History

variable {κ : Type} [TypeCatalog κ] {catalog : κ}

/-- Two resolutions come to the same if both fail with the same error, or both give nodes that
unfold to the same one tree. -/
def SameOutcome : Outcome NodeId → Outcome NodeId → Prop
  | (.ok id, builder), (.ok id', builder') =>
    ∃ tree, (∀ other, builder.graph.Unfolds id other ↔ other = tree) ∧
      ∀ other, builder'.graph.Unfolds id' other ↔ other = tree
  | (.error error, _), (.error error', _) => error = error'
  | _, _ => False

/-- What a resolution between two others comes to, said of the catalog alone. -/
theorem Idle.resolve_cases {builder : Builder} (h : builder.Idle catalog) (type : TypeIdentity) :
    (∃ id later, builder.resolve catalog type = (.ok id, later) ∧ Constructible catalog type ∧
      ∀ tree, later.graph.Unfolds id tree ↔ Dictates catalog type tree) ∨
    ∃ error failed, builder.resolve catalog type = (.error error, failed) ∧
      Fails catalog [] type error := by
  have hspec := h.typeSpec type
  cases hresolve : builder.resolve catalog type with
  | mk result later =>
    rw [hresolve] at hspec
    cases result with
    | ok id =>
      obtain ⟨hvalid, hextends, hid, hconstructible⟩ := hspec
      have hlater := h.of_extends hvalid hextends
      exact Or.inl ⟨id, later, rfl, hconstructible, fun tree => hlater.unfolds_iff_dictates hid⟩
    | error error =>
      exact Or.inr ⟨error, later, rfl, h.waiting_eq ▸ hspec.2⟩

theorem Idle.sameOutcome {builder builder' : Builder} (h : builder.Idle catalog)
    (h' : builder'.Idle catalog) (type : TypeIdentity) :
    SameOutcome (builder.resolve catalog type) (builder'.resolve catalog type) := by
  rcases h.resolve_cases type with ⟨id, later, hrun, hok, htree⟩ | ⟨error, failed, hrun, hfails⟩
  · rcases h'.resolve_cases type with ⟨id', later', hrun', _, htree'⟩ | ⟨_, _, _, hfails'⟩
    · obtain ⟨tree, hunique⟩ := hok.exists_tree
      rw [hrun, hrun']
      exact ⟨tree, fun other => (htree other).trans (hunique other),
        fun other => (htree' other).trans (hunique other)⟩
    · exact absurd hok (hfails'.not_constructible (by simp))
  · rcases h'.resolve_cases type with ⟨_, _, _, hok', _⟩ | ⟨error', failed', hrun', hfails'⟩
    · exact absurd hok' (hfails.not_constructible (by simp))
    · rw [hrun, hrun']
      exact hfails.error_unique hfails' (by simp)

/-- What a builder has resolved before, and where it failed, makes no difference to what a type
resolves to. -/
theorem resolve_independent_of_history {κ : Type} [TypeCatalog κ] (catalog : κ)
    (earlier : List TypeIdentity) (type : TypeIdentity) :
    SameOutcome ((afterSession catalog earlier {}).resolve catalog type)
      (({} : Builder).resolve catalog type) :=
  ((idle_empty catalog).afterSession earlier).sameOutcome (idle_empty catalog) type

end History

end CompositionRoot.Builder
