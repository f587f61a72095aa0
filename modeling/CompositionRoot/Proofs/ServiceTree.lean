import CompositionRoot.Proofs.BuilderInvariant

/-! Trees of services. A graph shares the node of a type among all that depend on it; unfolding a
node takes the sharing away. Whatever else a graph holds, a finished node unfolds to the one tree
that the catalog dictates for its type. -/
namespace CompositionRoot

/-- A service together with the services that its constructor takes, in order. -/
inductive ServiceTree where
  | node (requested implementation : TypeIdentity) (lifetime : Lifetime)
      (dependencies : List ServiceTree)
deriving Repr

/-- The tree of a type in a catalog: what serves the type, how long it lives, and the trees of the
parameters of its constructor. -/
inductive Dictates {κ : Type} [TypeCatalog κ] (catalog : κ) :
    TypeIdentity → ServiceTree → Prop where
  | node {type : TypeIdentity} {requested entry : TypeInfo} {trees : List ServiceTree}
      (found : TypeCatalog.find? catalog type = some requested)
      (resolves : ResolvesTo catalog type entry)
      (parameters : List.Forall₂ (Dictates catalog) entry.parameters trees) :
      Dictates catalog type (.node type entry.identity (Lifetime.of requested) trees)

inductive ServiceGraph.Unfolds (graph : ServiceGraph) : NodeId → ServiceTree → Prop where
  | node {id : NodeId} {node : ServiceNode} {trees : List ServiceTree}
      (found : graph.node? id = some node)
      (dependencies : List.Forall₂ graph.Unfolds node.dependencies trees) :
      Unfolds graph id (.node node.requested node.implementation node.lifetime trees)

section Lists

variable {α β γ : Type}

/-- If every member has one counterpart, the list has one list of counterparts. -/
theorem exists_forall₂_iff_eq {R : α → β → Prop} {l : List α}
    (h : ∀ a ∈ l, ∃ b, ∀ other, R a other ↔ other = b) :
    ∃ bs, ∀ others, List.Forall₂ R l others ↔ others = bs := by
  induction l with
  | nil => exact ⟨[], fun others => List.forall₂_nil_left_iff⟩
  | cons a l ih =>
    obtain ⟨b, hb⟩ := h a List.mem_cons_self
    obtain ⟨bs, hbs⟩ := ih fun a hmem => h a (List.mem_cons_of_mem _ hmem)
    refine ⟨b :: bs, fun others => ?_⟩
    rw [List.forall₂_cons_left_iff]
    constructor
    · rintro ⟨other, rest, hother, hrest, rfl⟩
      rw [(hb other).mp hother, (hbs rest).mp hrest]
    · rintro rfl
      exact ⟨b, bs, (hb b).mpr rfl, (hbs bs).mpr rfl, rfl⟩

/-- Members that have the same counterparts may stand for each other. -/
theorem forall₂_iff_of_forall₂ {R : α → γ → Prop} {S : β → γ → Prop} {l : List α} {l' : List β}
    (h : List.Forall₂ (fun a b => ∀ c, R a c ↔ S b c) l l') (cs : List γ) :
    List.Forall₂ R l cs ↔ List.Forall₂ S l' cs := by
  induction h generalizing cs with
  | nil => rw [List.forall₂_nil_left_iff, List.forall₂_nil_left_iff]
  | cons hhead _ ih => simp only [List.forall₂_cons_left_iff, hhead, ih]

end Lists

variable {κ : Type} [TypeCatalog κ] {catalog : κ} {type : TypeIdentity} {tree : ServiceTree}

theorem dictates_iff {pair : TypeInfo × TypeInfo}
    (hserving : Builder.serving? catalog type = some pair) :
    Dictates catalog type tree ↔ ∃ trees,
      List.Forall₂ (Dictates catalog) pair.2.parameters trees ∧
        tree = .node type pair.2.identity (Lifetime.of pair.1) trees := by
  constructor
  · rintro ⟨found, resolves, parameters⟩
    obtain ⟨requested, hother⟩ := resolvesTo_iff.mp resolves
    obtain rfl := Option.some.inj (hserving.symm.trans hother)
    obtain ⟨hfound, _⟩ := Builder.serving?_eq_some_iff.mp hserving
    obtain rfl := Option.some.inj (found.symm.trans hfound)
    exact ⟨_, parameters, rfl⟩
  · rintro ⟨trees, parameters, rfl⟩
    obtain ⟨hfound, _⟩ := Builder.serving?_eq_some_iff.mp hserving
    exact .node hfound (resolvesTo_iff.mpr ⟨_, hserving⟩) parameters

/-- A type that can be constructed has exactly one tree. -/
theorem Constructible.exists_tree (h : Constructible catalog type) :
    ∃ tree, ∀ other, Dictates catalog type other ↔ other = tree := by
  induction h with
  | @intro type pair served _ ih =>
    obtain ⟨trees, htrees⟩ := exists_forall₂_iff_eq ih
    refine ⟨.node type pair.2.identity (Lifetime.of pair.1) trees, fun other => ?_⟩
    simp only [dictates_iff served, htrees, exists_eq_left]

theorem ServiceGraph.unfolds_iff {graph : ServiceGraph} {id : NodeId} {node : ServiceNode}
    (found : graph.node? id = some node) : graph.Unfolds id tree ↔ ∃ trees,
      List.Forall₂ graph.Unfolds node.dependencies trees ∧
        tree = .node node.requested node.implementation node.lifetime trees := by
  constructor
  · rintro ⟨other, dependencies⟩
    obtain rfl := Option.some.inj (found.symm.trans other)
    exact ⟨_, dependencies, rfl⟩
  · rintro ⟨trees, dependencies, rfl⟩
    exact .node found dependencies

namespace Builder.Idle

variable {builder : Builder}

theorem constructible_of_nodeId? (h : builder.Idle catalog) {id : NodeId}
    (hid : builder.graph.nodeId? type = some id) : Constructible catalog type := by
  obtain ⟨node, hnode, rfl⟩ := h.consistent.nodeId?_eq_some_iff.mp hid
  exact h.constructible_of_node? hnode

/-- The node of a type says of it what the catalog says, and depends on the nodes of its
parameters. -/
theorem exists_linked (h : builder.Idle catalog) {id : NodeId}
    (hid : builder.graph.nodeId? type = some id) : ∃ node pair,
      builder.graph.node? id = some node ∧ node.requested = type ∧
      serving? catalog type = some pair ∧ node.implementation = pair.2.identity ∧
      node.lifetime = Lifetime.of pair.1 ∧
      List.Forall₂ (fun parameter dependency => builder.graph.nodeId? parameter = some dependency)
        pair.2.parameters node.dependencies := by
  obtain ⟨node, hnode, rfl⟩ := h.consistent.nodeId?_eq_some_iff.mp hid
  obtain ⟨pair, hserves⟩ := h.served node (List.mem_of_getElem? hnode)
  have hlinked := h.linked id node pair hnode (h.notMem_inProgress id) hserves.serving
  exact ⟨node, pair, hnode, rfl, hserves.serving, hserves.implementation_eq, hserves.lifetime_eq,
    hlinked.flip⟩

/-- The node of a type unfolds to what the catalog dictates for the type. -/
theorem unfolds_iff_dictates (h : builder.Idle catalog) {id : NodeId}
    (hid : builder.graph.nodeId? type = some id) :
    builder.graph.Unfolds id tree ↔ Dictates catalog type tree := by
  have hconstructible := h.constructible_of_nodeId? hid
  induction hconstructible generalizing id tree with
  | @intro type pair served _ ih =>
    obtain ⟨node, other, hnode, htype, hother, himplementation, hlifetime, hlinked⟩ :=
      h.exists_linked hid
    obtain rfl := Option.some.inj (served.symm.trans hother)
    have hsame : List.Forall₂ (fun dependency parameter => ∀ tree,
        builder.graph.Unfolds dependency tree ↔ Dictates catalog parameter tree)
        node.dependencies pair.2.parameters := by
      refine (((List.forall₂_and_left _ _).mpr ⟨ih, hlinked⟩).imp ?_).flip
      rintro parameter dependency ⟨hparameter, hdependency⟩ tree
      exact hparameter hdependency
    simp only [ServiceGraph.unfolds_iff hnode, dictates_iff served,
      forall₂_iff_of_forall₂ hsame, htype, himplementation, hlifetime]

end Builder.Idle

end CompositionRoot
