import CompositionRoot.Proofs.BuilderInvariant

/-! Dependencies between the nodes of a graph. Resolution leaves a graph in which every dependency
is a node and no node depends on itself, so the number of nodes below a node is a rank. -/
namespace CompositionRoot

open Relation

theorem exists_mem_of_forall₂ {α β : Type} {R : α → β → Prop} {l : List α} {l' : List β}
    (h : List.Forall₂ R l l') {a : α} (hmem : a ∈ l) : ∃ b ∈ l', R a b := by
  induction h with
  | nil => cases hmem
  | cons hhead _ ih =>
    rcases List.mem_cons.mp hmem with rfl | hmem
    · exact ⟨_, List.mem_cons_self, hhead⟩
    · obtain ⟨b, hb, hab⟩ := ih hmem
      exact ⟨b, List.mem_cons_of_mem _ hb, hab⟩

namespace ServiceGraph

def DependsOn (graph : ServiceGraph) (id dependency : NodeId) : Prop :=
  ∃ node, graph.node? id = some node ∧ dependency ∈ node.dependencies

structure WellFormed (graph : ServiceGraph) : Prop where
  dependency_lt : ∀ {id dependency}, graph.DependsOn id dependency → dependency < graph.size
  not_cyclic : ∀ id, ¬ TransGen graph.DependsOn id id

open Classical in
/-- The number of nodes on which a node depends, directly or through others. -/
noncomputable def rank (graph : ServiceGraph) (id : NodeId) : Nat :=
  graph.nodeIds.countP fun other => TransGen graph.DependsOn id other

namespace WellFormed

variable {graph : ServiceGraph}

/-- A node depends on all that its dependencies depend on, and on them besides. -/
theorem rank_lt (h : graph.WellFormed) {id dependency : NodeId}
    (hdepends : graph.DependsOn id dependency) : graph.rank dependency < graph.rank id := by
  classical
  refine countP_lt_countP (a := dependency) (fun other hother => ?_)
    (mem_nodeIds.mpr (h.dependency_lt hdepends)) ?_ ?_
  · exact decide_eq_true (.head hdepends (of_decide_eq_true hother))
  · exact decide_eq_true (.single hdepends)
  · intro hself
    exact h.not_cyclic dependency (of_decide_eq_true hself)

/-- A dependency is a node of smaller rank. -/
theorem exists_dependency (h : graph.WellFormed) {id dependency : NodeId} {node : ServiceNode}
    (found : graph.node? id = some node) (hmem : dependency ∈ node.dependencies) :
    ∃ target, graph.node? dependency = some target ∧ graph.rank dependency < graph.rank id := by
  have hdepends : graph.DependsOn id dependency := ⟨node, found, hmem⟩
  obtain ⟨target, htarget⟩ := exists_node?_of_lt (h.dependency_lt hdepends)
  exact ⟨target, htarget, h.rank_lt hdepends⟩

theorem rank_lt_of_transGen (h : graph.WellFormed) {id other : NodeId}
    (hdepends : TransGen graph.DependsOn id other) : graph.rank other < graph.rank id := by
  induction hdepends with
  | single hstep => exact h.rank_lt hstep
  | tail _ hstep ih => exact Nat.lt_trans (h.rank_lt hstep) ih

/-- A node is none of those on which it depends, so its rank stays below the number of nodes. -/
theorem rank_lt_size (h : graph.WellFormed) {id : NodeId} (hlt : id < graph.size) :
    graph.rank id < graph.size := by
  classical
  have hcount := countP_lt_countP (p := fun other => decide (TransGen graph.DependsOn id other))
    (q := fun _ => true) (fun _ _ => rfl) (mem_nodeIds.mpr hlt) rfl
    (fun hself => h.not_cyclic id (of_decide_eq_true hself))
  rw [List.countP_true, length_nodeIds] at hcount
  exact hcount

end WellFormed

end ServiceGraph

namespace Builder.Idle

variable {κ : Type} [TypeCatalog κ] {catalog : κ} {builder : Builder}

theorem exists_needs (h : builder.Idle catalog) {id dependency : NodeId} {node : ServiceNode}
    (hnode : builder.graph.node? id = some node) (hmem : dependency ∈ node.dependencies) :
    ∃ target, builder.graph.node? dependency = some target ∧
      Needs catalog node.requested target.requested := by
  obtain ⟨pair, hserves⟩ := h.served node (List.mem_of_getElem? hnode)
  have hlinked := h.linked id node pair hnode (h.notMem_inProgress id) hserves.serving
  obtain ⟨parameter, hparameter, hid⟩ := exists_mem_of_forall₂ hlinked hmem
  obtain ⟨target, htarget, rfl⟩ := h.consistent.nodeId?_eq_some_iff.mp hid
  exact ⟨target, htarget, needs_iff.mpr ⟨pair, hserves.serving, hparameter⟩⟩

theorem transGen_needs (h : builder.Idle catalog) {id other : NodeId} {node : ServiceNode}
    (hnode : builder.graph.node? id = some node)
    (hdepends : TransGen builder.graph.DependsOn id other) :
    ∃ target, builder.graph.node? other = some target ∧
      TransGen (Needs catalog) node.requested target.requested := by
  induction hdepends with
  | single hstep =>
    obtain ⟨first, hfirst, hmem⟩ := hstep
    obtain rfl := Option.some.inj (hnode.symm.trans hfirst)
    obtain ⟨target, htarget, hneeds⟩ := h.exists_needs hnode hmem
    exact ⟨target, htarget, .single hneeds⟩
  | tail _ hstep ih =>
    obtain ⟨middle, hmiddle, hneeds⟩ := ih
    obtain ⟨last, hlast, hmem⟩ := hstep
    obtain rfl := Option.some.inj (hmiddle.symm.trans hlast)
    obtain ⟨target, htarget, hlastNeeds⟩ := h.exists_needs hmiddle hmem
    exact ⟨target, htarget, .tail hneeds hlastNeeds⟩

/-- Dependencies follow the needs of the types, which are free of cycles. -/
theorem wellFormed (h : builder.Idle catalog) : builder.graph.WellFormed where
  dependency_lt := by
    rintro id dependency ⟨node, hnode, hmem⟩
    obtain ⟨target, htarget, _⟩ := h.exists_needs hnode hmem
    exact ServiceGraph.lt_size_of_node? htarget
  not_cyclic := by
    intro id hcycle
    obtain ⟨node, hnode, _⟩ := (TransGen.head'_iff.mp hcycle).choose_spec.1
    obtain ⟨target, htarget, hneeds⟩ := h.transGen_needs hnode hcycle
    obtain rfl := Option.some.inj (hnode.symm.trans htarget)
    exact (h.constructible_of_node? hnode).not_cyclic hneeds

end Builder.Idle

theorem wellFormed_afterSession {κ : Type} [TypeCatalog κ] (catalog : κ)
    (types : List TypeIdentity) : (Builder.afterSession catalog types {}).graph.WellFormed :=
  ((Builder.idle_empty catalog).afterSession types).wellFormed

theorem wellFormed_of_resolve {κ : Type} [TypeCatalog κ] {catalog : κ}
    {requests : List TypeIdentity} {graph : ServiceGraph}
    (h : ServiceGraph.resolve catalog requests = .ok graph) : graph.WellFormed := by
  obtain ⟨builder, hidle, rfl, _⟩ := exists_idle_of_resolve h
  exact hidle.wellFormed

end CompositionRoot
