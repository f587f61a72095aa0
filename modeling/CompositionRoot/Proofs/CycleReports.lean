import CompositionRoot.Proofs.BuilderInvariant
import Mathlib.Data.List.Chain

/-! Reports of cycles. The types that wait for one another during a resolution are linked by needs
and all distinct. A report is their part from the repeated type on, so it shows one round of a
cycle, and none of its types can have a node between two resolutions. -/
namespace CompositionRoot

open Relation

/-- What follows the first occurrence of a member, that occurrence included. -/
theorem exists_dropWhile_ne_eq_cons {α : Type} [BEq α] [LawfulBEq α] {l : List α} {a : α}
    (h : a ∈ l) : ∃ rest, l.dropWhile (· != a) = a :: rest := by
  induction l with
  | nil => cases h
  | cons b l ih =>
    by_cases heq : b = a
    · subst heq
      exact ⟨l, by simp⟩
    · obtain ⟨rest, hrest⟩ := ih ((List.mem_cons.mp h).resolve_left (Ne.symm heq))
      exact ⟨rest, by simpa [heq] using hrest⟩

section Cycles

variable {κ : Type} [TypeCatalog κ] {catalog : κ}

/-- One round of a cycle of needs from `first` back to it, in which no other type is met twice. -/
structure SimpleCycle (catalog : κ) (first : TypeIdentity) (inner : List TypeIdentity) : Prop where
  nodup : (first :: inner).Nodup
  needs : (first :: inner ++ [first]).IsChain (Needs catalog)

/-- Each type of a cycle reaches the end of the round, and from there itself. -/
theorem SimpleCycle.needs_itself {first type : TypeIdentity} {inner : List TypeIdentity}
    (h : SimpleCycle catalog first inner) (hmem : type ∈ first :: inner ++ [first]) :
    TransGen (Needs catalog) type type := by
  have hpairs : (first :: inner ++ [first]).Pairwise (TransGen (Needs catalog)) :=
    (h.needs.imp fun _ _ hneeds => .single hneeds).pairwise
  have hclose : TransGen (Needs catalog) first first :=
    (List.pairwise_append.mp hpairs).2.2 first List.mem_cons_self first List.mem_cons_self
  rcases List.mem_append.mp hmem with hround | hend
  · have hback : TransGen (Needs catalog) type first :=
      (List.pairwise_append.mp hpairs).2.2 type hround first List.mem_cons_self
    rcases List.mem_cons.mp hround with rfl | hinner
    · exact hclose
    · have hthere : TransGen (Needs catalog) first type :=
        (List.pairwise_cons.mp hpairs).1 type (List.mem_append_left _ hinner)
      exact hback.trans hthere
  · rw [List.mem_singleton.mp hend]
    exact hclose

/-- The search appends each type to those that wait, so these are linked and distinct; the report
drops those before the repeated one. -/
theorem Fails.exists_simpleCycle {waiting chain : List TypeIdentity} {type origin : TypeIdentity}
    (h : Fails catalog waiting type (.dependencyCycle chain))
    (hlinked : (waiting ++ [type]).IsChain (Needs catalog)) (hdistinct : waiting.Nodup)
    (hreach : ∀ outer ∈ waiting ++ [type], ReflTransGen (Needs catalog) origin outer) :
    ∃ first inner, chain = first :: inner ++ [first] ∧ SimpleCycle catalog first inner ∧
      ReflTransGen (Needs catalog) origin first := by
  generalize herror : GenerationError.dependencyCycle chain = error at h
  -- the three hypotheses on the types that wait are what each step of the search keeps
  induction h with
  | @cycle waiting type waits =>
    obtain ⟨inner, hround⟩ := exists_dropWhile_ne_eq_cons waits
    obtain ⟨outside, hwaiting⟩ := List.dropWhile_suffix (l := waiting) (· != type)
    rw [hround] at hwaiting
    rw [← hwaiting, List.append_assoc] at hlinked
    rw [← hwaiting] at hdistinct
    have hcycle : SimpleCycle catalog type inner :=
      ⟨(List.nodup_append.mp hdistinct).2.1, hlinked.right_of_append⟩
    refine ⟨type, inner, ?_, hcycle, hreach type (by simp)⟩
    rw [GenerationError.dependencyCycle.inj herror, hround]
  | unresolved => cases herror
  | @parameter waiting type parameter _ _ _ _ new served split _ _ ih =>
    have hstep : Needs catalog type parameter := needs_of_split served split
    refine ih ?_ ?_ ?_ herror
    · refine hlinked.append (List.isChain_singleton parameter) ?_
      simpa using hstep
    · exact List.nodup_append'.mpr ⟨hdistinct, List.nodup_singleton type,
        List.disjoint_singleton.mpr new⟩
    · intro outer hmem
      rcases List.mem_append.mp hmem with hmem | hmem
      · exact hreach outer hmem
      · rw [List.mem_singleton.mp hmem]
        exact (hreach type (by simp)).tail hstep

end Cycles

namespace Builder

section Reports

variable {κ : Type} [TypeCatalog κ] {catalog : κ} {builder failed : Builder} {type : TypeIdentity}
  {chain : List TypeIdentity}

theorem Idle.exists_simpleCycle (h : builder.Idle catalog)
    (hresolve : builder.resolve catalog type = (.error (.dependencyCycle chain), failed)) :
    ∃ first inner, chain = first :: inner ++ [first] ∧ SimpleCycle catalog first inner ∧
      ReflTransGen (Needs catalog) type first := by
  have hspec := h.typeSpec type
  rw [hresolve, TypeSpec, h.waiting_eq] at hspec
  apply hspec.2.exists_simpleCycle
  · exact List.isChain_singleton type
  · exact List.nodup_nil
  · intro outer hmem
    rw [List.mem_singleton.mp hmem]

/-- A finished node can be constructed, which no type of a cycle can. -/
theorem Idle.not_mem_cycle (h : builder.Idle catalog) {first : TypeIdentity}
    {inner : List TypeIdentity} (hcycle : SimpleCycle catalog first inner) {node : ServiceNode}
    (hnode : node ∈ builder.graph.nodes) : node.requested ∉ first :: inner ++ [first] := by
  intro hmem
  obtain ⟨id, found⟩ := List.mem_iff_getElem?.mp hnode
  exact (h.constructible_of_node? found).not_cyclic (hcycle.needs_itself hmem)

theorem Idle.nodeId?_eq_none_of_mem_cycle (h : builder.Idle catalog) {first type : TypeIdentity}
    {inner : List TypeIdentity} (hcycle : SimpleCycle catalog first inner)
    (hmem : type ∈ first :: inner ++ [first]) : builder.graph.nodeId? type = none := by
  rw [h.consistent.nodeId?_eq_none_iff]
  intro hrequested
  obtain ⟨node, hnode, rfl⟩ := List.mem_map.mp hrequested
  exact h.not_mem_cycle hcycle hnode hmem

end Reports

/-- A cycle that is reported after any session exists in the catalog: each type of the chain needs
the next, the chain closes and has no other repetition, it begins with a type that the requested one
reaches, and none of its types has a node or a memo entry. -/
theorem reported_cycle_is_simple {κ : Type} [TypeCatalog κ] (catalog : κ)
    (earlier : List TypeIdentity) (type : TypeIdentity) (chain : List TypeIdentity)
    (failed : Builder)
    (h : (afterSession catalog earlier {}).resolve catalog type =
      (.error (.dependencyCycle chain), failed)) :
    2 ≤ chain.length ∧ chain.head? = chain.getLast? ∧ chain.dropLast.Nodup ∧
    chain.IsChain (Needs catalog) ∧
    (∃ first, chain.head? = some first ∧ ReflTransGen (Needs catalog) type first) ∧
    (∀ node ∈ failed.graph.nodes, node.requested ∉ chain) ∧
    (∀ member ∈ chain, failed.graph.nodeId? member = none) := by
  have hidle : (afterSession catalog earlier {}).Idle catalog :=
    (idle_empty catalog).afterSession earlier
  obtain ⟨first, inner, rfl, hcycle, hreach⟩ := hidle.exists_simpleCycle h
  have hunchanged : failed = afterSession catalog earlier {} := hidle.eq_of_error h
  rw [hunchanged]
  refine ⟨by simp, ?_, ?_, hcycle.needs, ⟨first, rfl, hreach⟩, ?_, ?_⟩
  · rw [List.getLast?_concat]
    rfl
  · rw [List.dropLast_concat]
    exact hcycle.nodup
  · intro node hnode
    exact hidle.not_mem_cycle hcycle hnode
  · intro member hmem
    exact hidle.nodeId?_eq_none_of_mem_cycle hcycle hmem

/-- An application whose cache and store need each other, the store as an abstract type. -/
def cacheCatalog : List TypeInfo :=
  [{ identity := ⟨"Log"⟩ },
    { identity := ⟨"App"⟩, constructors := [{ parameters := [⟨"Log"⟩, ⟨"Cache"⟩] }] },
    { identity := ⟨"Cache"⟩, constructors := [{ parameters := [⟨"Log"⟩, ⟨"Store"⟩] }] },
    { identity := ⟨"Store"⟩, isAbstract := true },
    { identity := ⟨"FileStore"⟩, capabilities := [⟨"Store"⟩],
      constructors := [{ parameters := [⟨"Cache"⟩] }] }]

theorem cache_cycle_is_simple :
    let builder := afterSession cacheCatalog [⟨"Log"⟩, ⟨"Store"⟩] {}
    let chain : List TypeIdentity := [⟨"Cache"⟩, ⟨"Store"⟩, ⟨"Cache"⟩]
    builder.graph.size = 1 ∧
    builder.resolve cacheCatalog ⟨"App"⟩ = (.error (.dependencyCycle chain), builder) ∧
    2 ≤ chain.length ∧ chain.head? = chain.getLast? ∧ chain.dropLast.Nodup ∧
    chain.IsChain (Needs cacheCatalog) ∧
    (∃ first, chain.head? = some first ∧ ReflTransGen (Needs cacheCatalog) ⟨"App"⟩ first) ∧
    (∀ node ∈ builder.graph.nodes, node.requested ∉ chain) ∧
    (∀ member ∈ chain, builder.graph.nodeId? member = none) := by
  intro builder chain
  have hsize : builder.graph.size = 1 := by decide +kernel
  have hresolve : builder.resolve cacheCatalog ⟨"App"⟩ =
      (.error (.dependencyCycle chain), builder) := by
    decide +kernel
  exact ⟨hsize, hresolve, reported_cycle_is_simple cacheCatalog [⟨"Log"⟩, ⟨"Store"⟩] ⟨"App"⟩ chain
    builder hresolve⟩

end Builder

end CompositionRoot
