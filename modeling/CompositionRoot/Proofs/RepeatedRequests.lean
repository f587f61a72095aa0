import CompositionRoot.Proofs.ReachedServices
import CompositionRoot.Synthesis

/-! Requests for types that have nodes already. Such a request finds the node and changes nothing,
so it may be left out wherever it stands, together with all others of the kind. -/
namespace CompositionRoot

variable {κ : Type} [TypeCatalog κ] {catalog : κ}

namespace Builder

theorem resolveAll_append (catalog : κ) (types more : List TypeIdentity) (builder : Builder) :
    resolveAll catalog (types ++ more) builder =
      (resolveAll catalog types builder).bind (resolveAll catalog more) := by
  induction types generalizing builder with
  | nil => rfl
  | cons type types ih =>
    rw [List.cons_append, resolveAll, resolveAll]
    obtain ⟨result, resolved⟩ := builder.resolve catalog type
    cases result with
    | error error => rfl
    | ok id => exact ih resolved

theorem Idle.resolveAll {types : List TypeIdentity} {builder later : Builder}
    (h : builder.Idle catalog) (hrun : resolveAll catalog types builder = .ok later) :
    later.Idle catalog := by
  induction types generalizing builder with
  | nil =>
    cases hrun
    exact h
  | cons type types ih =>
    have hidle := h.resolve type
    rw [Builder.resolveAll] at hrun
    cases hresolve : builder.resolve catalog type with
    | mk result resolved =>
      rw [hresolve] at hrun hidle
      cases result with
      | error error => cases hrun
      | ok id => exact ih hidle hrun

/-- With nothing in progress, a type that has a node is found at once. -/
theorem Idle.resolveAll_cons_of_mem {builder : Builder} (h : builder.Idle catalog)
    {type : TypeIdentity} (hmem : type ∈ builder.graph.nodes.map (·.requested))
    (types : List TypeIdentity) :
    Builder.resolveAll catalog (type :: types) builder =
      Builder.resolveAll catalog types builder := by
  obtain ⟨id, hid⟩ := h.consistent.mem_requested_iff.mp hmem
  rw [Builder.resolveAll, resolve_of_finished hid (h.notMem_inProgress id)]

end Builder

theorem resolve_append_of_ok {earlier : List TypeIdentity} {builder : Builder}
    (h : Builder.resolveAll catalog earlier {} = .ok builder) (later : List TypeIdentity) :
    ServiceGraph.resolve catalog (earlier ++ later) =
      (Builder.resolveAll catalog later builder).map Builder.graph := by
  rw [ServiceGraph.resolve, Builder.resolveAll_append, h]
  rfl

theorem resolve_append_of_error {earlier : List TypeIdentity} {error : GenerationError}
    (h : Builder.resolveAll catalog earlier {} = .error error) (later : List TypeIdentity) :
    ServiceGraph.resolve catalog (earlier ++ later) = .error error := by
  rw [ServiceGraph.resolve, Builder.resolveAll_append, h]
  rfl

theorem resolve_insert_of_mem_requested {earlier later : List TypeIdentity} {type : TypeIdentity}
    {graph : ServiceGraph} (h : ServiceGraph.resolve catalog earlier = .ok graph)
    (hmem : type ∈ graph.nodes.map (·.requested)) :
    ServiceGraph.resolve catalog (earlier ++ type :: later) =
      ServiceGraph.resolve catalog (earlier ++ later) := by
  rw [ServiceGraph.resolve] at h
  cases hrun : Builder.resolveAll catalog earlier {} with
  | error error =>
    rw [hrun] at h
    cases h
  | ok builder =>
    rw [hrun] at h
    cases h
    have hidle : builder.Idle catalog := (Builder.idle_empty catalog).resolveAll hrun
    rw [resolve_append_of_ok hrun, resolve_append_of_ok hrun, hidle.resolveAll_cons_of_mem hmem]

/-- After a failed request nothing is resolved, so there a request more makes no difference
either. -/
theorem resolve_insert_of_reached {earlier later : List TypeIdentity} {type : TypeIdentity}
    (h : Reached catalog earlier type) :
    ServiceGraph.resolve catalog (earlier ++ type :: later) =
      ServiceGraph.resolve catalog (earlier ++ later) := by
  cases hrun : Builder.resolveAll catalog earlier {} with
  | error error => rw [resolve_append_of_error hrun, resolve_append_of_error hrun]
  | ok builder =>
    have hresolve : ServiceGraph.resolve catalog earlier = .ok builder.graph := by
      rw [ServiceGraph.resolve, hrun]
      rfl
    exact resolve_insert_of_mem_requested hresolve ((mem_requested_iff_reached hresolve).mpr h)

/-- `longer` asks for what `requests` does and, anywhere in between, for types that those before
them asked for or pulled in as dependencies. -/
inductive Repeats (catalog : κ) (requests : List TypeIdentity) : List TypeIdentity → Prop where
  | refl : Repeats catalog requests requests
  | insert {earlier later : List TypeIdentity} {type : TypeIdentity}
      (repeats : Repeats catalog requests (earlier ++ later))
      (reached : Reached catalog earlier type) :
      Repeats catalog requests (earlier ++ type :: later)

theorem Repeats.resolve_eq {requests longer : List TypeIdentity}
    (h : Repeats catalog requests longer) :
    ServiceGraph.resolve catalog longer = ServiceGraph.resolve catalog requests := by
  induction h with
  | refl => rfl
  | insert _ reached ih => rw [resolve_insert_of_reached reached, ih]

/-- A request for a type that has a node by then has no effect, and neither have any number of
requests for types that were requested or pulled in before them. -/
theorem repeated_requests_have_no_effect {κ : Type} [TypeCatalog κ] (catalog : κ) :
    (∀ earlier later type graph, ServiceGraph.resolve catalog earlier = .ok graph →
      (∃ node ∈ graph.nodes, node.requested = type) →
        ServiceGraph.resolve catalog (earlier ++ [type] ++ later) =
          ServiceGraph.resolve catalog (earlier ++ later)) ∧
    ∀ requests longer, Repeats catalog requests longer →
      ServiceGraph.resolve catalog longer = ServiceGraph.resolve catalog requests ∧
      ∀ ordering names, synthesize catalog ordering names longer =
        synthesize catalog ordering names requests := by
  constructor
  · intro earlier later type graph hresolve hnode
    rw [List.append_assoc, List.singleton_append]
    exact resolve_insert_of_mem_requested hresolve (List.mem_map.mpr hnode)
  · intro requests longer hrepeats
    refine ⟨hrepeats.resolve_eq, fun ordering names => ?_⟩
    rw [synthesize, synthesize, hrepeats.resolve_eq]

theorem clock_requested_again :
    ServiceGraph.resolve twoLogsCatalog [⟨"App.Log"⟩, ⟨"Lib.Log"⟩] = .ok appLogFirst ∧
    (∃ node ∈ appLogFirst.nodes, node.requested = ⟨"IClock"⟩) ∧
    ServiceGraph.resolve twoLogsCatalog [⟨"App.Log"⟩, ⟨"Lib.Log"⟩, ⟨"IClock"⟩, ⟨"Missing"⟩] =
      ServiceGraph.resolve twoLogsCatalog [⟨"App.Log"⟩, ⟨"Lib.Log"⟩, ⟨"Missing"⟩] ∧
    Repeats twoLogsCatalog [⟨"App.Log"⟩, ⟨"Lib.Log"⟩]
      [⟨"App.Log"⟩, ⟨"Lib.Log"⟩, ⟨"IClock"⟩, ⟨"App.Log"⟩] ∧
    ∀ ordering names,
      synthesize twoLogsCatalog ordering names
          [⟨"App.Log"⟩, ⟨"Lib.Log"⟩, ⟨"IClock"⟩, ⟨"App.Log"⟩] =
        synthesize twoLogsCatalog ordering names [⟨"App.Log"⟩, ⟨"Lib.Log"⟩] := by
  obtain ⟨hinsert, hrepeats⟩ := repeated_requests_have_no_effect twoLogsCatalog
  have hclock : ∃ node ∈ appLogFirst.nodes, node.requested = ⟨"IClock"⟩ := by decide
  have hreached : Reached twoLogsCatalog [⟨"App.Log"⟩, ⟨"Lib.Log"⟩] ⟨"IClock"⟩ :=
    (mem_requested_iff_reached resolve_appLogFirst).mp (List.mem_map.mpr hclock)
  have hagain : Repeats twoLogsCatalog [⟨"App.Log"⟩, ⟨"Lib.Log"⟩]
      [⟨"App.Log"⟩, ⟨"Lib.Log"⟩, ⟨"IClock"⟩] := .insert .refl hreached
  have hrequested : Reached twoLogsCatalog [⟨"App.Log"⟩, ⟨"Lib.Log"⟩, ⟨"IClock"⟩] ⟨"App.Log"⟩ :=
    ⟨_, List.mem_cons_self, .refl⟩
  have htwice : Repeats twoLogsCatalog [⟨"App.Log"⟩, ⟨"Lib.Log"⟩]
      [⟨"App.Log"⟩, ⟨"Lib.Log"⟩, ⟨"IClock"⟩, ⟨"App.Log"⟩] := .insert hagain hrequested
  exact ⟨resolve_appLogFirst, hclock, hinsert _ [⟨"Missing"⟩] _ _ resolve_appLogFirst hclock,
    htwice, (hrepeats _ _ htwice).2⟩

end CompositionRoot
