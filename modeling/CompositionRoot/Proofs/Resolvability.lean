import CompositionRoot.Proofs.BuilderInvariant

/-! Which requests can be resolved. Resolution succeeds exactly when every type that the requests
need, directly or not, is served by some entry and none of these types needs itself. -/
namespace CompositionRoot

open Relation

variable {κ : Type} [TypeCatalog κ]

def Reached (catalog : κ) (requests : List TypeIdentity) (type : TypeIdentity) : Prop :=
  ∃ request ∈ requests, ReflTransGen (Needs catalog) request type

theorem Reached.constructible {catalog : κ} {requests : List TypeIdentity} {type : TypeIdentity}
    (h : Reached catalog requests type)
    (hrequests : ∀ request ∈ requests, Constructible catalog request) :
    Constructible catalog type := by
  obtain ⟨request, hmem, hreach⟩ := h
  exact (hrequests request hmem).of_reaches hreach

theorem reached_of_unresolved {catalog : κ} {requests : List TypeIdentity}
    {request type : TypeIdentity} (hmem : request ∈ requests)
    (h : Fails catalog [] request (.unresolvedType type)) :
    Reached catalog requests type ∧ ¬ ∃ entry, ResolvesTo catalog type entry := by
  obtain ⟨hreach, hunserved⟩ := h.unresolved_spec
  exact ⟨⟨request, hmem, hreach⟩, fun hserved => exists_resolvesTo_iff.mp hserved hunserved⟩

theorem reached_of_cycle {catalog : κ} {requests : List TypeIdentity} {request : TypeIdentity}
    {chain : List TypeIdentity} (hmem : request ∈ requests)
    (h : Fails catalog [] request (.dependencyCycle chain)) :
    ∃ type, Reached catalog requests type ∧ TransGen (Needs catalog) type type := by
  obtain ⟨type, hreach, hcycle⟩ := h.cycle_spec (by simp)
  exact ⟨type, ⟨request, hmem, hreach⟩, hcycle⟩

theorem constructible_of_resolve {catalog : κ} {requests : List TypeIdentity} {graph : ServiceGraph}
    (h : ServiceGraph.resolve catalog requests = .ok graph) :
    ∀ request ∈ requests, Constructible catalog request := by
  obtain ⟨_, _, _, hrequests⟩ := exists_idle_of_resolve h
  exact hrequests

theorem fails_of_resolve {catalog : κ} {requests : List TypeIdentity} {error : GenerationError}
    (h : ServiceGraph.resolve catalog requests = .error error) :
    ∃ request ∈ requests, Fails catalog [] request error := by
  rcases resolve_cases catalog requests with ⟨_, _, hok, _⟩ | ⟨other, herror, hfails⟩
  · rw [h] at hok
    cases hok
  · rw [h] at herror
    cases herror
    exact hfails

/-- Resolution succeeds exactly when all that the requests reach is served and free of cycles. An
error names a reached type that nothing serves, or comes from a reached type that needs itself. -/
theorem resolve_succeeds_iff_reached_served_acyclic (catalog : κ) (requests : List TypeIdentity) :
    ((∃ graph, ServiceGraph.resolve catalog requests = .ok graph) ↔
      ∀ type, Reached catalog requests type →
        (∃ entry, ResolvesTo catalog type entry) ∧ ¬ TransGen (Needs catalog) type type) ∧
    (∀ type, ServiceGraph.resolve catalog requests = .error (.unresolvedType type) →
      Reached catalog requests type ∧ ¬ ∃ entry, ResolvesTo catalog type entry) ∧
    (∀ chain, ServiceGraph.resolve catalog requests = .error (.dependencyCycle chain) →
      ∃ type, Reached catalog requests type ∧ TransGen (Needs catalog) type type) ∧
    ∀ error, ServiceGraph.resolve catalog requests = .error error →
      (∃ type, error = .unresolvedType type) ∨ ∃ chain, error = .dependencyCycle chain := by
  refine ⟨⟨?_, fun hall => ?_⟩, fun type herror => ?_, fun chain herror => ?_,
    fun error herror => ?_⟩
  · rintro ⟨graph, hok⟩ type hreached
    have hconstructible := hreached.constructible (constructible_of_resolve hok)
    exact ⟨exists_resolvesTo_iff.mpr hconstructible.served, hconstructible.not_cyclic⟩
  · cases hresolve : ServiceGraph.resolve catalog requests with
    | ok graph => exact ⟨graph, rfl⟩
    | error error =>
      obtain ⟨request, hmem, hfails⟩ := fails_of_resolve hresolve
      rcases hfails.kind with ⟨type, rfl⟩ | ⟨chain, rfl⟩
      · obtain ⟨hreached, hunserved⟩ := reached_of_unresolved hmem hfails
        exact absurd (hall type hreached).1 hunserved
      · obtain ⟨type, hreached, hcycle⟩ := reached_of_cycle hmem hfails
        exact absurd hcycle (hall type hreached).2
  · obtain ⟨request, hmem, hfails⟩ := fails_of_resolve herror
    exact reached_of_unresolved hmem hfails
  · obtain ⟨request, hmem, hfails⟩ := fails_of_resolve herror
    exact reached_of_cycle hmem hfails
  · obtain ⟨request, hmem, hfails⟩ := fails_of_resolve herror
    exact hfails.kind

end CompositionRoot
