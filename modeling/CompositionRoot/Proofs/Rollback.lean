import CompositionRoot.Proofs.BuilderInvariant

/-! Failed resolutions. Each leaves the builder as it found it, so a session goes as if only the
resolutions that succeed had been asked for. -/
namespace CompositionRoot.Builder

variable {κ : Type} [TypeCatalog κ]

def succeeding (catalog : κ) (types : List TypeIdentity) (builder : Builder) :
    List TypeIdentity :=
  ((types.zip (session catalog types builder)).filter (·.2.1.isOk)).map (·.1)

theorem succeeding_cons_of_ok {catalog : κ} {type : TypeIdentity} {builder resolved : Builder}
    {id : NodeId} (h : builder.resolve catalog type = (.ok id, resolved))
    (types : List TypeIdentity) : succeeding catalog (type :: types) builder =
      type :: succeeding catalog types resolved := by
  simp [succeeding, session, h, Except.isOk, Except.toBool]

theorem succeeding_cons_of_error {catalog : κ} {type : TypeIdentity} {builder failed : Builder}
    {error : GenerationError} (h : builder.resolve catalog type = (.error error, failed))
    (types : List TypeIdentity) : succeeding catalog (type :: types) builder =
      succeeding catalog types failed := by
  simp [succeeding, session, h, Except.isOk, Except.toBool]

/-- Dropping the resolutions that fail keeps the outcomes of the others. -/
theorem session_succeeding {catalog : κ} {builder : Builder} (h : builder.Idle catalog)
    (types : List TypeIdentity) : session catalog (succeeding catalog types builder) builder =
      (session catalog types builder).filter (·.1.isOk) := by
  induction types generalizing builder with
  | nil => rfl
  | cons type types ih =>
    have hidle := h.resolve type
    cases hresolve : builder.resolve catalog type with
    | mk result later =>
      rw [hresolve] at hidle
      cases result with
      | ok id =>
        rw [succeeding_cons_of_ok hresolve, session, session, hresolve, ih hidle]
        rfl
      | error error =>
        obtain rfl := h.eq_of_error hresolve
        rw [succeeding_cons_of_error hresolve, session, hresolve, ih h]
        rfl

/-- Dropping the resolutions that fail keeps the state at the end. -/
theorem afterSession_succeeding {catalog : κ} {builder : Builder} (h : builder.Idle catalog)
    (types : List TypeIdentity) : afterSession catalog (succeeding catalog types builder) builder =
      afterSession catalog types builder := by
  induction types generalizing builder with
  | nil => rfl
  | cons type types ih =>
    have hidle := h.resolve type
    cases hresolve : builder.resolve catalog type with
    | mk result later =>
      rw [hresolve] at hidle
      have hstep : ∀ types, afterSession catalog (type :: types) builder =
          afterSession catalog types later := by
        intro types
        rw [afterSession, List.foldl_cons, hresolve]
        rfl
      cases result with
      | ok id => rw [succeeding_cons_of_ok hresolve, hstep, hstep, ih hidle]
      | error error =>
        obtain rfl := h.eq_of_error hresolve
        rw [succeeding_cons_of_error hresolve, hstep, ih h]

/-- In a session from the start, a resolution that fails changes nothing, and without the failing
ones the others have the same outcomes and lead to the same state. -/
theorem failed_resolutions_leave_no_trace (catalog : κ) :
    (∀ earlier type error failed,
      (afterSession catalog earlier {}).resolve catalog type = (.error error, failed) →
        failed = afterSession catalog earlier {}) ∧
    ∀ types, session catalog (succeeding catalog types {}) {} =
        (session catalog types {}).filter (·.1.isOk) ∧
      afterSession catalog (succeeding catalog types {}) {} = afterSession catalog types {} := by
  have hidle := idle_empty catalog
  refine ⟨fun earlier type error failed h => ?_, fun types => ?_⟩
  · exact (hidle.afterSession earlier).eq_of_error h
  · exact ⟨session_succeeding hidle types, afterSession_succeeding hidle types⟩

end CompositionRoot.Builder
