import CompositionRoot.Proofs.GraphConsistency
import CompositionRoot.Proofs.ServiceTree
import CompositionRoot.ServicesClass.Basic
import Mathlib.Logic.Function.Iterate

/-! Expansion of expressions. In place of a field stands its initial value, in which there may be
fields again; replacing them round after round ends where no field is left. -/
namespace CompositionRoot

/-- The constructor calls that create a service and all that it is built from. -/
def ServiceTree.creation : ServiceTree → Expression
  | .node _ implementation _ dependencies => .create implementation (dependencies.map creation)

def initializer? (fields : List Field) (name : String) : Option Expression :=
  (fields.map fun field => (field.name, field.initializer)).lookup name

theorem initializer?_of_mem {fields : List Field} (hnodup : (fields.map Field.name).Nodup)
    {field : Field} (hmem : field ∈ fields) :
    initializer? fields field.name = some field.initializer := by
  have hkeys : ((fields.map fun field => (field.name, field.initializer)).map Prod.fst).Nodup := by
    rw [List.map_map]
    exact hnodup
  exact (lookup_eq_some_iff_mem hkeys _ _).mpr (List.mem_map_of_mem hmem)

namespace Expression

def references : Expression → List String
  | .field name => [name]
  | .create _ arguments => arguments.flatMap references

/-- Puts the initial value of its field in place of each field. -/
def substitute (fields : List Field) : Expression → Expression
  | .field name => (initializer? fields name).getD (.field name)
  | .create implementation arguments => .create implementation (arguments.map (substitute fields))

/-- Replacing fields by their initial values, again and again, ends with `result`. -/
def ExpandsTo (fields : List Field) (value result : Expression) : Prop :=
  ∃ enough, ∀ rounds ≥ enough, (substitute fields)^[rounds] value = result

variable {fields : List Field}

/-- Replacement goes on in the arguments of a constructor call, and the call stays. -/
theorem iterate_substitute_create (rounds : Nat) (implementation : TypeIdentity)
    (arguments : List Expression) :
    (substitute fields)^[rounds] (.create implementation arguments) =
      .create implementation (arguments.map (substitute fields)^[rounds]) := by
  induction rounds with
  | zero => simp
  | succ rounds ih =>
    rw [Function.iterate_succ_apply', ih, substitute, List.map_map, Function.iterate_succ']

theorem exists_rounds {arguments results : List Expression}
    (h : List.Forall₂ (ExpandsTo fields) arguments results) :
    ∃ enough, ∀ rounds ≥ enough, arguments.map (substitute fields)^[rounds] = results := by
  induction h with
  | nil => exact ⟨0, fun _ _ => rfl⟩
  | cons hargument _ ih =>
    obtain ⟨first, hfirst⟩ := hargument
    obtain ⟨others, hothers⟩ := ih
    refine ⟨max first others, fun rounds hrounds => ?_⟩
    rw [List.map_cons, hfirst rounds (by omega), hothers rounds (by omega)]

namespace ExpandsTo

theorem create {arguments results : List Expression}
    (h : List.Forall₂ (ExpandsTo fields) arguments results) (implementation : TypeIdentity) :
    ExpandsTo fields (.create implementation arguments) (.create implementation results) := by
  obtain ⟨enough, hrounds⟩ := exists_rounds h
  refine ⟨enough, fun rounds hle => ?_⟩
  rw [iterate_substitute_create, hrounds rounds hle]

theorem field {name : String} {initializer result : Expression}
    (hfield : initializer? fields name = some initializer)
    (h : ExpandsTo fields initializer result) : ExpandsTo fields (.field name) result := by
  obtain ⟨enough, hrounds⟩ := h
  -- The field takes one round more than its initial value.
  refine ⟨enough + 1, fun rounds hle => ?_⟩
  obtain ⟨before, rfl⟩ : ∃ before, rounds = before + 1 := ⟨rounds - 1, by omega⟩
  rw [Function.iterate_succ_apply, substitute, hfield, Option.getD_some]
  exact hrounds before (by omega)

end ExpandsTo

end Expression

end CompositionRoot
