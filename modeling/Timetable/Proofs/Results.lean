import Mathlib
/-!
# Results of steps that may fail

A step that may fail gives a value or an error. A sequence of steps succeeds if all of them do,
and what is done to the value of a step keeps its error, and the other way round.
-/

namespace Timetable

variable {ε ε' α β : Type} {x : Except ε α}

theorem bind_eq_ok_iff {f : α → Except ε β} {b : β} :
    x >>= f = .ok b ↔ ∃ a, x = .ok a ∧ f a = .ok b := by
  cases x with
  | error error => simp [bind, Except.bind]
  | ok a => simp [bind, Except.bind]

theorem map_eq_ok_iff {f : α → β} {b : β} : x.map f = .ok b ↔ ∃ a, x = .ok a ∧ f a = b := by
  cases x with
  | error error => simp [Except.map]
  | ok a => simp [Except.map]

theorem map_eq_error_iff {f : α → β} {error : ε} :
    x.map f = .error error ↔ x = .error error := by
  cases x with
  | error error => simp [Except.map]
  | ok a => simp [Except.map]

theorem mapError_eq_ok_iff {f : ε → ε'} {a : α} : x.mapError f = .ok a ↔ x = .ok a := by
  cases x with
  | error error => simp [Except.mapError]
  | ok a => simp [Except.mapError]

theorem mapError_eq_error_iff {f : ε → ε'} {error : ε'} :
    x.mapError f = .error error ↔ ∃ cause, x = .error cause ∧ f cause = error := by
  cases x with
  | error error => simp [Except.mapError]
  | ok a => simp [Except.mapError]

theorem map_mapError (f : ε → ε') (g : α → β) :
    (x.mapError f).map g = (x.map g).mapError f := by
  cases x with
  | error error => rfl
  | ok a => rfl

end Timetable
