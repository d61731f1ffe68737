/-
  Results that may be faults.

  * `categorized`: a result with the category of its fault.
  * `bind_eq_ok`: steps in a row that have a value.
-/
import NearestHost.Json.Reader

namespace NearestHost.Json

variable {ε α β : Type}

@[simp] theorem ok_bind (a : α) (f : α → Except ε β) : (Except.ok a >>= f) = f a := rfl

@[simp] theorem error_bind (e : ε) (f : α → Except ε β) : (Except.error e >>= f) = .error e := rfl

@[simp] theorem ok_map (a : α) (f : α → β) : (Except.ok a : Except ε α).map f = .ok (f a) := rfl

@[simp] theorem error_map (e : ε) (f : α → β) : (Except.error e : Except ε α).map f = .error e :=
  rfl

/-- A value of steps in a row comes from a value of each. -/
theorem bind_eq_ok {x : Except ε α} {f : α → Except ε β} {b : β} :
    x >>= f = .ok b ↔ ∃ a, x = .ok a ∧ f a = .ok b := by
  cases x <;> simp

theorem map_eq_ok {x : Except ε α} {f : α → β} {b : β} :
    x.map f = .ok b ↔ ∃ a, x = .ok a ∧ f a = b := by
  cases x <;> simp

/-- Something, or a fault of what the text says. -/
def orData {α : Type} : Option α → Except Fault α
  | some a => .ok a
  | none => .error .data

theorem orData_map (x : Option α) (f : α → β) : orData (x.map f) = (orData x).map f := by
  cases x <;> rfl

theorem orData_eq_ok {x : Option α} {a : α} : orData x = .ok a ↔ x = some a := by
  cases x <;> simp [orData]

theorem orGrammar_eq_ok {x : Option α} {a : α} : Reader.orGrammar x = .ok a ↔ x = some a := by
  cases x <;> simp [Reader.orGrammar]

/-- A result, with the category of its fault. -/
def categorized (x : Except Fault α) : Except Category α := x.mapError Fault.category

@[simp] theorem categorized_ok (a : α) : categorized (.ok a) = .ok a := rfl

@[simp] theorem categorized_error (f : Fault) :
    (categorized (.error f) : Except Category α) = .error f.category := rfl

@[simp] theorem categorized_bind (x : Except Fault α) (f : α → Except Fault β) :
    categorized (x >>= f) = categorized x >>= fun a => categorized (f a) := by
  cases x <;> rfl

theorem categorized_eq_ok {x : Except Fault α} {a : α} : categorized x = .ok a ↔ x = .ok a := by
  cases x <;> simp

end NearestHost.Json
