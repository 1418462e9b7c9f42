import Mathlib.Logic.Basic

/-!
# Steps that may fail

A computation that stops at its first fault is a chain of steps. What the chain yields is told from
what its steps yield.
-/

namespace HubRoutes

variable {ε α β : Type}

@[simp] theorem ok_bind (value : α) (next : α → Except ε β) : (.ok value >>= next) = next value := rfl

@[simp] theorem ok_map (value : α) (change : α → β) :
    (change <$> (.ok value : Except ε α)) = .ok (change value) := rfl

/-- A chain yields a value if its first step yields something from which the rest yields the value. -/
theorem bind_eq_ok_iff (result : Except ε α) (next : α → Except ε β) (value : β) :
    (result >>= next) = .ok value ↔ ∃ produced, result = .ok produced ∧ next produced = .ok value := by
  cases result <;> simp [Bind.bind, Except.bind]

@[simp] theorem pure_eq_ok_iff (result value : α) :
    (pure result : Except ε α) = .ok value ↔ result = value :=
  Iff.of_eq (Except.ok.injEq result value)

@[simp] theorem throw_ne_ok (fault : ε) (value : α) : (throw fault : Except ε α) ≠ .ok value := nofun

/-- A step whose value is changed yields what becomes of the value. -/
theorem map_eq_ok_iff {result : Except ε α} {change : α → β} {value : β} :
    result.map change = .ok value ↔ ∃ produced, result = .ok produced ∧ value = change produced := by
  cases result <;> simp [Except.map, eq_comm]

/-- A step yields its value whatever is said about its faults. -/
theorem mapError_eq_ok_iff {ε' : Type} {result : Except ε α} {wrap : ε → ε'} {value : α} :
    result.mapError wrap = .ok value ↔ result = .ok value := by
  cases result with
  | error fault =>
    have hwrapped : (Except.error fault : Except ε α).mapError wrap = .error (wrap fault) := rfl
    simp [hwrapped]
  | ok produced =>
    have hkept : (Except.ok produced : Except ε α).mapError wrap = .ok produced := rfl
    simp [hkept]

/-- A step that is refused unless a condition holds yields its value under that condition. -/
theorem ite_throw_eq_ok_iff (condition : Prop) [Decidable condition] (result : Except ε α)
    (fault : ε) (value : α) :
    (if condition then result else throw fault) = .ok value ↔ condition ∧ result = .ok value := by
  by_cases hcondition : condition
  · simp [hcondition]
  · simp [hcondition]

@[simp] theorem throw_bind (fault : ε) (next : α → Except ε β) :
    ((throw fault : Except ε α) >>= next) = throw fault := rfl

/-- A step that is refused under a condition yields its value unless the condition holds. -/
theorem throw_ite_eq_ok_iff (condition : Prop) [Decidable condition] (result : Except ε α)
    (fault : ε) (value : α) :
    (if condition then throw fault else result) = .ok value ↔ ¬condition ∧ result = .ok value := by
  by_cases hcondition : condition
  · simp [hcondition]
  · simp [hcondition]

end HubRoutes
