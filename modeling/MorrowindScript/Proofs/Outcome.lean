import MorrowindScript.Outcome

/-!
# Computations that succeed

What is known of the parts of a computation from its having a result, and which errors it may have
from those of its parts.

* `Outcome.result_bind_eq_ok`: a sequence has a result if both parts have one.
* `Outcome.FailsOnly`: every error of a computation has a property.
-/

namespace MorrowindScript.Outcome

variable {ω ω' ε ε' α β : Type}

/-- A sequence has the result of its second part, after a result of the first. -/
@[simp]
theorem result_bind_eq_ok {x : Outcome ω ε α} {f : α → Outcome ω ε β} {b : β} :
    (x >>= f).result = .ok b ↔ ∃ a, x.result = .ok a ∧ (f a).result = .ok b := by
  obtain ⟨ws, r⟩ := x
  cases r with
  | ok a => simp
  | error e => simp

/-- Without error, the words of an error do not matter. -/
@[simp]
theorem result_mapError_eq_ok {x : Outcome ω ε α} {f : ε → ε'} {a : α} :
    (x.mapError f).result = .ok a ↔ x.result = .ok a := by
  obtain ⟨ws, r⟩ := x
  cases r with
  | ok b =>
    show Except.ok b = Except.ok a ↔ Except.ok b = Except.ok a
    simp
  | error e =>
    show Except.error (f e) = Except.ok a ↔ Except.error e = Except.ok a
    simp

/-- An option has a result if it has a value. -/
@[simp]
theorem result_ofOption_eq_ok {e : ε} {x : Option α} {a : α} :
    (ofOption e x : Outcome ω ε α).result = .ok a ↔ x = some a := by
  cases x with
  | none => simp [ofOption]
  | some b => simp [ofOption]

@[simp]
theorem result_ofExcept {x : Except ε α} : (ofExcept x : Outcome ω ε α).result = x := rfl

@[simp]
theorem result_mapWarnings {x : Outcome ω ε α} {f : ω → ω'} :
    (x.mapWarnings f).result = x.result := rfl

@[simp]
theorem result_fail {e : ε} : (fail e : Outcome ω ε α).result = .error e := rfl

@[simp]
theorem result_warn {w : ω} : (warn w : Outcome ω ε Unit).result = .ok () := rfl

/-- A computation without error has a result. -/
theorem exists_result_eq_ok {x : Outcome ω ε α} (h : x.result.isOk = true) :
    ∃ a, x.result = .ok a := by
  obtain ⟨ws, r⟩ := x
  cases r with
  | ok a => exact ⟨a, rfl⟩
  | error e => exact absurd h (by simp [Except.isOk, Except.toBool])

/-- The result of a computation, found by running it. -/
theorem result_eq_ok_of_toOption {x : Outcome ω ε α} {a : α} (h : x.result.toOption = some a) :
    x.result = .ok a := by
  obtain ⟨ws, r⟩ := x
  cases r with
  | ok b => exact congrArg Except.ok (Option.some.inj h)
  | error e => exact absurd h (by simp [Except.toOption])

/-- A computation has a result if something is found of it by running the computation. -/
theorem exists_result_eq_ok_of_map {x : Outcome ω ε α} {f : α → β} {b : β}
    (h : x.result.toOption.map f = some b) : ∃ a, x.result = .ok a ∧ f a = b := by
  obtain ⟨a, ha, hb⟩ := Option.map_eq_some_iff.1 h
  exact ⟨a, result_eq_ok_of_toOption ha, hb⟩

/-! ## Errors -/

/-- Every error that the computation has, if it has one, has the property. -/
def FailsOnly (P : ε → Prop) (x : Outcome ω ε α) : Prop :=
  ∀ e, x.result = .error e → P e

theorem failsOnly_ok {P : ε → Prop} (ws : List ω) (a : α) :
    (⟨ws, .ok a⟩ : Outcome ω ε α).FailsOnly P := by
  intro e he
  exact absurd he (by simp)

theorem failsOnly_error {P : ε → Prop} {e : ε} (h : P e) (ws : List ω) :
    (⟨ws, .error e⟩ : Outcome ω ε α).FailsOnly P := by
  intro e' he
  rwa [← Except.error.inj he]

theorem failsOnly_ofOption {P : ε → Prop} {e : ε} (h : P e) (x : Option α) :
    (ofOption e x : Outcome ω ε α).FailsOnly P := by
  cases x with
  | none => exact failsOnly_error h []
  | some a => exact failsOnly_ok [] a

/-- A sequence has the errors of its parts. -/
theorem FailsOnly.bind {P : ε → Prop} {x : Outcome ω ε α} {f : α → Outcome ω ε β}
    (hx : x.FailsOnly P) (hf : ∀ a, (f a).FailsOnly P) : (x >>= f).FailsOnly P := by
  obtain ⟨ws, r⟩ := x
  cases r with
  | ok a => exact hf a
  | error e => exact failsOnly_error (hx e rfl) ws

/-- Errors in other words. -/
theorem FailsOnly.mapError {P : ε' → Prop} {f : ε → ε'} {x : Outcome ω ε α}
    (hx : x.FailsOnly fun e => P (f e)) : (x.mapError f).FailsOnly P := by
  obtain ⟨ws, r⟩ := x
  cases r with
  | ok a => exact failsOnly_ok ws a
  | error e => exact failsOnly_error (hx e rfl) ws

end MorrowindScript.Outcome
