/-!
# Computations that warn

Compiling may fail, and may warn whether it fails or not. An `Outcome` is a result together with the
warnings given on the way, in order; a failure keeps the warnings that came before it.
-/

namespace MorrowindScript

/-- A result or an error of type `ε`, with the warnings of type `ω` given before it. -/
structure Outcome (ω ε α : Type) where
  /-- The warnings, in the order in which they were given. -/
  warnings : List ω
  /-- The result, or the error that stopped the computation. -/
  result : Except ε α

namespace Outcome

variable {ω ω' ε ε' α β : Type}

/-- A result without warnings. -/
protected def pure (a : α) : Outcome ω ε α :=
  ⟨[], .ok a⟩

/-- An error without warnings. -/
def fail (e : ε) : Outcome ω ε α :=
  ⟨[], .error e⟩

/-- A warning and nothing else. -/
def warn (w : ω) : Outcome ω ε Unit :=
  ⟨[w], .ok ()⟩

/-- Goes on with a result; warnings add up and an error stops the computation. -/
protected def bind (x : Outcome ω ε α) (f : α → Outcome ω ε β) : Outcome ω ε β :=
  match x.result with
  | .ok a => ⟨x.warnings ++ (f a).warnings, (f a).result⟩
  | .error e => ⟨x.warnings, .error e⟩

instance : Monad (Outcome ω ε) where
  pure := Outcome.pure
  bind := Outcome.bind

/-- The same computation with its error in other words. -/
def mapError (f : ε → ε') (x : Outcome ω ε α) : Outcome ω ε' α :=
  ⟨x.warnings, x.result.mapError f⟩

/-- The same computation with its warnings in other words. -/
def mapWarnings (f : ω → ω') (x : Outcome ω ε α) : Outcome ω' ε α :=
  ⟨x.warnings.map f, x.result⟩

/-- The result, or `e` if there is none. -/
def ofOption (e : ε) : Option α → Outcome ω ε α
  | some a => ⟨[], .ok a⟩
  | none => ⟨[], .error e⟩

/-- A result or an error, without warnings. -/
def ofExcept (x : Except ε α) : Outcome ω ε α :=
  ⟨[], x⟩

@[simp]
theorem pure_eq (a : α) : (pure a : Outcome ω ε α) = ⟨[], .ok a⟩ := rfl

@[simp]
theorem mk_ok_bind (ws : List ω) (a : α) (f : α → Outcome ω ε β) :
    (⟨ws, .ok a⟩ : Outcome ω ε α) >>= f = ⟨ws ++ (f a).warnings, (f a).result⟩ := rfl

@[simp]
theorem mk_error_bind (ws : List ω) (e : ε) (f : α → Outcome ω ε β) :
    (⟨ws, .error e⟩ : Outcome ω ε α) >>= f = ⟨ws, .error e⟩ := rfl

end Outcome

end MorrowindScript
