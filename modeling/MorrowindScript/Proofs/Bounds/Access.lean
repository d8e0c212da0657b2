import MorrowindScript.Proofs.Outcome

/-!
# Accesses with a bound

Compiling reads bytes, parameters and lines at positions that were computed elsewhere. Here such an
access is one that can fail: a computation with bounded accesses stops if one of them is out of
range, and that is told apart from the errors it reports.

The module introduces:

* `Halt` — why a computation with bounded accesses stops.
* `Access.get`, `Access.sliceFrom`, `Access.sliceTo`, `Access.ensure` — the accesses.
* `Outcome.inRange` — a computation as one with bounded accesses none of which is out of range.
-/

namespace MorrowindScript

/-- Why a computation with bounded accesses stops. -/
inductive Halt (ε : Type) where
  /-- An access is out of range. -/
  | outOfRange
  /-- An error that the computation reports. -/
  | error (e : ε)
  deriving DecidableEq, Repr

/-- The same reason with its error in other words. -/
def Halt.map {ε ε' : Type} (f : ε → ε') : Halt ε → Halt ε'
  | outOfRange => outOfRange
  | error e => error (f e)

namespace Access

variable {ω ε α : Type}

/-- Goes on only if `p` holds, and keeps the proof. -/
def ensure (p : Prop) [Decidable p] : Outcome ω (Halt ε) (PLift p) :=
  if h : p then pure ⟨h⟩ else Outcome.fail .outOfRange

/-- The element at position `i`. -/
def get (xs : List α) (i : Nat) : Outcome ω (Halt ε) α :=
  Outcome.ofOption .outOfRange xs[i]?

/-- The elements from position `i` on, which may be the end. -/
def sliceFrom (xs : List α) (i : Nat) : Outcome ω (Halt ε) (List α) := do
  let _ ← ensure (i ≤ xs.length)
  pure (xs.drop i)

/-- The elements before position `i`, which may be the end. -/
def sliceTo (xs : List α) (i : Nat) : Outcome ω (Halt ε) (List α) := do
  let _ ← ensure (i ≤ xs.length)
  pure (xs.take i)

theorem ensure_bind_of {β : Type} {p : Prop} [Decidable p] (h : p)
    (f : PLift p → Outcome ω (Halt ε) β) : ensure p >>= f = f ⟨h⟩ := by
  rw [ensure, dif_pos h]
  rfl

theorem get_of_getElem? {xs : List α} {i : Nat} {a : α} (h : xs[i]? = some a) :
    (get xs i : Outcome ω (Halt ε) α) = pure a := by
  rw [get, h]
  rfl

theorem sliceFrom_of_le {xs : List α} {i : Nat} (h : i ≤ xs.length) :
    (sliceFrom xs i : Outcome ω (Halt ε) (List α)) = pure (xs.drop i) := by
  rw [sliceFrom, ensure_bind_of h]

theorem sliceTo_of_le {xs : List α} {i : Nat} (h : i ≤ xs.length) :
    (sliceTo xs i : Outcome ω (Halt ε) (List α)) = pure (xs.take i) := by
  rw [sliceTo, ensure_bind_of h]

end Access

namespace Outcome

variable {ω ω' ε ε' α β : Type}

theorem pure_bind (a : α) (f : α → Outcome ω ε β) : pure a >>= f = f a := rfl

theorem ofOption_some (e : ε) (a : α) : (ofOption e (some a) : Outcome ω ε α) = pure a := rfl

/-- Two ways to go on from a computation are equal if they agree on its result. -/
theorem bind_congr_of_result {x : Outcome ω ε α} {f g : α → Outcome ω ε β}
    (h : ∀ a, x.result = .ok a → f a = g a) : x >>= f = x >>= g := by
  obtain ⟨ws, r⟩ := x
  cases r with
  | ok a => rw [mk_ok_bind, mk_ok_bind, h a rfl]
  | error e => rfl

/-- The computation, as one with bounded accesses none of which is out of range. -/
def inRange (x : Outcome ω ε α) : Outcome ω (Halt ε) α :=
  x.mapError .error

theorem result_inRange_ne_outOfRange (x : Outcome ω ε α) :
    x.inRange.result ≠ .error .outOfRange := by
  obtain ⟨ws, r⟩ := x
  cases r with
  | ok a =>
    show (Except.ok a : Except (Halt ε) α) ≠ .error .outOfRange
    simp
  | error e =>
    show (Except.error (.error e) : Except (Halt ε) α) ≠ .error .outOfRange
    simp

/-! ## Computations in range, step by step -/

theorem inRange_mk_ok (ws : List ω) (a : α) :
    (⟨ws, .ok a⟩ : Outcome ω ε α).inRange = ⟨ws, .ok a⟩ := rfl

theorem inRange_ofOption (e : ε) (x : Option α) :
    (ofOption e x : Outcome ω ε α).inRange = ofOption (.error e) x := by
  cases x <;> rfl

theorem inRange_bind (x : Outcome ω ε α) (f : α → Outcome ω ε β) :
    (x >>= f).inRange = x.inRange >>= fun a => (f a).inRange := by
  obtain ⟨ws, r⟩ := x
  cases r <;> rfl

theorem inRange_mapError (f : ε → ε') (x : Outcome ω ε α) :
    (x.mapError f).inRange = x.inRange.mapError (Halt.map f) := by
  obtain ⟨ws, r⟩ := x
  cases r <;> rfl

theorem inRange_mapWarnings (f : ω → ω') (x : Outcome ω ε α) :
    (x.mapWarnings f).inRange = x.inRange.mapWarnings f := rfl

end Outcome

end MorrowindScript
