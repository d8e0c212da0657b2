import MorrowindScript.Proofs.Bounds.Command
import MorrowindScript.Proofs.Bounds.Position
import MorrowindScript.Proofs.Expression.Chain

/-!
# Expressions with bounded accesses

An expression is cut at an operator, an operand at a full stop and a condition at a relation. The
operators are read again from the text, at the positions that the scanner reported. All cuts stay in
range because of what stands at these positions.

The module introduces:

* `Expression.boundedParse`, `Condition.boundedParse` — read expressions and conditions with bounded
  accesses.
* `Expression.boundedParse_eq`, `Condition.boundedParse_eq` — all accesses are in range.
-/

namespace MorrowindScript

open Bytes Access

/-- Reading of an expression with bounded accesses. -/
abbrev BoundedParse := Outcome Warning (Halt ParseError)

/-! ## Operands -/

/-- Divides a text of the form `object.variable` at a dot and resolves it. -/
def Scope.boundedDotted {ω ε : Type} (scope : Scope) (text : Bytes) (dotAt : Nat) :
    Outcome ω (Halt ε) (Bytes × Option Slot) := do
  let object := stripQuotes (← sliceTo text dotAt)
  let name ← sliceFrom text (dotAt + 1)
  pure (object, scope.foreign? object name)

theorem Scope.boundedDotted_eq {ω ε : Type} {scope : Scope} {text : Bytes} {dotAt : Nat}
    (h : Scan.dotPosition text = some dotAt) :
    (scope.boundedDotted text dotAt : Outcome ω (Halt ε) _) = pure (scope.dotted? text dotAt) := by
  -- the variable may be empty, but the position after the dot is not beyond the end
  have hlt := Scan.lt_length_of_dotPosition h
  rw [boundedDotted, sliceTo_of_le (Nat.le_of_lt hlt), sliceFrom_of_le hlt]
  rfl

namespace Atom

/-- Reads an operand that is a call. -/
def boundedParseCall (scope : Scope) (text : Bytes) : BoundedParse Atom := do
  let code ← (Command.boundedInvoke scope true text).mapError (Halt.map fun
    | .noMatch => ⟨text, .unmatched⟩
    | error => ⟨text, .badCall error⟩)
  pure (.call text code)

/-- Reads an operand. -/
def boundedParse (scope : Scope) (text : Bytes) : BoundedParse Atom :=
  match Literal.single? text with
  | some value => pure (.literal text value.toBits)
  | none =>
    match scope.slot? text with
    | some slot => pure (.localVariable text slot)
    | none =>
      match scope.global? text with
      | some name => pure (.globalVariable name)
      | none =>
        match Scan.dotPosition text with
        | some i => do
          match ← scope.boundedDotted text i with
          | (object, some slot) => pure (.foreignVariable text object slot)
          | (_, none) => Outcome.fail (.error ⟨text, .unknownForeign⟩)
        | none => boundedParseCall scope text

theorem boundedParseCall_eq (scope : Scope) (text : Bytes) :
    boundedParseCall scope text = (parseCall scope text).inRange := by
  rw [boundedParseCall, Command.boundedInvoke_eq, parseCall, Outcome.inRange_bind,
    Outcome.inRange_mapError]
  rfl

theorem boundedParse_eq (scope : Scope) (text : Bytes) :
    boundedParse scope text = (parse scope text).inRange := by
  rw [boundedParse, parse]
  cases Literal.single? text with
  | some value => rfl
  | none =>
    cases scope.slot? text with
    | some slot => rfl
    | none =>
      cases scope.global? text with
      | some name => rfl
      | none =>
        cases hdot : Scan.dotPosition text with
        | none => exact boundedParseCall_eq scope text
        | some i =>
          simp only [Scope.boundedDotted_eq hdot, Outcome.pure_bind]
          obtain ⟨object, slot?⟩ := scope.dotted? text i
          cases slot? <;> rfl

end Atom

/-! ## Expressions -/

/-- The operator at a position. A byte that is no operator counts as out of range too. -/
def boundedOperator {ω ε : Type} (text : Bytes) (i : Nat) : Outcome ω (Halt ε) Arithmetic := do
  let c ← get text i
  Outcome.ofOption .outOfRange (Arithmetic.ofByte? c)

/-- Where an expression with the first operator at `first` is divided. -/
def boundedDivision {ω ε : Type} (text : Bytes) (first : Nat) : Outcome ω (Halt ε) Nat :=
  match Scan.nextOperator text (first + 1) with
  | none => pure first
  | some (next, _) => do
    let later ← boundedOperator text next
    let earlier ← boundedOperator text first
    pure (if later.bindsNoTighter earlier then next else first)

section Division

variable {ω ε : Type} {text : Bytes}

theorem boundedOperator_eq {offset : Nat} {found : Nat × Arithmetic}
    (h : Scan.nextOperator text offset = some found) :
    (boundedOperator text found.1 : Outcome ω (Halt ε) Arithmetic) = pure found.2 := by
  rw [boundedOperator, get_of_getElem? (Scan.getElem?_of_nextOperator h), Outcome.pure_bind,
    Arithmetic.ofByte?_byte]
  rfl

theorem boundedDivision_eq {first : Nat × Arithmetic}
    (h : Scan.nextOperator text 0 = some first) :
    (boundedDivision text first.1 : Outcome ω (Halt ε) Nat) = pure (division text first).1 := by
  rw [boundedDivision, division]
  cases hnext : Scan.nextOperator text (first.1 + 1) with
  | none => rfl
  | some next =>
    simp only [boundedOperator_eq hnext, boundedOperator_eq h, Outcome.pure_bind]
    split <;> rfl

end Division

namespace Expression

/-- Reads an expression with bounded accesses. -/
def boundedParse (scope : Scope) (source : Bytes) : BoundedParse Expression :=
  let text := Scan.unwrap source
  match Scan.nextOperator text 0 with
  | none => do
    let a ← Atom.boundedParse scope text
    pure (.atom a)
  | some (first, _) => do
    let c ← get text 0
    match if c == minus then Literal.single? text else none with
    | some value => pure (.atom (.literal text value.toBits))
    | none =>
      let middle ← boundedDivision text first
      if middle = 0 then Outcome.fail (.error ⟨text, .operatorFirst⟩)
      else if middle = text.length - 1 then Outcome.fail (.error ⟨text, .operatorLast⟩)
      else
        -- both cuts are in range if the operator is, and both parts are shorter
        let ⟨inside⟩ ← ensure (middle < text.length)
        have inside : middle < (Scan.unwrap source).length := inside
        have shorter := Scan.length_unwrap_le source
        let left ← boundedParse scope (text.take middle)
        let right ← boundedParse scope (text.drop (middle + 1))
        let operator ← boundedOperator text middle
        pure (.binary operator left right)
termination_by source.length
decreasing_by
  · simp only [List.length_take]; omega
  · simp only [List.length_drop]; omega

theorem negativeLiteral?_eq_map {text : Bytes} {c : UInt8} (h : text[0]? = some c) :
    negativeLiteral? text = (if c == minus then Literal.single? text else none).map
      fun value => .literal text value.toBits := by
  rw [negativeLiteral?, List.head?_eq_getElem?, h]
  cases hminus : c == minus <;> simp_all

/-- All accesses of an expression are in range. -/
theorem boundedParse_eq (scope : Scope) (source : Bytes) :
    boundedParse scope source = (parse scope source).inRange := by
  induction hn : source.length using Nat.strongRecOn generalizing source with
  | _ n ih =>
    subst hn
    have hunwrap := Scan.length_unwrap_le source
    rw [boundedParse]
    cases hfirst : Scan.nextOperator (Scan.unwrap source) 0 with
    | none =>
      rw [parse_eq_atom scope hfirst, Outcome.inRange_bind]
      simp only [Atom.boundedParse_eq]
      rfl
    | some first =>
      have hinside := division_lt_length hfirst
      obtain ⟨offset, hoperator⟩ := exists_nextOperator_division hfirst
      -- a text with an operator is not empty, so it has a first byte
      have hhead : (Scan.unwrap source)[0]? = some (Scan.unwrap source)[0] :=
        List.getElem?_eq_getElem (by omega)
      rw [parse_eq_of_operator hfirst, negativeLiteral?_eq_map hhead]
      simp only [boundedDivision_eq hfirst, Outcome.pure_bind, ensure_bind_of hinside,
        get_of_getElem? hhead, boundedOperator_eq hoperator]
      cases (if (Scan.unwrap source)[0] == minus then Literal.single? (Scan.unwrap source)
        else none) with
      | some value => rfl
      | none =>
        simp only [Option.map_none]
        split
        · rfl
        · split
          · rfl
          · -- both parts are shorter than the text
            rw [ih _ ?_ _ rfl, ih _ ?_ _ rfl]
            · simp only [Outcome.inRange_bind]
              rfl
            · rw [List.length_drop]
              omega
            · rw [List.length_take]
              omega

end Expression

/-! ## Conditions -/

namespace Condition

/-- Reads a condition with bounded accesses. -/
def boundedParse (scope : Scope) (text : Bytes) :
    Outcome Warning (Halt ConditionError) Condition :=
  match Scan.comparison text with
  | none => do
    let value ← (Expression.boundedParse scope text).mapError (Halt.map fun e => ⟨none, e⟩)
    Outcome.warn (.noComparison text)
    pure (.bare value)
  | some (i, relation) => do
    let before ← sliceTo text i
    let left ← (Expression.boundedParse scope before).mapError (Halt.map fun e => ⟨some .left, e⟩)
    let after ← sliceFrom text (i + relation.bytes.length)
    let right ← (Expression.boundedParse scope after).mapError (Halt.map fun e => ⟨some .right, e⟩)
    pure (.comparison left relation right)

/-- All accesses of a condition are in range. -/
theorem boundedParse_eq (scope : Scope) (text : Bytes) :
    boundedParse scope text = (parse scope text).inRange := by
  rw [boundedParse, parse]
  cases hcomparison : Scan.comparison text with
  | none =>
    simp only [Expression.boundedParse_eq, Outcome.inRange_bind, Outcome.inRange_mapError]
    rfl
  | some found =>
    obtain ⟨i, relation⟩ := found
    have hle := Scan.add_length_le_of_comparison hcomparison
    simp only [sliceTo_of_le (Nat.le_of_add_right_le hle), sliceFrom_of_le hle,
      Outcome.pure_bind, Expression.boundedParse_eq, Outcome.inRange_bind,
      Outcome.inRange_mapError]
    rfl

end Condition

end MorrowindScript
