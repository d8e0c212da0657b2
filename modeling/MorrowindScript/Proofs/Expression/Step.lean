import MorrowindScript.Expression.Parse
import MorrowindScript.Proofs.Bounds.Position

/-!
# One step of reading an expression

An expression is read as an operand, as a number with a sign, or by dividing its text at an
operator and reading both sides. This module separates the one step from the recursion.

## Main definitions

* `Expression.step`: one step of the reader, with the reading of the sides left open.

## Main results

* `Expression.parse_eq_step`: the reader takes one step and reads the sides by itself.
* `Expression.step_congr`: a step reads strictly shorter texts only.
* `Expression.parse_of_unwrap_eq`: blanks and brackets around a text make no difference.
* `eq_append_division`: a text is made of its two sides and the operator between them.
-/

namespace MorrowindScript

open Bytes

/-! ## The place of division -/

section Division

variable {text : Bytes} {first : Nat × Arithmetic}

/-- An expression is divided at an operator that the scanner found. -/
theorem exists_nextOperator_division (h : Scan.nextOperator text 0 = some first) :
    ∃ offset, Scan.nextOperator text offset = some (division text first) := by
  rw [division]
  cases hnext : Scan.nextOperator text (first.1 + 1) with
  | none => exact ⟨0, h⟩
  | some next =>
    simp only
    split
    · exact ⟨_, hnext⟩
    · exact ⟨0, h⟩

/-- A text is made of its two sides and the operator between them. -/
theorem eq_append_division (h : Scan.nextOperator text 0 = some first) :
    text = text.take (division text first).1 ++
      (division text first).2.byte :: text.drop ((division text first).1 + 1) := by
  obtain ⟨offset, hoperator⟩ := exists_nextOperator_division h
  generalize division text first = middle at hoperator ⊢
  obtain ⟨hlt, hbyte⟩ := List.getElem?_eq_some_iff.1 (Scan.getElem?_of_nextOperator hoperator)
  rw [← hbyte, ← List.drop_eq_getElem_cons hlt, List.take_append_drop]

end Division

namespace Expression

/-! ## The step -/

/-- One step of the reader. Where a text is divided, both sides are read with `recur`, the left one
first. -/
def step (scope : Scope) (recur : Bytes → ParseOutcome Expression) (source : Bytes) :
    ParseOutcome Expression :=
  let text := Scan.unwrap source
  match Scan.nextOperator text 0 with
  | none => do
    let a ← Atom.parse scope text
    pure (.atom a)
  | some first =>
    match negativeLiteral? text with
    | some a => pure (.atom a)
    | none =>
      let middle := division text first
      if middle.1 = 0 then Outcome.fail ⟨text, .operatorFirst⟩
      else if middle.1 = text.length - 1 then Outcome.fail ⟨text, .operatorLast⟩
      else do
        let left ← recur (text.take middle.1)
        let right ← recur (text.drop (middle.1 + 1))
        pure (.binary middle.2 left right)

variable {scope : Scope} {source : Bytes}

/-- The reader takes one step and reads the sides by itself. -/
theorem parse_eq_step (scope : Scope) (source : Bytes) :
    parse scope source = step scope (parse scope) source := by
  rw [parse, step]
  split
  · next hnone => simp only [hnone]
  · next first hfirst =>
    symm
    split
    · next hnone => exact absurd (hfirst.symm.trans hnone) (by simp)
    · next other hother =>
      obtain rfl := Option.some.inj (hfirst.symm.trans hother)
      rfl

/-- A step reads strictly shorter texts only. -/
theorem step_congr {recur recur' : Bytes → ParseOutcome Expression}
    (h : ∀ part, part.length < source.length → recur part = recur' part) :
    step scope recur source = step scope recur' source := by
  have hunwrap := Scan.length_unwrap_le source
  rw [step, step]
  cases hfirst : Scan.nextOperator (Scan.unwrap source) 0 with
  | none => rfl
  | some first =>
    have hinside := division_lt_length hfirst
    have hleft : ((Scan.unwrap source).take (division (Scan.unwrap source) first).1).length <
        source.length := by
      rw [List.length_take]
      omega
    have hright : ((Scan.unwrap source).drop ((division (Scan.unwrap source) first).1 + 1)).length <
        source.length := by
      rw [List.length_drop]
      omega
    simp only [h _ hleft, h _ hright]

/-- Blanks and brackets around a text make no difference. -/
theorem parse_of_unwrap_eq {other : Bytes} (h : Scan.unwrap source = Scan.unwrap other) :
    parse scope source = parse scope other := by
  rw [parse_eq_step, parse_eq_step scope other, step, step, h]

/-- A text without operator is read as one operand. -/
theorem parse_eq_atom (scope : Scope) {source : Bytes}
    (h : Scan.nextOperator (Scan.unwrap source) 0 = none) :
    parse scope source = (do
      let a ← Atom.parse scope (Scan.unwrap source)
      pure (.atom a)) := by
  rw [parse_eq_step, step, h]

/-- A text with an operator is a number with a sign, or it is divided. -/
theorem parse_eq_of_operator {first : Nat × Arithmetic}
    (h : Scan.nextOperator (Scan.unwrap source) 0 = some first) :
    parse scope source =
      (match negativeLiteral? (Scan.unwrap source) with
      | some a => pure (.atom a)
      | none =>
        if (division (Scan.unwrap source) first).1 = 0 then
          Outcome.fail ⟨Scan.unwrap source, .operatorFirst⟩
        else if (division (Scan.unwrap source) first).1 = (Scan.unwrap source).length - 1 then
          Outcome.fail ⟨Scan.unwrap source, .operatorLast⟩
        else do
          let left ← parse scope ((Scan.unwrap source).take (division (Scan.unwrap source) first).1)
          let right ← parse scope
            ((Scan.unwrap source).drop ((division (Scan.unwrap source) first).1 + 1))
          pure (.binary (division (Scan.unwrap source) first).2 left right)) := by
  rw [parse_eq_step, step, h]

/-- A text that is divided at an operator with something on both sides of it is read as the two
sides, the left one first. -/
theorem parse_eq_binary (scope : Scope) {source left right : Bytes} (first : Nat × Arithmetic)
    {op : Arithmetic} (htext : Scan.unwrap source = left ++ op.byte :: right)
    (hleft : left ≠ []) (hright : right ≠ [])
    (hfirst : Scan.nextOperator (Scan.unwrap source) 0 = some first)
    (hnegative : negativeLiteral? (Scan.unwrap source) = none)
    (hdivision : division (Scan.unwrap source) first = (left.length, op)) :
    parse scope source = (do
      let l ← parse scope left
      let r ← parse scope right
      pure (.binary op l r)) := by
  have hleft' : left.length ≠ 0 := by simpa using hleft
  have hright' : right.length ≠ 0 := by simpa using hright
  have hlast : left.length ≠ (left ++ op.byte :: right).length - 1 := by
    simp only [List.length_append, List.length_cons]
    omega
  rw [parse_eq_of_operator hfirst]
  simp only [hnegative, hdivision]
  rw [if_neg hleft', if_neg (by rwa [htext]), htext]
  simp

end Expression

end MorrowindScript
