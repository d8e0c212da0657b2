import MorrowindScript.Expression.Parse
import MorrowindScript.Proofs.Outcome

/-!
# What an expression that can be read is made of

Reading stops at the first operand that cannot be read. An expression that can be read is therefore
one of which all operands can be read, and its tree follows the places at which the text was divided.

* `Atom.Parses`: a derivation that a text is an operand.
* `Expression.Parses`: a derivation that a text is an expression.
* `Atom.result_parse_eq_ok_iff`, `Expression.result_parse_eq_ok_iff`: the readers succeed exactly if
  there is a derivation.
* `Condition.cases_of_parse_eq_ok`: a condition that can be read is one or two expressions.
-/

namespace MorrowindScript

open Bytes

/-- The text is read as the operand, by the first of the five rules that applies. -/
inductive Atom.Parses (scope : Scope) (text : Bytes) : Atom → Prop where
  /-- A number. -/
  | literal {value : Float32} (hvalue : Literal.single? text = some value) :
      Parses scope text (.literal text value.toBits)
  /-- A local. -/
  | localVariable {slot : Slot} (hliteral : Literal.single? text = none)
      (hslot : scope.slot? text = some slot) : Parses scope text (.localVariable text slot)
  /-- A global. -/
  | globalVariable {name : Bytes} (hliteral : Literal.single? text = none)
      (hslot : scope.slot? text = none) (hglobal : scope.global? text = some name) :
      Parses scope text (.globalVariable name)
  /-- A variable of another object. -/
  | foreignVariable {i : Nat} {object : Bytes} {slot : Slot}
      (hliteral : Literal.single? text = none) (hslot : scope.slot? text = none)
      (hglobal : scope.global? text = none) (hdot : Scan.dotPosition text = some i)
      (hdotted : scope.dotted? text i = (object, some slot)) :
      Parses scope text (.foreignVariable text object slot)
  /-- A call. -/
  | call {code : Invocation} (hliteral : Literal.single? text = none)
      (hslot : scope.slot? text = none) (hglobal : scope.global? text = none)
      (hdot : Scan.dotPosition text = none)
      (hcode : (Command.invoke scope true text).result = .ok code) :
      Parses scope text (.call text code)

/-- An operand is read exactly if there is a derivation. -/
theorem Atom.result_parse_eq_ok_iff {scope : Scope} {text : Bytes} {a : Atom} :
    (Atom.parse scope text).result = .ok a ↔ Atom.Parses scope text a := by
  constructor
  · intro h
    rw [parse] at h
    split at h
    · next value hvalue =>
      obtain rfl := Except.ok.inj h
      exact .literal hvalue
    · next hliteral =>
      split at h
      · next slot hslot =>
        obtain rfl := Except.ok.inj h
        exact .localVariable hliteral hslot
      · next hslot =>
        split at h
        · next name hglobal =>
          obtain rfl := Except.ok.inj h
          exact .globalVariable hliteral hslot hglobal
        · next hglobal =>
          split at h
          · next i hdot =>
            split at h
            · next object slot hdotted =>
              obtain rfl := Except.ok.inj h
              exact .foreignVariable hliteral hslot hglobal hdot hdotted
            · simp at h
          · next hdot =>
            obtain ⟨code, hcode, ha⟩ := Outcome.result_bind_eq_ok.1 h
            obtain rfl := Except.ok.inj ha
            exact .call hliteral hslot hglobal hdot (Outcome.result_mapError_eq_ok.1 hcode)
  · intro h
    rw [parse]
    cases h with
    | literal hvalue => simp [hvalue]
    | localVariable hliteral hslot => simp [hliteral, hslot]
    | globalVariable hliteral hslot hglobal => simp [hliteral, hslot, hglobal]
    | foreignVariable hliteral hslot hglobal hdot hdotted =>
      simp [hliteral, hslot, hglobal, hdot, hdotted]
    | call hliteral hslot hglobal hdot hcode =>
      simp [hliteral, hslot, hglobal, hdot, parseCall, hcode]

namespace Expression

/-- The text is read as the expression. -/
inductive Parses (scope : Scope) : Bytes → Expression → Prop where
  /-- An operand. -/
  | operand {source : Bytes} {a : Atom}
      (hnone : Scan.nextOperator (Scan.unwrap source) 0 = none)
      (ha : a.Parses scope (Scan.unwrap source)) : Parses scope source (.atom a)
  /-- A number with a minus sign. -/
  | negative {source : Bytes} {first : Nat × Arithmetic} {a : Atom}
      (hfirst : Scan.nextOperator (Scan.unwrap source) 0 = some first)
      (ha : negativeLiteral? (Scan.unwrap source) = some a) : Parses scope source (.atom a)
  /-- Two expressions with an operator between them. -/
  | binary {source : Bytes} {first : Nat × Arithmetic} {left right : Expression}
      (hfirst : Scan.nextOperator (Scan.unwrap source) 0 = some first)
      (hnegative : negativeLiteral? (Scan.unwrap source) = none)
      (hstart : (division (Scan.unwrap source) first).1 ≠ 0)
      (hend : (division (Scan.unwrap source) first).1 ≠ (Scan.unwrap source).length - 1)
      (hleft : Parses scope
        ((Scan.unwrap source).take (division (Scan.unwrap source) first).1) left)
      (hright : Parses scope
        ((Scan.unwrap source).drop ((division (Scan.unwrap source) first).1 + 1)) right) :
      Parses scope source (.binary (division (Scan.unwrap source) first).2 left right)

/-- An expression that was read has a derivation. -/
theorem parses_of_parse_eq_ok {scope : Scope} {source : Bytes} {e : Expression}
    (h : (parse scope source).result = .ok e) : Parses scope source e := by
  -- both halves of a divided text are shorter than the text
  induction hn : source.length using Nat.strongRecOn generalizing source e with
  | _ n ih =>
    subst hn
    have hunwrap := Scan.length_unwrap_le source
    rw [parse] at h
    split at h
    · next hnone =>
      obtain ⟨a, ha, he⟩ := Outcome.result_bind_eq_ok.1 h
      obtain rfl := Except.ok.inj he
      exact .operand hnone (Atom.result_parse_eq_ok_iff.1 ha)
    · next first hfirst =>
      -- the place of division is inside the text, and an operator there leaves both sides shorter
      have hinside := division_lt_length hfirst
      split at h
      · next a ha =>
        obtain rfl := Except.ok.inj h
        exact .negative hfirst ha
      · next hnegative =>
        simp only at h
        split at h
        · simp at h
        · next hstart =>
          split at h
          · simp at h
          · next hend =>
            obtain ⟨left, hleft, hrest⟩ := Outcome.result_bind_eq_ok.1 h
            obtain ⟨right, hright, he⟩ := Outcome.result_bind_eq_ok.1 hrest
            obtain rfl := Except.ok.inj he
            refine .binary hfirst hnegative hstart hend (ih _ ?_ hleft rfl) (ih _ ?_ hright rfl)
            · rw [List.length_take]
              omega
            · rw [List.length_drop]
              omega

/-- An expression with a derivation is read. -/
theorem Parses.result_parse_eq_ok {scope : Scope} {source : Bytes} {e : Expression}
    (h : Parses scope source e) : (parse scope source).result = .ok e := by
  induction h with
  | @operand source a hnone ha =>
    rw [parse]
    split
    · simp [Atom.result_parse_eq_ok_iff.2 ha]
    · next hsome => exact absurd (hnone.symm.trans hsome) (by simp)
  | @negative source first a hfirst ha =>
    rw [parse]
    split
    · next hnone => exact absurd (hfirst.symm.trans hnone) (by simp)
    · simp [ha]
  | @binary source first left right hfirst hnegative hstart hend _ _ ihLeft ihRight =>
    -- none of the errors applies, and both sides are read by induction
    rw [parse]
    split
    · next hnone => exact absurd (hfirst.symm.trans hnone) (by simp)
    · next first' hfirst' =>
      obtain rfl := Option.some.inj (hfirst.symm.trans hfirst')
      simp only [hnegative]
      rw [if_neg hstart, if_neg hend]
      exact Outcome.result_bind_eq_ok.2
        ⟨left, ihLeft, Outcome.result_bind_eq_ok.2 ⟨right, ihRight, rfl⟩⟩

/-- An expression is read exactly if there is a derivation. -/
theorem result_parse_eq_ok_iff {scope : Scope} {source : Bytes} {e : Expression} :
    (parse scope source).result = .ok e ↔ Parses scope source e :=
  ⟨parses_of_parse_eq_ok, Parses.result_parse_eq_ok⟩

end Expression

/-- A condition that was read is an expression, or two expressions on the sides of a relation. -/
theorem Condition.cases_of_parse_eq_ok {scope : Scope} {text : Bytes} {condition : Condition}
    (h : (Condition.parse scope text).result = .ok condition) :
    (∃ value, Scan.comparison text = none ∧ Expression.Parses scope text value ∧
      condition = .bare value) ∨
    ∃ i relation left right, Scan.comparison text = some (i, relation) ∧
      Expression.Parses scope (text.take i) left ∧
      Expression.Parses scope (text.drop (i + relation.bytes.length)) right ∧
      condition = .comparison left relation right := by
  rw [parse] at h
  split at h
  · next hnone =>
    -- a condition without relation is only warned of
    simp only [Outcome.result_bind_eq_ok, Outcome.result_mapError_eq_ok, Outcome.result_warn,
      Outcome.pure_eq, Except.ok.injEq] at h
    obtain ⟨value, hvalue, -, -, rfl⟩ := h
    exact .inl ⟨value, hnone, Expression.result_parse_eq_ok_iff.1 hvalue, rfl⟩
  · next i relation hsome =>
    simp only [Outcome.result_bind_eq_ok, Outcome.result_mapError_eq_ok, Outcome.pure_eq,
      Except.ok.injEq] at h
    obtain ⟨left, hleft, right, hright, rfl⟩ := h
    exact .inr ⟨i, relation, left, right, hsome, Expression.result_parse_eq_ok_iff.1 hleft,
      Expression.result_parse_eq_ok_iff.1 hright, rfl⟩

end MorrowindScript
