import MorrowindScript.Proofs.Expression.Step
import MorrowindScript.Proofs.Literal.Single
import MorrowindScript.Proofs.Outcome
import MorrowindScript.Proofs.Scan.Bracket

/-!
# Reading with a look-ahead of one operator

A text with operators is divided at the second of them if that one binds no tighter than the first,
and at the first otherwise. The reader finds these operators by scanning bytes, and scans what is
left again on every level. This module shows that it does what the rule says on operands and
operators, for operands of any form: with brackets, blanks, calls and arrows in them.

## Main definitions

* `OperandText`: a text that can stand between two operators.
* `OperandText.join`: the text of a chain of operands and operators.
* `OperandText.lookAhead`: the reading of a chain by the rule.

## Main results

* `OperandText.parse_join`: the reader reads every chain by the rule.
-/

namespace MorrowindScript

open Bytes

/-- A text that can stand between two operators. It may hold operators in brackets only. -/
structure OperandText where
  /-- The text. -/
  text : Bytes
  /-- It is not blank. -/
  notBlank : ∃ c ∈ text, isBlank c = false
  /-- It has no quotes. -/
  unquoted : quote ∉ text
  /-- It does not make an arrow of a minus sign before it. -/
  head_ne : text.trim.head? ≠ some greater
  /-- It closes all brackets that it opens. -/
  closed : Scan.bracketDepth text = 0
  /-- Outside brackets it has no operator. -/
  operatorFree : Scan.IsOperatorFree text

/-- Two expressions with an operator between them, the left one read first. -/
def Expression.combine (op : Arithmetic) (left right : ParseOutcome Expression) :
    ParseOutcome Expression := do
  let l ← left
  let r ← right
  pure (.binary op l r)

theorem Expression.result_combine {op : Arithmetic} {left right : ParseOutcome Expression}
    {l r : Expression} (hleft : left.result = .ok l) (hright : right.result = .ok r) :
    (combine op left right).result = .ok (.binary op l r) := by
  refine Outcome.result_bind_eq_ok.2 ⟨l, hleft, ?_⟩
  exact Outcome.result_bind_eq_ok.2 ⟨r, hright, rfl⟩

namespace OperandText

/-- A chain of operands after the first, each with the operator before it. -/
abbrev Tail := List (Arithmetic × OperandText)

/-- The text of a chain: its operands with the operators between them. -/
def join (o : OperandText) : Tail → Bytes
  | [] => o.text
  | (op, p) :: rest => o.text ++ op.byte :: p.join rest

/-- The reading of a chain. It is divided at its second operator if that one is additive or the
first one is multiplicative, and at its first operator otherwise. -/
def lookAhead (scope : Scope) : OperandText → Tail → ParseOutcome Expression
  | o, [] => Expression.parse scope o.text
  | o, [(op, p)] => Expression.combine op (lookAhead scope o []) (lookAhead scope p [])
  | o, (op, p) :: (next, q) :: rest =>
    if next.isAdditive || op.isMultiplicative then
      Expression.combine next (lookAhead scope o [(op, p)]) (lookAhead scope q rest)
    else Expression.combine op (lookAhead scope o []) (lookAhead scope p ((next, q) :: rest))
termination_by _ rest => rest.length

/-! ## Blanks around operands -/

theorem head?_text_ne (o : OperandText) : o.text.head? ≠ some greater := by
  intro hhead
  obtain ⟨tail, htail⟩ := List.head?_eq_some_iff.1 hhead
  -- the head of an arrow is not blank, so trimming leaves it where it is
  have htrim : trim ([] ++ greater :: tail) = [] ++ greater :: trimRight tail :=
    trim_append_cons rfl [] tail
  apply o.head_ne
  rw [htail]
  exact congrArg List.head? htrim

theorem text_ne_nil (o : OperandText) : o.text ≠ [] := by
  obtain ⟨c, hc, -⟩ := o.notBlank
  exact List.ne_nil_of_mem hc

theorem quote_notMem_trimLeft (o : OperandText) : quote ∉ o.text.trimLeft := by
  obtain ⟨blanks, -, hs⟩ := exists_blanks_append_trimLeft o.text
  intro hmem
  apply o.unquoted
  rw [hs]
  exact List.mem_append_right blanks hmem

theorem quote_notMem_trimRight (o : OperandText) : quote ∉ o.text.trimRight := by
  obtain ⟨blanks, -, hs⟩ := exists_trimRight_append_blanks o.text
  intro hmem
  apply o.unquoted
  rw [hs]
  exact List.mem_append_left blanks hmem

/-! ## The text of a chain -/

theorem isBlank_byte (op : Arithmetic) : isBlank op.byte = false := by
  cases op <;> decide

/-- The text of a chain around one of its operators. -/
theorem join_append (o q : OperandText) (op : Arithmetic) (before after : Tail) :
    o.join (before ++ (op, q) :: after) = o.join before ++ op.byte :: q.join after := by
  induction before generalizing o with
  | nil => rfl
  | cons p before ih => simp [join, ih]

theorem trimLeft_join_cons (o p : OperandText) (op : Arithmetic) (rest : Tail) :
    (o.join ((op, p) :: rest)).trimLeft = o.text.trimLeft ++ op.byte :: p.join rest :=
  trimLeft_append_cons (isBlank_byte op) o.text (p.join rest)

theorem trimRight_join_cons (o p : OperandText) (op : Arithmetic) (rest : Tail) :
    (o.join ((op, p) :: rest)).trimRight = o.text ++ op.byte :: (p.join rest).trimRight :=
  trimRight_append_cons (isBlank_byte op) o.text (p.join rest)

theorem trimLeft_join_ne_nil (o : OperandText) (rest : Tail) : (o.join rest).trimLeft ≠ [] := by
  match rest with
  | [] => exact trimLeft_ne_nil o.notBlank
  | (op, p) :: rest => simp [trimLeft_join_cons]

theorem trimRight_join_ne_nil (o : OperandText) (rest : Tail) : (o.join rest).trimRight ≠ [] := by
  match rest with
  | [] => exact trimRight_ne_nil o.notBlank
  | (op, p) :: rest => simp [trimRight_join_cons]

/-- A chain starts with the first byte of its first operand. -/
theorem head?_join (o : OperandText) (rest : Tail) : (o.join rest).head? = o.text.head? := by
  match rest with
  | [] => rfl
  | (op, p) :: rest => rw [join, List.head?_append_of_ne_nil _ o.text_ne_nil]

/-- A chain does not make an arrow of a minus sign before it. -/
theorem head?_trimRight_join_ne (o : OperandText) (rest : Tail) :
    (o.join rest).trimRight.head? ≠ some greater := by
  intro hhead
  obtain ⟨blanks, -, hs⟩ := exists_trimRight_append_blanks (o.join rest)
  apply o.head?_text_ne
  rw [← o.head?_join rest, hs, List.head?_append, hhead]
  rfl

/-- Nothing but blanks is taken off a chain. -/
theorem unwrap_join_cons (o p : OperandText) (op : Arithmetic) (rest : Tail) :
    Scan.unwrap (o.join ((op, p) :: rest)) = (o.join ((op, p) :: rest)).trim := by
  have hclosed : Scan.bracketDepth o.text.trimLeft = 0 := by
    rw [Scan.bracketDepth_trimLeft, o.closed]
  have hnone : Scan.enclosed? (o.join ((op, p) :: rest)).trim = none := by
    rw [join, trim_append_cons (isBlank_byte op)]
    exact Scan.enclosed?_append_cons hclosed (trimLeft_ne_nil o.notBlank) _ _
  rw [Scan.unwrap, hnone]

/-- What is left of a chain around one of its operators. -/
theorem trim_join_append (o q : OperandText) (op : Arithmetic) (before after : Tail) :
    (o.join (before ++ (op, q) :: after)).trim =
      (o.join before).trimLeft ++ op.byte :: (q.join after).trimRight := by
  rw [join_append, trim_append_cons (isBlank_byte op)]

/-! ## The operators of a chain -/

/-- No number has an operator sign after its first byte. -/
theorem negativeLiteral?_append_cons {left : Bytes} (hleft : left ≠ []) (op : Arithmetic)
    (right : Bytes) : Expression.negativeLiteral? (left ++ op.byte :: right) = none := by
  have hnone : Literal.single? (left ++ op.byte :: right) = none := by
    refine Option.eq_none_iff_forall_ne_some.2 fun value hvalue => ?_
    obtain ⟨body, -, hbody, hs⟩ := Literal.exists_numeral_of_single? hvalue
    have hmem : op.byte ∈ body := by
      rcases hs with hs | hs
      · simp [← hs]
      · obtain ⟨c, left, rfl⟩ := List.exists_cons_of_ne_nil hleft
        simp [← (List.cons.inj hs).2]
    exact absurd (hbody op.byte hmem) (by cases op <;> decide)
  rw [Expression.negativeLiteral?, hnone, Option.map_none, ite_self]

/-- The first operator of a chain is found behind its first operand. -/
theorem findOperator_trimRight_join (o : OperandText) (rest : Tail) :
    Scan.findOperator true 0 (o.join rest).trimRight =
      rest.head?.map fun p => (o.text.length, p.1) := by
  match rest with
  | [] =>
    have hclosed : Scan.bracketDepth o.text.trimRight = 0 := by
      rw [Scan.bracketDepth_trimRight, o.closed]
    have h := Scan.findOperator_append o.quote_notMem_trimRight hclosed o.operatorFree.trimRight []
    rwa [List.append_nil] at h
  | (op, p) :: rest =>
    rw [trimRight_join_cons, Scan.findOperator_append o.unquoted o.closed o.operatorFree,
      Scan.findOperator_byte_cons op (p.head?_trimRight_join_ne rest)]
    simp

/-- The first operator of a chain, after the blanks before it were taken off. -/
theorem nextOperator_trim_join (o p : OperandText) (op : Arithmetic) (rest : Tail) :
    Scan.nextOperator (o.join ((op, p) :: rest)).trim 0 = some (o.text.trimLeft.length, op) := by
  have hclosed : Scan.bracketDepth o.text.trimLeft = 0 := by
    rw [Scan.bracketDepth_trimLeft, o.closed]
  rw [Scan.nextOperator_zero, join, trim_append_cons (isBlank_byte op),
    Scan.findOperator_append o.quote_notMem_trimLeft hclosed o.operatorFree.trimLeft,
    Scan.findOperator_byte_cons op (p.head?_trimRight_join_ne rest)]
  simp

/-- The second operator of a chain is found behind its second operand. -/
theorem nextOperator_trim_join_succ (o p : OperandText) (op : Arithmetic) (rest : Tail) :
    Scan.nextOperator (o.join ((op, p) :: rest)).trim (o.text.trimLeft.length + 1) =
      rest.head?.map fun q => ((o.join [(op, p)]).trimLeft.length, q.1) := by
  -- it is looked for behind the first, outside quotes as there are none
  have hquote : quote ∉ o.text.trimLeft ++ [op.byte] := by
    rw [List.mem_append, List.mem_singleton, not_or]
    exact ⟨o.quote_notMem_trimLeft, by cases op <;> decide⟩
  have hlength : (o.join [(op, p)]).trimLeft.length =
      p.text.length + (o.text.trimLeft.length + 1) := by
    rw [trimLeft_join_cons, join, List.length_append, List.length_cons]
    omega
  have hnext := Scan.nextOperator_append hquote (p.join rest).trimRight
  rw [findOperator_trimRight_join, List.append_assoc, List.singleton_append, List.length_append,
    List.length_singleton, Option.map_map] at hnext
  rw [join, trim_append_cons (isBlank_byte op), hnext, hlength]
  rfl

/-- A chain of two operands is divided at its operator. -/
theorem division_trim_join_pair (o p : OperandText) (op : Arithmetic) :
    division (o.join [(op, p)]).trim (o.text.trimLeft.length, op) =
      (o.text.trimLeft.length, op) := by
  rw [division, nextOperator_trim_join_succ]
  rfl

/-- A longer chain is divided at its second operator if that one binds no tighter than the
first. -/
theorem division_trim_join_cons_cons (o p q : OperandText) (op next : Arithmetic) (rest : Tail) :
    division (o.join ((op, p) :: (next, q) :: rest)).trim (o.text.trimLeft.length, op) =
      if next.bindsNoTighter op then ((o.join [(op, p)]).trimLeft.length, next)
      else (o.text.trimLeft.length, op) := by
  rw [division, nextOperator_trim_join_succ]
  rfl

/-- A chain that is divided at one of its operators is read as the two chains around it. -/
theorem parse_join_of_division (scope : Scope) (o p q : OperandText) {first op : Arithmetic}
    (before : Tail) {after rest : Tail} (hrest : (first, p) :: rest = before ++ (op, q) :: after)
    (hdivision : division (o.join ((first, p) :: rest)).trim (o.text.trimLeft.length, first) =
      ((o.join before).trimLeft.length, op)) :
    Expression.parse scope (o.join ((first, p) :: rest)) =
      Expression.combine op (Expression.parse scope (o.join before))
        (Expression.parse scope (q.join after)) := by
  have hunwrap := unwrap_join_cons o p first rest
  have htrim : (o.join ((first, p) :: rest)).trim =
      (o.join before).trimLeft ++ op.byte :: (q.join after).trimRight := by
    rw [hrest, trim_join_append]
  have hleft := o.trimLeft_join_ne_nil before
  -- blanks at the ends of the two sides make no difference
  rw [← Expression.parse_of_unwrap_eq (Scan.unwrap_trimLeft (o.join before)),
    ← Expression.parse_of_unwrap_eq (Scan.unwrap_trimRight (q.join after))]
  refine Expression.parse_eq_binary scope (o.text.trimLeft.length, first) ?_ hleft
    (q.trimRight_join_ne_nil after) ?_ ?_ ?_
  · rw [hunwrap, htrim]
  · rw [hunwrap, nextOperator_trim_join]
  · rw [hunwrap, htrim, negativeLiteral?_append_cons hleft]
  · rw [hunwrap, hdivision]

/-- A chain of two operands is read as both of them. -/
theorem parse_join_pair (scope : Scope) (o p : OperandText) (op : Arithmetic) :
    Expression.parse scope (o.join [(op, p)]) =
      Expression.combine op (Expression.parse scope o.text) (Expression.parse scope p.text) :=
  parse_join_of_division scope o p p [] rfl (division_trim_join_pair o p op)

/-- A longer chain is read as the two chains around its second operator if that one binds no tighter
than the first, and as the two chains around its first operator otherwise. -/
theorem parse_join_cons_cons (scope : Scope) (o p q : OperandText) (op next : Arithmetic)
    (rest : Tail) :
    Expression.parse scope (o.join ((op, p) :: (next, q) :: rest)) =
      if next.bindsNoTighter op then
        Expression.combine next (Expression.parse scope (o.join [(op, p)]))
          (Expression.parse scope (q.join rest))
      else Expression.combine op (Expression.parse scope o.text)
        (Expression.parse scope (p.join ((next, q) :: rest))) := by
  have hdivision := division_trim_join_cons_cons o p q op next rest
  by_cases htight : next.bindsNoTighter op
  · rw [if_pos htight] at hdivision
    have hrest : (op, p) :: (next, q) :: rest = [(op, p)] ++ (next, q) :: rest := rfl
    rw [if_pos htight, parse_join_of_division scope o p q [(op, p)] hrest hdivision]
  · rw [if_neg htight] at hdivision
    rw [if_neg htight]
    exact parse_join_of_division scope o p p [] rfl hdivision

/-- Every chain is read by the rule: it is divided at its second operator if that one is additive
or the first one is multiplicative, and at its first operator otherwise, and an error on the left
side comes before one on the right side. -/
theorem parse_join (scope : Scope) (o : OperandText) (rest : Tail) :
    Expression.parse scope (o.join rest) = o.lookAhead scope rest := by
  -- both sides of an operator have fewer operators than the whole
  fun_induction lookAhead scope o rest with
  | case1 o => rfl
  | case2 o op p ihleft ihright => rw [parse_join_pair, ← ihleft, ← ihright, join, join]
  | case3 o op p next q rest htight ihleft ihright =>
    rw [parse_join_cons_cons, Arithmetic.bindsNoTighter, if_pos htight, ihleft, ihright]
  | case4 o op p next q rest htight ihleft ihright =>
    rw [parse_join_cons_cons, Arithmetic.bindsNoTighter, if_neg htight, ← ihleft, ihright, join]

/-- The scope of a script with two shorts. -/
def ranks : Scope :=
  Scope.declareAll {} .short [ascii "rank", ascii "level"]

/-- An operand with operators in brackets. -/
def product : OperandText :=
  ⟨ascii "(rank * (2 - level)) ", by decide, by decide, by decide, by decide, by decide⟩

/-- An operand with an arrow, in the parameter of a call. -/
def distance : OperandText :=
  ⟨ascii " GetDistance door->inner ", by decide, by decide, by decide, by decide, by decide⟩

/-- A number with a blank on each side. -/
def two : OperandText :=
  ⟨ascii " 2 ", by decide, by decide, by decide, by decide, by decide⟩

/-- A chain is divided at its first operator, and what follows it at the second one. -/
theorem parse_join_distance :
    product.join [(.sub, distance), (.mul, two), (.sub, two)] =
      ascii "(rank * (2 - level)) - GetDistance door->inner * 2 - 2 " ∧
    (Expression.parse ranks
      (ascii "(rank * (2 - level)) - GetDistance door->inner * 2 - 2 ")).result =
      .ok (.binary .sub
        (.binary .mul (.atom (.localVariable (ascii "rank") ⟨.short, 1⟩))
          (.binary .sub (.atom (.literal (ascii "2") 0x40000000))
            (.atom (.localVariable (ascii "level") ⟨.short, 2⟩))))
        (.binary .sub
          (.binary .mul
            (.atom (.call (ascii "GetDistance door->inner")
              ⟨⟨0x1001⟩, [0x20, 0x72], [.text (ascii "door->inner")]⟩))
            (.atom (.literal (ascii "2") 0x40000000)))
          (.atom (.literal (ascii "2") 0x40000000)))) := by
  have htext : product.join [(.sub, distance), (.mul, two), (.sub, two)] =
      ascii "(rank * (2 - level)) - GetDistance door->inner * 2 - 2 " := by
    decide
  have hdistance : (Expression.parse ranks distance.text).result =
      .ok (.atom (.call (ascii "GetDistance door->inner")
        ⟨⟨0x1001⟩, [0x20, 0x72], [.text (ascii "door->inner")]⟩)) := by
    decide +kernel
  have htwo : (Expression.parse ranks two.text).result =
      .ok (.atom (.literal (ascii "2") 0x40000000)) := by
    decide +kernel
  -- a product after a difference binds tighter, and a difference after a product does not
  have hdivided : product.lookAhead ranks [(.sub, distance), (.mul, two), (.sub, two)] =
      Expression.combine .sub (Expression.parse ranks product.text)
        (Expression.combine .sub
          (Expression.combine .mul (Expression.parse ranks distance.text)
            (Expression.parse ranks two.text))
          (Expression.parse ranks two.text)) := by
    simp [lookAhead, Arithmetic.isAdditive, Arithmetic.isMultiplicative]
  refine ⟨htext, ?_⟩
  rw [← htext, parse_join, hdivided]
  refine Expression.result_combine ?_
    (Expression.result_combine (Expression.result_combine hdistance htwo) htwo)
  -- what is in brackets is read by itself
  decide +kernel

end OperandText

end MorrowindScript
