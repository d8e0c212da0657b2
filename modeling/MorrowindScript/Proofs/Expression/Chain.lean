import MorrowindScript.Proofs.Expression.Grammar
import MorrowindScript.Proofs.Expression.LookAhead

/-!
# Reading chains of operands and operators

What `Expression.parse` makes of a text that consists of plain operands, numbers and names of
locals, with an operator between any two of them.

* `PlainOperand`, `chainText`: plain operands and the texts made of them.
* `parse_chainText`: a chain of any length is read as its look-ahead tree.
* `parse_chainText_eq_grammar_iff`: so it is read as the usual grammar has it exactly if its
  operators are shallow.
-/

namespace MorrowindScript

open Bytes

/-! ## Bytes of plain operands -/

/-- Letters, digits and the underscore. -/
def isNameByte (c : UInt8) : Bool :=
  isDigit c || (0x41 ≤ c && c ≤ 0x5A) || (0x61 ≤ c && c ≤ 0x7A) || c == 0x5F

/-- The bytes of names and of numbers without sign. -/
def isPlainByte (c : UInt8) : Bool :=
  isNameByte c || c == dot

/-- A plain byte differs from every byte that is not plain. -/
private theorem ne_of_isPlainByte {c d : UInt8} (h : isPlainByte c) (hd : isPlainByte d = false) :
    c ≠ d := by
  rintro rfl
  exact absurd h (by simp [hd])

/-- Plain bytes are not blank. -/
theorem isBlank_of_isPlainByte {c : UInt8} (h : isPlainByte c) : isBlank c = false := by
  have hspace : c ≠ space := ne_of_isPlainByte h (by decide)
  have htab : c ≠ tab := ne_of_isPlainByte h (by decide)
  simp [isBlank, hspace, htab]

/-- Plain bytes spell no operator. -/
theorem ofByte?_of_isPlainByte {c : UInt8} (h : isPlainByte c) : Arithmetic.ofByte? c = none := by
  have hadd : c ≠ 0x2B := ne_of_isPlainByte h (by decide)
  have hsub : c ≠ 0x2D := ne_of_isPlainByte h (by decide)
  have hmul : c ≠ 0x2A := ne_of_isPlainByte h (by decide)
  have hdiv : c ≠ 0x2F := ne_of_isPlainByte h (by decide)
  simp [Arithmetic.ofByte?, hadd, hsub, hmul, hdiv]

/-! ## Plain operands -/

/-- What a plain operand is read as: a number without sign, or else the name of a local made of
letters, digits and underscores. -/
inductive ReadsPlainly (scope : Scope) : Bytes → Atom → Prop
  | literal {text : Bytes} {value : Float32} :
      Literal.single? text = some value → text.head? ≠ some minus →
        ReadsPlainly scope text (.literal text value.toBits)
  | localVariable {text : Bytes} {slot : Slot} :
      text ≠ [] → (∀ c ∈ text, isNameByte c) → Literal.single? text = none →
        scope.slot? text = some slot → ReadsPlainly scope text (.localVariable text slot)

/-- A plain operand. -/
structure PlainOperand (scope : Scope) where
  /-- The operand as written. -/
  text : Bytes
  /-- What it is read as. -/
  atom : Atom
  /-- The text is read so. -/
  reads : ReadsPlainly scope text atom

namespace PlainOperand

variable {scope : Scope}

/-- A number without sign as an operand. -/
def ofNumber (text : Bytes) (hnumber : (Literal.single? text).isSome)
    (hsign : text.head? ≠ some minus) : PlainOperand scope where
  text := text
  atom := .literal text ((Literal.single? text).get hnumber).toBits
  reads := .literal (Option.some_get hnumber).symm hsign

/-- A plain operand is not empty. -/
theorem text_ne_nil (o : PlainOperand scope) : o.text ≠ [] := by
  rcases o with ⟨text, _, hvalue, _⟩
  · rintro rfl
    exact absurd hvalue (by simp [Literal.single?])
  · assumption

/-- A plain operand is made of plain bytes. -/
theorem isPlainByte_of_mem (o : PlainOperand scope) : ∀ c ∈ o.text, isPlainByte c := by
  rcases o with ⟨text, _, hvalue, hsign⟩
  · obtain ⟨body, -, hbody, rfl | rfl⟩ := Literal.exists_numeral_of_single? hvalue
    · intro c hc
      have := hbody c hc
      simp only [Literal.isNumeral, Bool.or_eq_true] at this
      rcases this with hdigit | hdot
      · simp [isPlainByte, isNameByte, hdigit]
      · simp [isPlainByte, hdot]
    -- a plain number has no sign
    · exact absurd rfl hsign
  · next hname _ _ =>
    intro c hc
    simp [isPlainByte, hname c hc]

/-- A plain operand can stand between two operators. -/
def operand (o : PlainOperand scope) : OperandText where
  text := o.text
  notBlank := by
    obtain ⟨c, hc⟩ := List.exists_mem_of_ne_nil o.text o.text_ne_nil
    exact ⟨c, hc, isBlank_of_isPlainByte (o.isPlainByte_of_mem c hc)⟩
  unquoted := fun h => absurd (o.isPlainByte_of_mem quote h) (by decide)
  head_ne := by
    rw [trim_eq_self fun c hc => isBlank_of_isPlainByte (o.isPlainByte_of_mem c hc)]
    intro h
    exact absurd (o.isPlainByte_of_mem greater (List.mem_of_mem_head? h)) (by decide)
  closed := Scan.bracketDepth_eq_zero
    (fun h => absurd (o.isPlainByte_of_mem openBracket h) (by decide))
    (fun h => absurd (o.isPlainByte_of_mem closeBracket h) (by decide))
  operatorFree := .of_forall fun c hc => ofByte?_of_isPlainByte (o.isPlainByte_of_mem c hc)

/-- A plain operand is read as its atom. -/
theorem parse_text (o : PlainOperand scope) : Atom.parse scope o.text = pure o.atom := by
  rcases o with ⟨text, _, hvalue, _⟩
  · simp [Atom.parse, hvalue]
  · next hnone hslot => simp [Atom.parse, hnone, hslot]

/-- As an expression too, since it has no operators. -/
theorem parse_operand (o : PlainOperand scope) :
    Expression.parse scope o.operand.text = pure (.atom o.atom) := by
  have hunwrap : Scan.unwrap o.operand.text = o.text := by
    refine Scan.unwrap_eq_self (fun c hc => ?_) (fun h => ?_)
    · exact isBlank_of_isPlainByte (o.isPlainByte_of_mem c hc)
    · exact absurd (o.isPlainByte_of_mem openBracket (List.mem_of_mem_head? h)) (by decide)
  have hnone : Scan.nextOperator (Scan.unwrap o.operand.text) 0 = none := by
    rw [hunwrap]
    exact Scan.nextOperator_eq_none o.operand.unquoted o.operand.closed o.operand.operatorFree
  rw [Expression.parse_eq_atom scope hnone, hunwrap, o.parse_text]
  rfl

end PlainOperand

/-! ## Chains -/

section Chain

variable {scope : Scope}

/-- The text of a chain: its operands with the operators between them. -/
def chainText (o : PlainOperand scope) : List (Arithmetic × PlainOperand scope) → Bytes
  | [] => o.text
  | (op, p) :: rest => o.text ++ op.byte :: chainText p rest

/-- The operators of a chain with what its operands are read as. -/
def chainAtoms (rest : List (Arithmetic × PlainOperand scope)) : ChainTail :=
  rest.map fun (op, p) => (op, p.atom)

/-- The operators of a chain with the texts of its operands. -/
def chainOperands (rest : List (Arithmetic × PlainOperand scope)) : OperandText.Tail :=
  rest.map fun (op, p) => (op, p.operand)

theorem chainText_eq_join (o : PlainOperand scope)
    (rest : List (Arithmetic × PlainOperand scope)) :
    chainText o rest = o.operand.join (chainOperands rest) := by
  induction rest generalizing o with
  | nil => rfl
  | cons p rest ih =>
    rw [chainText, ih]
    rfl

/-- A chain is read as its look-ahead tree. -/
theorem parse_chainText (o : PlainOperand scope) :
    ∀ rest : List (Arithmetic × PlainOperand scope),
      Expression.parse scope (chainText o rest) = pure (lookAheadTree o.atom (chainAtoms rest))
  | [] => o.parse_operand
  | [(op, p)] => by
    have hpair := OperandText.parse_join_pair scope o.operand p.operand op
    rw [o.parse_operand, p.parse_operand] at hpair
    rw [chainText_eq_join]
    exact hpair
  | (op, p) :: (next, q) :: rest => by
    have hstep := OperandText.parse_join_cons_cons scope o.operand p.operand q.operand op next
      (chainOperands rest)
    have hleft := parse_chainText o [(op, p)]
    have hright := parse_chainText q rest
    have hlater := parse_chainText p ((next, q) :: rest)
    rw [chainText_eq_join] at hleft hright hlater ⊢
    refine hstep.trans ?_
    by_cases htight : next.bindsNoTighter op
    -- divided at the second operator: one operator on the left, the others on the right
    · rw [if_pos htight]
      refine (congrArg₂ (Expression.combine next) hleft hright).trans ?_
      simp [Expression.combine, chainAtoms, lookAheadTree, htight]
    -- divided at the first operator: a single operand on the left
    · rw [if_neg htight]
      refine (congrArg₂ (Expression.combine op) o.parse_operand hlater).trans ?_
      simp [Expression.combine, chainAtoms, lookAheadTree, htight]

/-- Every chain of plain operands can be read, and has exactly one tree by the usual grammar. It is
read as that tree exactly if its operators are shallow; in general it is read as its look-ahead
tree. -/
theorem parse_chainText_eq_grammar_iff (o : PlainOperand scope)
    (rest : List (Arithmetic × PlainOperand scope)) :
    Expression.parse scope (chainText o rest) = pure (lookAheadTree o.atom (chainAtoms rest)) ∧
      ∃ t, (∀ t', IsSum o.atom (chainAtoms rest) t' ↔ t' = t) ∧
        (Expression.parse scope (chainText o rest) = pure t ↔ IsShallow (rest.map (·.1))) := by
  have hops : (chainAtoms rest).map (·.1) = rest.map (·.1) := by
    simp [chainAtoms, Function.comp_def]
  obtain ⟨t, ht, hunique⟩ := existsUnique_isSum o.atom (chainAtoms rest)
  have hgrammar (t' : Expression) : IsSum o.atom (chainAtoms rest) t' ↔ t' = t :=
    ⟨hunique t', fun h => h ▸ ht⟩
  refine ⟨parse_chainText o rest, t, hgrammar, ?_⟩
  rw [parse_chainText, ← hops, ← isSum_lookAheadTree_iff, hgrammar]
  simp

end Chain

/-- A difference of four numbers is not read from left to right, as the usual grammar has it: the
last two of them are subtracted first. -/
theorem parse_difference_ne_grammar :
    ∃ (a b c d : PlainOperand {}) (t : Expression),
      chainText a [(.sub, b), (.sub, c), (.sub, d)] = ascii "8-4-2-1" ∧
      IsSum a.atom [(.sub, b.atom), (.sub, c.atom), (.sub, d.atom)] t ∧
      (Expression.parse {} (ascii "8-4-2-1")).result ≠ .ok t ∧
      (Expression.parse {} (ascii "8-4-2-1")).result = .ok (.binary .sub
        (.binary .sub (.atom a.atom) (.atom b.atom))
        (.binary .sub (.atom c.atom) (.atom d.atom))) := by
  let a : PlainOperand {} := .ofNumber (ascii "8") (by decide +kernel) (by decide)
  let b : PlainOperand {} := .ofNumber (ascii "4") (by decide +kernel) (by decide)
  let c : PlainOperand {} := .ofNumber (ascii "2") (by decide +kernel) (by decide)
  let d : PlainOperand {} := .ofNumber (ascii "1") (by decide +kernel) (by decide)
  refine ⟨a, b, c, d, grammarTree a.atom [(.sub, b.atom), (.sub, c.atom), (.sub, d.atom)], ?_⟩
  exact ⟨by decide, isSum_grammarTree _ _, by decide +kernel, by decide +kernel⟩

end MorrowindScript
