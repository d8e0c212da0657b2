import MorrowindScript.Proofs.Program.Derivation
import Mathlib.Logic.Basic

/-!
# The length in front of an assigned value

An assignment has the length of its value in one byte, after the target and before the value. A
value that can be read is measured before it is written. A value that is kept as text is not, and
its length wraps.

The module introduces:

* `Assignment.valueText?` — the text of the value in a line.
* `Statement.encode_assignment` — where the byte stands in the bytecode of an assignment.
* `Program.lengthByte_eq_iff_of_compile` — in a script that compiles the byte is the length of the
  value iff the value can be read, or is a text of at most 254 bytes.
-/

namespace MorrowindScript

open Bytes

/-! ## The value of a line -/

namespace Assignment

/-- What follows the word `to`, without the blanks and brackets around it and without an object in
front of it. -/
def valueText? (line : Bytes) : Option Bytes :=
  let work := trimLeft (line.drop LineKind.assignment.operandOffset)
  (Scan.toPosition work).map fun separator =>
    let value := Scan.unwrap (work.drop (separator + 4))
    match Scan.qualifierStart value with
    | none => trimLeft value
    | some q => trimLeft (value.drop (q + 2))

/-- An assignment that compiles assigns what its value is read as. -/
theorem exists_value_of_compile {scope : Scope} {line : Bytes} {object : Option Bytes}
    {instruction : Instruction} (h : (compile scope line).result = .ok (object, instruction)) :
    ∃ text target value, valueText? line = some text ∧
      (Value.parse scope text).result = .ok value ∧ instruction = .assignment target value := by
  rw [compile] at h
  simp only [Outcome.result_bind_eq_ok, Outcome.result_ofOption_eq_ok,
    Outcome.result_ofExcept] at h
  obtain ⟨separator, hseparator, ⟨name, rest⟩, hsplit, target, -, h⟩ := h
  split at h
  · simp at h
  · obtain ⟨value, hvalue, hq⟩ := Outcome.result_bind_eq_ok.1 h
    obtain rfl : Instruction.assignment target value = instruction :=
      (Prod.mk.inj (Except.ok.inj hq)).2
    refine ⟨trimLeft rest, target, value, ?_, hvalue, rfl⟩
    rw [valueText?, hseparator, Option.map_some]
    -- the object is cut off at the same arrow, and there is none without an arrow
    rw [splitObject] at hsplit
    split at hsplit
    · next harrow =>
      obtain ⟨-, rfl⟩ := Prod.mk.inj (Except.ok.inj hsplit)
      simp only [harrow]
    · next q harrow =>
      simp only at hsplit
      split at hsplit
      · simp at hsplit
      · obtain ⟨-, rfl⟩ := Prod.mk.inj (Except.ok.inj hsplit)
        simp only [harrow]

end Assignment

namespace Value

/-- A value that was read fits its length. -/
theorem length_content_le_of_parse {scope : Scope} {text : Bytes} {e : Expression}
    (h : (parse scope text).result = .ok (.expression e)) :
    (expression e).content.length ≤ 255 := by
  rcases cases_of_parse_eq_ok h with ⟨e', -, hsize, he⟩ | htext
  · obtain rfl : e = e' := Value.expression.inj he
    exact hsize
  · exact absurd htext (by simp)

/-- A value is an expression iff its text can be read as that expression. -/
theorem eq_expression_iff_of_parse {scope : Scope} {text : Bytes} {value : Value}
    (h : (parse scope text).result = .ok value) (e : Expression) :
    value = .expression e ↔ (Expression.parse scope text).result = .ok e := by
  rw [parse] at h
  split at h
  · next e' he' =>
    split at h
    · simp at h
    · obtain rfl : Value.expression e' = value := Except.ok.inj h
      rw [he', Value.expression.injEq, Except.ok.injEq]
  · next error herror =>
    obtain rfl : Value.text text = value := Except.ok.inj h
    simp [herror]

end Value

/-- Only assignments compile to assignments. -/
theorem SourceLine.compile_assignment_of_compile {scope : Scope} {text : Bytes} {kind : LineKind}
    {following : List LineKind} {object : Option Bytes} {target : Target} {value : Value}
    (h : (SourceLine.compile scope text kind following).result =
      .ok (object, .assignment target value)) :
    (Assignment.compile scope text).result = .ok (object, .assignment target value) := by
  rcases cases_of_compile h with ⟨-, hset⟩ | ⟨_, -, hconditional⟩ | ⟨-, hcall⟩ |
    ⟨_, -, -, -, hcall⟩ | ⟨-, hplain⟩
  · exact hset
  · obtain ⟨_, _, -, -, -, -, hq⟩ := Conditional.result_compile_eq_ok_iff.1 hconditional
    exact absurd hq (by simp)
  · obtain ⟨_, _, -, -, -, hq⟩ := Call.exists_of_compileQualified_eq_ok hcall
    exact absurd hq (by simp)
  · exact absurd hcall (by simp)
  · nomatch hplain

/-! ## The byte -/

/-- The length of a text fits a byte iff it has fewer than 256 bytes. -/
theorem toNat_ofNat_length_eq_iff (s : Bytes) :
    (UInt8.ofNat s.length).toNat = s.length ↔ s.length < 256 := by
  rw [UInt8.toNat_ofNat']
  constructor
  · intro h
    rw [← h]
    exact Nat.mod_lt _ (by decide)
  · exact Nat.mod_eq_of_lt

/-- An assignment ends with the length of its value and the value. -/
theorem Statement.encode_assignment {s : Statement} {target : Target} {value : Value}
    (h : s.instruction = .assignment target value) :
    s.encode = (s.object.map qualifierBytes).getD [] ++ Opcode.assignment.encode ++
      target.encode ++ UInt8.ofNat value.content.length :: value.content := by
  have hinstruction : s.instruction.encode = Opcode.assignment.encode ++
      (target.encode ++ UInt8.ofNat value.content.length :: value.content) := by
    rw [h]
    rfl
  rw [encode, hinstruction]
  cases s.object <;> simp

namespace Program

/-- In a script that compiles, every assignment ends with a byte and the value. The byte is the
number of bytes of the value iff the text of the value could be read, or was kept and has at most
254 bytes. -/
theorem lengthByte_eq_iff_of_compile {tables : Tables} {source : Bytes} {p : Program}
    (h : (compile tables source).result = .ok p) {s : Statement} (hs : s ∈ p.statements)
    {target : Target} {value : Value} (hset : s.instruction = .assignment target value) :
    ∃ scope text lengthByte, scope.tables = tables ∧
      Assignment.valueText? s.line.text = some text ∧
      s.encode = (s.object.map qualifierBytes).getD [] ++ Opcode.assignment.encode ++
        target.encode ++ lengthByte :: value.content ∧
      (value = .text text ∨ ∃ e, value = .expression e) ∧
      (∀ e, value = .expression e ↔ (Expression.parse scope text).result = .ok e) ∧
      (lengthByte.toNat = value.content.length ↔
        (∃ e, (Expression.parse scope text).result = .ok e) ∨ text.length ≤ 254) := by
  obtain ⟨scope, following, htables, -, hcompile⟩ := exists_compile_of_mem_statements h hs
  rw [hset] at hcompile
  obtain ⟨text, target', value', htext, hvalue, heq⟩ :=
    Assignment.exists_value_of_compile (SourceLine.compile_assignment_of_compile hcompile)
  obtain ⟨rfl, rfl⟩ := Instruction.assignment.inj heq
  have hread := Value.eq_expression_iff_of_parse hvalue
  refine ⟨scope, text, _, htables, htext, s.encode_assignment hset, ?_, hread, ?_⟩
  · rcases Value.cases_of_parse_eq_ok hvalue with ⟨e, -, -, he⟩ | hkept
    · exact .inr ⟨e, he⟩
    · exact .inl hkept
  · rw [toNat_ofNat_length_eq_iff]
    cases value with
    | expression e =>
      -- an expression was measured
      have hle := Value.length_content_le_of_parse hvalue
      have hparsed : ∃ e, (Expression.parse scope text).result = .ok e := ⟨e, (hread e).1 rfl⟩
      exact iff_of_true (by omega) (.inl hparsed)
    | text kept =>
      -- a text has a blank in front of it
      obtain rfl : kept = text := by
        rcases Value.cases_of_parse_eq_ok hvalue with ⟨e, -, -, he⟩ | hkept
        · exact absurd he (by simp)
        · exact Value.text.inj hkept
      have hunread : ¬ ∃ e, (Expression.parse scope kept).result = .ok e := by
        rintro ⟨e, he⟩
        exact absurd ((hread e).2 he) (by simp)
      rw [or_iff_right hunread, Value.content, List.length_cons]
      omega

/-- A script that assigns a sum, and a sum that lacks its second operand. -/
def assigning : Bytes :=
  joinWith [lineFeed] (List.map ascii
    ["begin T", "short x", "set x to ( x + 1 )", "set x to 1 +", "end"])

theorem lengthByte_eq_iff_of_compile_assigning :
    ∃ p s target, (compile .empty assigning).result = .ok p ∧ s ∈ p.statements ∧
      s.instruction = .assignment target (.text (ascii "1 +")) ∧
      ∃ scope text lengthByte, scope.tables = .empty ∧
        Assignment.valueText? s.line.text = some text ∧
        s.encode = (s.object.map qualifierBytes).getD [] ++ Opcode.assignment.encode ++
          target.encode ++ lengthByte :: (Value.text (ascii "1 +")).content ∧
        (lengthByte.toNat = (Value.text (ascii "1 +")).content.length ↔
          (∃ e, (Expression.parse scope text).result = .ok e) ∨ text.length ≤ 254) := by
  let target : Target := .localVariable ⟨.short, 1⟩
  let s : Statement :=
    ⟨⟨ascii "set x to 1 +", 4⟩, none, .assignment target (.text (ascii "1 +"))⟩
  obtain ⟨p, hp⟩ : ∃ p, (compile .empty assigning).result = .ok p :=
    Outcome.exists_result_eq_ok (by decide +kernel)
  have hs : s ∈ p.statements := by
    have hmem : (compile .empty assigning).result.toOption.any (s ∈ ·.statements) = true := by
      decide +kernel
    simpa [hp, Except.toOption] using hmem
  obtain ⟨scope, text, lengthByte, htables, htext, hencode, -, -, hiff⟩ :=
    lengthByte_eq_iff_of_compile hp hs rfl
  exact ⟨p, s, target, hp, hs, rfl, scope, text, lengthByte, htables, htext, hencode, hiff⟩

/-- A sum of 255 bytes that lacks its second operand. -/
def longSum : Bytes :=
  List.replicate 254 0x31 ++ ascii "+"

/-- A script that assigns the long sum. -/
def longText : Bytes :=
  joinWith [lineFeed] [ascii "begin T", ascii "short x", ascii "set x to " ++ longSum, ascii "end"]

/-- A text of 255 bytes and the blank in front of it are written after a length of zero. -/
theorem lengthByte_ne_length_longText :
    ∃ p s target text, (compile .empty longText).result = .ok p ∧ s ∈ p.statements ∧
      s.instruction = .assignment target (.text text) ∧
      s.encode = Opcode.assignment.encode ++ target.encode ++ 0 :: (Value.text text).content ∧
      (0 : UInt8).toNat ≠ (Value.text text).content.length := by
  let s : Statement := ⟨⟨ascii "set x to " ++ longSum, 3⟩, none,
    .assignment (.localVariable ⟨.short, 1⟩) (.text longSum)⟩
  let p : Program := ⟨ascii "T", { shorts := [ascii "x"] },
    [s, ⟨⟨ascii "end", 4⟩, none, .scriptEnd⟩], longText⟩
  have hp : (compile .empty longText).result = .ok p :=
    Outcome.result_eq_ok_of_toOption (by decide +kernel)
  exact ⟨p, s, .localVariable ⟨.short, 1⟩, longSum, hp, List.mem_cons_self, rfl, by decide +kernel,
    by decide +kernel⟩

end Program

end MorrowindScript
