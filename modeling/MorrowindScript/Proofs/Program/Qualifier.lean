import MorrowindScript.Proofs.Bytecode.Instruction
import MorrowindScript.Proofs.Program.Derivation

/-!
# Qualifiers without a name

A line may name an object before an arrow, and is then compiled to a qualifier with the spelling of
the object and an instruction. Assignments and calls are refused if nothing stands before the arrow.
Conditions are not: an arrow after nothing but blanks, empty quotes or brackets is compiled to a
qualifier without a name.

The module introduces:

* `Conditional.HasNamelessArrow` — such a condition.
* `SourceLine.exists_name_of_compile` — the name in front of the arrow, by the kind of the line.
* `Program.object_eq_nil_iff_of_compile` — conditions of this sort are the only source of qualifiers
  without a name.
-/

namespace MorrowindScript

open Bytes

/-! ## Names before an arrow -/

theorem Bytes.stripQuotes_eq_nil_iff {s : Bytes} :
    s.stripQuotes = [] ↔ s = [] ∨ s = [quote, quote] := by
  cases s with
  | nil => simp [stripQuotes]
  | cons c rest =>
    rw [stripQuotes]
    split
    · next hquotes =>
      obtain ⟨hopen, hclose⟩ : c = quote ∧ rest.getLast? = some quote := by simpa using hquotes
      -- what is left is empty iff the closing quote is all there is after the opening one
      obtain ⟨init, rfl⟩ := List.getLast?_eq_some_iff.1 hclose
      simp [hopen]
    · next hquotes =>
      constructor
      · intro h
        exact absurd h (by simp)
      · rintro (h | h)
        · exact absurd h (by simp)
        · obtain ⟨rfl, rfl⟩ := List.cons.inj h
          exact absurd (by simp) hquotes

namespace Conditional

/-- The condition has an arrow, and nothing but blanks, empty quotes or brackets before it. -/
def HasNamelessArrow (condition : Bytes) : Prop :=
  ∃ q, Scan.qualifierStart condition = some q ∧
    Scan.unwrap (condition.take q) ∈ [[], [quote, quote]]

theorem exists_arrow_of_splitObject {condition name : Bytes}
    (h : (splitObject condition).1 = some name) :
    ∃ q, Scan.qualifierStart condition = some q ∧
      name = stripQuotes (Scan.unwrap (condition.take q)) := by
  rw [splitObject] at h
  split at h
  · next q c relation harrow _ =>
    split at h
    · exact ⟨q, harrow, (Option.some.inj h).symm⟩
    · exact absurd h (by simp)
  · exact absurd h (by simp)

/-- The object that is taken off a condition has no name iff nothing stands before the arrow. -/
theorem eq_nil_iff_of_splitObject {condition name : Bytes}
    (h : (splitObject condition).1 = some name) : name = [] ↔ HasNamelessArrow condition := by
  obtain ⟨q, harrow, rfl⟩ := exists_arrow_of_splitObject h
  rw [stripQuotes_eq_nil_iff, HasNamelessArrow]
  simp [harrow]

end Conditional

theorem ConditionalKind.lineKind_injective : Function.Injective lineKind := by
  intro a b h
  cases a <;> cases b <;> simp_all [lineKind]

theorem Assignment.ne_nil_of_splitObject {line value name rest : Bytes}
    (h : splitObject line value = .ok (some name, rest)) : name ≠ [] := by
  rw [splitObject] at h
  split at h
  · exact absurd h (by simp)
  · simp only at h
    split at h
    · exact absurd h (by simp)
    · next hname =>
      obtain ⟨hname', -⟩ := Prod.mk.inj (Except.ok.inj h)
      rw [← Option.some.inj hname']
      simpa using hname

namespace SourceLine

variable {scope : Scope} {text : Bytes} {kind : LineKind} {following : List LineKind}

/-- The object of a line is the spelling of the name in front of its arrow. Unless the line is a
conditional, it has a name there. -/
theorem exists_name_of_compile {object : Bytes} {instruction : Instruction}
    (h : (SourceLine.compile scope text kind following).result = .ok (some object, instruction)) :
    ∃ name, object = scope.object name ∧
      ((∀ conditional : ConditionalKind, kind ≠ conditional.lineKind) ∧ name ≠ [] ∨
        ∃ conditional : ConditionalKind, kind = conditional.lineKind ∧
          (Conditional.splitObject
            (Scan.unwrap (text.drop conditional.lineKind.operandOffset))).1 = some name) := by
  rcases cases_of_compile h with ⟨rfl, hset⟩ | ⟨conditional, rfl, hconditional⟩ | ⟨rfl, hcall⟩ |
    ⟨_, -, hnone, -⟩ | ⟨hnone, -⟩
  · obtain ⟨_, name?, _, _, _, hsplit, -, -, -, hq⟩ := Assignment.exists_of_compile_eq_ok hset
    obtain ⟨name, rfl, hobject⟩ := Option.map_eq_some_iff.1 (Prod.mk.inj hq).1.symm
    refine ⟨name, hobject.symm, .inl ⟨?_, Assignment.ne_nil_of_splitObject hsplit⟩⟩
    intro conditional
    cases conditional <;> decide
  · obtain ⟨_, _, -, -, -, -, hq⟩ := Conditional.result_compile_eq_ok_iff.1 hconditional
    obtain ⟨name, hname, hobject⟩ := Option.map_eq_some_iff.1 (Prod.mk.inj hq).1.symm
    exact ⟨name, hobject.symm, .inr ⟨conditional, rfl, hname⟩⟩
  · obtain ⟨q, _, -, hname, -, hq⟩ := Call.exists_of_compileQualified_eq_ok hcall
    refine ⟨stripQuotes (trim (text.take q)), Option.some.inj (Prod.mk.inj hq).1, .inl ⟨?_, hname⟩⟩
    intro conditional
    cases conditional <;> decide
  · exact absurd hnone (by simp)
  · exact absurd hnone (by simp)

/-- The codes of calls are those of the tables, and a qualifier is not among them. -/
theorem opcode_ne_qualifier_of_invoke {inExpression : Bool} {call : Invocation}
    (h : (Command.invoke scope inExpression text).result = .ok call) :
    (Instruction.call call).opcode ≠ .qualifier := by
  obtain ⟨format, hformat⟩ := Command.exists_callFormat?_of_invoke h
  intro hqualifier
  have hnone := lookup_statementFields_of_callFormat? hformat
  rw [show call.opcode = .qualifier from hqualifier] at hnone
  exact absurd hnone (by decide)

/-- No line compiles to an instruction with the code of a qualifier. -/
theorem opcode_ne_qualifier_of_compile {object : Option Bytes} {instruction : Instruction}
    (h : (SourceLine.compile scope text kind following).result = .ok (object, instruction)) :
    instruction.opcode ≠ .qualifier := by
  rcases cases_of_compile h with ⟨-, hset⟩ | ⟨conditional, -, hconditional⟩ | ⟨-, hcall⟩ |
    ⟨call, -, -, hcall, rfl⟩ | ⟨-, hplain⟩
  · obtain ⟨_, _, _, target, value, -, -, -, -, hq⟩ := Assignment.exists_of_compile_eq_ok hset
    obtain ⟨-, rfl⟩ := Prod.mk.inj hq
    exact (by decide : Opcode.assignment ≠ .qualifier)
  · obtain ⟨_, _, -, -, -, -, hq⟩ := Conditional.result_compile_eq_ok_iff.1 hconditional
    obtain ⟨-, rfl⟩ := Prod.mk.inj hq
    exact (by cases conditional <;> decide : conditional.opcode ≠ .qualifier)
  · obtain ⟨_, call, -, -, hinvoke, hq⟩ := Call.exists_of_compileQualified_eq_ok hcall
    obtain ⟨-, rfl⟩ := Prod.mk.inj hq
    exact opcode_ne_qualifier_of_invoke hinvoke
  · exact opcode_ne_qualifier_of_invoke hcall
  · cases hplain with
    | choice _ => exact (by decide : Opcode.choice ≠ .qualifier)
    | returning => decide
    | elseBranch _ => exact (by decide : Opcode.elseBranch ≠ .qualifier)
    | ifEnd => decide
    | whileEnd => decide
    | scriptEnd => decide

end SourceLine

/-! ## Scripts -/

namespace Program

/-- In a script that compiles with tables in which no object has an empty spelling, a qualifier
stands only at the start of a statement, and it has no name iff the statement is a conditional with
nothing before its arrow (and the tables have no spelling for the empty name). -/
theorem object_eq_nil_iff_of_compile {tables : Tables} {source : Bytes} {p : Program}
    (htables : ∀ id, tables.objectSpelling id = [] → id = [])
    (h : (compile tables source).result = .ok p) {s : Statement} (hs : s ∈ p.statements) :
    s.instruction.opcode ≠ .qualifier ∧
      ∀ object, s.object = some object →
        s.encode = qualifierBytes object ++ s.instruction.encode ∧
        (object = [] ↔ tables.objectSpelling [] = [] ∧
          ∃ conditional : ConditionalKind, s.line.kind = conditional.lineKind ∧
            Conditional.HasNamelessArrow
              (Scan.unwrap (s.line.text.drop conditional.lineKind.operandOffset))) := by
  obtain ⟨scope, following, hscope, -, hcompile⟩ := exists_compile_of_mem_statements h hs
  refine ⟨SourceLine.opcode_ne_qualifier_of_compile hcompile, fun object hobject => ?_⟩
  refine ⟨by rw [Statement.encode, hobject], ?_⟩
  rw [hobject] at hcompile
  obtain ⟨name, rfl, hcases⟩ := SourceLine.exists_name_of_compile hcompile
  rw [Scope.object, hscope]
  rcases hcases with ⟨hother, hname⟩ | ⟨conditional, hkind, hsplit⟩
  · constructor
    · intro hempty
      exact absurd (htables name hempty) hname
    · rintro ⟨-, conditional, hkind, -⟩
      exact absurd hkind (hother conditional)
  · have hnameless := Conditional.eq_nil_iff_of_splitObject hsplit
    constructor
    · intro hempty
      obtain rfl := htables name hempty
      exact ⟨hempty, conditional, hkind, hnameless.1 rfl⟩
    · rintro ⟨hspelling, conditional', hkind', harrow⟩
      -- the kind of the line says which conditional it is
      obtain rfl : conditional = conditional' :=
        ConditionalKind.lineKind_injective (hkind.symm.trans hkind')
      rw [hnameless.2 harrow]
      exact hspelling

/-- A script that takes a value from an object, and then asks an object without a name. -/
def asking : Bytes :=
  joinWith [lineFeed] (List.map ascii
    ["begin T", "short x", "set x to guard->1", "if ( ->1 > x )", "endif", "end"])

theorem object_eq_nil_iff_of_compile_asking :
    ∃ p s t object, (compile .empty asking).result = .ok p ∧ s ∈ p.statements ∧ t ∈ p.statements ∧
      s.line.kind = .assignment ∧ s.object = some object ∧ object ≠ [] ∧
      s.encode = qualifierBytes object ++ s.instruction.encode ∧
      t.line.kind = .ifBranch ∧ t.object = some [] ∧
      Conditional.HasNamelessArrow
        (Scan.unwrap (t.line.text.drop LineKind.ifBranch.operandOffset)) := by
  let x : Slot := ⟨.short, 1⟩
  let one : Expression := .atom (.literal (ascii "1") 0x3F800000)
  let s : Statement := ⟨⟨ascii "set x to guard->1", 3⟩, some (ascii "guard"),
    .assignment (.localVariable x) (.expression one)⟩
  let t : Statement := ⟨⟨ascii "if ( ->1 > x )", 4⟩, some [],
    .conditional .ifBranch 0 (.comparison one .gt (.atom (.localVariable (ascii "x") x)))⟩
  obtain ⟨p, hp⟩ : ∃ p, (compile .empty asking).result = .ok p :=
    Outcome.exists_result_eq_ok (by decide +kernel)
  obtain ⟨hs, ht⟩ : s ∈ p.statements ∧ t ∈ p.statements := by
    have hmem : (compile .empty asking).result.toOption.any
        (fun p => s ∈ p.statements ∧ t ∈ p.statements) = true := by
      decide +kernel
    simpa [hp, Except.toOption] using hmem
  have hskind : s.line.kind = .assignment := by decide +kernel
  have htkind : t.line.kind = .ifBranch := by decide +kernel
  obtain ⟨-, hs'⟩ := object_eq_nil_iff_of_compile (fun _ h => h) hp hs
  obtain ⟨-, ht'⟩ := object_eq_nil_iff_of_compile (fun _ h => h) hp ht
  obtain ⟨hencode, hsiff⟩ := hs' (ascii "guard") rfl
  refine ⟨p, s, t, ascii "guard", hp, hs, ht, hskind, rfl, ?_, hencode, htkind, rfl, ?_⟩
  · intro hempty
    obtain ⟨-, conditional, hkind, -⟩ := hsiff.1 hempty
    rw [hskind] at hkind
    cases conditional <;> exact absurd hkind (by decide)
  · obtain ⟨-, conditional, hkind, harrow⟩ := (ht' [] rfl).2.1 rfl
    obtain rfl : conditional = .ifBranch :=
      ConditionalKind.lineKind_injective (hkind.symm.trans htkind)
    exact harrow

/-- A script with a condition that starts with an arrow. -/
def nameless : Bytes :=
  joinWith [lineFeed] (List.map ascii ["begin T", "if ( ->1 > 0 )", "endif", "end"])

/-- A script may compile to a qualifier without a name, though all objects have one. -/
theorem exists_qualifier_nil_nameless :
    (∀ id, Tables.empty.objectSpelling id = [] → id = []) ∧
      ∃ p s, (compile .empty nameless).result = .ok p ∧ s ∈ p.statements ∧
        s.encode = qualifierBytes [] ++ s.instruction.encode := by
  let number (digit : String) (bits : UInt32) : Expression := .atom (.literal (ascii digit) bits)
  let s : Statement := ⟨⟨ascii "if ( ->1 > 0 )", 2⟩, some [],
    .conditional .ifBranch 0 (.comparison (number "1" 0x3F800000) .gt (number "0" 0))⟩
  let p : Program := ⟨ascii "T", {},
    [s, ⟨⟨ascii "endif", 3⟩, none, .ifEnd⟩, ⟨⟨ascii "end", 4⟩, none, .scriptEnd⟩], nameless⟩
  have hp : (compile .empty nameless).result = .ok p :=
    Outcome.result_eq_ok_of_toOption (by decide +kernel)
  exact ⟨fun _ h => h, p, s, hp, List.mem_cons_self, rfl⟩

end Program

end MorrowindScript
