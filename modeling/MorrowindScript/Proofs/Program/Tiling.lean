import MorrowindScript.Proofs.Bytecode.Instruction
import MorrowindScript.Proofs.Program.Skip
import Mathlib.Data.Nat.Bitwise

/-!
# Statements tile the bytecode

Every line of a script but the first and the declarations compiles to a statement, and the bytes of
the statements fill the bytecode without a gap. A statement starts with a code that is defined,
whatever form the line has and whichever command it calls.

The module introduces:

* `Opcode.knownBits` — the codes that are defined, as the bits of a number.
* `Command.isKnown_of_invoke` — every call has a code that is defined.
* `IsTiling` — statements stand one after another and fill the bytecode.
* `Program.codeAt?` — the code at a place of the bytecode.
* `Program.isTiling_of_compile` — the statements of a script that compiles are its lines in order,
  tile its bytecode and start with codes that are defined, and the last one ends the script.
-/

namespace MorrowindScript

open Bytes

/-! ## Codes that are defined -/

namespace Opcode

/-- The codes that are defined, as the bits of a number. -/
def knownBits : Nat :=
  (names.toList.map fun entry => 1 <<< entry.1.toNat).foldr (· ||| ·) 0

theorem testBit_foldr_lor (parts : List Nat) (i : Nat) :
    (parts.foldr (· ||| ·) 0).testBit i = parts.any (·.testBit i) := by
  induction parts with
  | nil => simp
  | cons part parts ih => rw [List.foldr_cons, Nat.testBit_or, ih, List.any_cons]

/-- A code whose bit is set is defined. The names are searched from front to back, so a look at the
bits is what makes all commands fast to check. -/
theorem isKnown_of_testBit {op : Opcode} (h : knownBits.testBit op.code.toNat = true) :
    op.isKnown = true := by
  rw [knownBits, testBit_foldr_lor, List.any_map, List.any_eq_true] at h
  obtain ⟨entry, hentry, hbit⟩ := h
  have hcode : entry.1.toNat = op.code.toNat := by
    simpa [Nat.shiftLeft_eq, Nat.testBit_two_pow] using hbit
  rw [isKnown, name?, Option.isSome_map, Array.find?_isSome]
  exact ⟨entry, Array.mem_def.2 hentry, beq_iff_eq.2 (UInt16.toNat_inj.1 hcode)⟩

end Opcode

namespace Command

/-- The codes of all commands are defined. -/
theorem testBit_knownBits_of_mem : ∀ n ∈ List.range (maxParameters + 1),
    ∀ command ∈ withParameters n,
      Opcode.knownBits.testBit command.form.opcode.code.toNat = true := by
  decide +kernel

theorem isKnown_of_invoke {scope : Scope} {inExpression : Bool} {line : Bytes} {call : Invocation}
    (h : (invoke scope inExpression line).result = .ok call) : call.opcode.isKnown = true := by
  apply Opcode.isKnown_of_testBit
  obtain ⟨command, values, -, hfields⟩ := exists_fields_of_invoke h
  rcases cases_of_invokeFields hfields with ⟨-, rfl⟩ | ⟨hfew, found, hfound, hform⟩
  · show Opcode.knownBits.testBit Opcode.messageBox.code.toNat = true
    decide +kernel
  · rw [opcode_of_invokeForm hform]
    exact testBit_knownBits_of_mem values.length (List.mem_range.2 (by omega)) found
      (List.mem_of_find?_eq_some hfound)

end Command

/-! ## The code of a statement -/

/-- Instructions that are no calls have a code that is defined. -/
theorem Instruction.isKnown_opcode {instruction : Instruction}
    (h : ∀ call, instruction = .call call → call.opcode.isKnown = true) :
    instruction.opcode.isKnown = true := by
  cases instruction with
  | assignment target value =>
    show Opcode.assignment.isKnown = true
    decide +kernel
  | conditional kind lines condition =>
    show kind.opcode.isKnown = true
    cases kind <;> decide +kernel
  | elseBranch lines =>
    show Opcode.elseBranch.isKnown = true
    decide +kernel
  | choice text =>
    show Opcode.choice.isKnown = true
    exact Opcode.isKnown_of_testBit (by decide +kernel)
  | call call => exact h call rfl
  | ifEnd => decide +kernel
  | whileEnd => decide +kernel
  | returning => decide +kernel
  | scriptEnd => decide +kernel

namespace SourceLine

variable {scope : Scope} {text : Bytes} {kind : LineKind} {following : List LineKind}
  {object : Option Bytes}

/-- A call that a line compiles to was encoded from a part of the line. -/
theorem exists_invoke_of_compile {call : Invocation}
    (h : (SourceLine.compile scope text kind following).result = .ok (object, .call call)) :
    ∃ n, (Command.invoke scope false (text.drop n)).result = .ok call := by
  rcases cases_of_compile h with ⟨-, hset⟩ | ⟨_, -, hconditional⟩ | ⟨-, hqualified⟩ |
    ⟨call', -, -, hcall, heq⟩ | ⟨-, hplain⟩
  · obtain ⟨_, _, _, _, _, -, -, -, -, hq⟩ := Assignment.exists_of_compile_eq_ok hset
    exact absurd hq (by simp)
  · obtain ⟨_, _, -, -, -, -, hq⟩ := Conditional.result_compile_eq_ok_iff.1 hconditional
    exact absurd hq (by simp)
  · obtain ⟨q, call', -, -, hinvoke, hq⟩ := Call.exists_of_compileQualified_eq_ok hqualified
    obtain rfl : call = call' := Instruction.call.inj (Prod.mk.inj hq).2
    exact ⟨q + 2, hinvoke⟩
  · obtain rfl : call = call' := Instruction.call.inj heq
    exact ⟨0, hcall⟩
  · nomatch hplain

/-- What a line compiles to has a code that is defined. -/
theorem isKnown_of_compile {instruction : Instruction}
    (h : (SourceLine.compile scope text kind following).result = .ok (object, instruction)) :
    instruction.opcode.isKnown = true := by
  apply Instruction.isKnown_opcode
  rintro call rfl
  obtain ⟨_, hinvoke⟩ := exists_invoke_of_compile h
  exact Command.isKnown_of_invoke hinvoke

end SourceLine

namespace Statement

/-- A statement starts with its code. -/
theorem exists_encode_eq (s : Statement) : ∃ operands, s.encode = s.opcode.encode ++ operands := by
  rw [encode, opcode]
  cases s.object with
  | none => exact ⟨s.instruction.operands, rfl⟩
  | some object =>
    refine ⟨textWithLength object ++ s.instruction.encode, ?_⟩
    rw [← List.append_assoc]
    rfl

theorem two_le_length_encode (s : Statement) : 2 ≤ s.encode.length := by
  obtain ⟨operands, hencode⟩ := s.exists_encode_eq
  rw [hencode, List.length_append, Opcode.length_encode]
  omega

/-- A statement about an object starts with the code of a qualifier, which is defined. -/
theorem isKnown_opcode {s : Statement} (h : s.instruction.opcode.isKnown = true) :
    s.opcode.isKnown = true := by
  rw [opcode]
  split
  · decide +kernel
  · exact h

end Statement

/-! ## Places -/

/-- The statement with the given number stands behind the bytes of those before it. -/
theorem getElem?_placeFrom (offset : Nat) (statements : List Statement) (i : Nat) :
    (placeFrom offset statements)[i]? = statements[i]?.map fun s =>
      ⟨offset + ((statements.take i).flatMap Statement.encode).length, s.encode, s⟩ := by
  induction statements generalizing offset i with
  | nil => simp [placeFrom]
  | cons s statements ih =>
    cases i with
    | zero => simp [placeFrom]
    | succ i =>
      rw [placeFrom, List.getElem?_cons_succ, ih, List.getElem?_cons_succ, List.take_succ_cons,
        List.flatMap_cons, List.length_append, ← Nat.add_assoc]

theorem map_statement_placeFrom (offset : Nat) (statements : List Statement) :
    (placeFrom offset statements).map PlacedStatement.statement = statements := by
  induction statements generalizing offset with
  | nil => rfl
  | cons s statements ih => rw [placeFrom, List.map_cons, ih]

/-- The bytes at all places, one after another. -/
theorem flatten_placeFrom (offset : Nat) (statements : List Statement) :
    ((placeFrom offset statements).map PlacedStatement.bytes).flatten =
      statements.flatMap Statement.encode := by
  induction statements generalizing offset with
  | nil => rfl
  | cons s statements ih => rw [placeFrom, List.map_cons, List.flatten_cons, ih, List.flatMap_cons]

/-- Statements stand one after another and fill the bytecode: the first is at its start, each of the
others is where the one before it ends, and the last ends where the bytecode ends. -/
structure IsTiling (data : Bytes) (placed : List PlacedStatement) : Prop where
  first : placed.head?.map PlacedStatement.offset = some 0
  next : ∀ i s t, placed[i]? = some s → placed[i + 1]? = some t →
    t.offset = s.offset + s.bytes.length
  total : (placed.map (·.bytes.length)).sum = data.length
  bytes : ∀ s ∈ placed, (data.drop s.offset).take s.bytes.length = s.bytes

namespace Program

/-- The code at a place of the bytecode, if there is room for one. -/
def codeAt? (p : Program) (offset : Nat) : Option Opcode :=
  (Opcode.read? (p.data.drop offset)).map Prod.fst

variable {p : Program} {s : PlacedStatement}

/-- What stands in the bytecode from the place of a statement on. -/
theorem exists_drop_data (h : s ∈ p.placed) :
    s.bytes = s.statement.encode ∧ s.statement ∈ p.statements ∧
      ∃ rest, p.data.drop s.offset = s.bytes ++ rest := by
  obtain ⟨i, hi⟩ := List.mem_iff_getElem?.1 h
  rw [placed, getElem?_placeFrom] at hi
  obtain ⟨statement, hstatement, rfl⟩ := Option.map_eq_some_iff.1 hi
  refine ⟨rfl, List.mem_of_getElem? hstatement,
    (p.statements.drop (i + 1)).flatMap Statement.encode, ?_⟩
  -- the statements before it make up what is dropped
  have hsplit : p.statements.take i ++ statement :: p.statements.drop (i + 1) = p.statements := by
    obtain ⟨hlt, rfl⟩ := List.getElem?_eq_some_iff.1 hstatement
    rw [List.getElem_cons_drop, List.take_append_drop]
  have hdata : p.data = (p.statements.take i).flatMap Statement.encode ++
      (statement.encode ++ (p.statements.drop (i + 1)).flatMap Statement.encode) := by
    conv_lhs => rw [data, ← hsplit, List.flatMap_append, List.flatMap_cons]
  rw [hdata]
  simp

/-- The code at the place of a statement is its code. -/
theorem codeAt?_of_mem (h : s ∈ p.placed) : p.codeAt? s.offset = some s.statement.opcode := by
  obtain ⟨hbytes, -, rest, hdrop⟩ := exists_drop_data h
  obtain ⟨operands, hencode⟩ := s.statement.exists_encode_eq
  rw [codeAt?, hdrop, hbytes, hencode, List.append_assoc, Opcode.read?_encode_append]
  rfl

/-- The statements of a script tile its bytecode. -/
theorem isTiling (p : Program) (h : p.statements ≠ []) : IsTiling p.data p.placed where
  first := by
    obtain ⟨s, statements, hs⟩ := List.exists_cons_of_ne_nil h
    rw [placed, hs]
    rfl
  next i s t hs ht := by
    rw [placed, getElem?_placeFrom] at hs ht
    obtain ⟨statement, hstatement, rfl⟩ := Option.map_eq_some_iff.1 hs
    obtain ⟨_, -, rfl⟩ := Option.map_eq_some_iff.1 ht
    obtain ⟨hlt, rfl⟩ := List.getElem?_eq_some_iff.1 hstatement
    rw [List.take_succ_eq_append_getElem hlt, List.flatMap_append, List.length_append,
      ← Nat.add_assoc]
    simp
  total := by
    rw [data, ← flatten_placeFrom 0, List.length_flatten, List.map_map]
    rfl
  bytes s hs := by
    obtain ⟨-, -, rest, hdrop⟩ := exists_drop_data hs
    rw [hdrop, List.take_left]

/-! ## Scripts -/

/-- The statements are the lines that are no declarations, in order. -/
theorem Compiles.map_line {scope : Scope} {lines : List (SourceLine × LineKind)} {locals : Locals}
    {statements : List Statement} (h : Compiles scope lines locals statements) :
    statements.map Statement.line = (lines.filter (!·.2.isDeclaration)).map Prod.fst := by
  induction h with
  | declaration _ _ ih => rw [ih, List.filter_cons_of_neg (by simp [LineKind.isDeclaration])]
  | scriptEnd => rfl
  | @statement _ _ kind _ _ _ _ _ hdeclaration _ _ _ ih =>
    have hkind : kind.isDeclaration = false := by
      cases kind with
      | declaration k => exact absurd rfl (hdeclaration k)
      | _ => rfl
    rw [List.filter_cons_of_pos (by simp [hkind]), List.map_cons, List.map_cons, ih]

/-- The statements of a script that compiles are the lines after the first that are no
declarations, each with its text and number, in order. They tile the bytecode, have at least the two
bytes of a code each, and start with a code that is defined. Exactly the last line ends the script,
and it is what the last statement is compiled from. -/
theorem isTiling_of_compile {tables : Tables} {source : Bytes} {p : Program}
    (h : (compile tables source).result = .ok p) :
    p.placed.map (·.statement.line) =
        (SourceLine.split source).tail.filter (!·.kind.isDeclaration) ∧
      IsTiling p.data p.placed ∧
      (∀ s ∈ p.placed, 2 ≤ s.bytes.length ∧
        ∃ code, p.codeAt? s.offset = some code ∧ code.isKnown = true) ∧
      (∃ init last, SourceLine.split source = init ++ [last] ∧ last.kind = .scriptEnd ∧
        ∀ line ∈ init, line.kind ≠ .scriptEnd) ∧
      ∃ s, p.placed.getLast? = some s ∧ p.codeAt? s.offset = some .scriptEnd := by
  obtain ⟨first, rest, hsplit, hbegin, -, -, -, hcompiles⟩ := result_compile_eq_ok_iff.1 h
  obtain ⟨init, last, hlines, hinit, hlast⟩ := hcompiles.exists_eq_append
  have hstatements : p.placed.map PlacedStatement.statement = p.statements :=
    map_statement_placeFrom 0 p.statements
  refine ⟨?_, p.isTiling ?_, ?_, ?_, ?_⟩
  · calc p.placed.map (·.statement.line)
        = (p.placed.map PlacedStatement.statement).map Statement.line := List.map_map.symm
      _ = ((rest.map fun line => (line, line.kind)).filter (!·.2.isDeclaration)).map Prod.fst := by
          rw [hstatements, hcompiles.map_line]
      _ = (SourceLine.split source).tail.filter (!·.kind.isDeclaration) := by
          rw [hsplit, List.filter_map, List.map_map]
          exact List.map_id _
  · rintro hnil
    rw [hnil] at hlast
    exact absurd hlast (by simp)
  · intro s hs
    obtain ⟨hbytes, hmem, -⟩ := exists_drop_data hs
    refine ⟨hbytes ▸ s.statement.two_le_length_encode, _, codeAt?_of_mem hs, ?_⟩
    obtain ⟨scope, following, -, -, hcompile⟩ := exists_compile_of_mem_statements h hmem
    exact Statement.isKnown_opcode (SourceLine.isKnown_of_compile hcompile)
  · obtain ⟨lines, ending, rfl, hmap, hending⟩ := List.map_eq_append_iff.1 hlines
    obtain ⟨line, rfl, hline⟩ := List.map_eq_singleton_iff.1 hending
    obtain ⟨rfl, hkind⟩ := Prod.mk.inj hline
    refine ⟨first :: lines, line, hsplit, hkind, List.forall_mem_cons.2 ⟨?_, ?_⟩⟩
    · -- the first line is read as a call, so it does not end the script either
      rcases SourceLine.kind_of_isBegin hbegin with hfirst | hfirst
      · simp [hfirst]
      · simp [hfirst]
    · intro other hother
      exact hinit (other, other.kind) (hmap ▸ List.mem_map_of_mem hother)
  · obtain ⟨s, hs, hstatement⟩ : ∃ s, p.placed.getLast? = some s ∧
        s.statement = ⟨last, none, .scriptEnd⟩ := by
      rw [← hstatements, List.getLast?_map] at hlast
      exact Option.map_eq_some_iff.1 hlast
    refine ⟨s, hs, ?_⟩
    rw [codeAt?_of_mem (List.mem_of_getLast? hs), hstatement]
    rfl

/-- A script with a comment, an empty line, declarations in and out of a block, a call on an object
and a line that goes on after `else`. -/
def watch : Bytes :=
  joinWith [lineFeed] (List.map ascii
    ["begin watch", "short seen ; counts visitors", "", "if ( seen == 0 )", "float timer",
      "guard->Activate", "else set seen to 1", "endif", "end"])

theorem isTiling_of_compile_watch :
    ∃ p, (compile .empty watch).result = .ok p ∧
      p.placed.map (·.statement.line.number) = [4, 6, 7, 7, 8, 9] ∧ IsTiling p.data p.placed ∧
      (∀ s ∈ p.placed, 2 ≤ s.bytes.length ∧
        ∃ code, p.codeAt? s.offset = some code ∧ code.isKnown = true) ∧
      ∃ s, p.placed.getLast? = some s ∧ p.codeAt? s.offset = some .scriptEnd := by
  obtain ⟨p, hp⟩ : ∃ p, (compile .empty watch).result = .ok p :=
    Outcome.exists_result_eq_ok (by decide +kernel)
  obtain ⟨hlines, htiling, hcodes, -, hend⟩ := isTiling_of_compile hp
  have hnumbers : ((SourceLine.split watch).tail.filter (!·.kind.isDeclaration)).map
      SourceLine.number = [4, 6, 7, 7, 8, 9] := by
    decide +kernel
  rw [← hlines, List.map_map] at hnumbers
  exact ⟨p, hp, hnumbers, htiling, hcodes, hend⟩

end Program

end MorrowindScript
