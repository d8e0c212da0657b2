import MorrowindScript.Proofs.Bytecode.Instruction
import MorrowindScript.Proofs.Program.Derivation

/-!
# Compiled scripts are self-delimiting

As long as no length wraps, the bytecode of a script can be cut into instructions without knowing
the script: the instructions are found by their own bytes, one after another, and they are the
statements of the script, in order and at their places.

* `Tables.ShortSpellings`: the spellings in the tables are short enough for a length byte.
* `SourceLine.isDelimited_of_compile`: what a short line compiles to is delimited by its own bytes.
* `Program.exists_instructions_of_compile`: so is a script of short lines, as a whole.
-/

namespace MorrowindScript

open Bytes

/-- The spellings that stand in the tables have at most 254 bytes. An object that does not stand
there is spelled as it is written. -/
structure Tables.ShortSpellings (tables : Tables) : Prop where
  global : ∀ {name spelling}, tables.globalSpelling name = some spelling → spelling.length ≤ 254
  object : ∀ id, tables.objectSpelling id = id ∨ (tables.objectSpelling id).length ≤ 254

/-- A short name of an object has a short spelling. -/
theorem Tables.ShortSpellings.length_object_le {scope : Scope} (h : scope.tables.ShortSpellings)
    {id : Bytes} (hid : id.length ≤ 254) : (scope.object id).length ≤ 254 := by
  rcases h.object id with heq | hle
  · rw [Scope.object, heq]
    exact hid
  · exact hle

/-! ## Parts of a line are no longer than the line -/

/-- The object in front of a condition and the condition are no longer than both together. -/
theorem Conditional.length_splitObject_le (s : Bytes) :
    (∀ object ∈ (splitObject s).1, object.length ≤ s.length) ∧
      (splitObject s).2.length ≤ s.length := by
  rw [splitObject]
  split
  · next q c relation _ _ =>
    split
    · refine ⟨?_, (List.drop_sublist _ s).length_le⟩
      rintro object ⟨⟩
      calc (stripQuotes (Scan.unwrap (s.take q))).length
          ≤ (Scan.unwrap (s.take q)).length := length_stripQuotes_le _
        _ ≤ (s.take q).length := Scan.length_unwrap_le _
        _ ≤ s.length := List.length_take_le' q s
    · simp
  · simp

/-- The object in front of a value and the value are no longer than both together. -/
theorem Assignment.length_splitObject_le {line s : Bytes} {object : Option Bytes} {rest : Bytes}
    (h : splitObject line s = .ok (object, rest)) :
    (∀ o ∈ object, o.length ≤ s.length) ∧ rest.length ≤ s.length := by
  rw [splitObject] at h
  split at h
  · obtain ⟨rfl, rfl⟩ : none = object ∧ s = rest := by simpa using h
    simp
  · next q _ =>
    simp only at h
    split at h
    · simp at h
    · obtain ⟨rfl, rfl⟩ : some (stripQuotes (trim (s.take q))) = object ∧ s.drop (q + 2) = rest := by
        simpa using h
      refine ⟨?_, (List.drop_sublist _ s).length_le⟩
      rintro o ⟨⟩
      calc (stripQuotes (trim (s.take q))).length
          ≤ (trim (s.take q)).length := length_stripQuotes_le _
        _ ≤ (s.take q).length := length_trim_le _
        _ ≤ s.length := List.length_take_le' q s

/-! ## Instructions -/

/-- An instruction with its object is delimited: the object fits a length byte, and the instruction
is no qualifier and is measured as one instruction. -/
structure IsDelimited (q : QualifiedInstruction) : Prop where
  object : ∀ object ∈ q.1, object.length ≤ 254
  opcode : q.2.opcode ≠ .qualifier
  instruction : IsInstruction q.2.encode

/-- An instruction is measured as one if its operands fill the fields of its code. -/
theorem isInstruction_encode {instruction : Instruction} {fields : List Field}
    (hfields : instructionFields? instruction.opcode = some fields)
    (h : CoversAll fields instruction.operands) : IsInstruction instruction.encode :=
  isInstruction_of_coversAll hfields h

/-- A slot as a target fills three bytes, of which the first is the letter of a local. -/
theorem covers_slotTarget (slot : Slot) : targetField.Covers slot.target := by
  have hthree : (Field.bytes 3).Covers slot.target := Field.covers_bytes rfl
  refine Field.Covers.noTag (Field.Covers.noTag hthree ?_ _) (Command.tag_ne_global slot.kind) _
  cases slot.kind <;> decide

/-- The target of an assignment fills its field. -/
theorem covers_target {scope : Scope} {name : Bytes} {target : Target}
    (htables : scope.tables.ShortSpellings) (hname : name.length ≤ 254)
    (h : Target.parse scope name = .ok target) : targetField.Covers target.encode := by
  rw [Target.parse] at h
  split at h
  · next slot _ =>
    obtain rfl : Target.localVariable slot = target := by simpa using h
    exact covers_slotTarget slot
  · split at h
    · next spelling hglobal =>
      obtain rfl : Target.globalVariable spelling = target := by simpa using h
      have hlength := htables.global hglobal
      exact (Field.covers_textWithLength (by omega)).tag _ _
    · split at h
      · next i _ =>
        split at h
        · next object slot hdotted =>
          obtain rfl : Target.foreignVariable (scope.object object) slot = target := by
            simpa using h
          have hwritten : object = stripQuotes (name.take i) := (congrArg Prod.fst hdotted).symm
          have hlength : object.length ≤ name.length := by
            rw [hwritten]
            exact (length_stripQuotes_le _).trans (List.length_take_le' i name)
          have hspelling := htables.length_object_le (hlength.trans hname)
          have hreference : (Field.bytes 3).Covers slot.reference :=
            Field.covers_bytes (by simp [Slot.reference, Reference.whole])
          have hobject : Field.text.Covers (textWithLength (scope.object object)) :=
            Field.covers_textWithLength (by omega)
          -- an object and a slot after their letter, which is not the letter of a global
          have hpair := (hobject.seq hreference).tag 0x72 (.bytes 3)
          exact Field.Covers.noTag hpair (by decide) _
        · simp at h
      · simp at h

/-- An assignment is delimited. -/
theorem Assignment.isDelimited_of_compile {scope : Scope} {text : Bytes}
    {q : QualifiedInstruction} (htables : scope.tables.ShortSpellings)
    (htext : text.length ≤ 254) (h : (compile scope text).result = .ok q) : IsDelimited q := by
  obtain ⟨separator, object, rest, target, value, hsplit, htarget, -, hvalue, rfl⟩ :=
    exists_of_compile_eq_ok h
  have hwork : (trimLeft (text.drop LineKind.assignment.operandOffset)).length ≤ text.length :=
    (length_trimLeft_le _).trans (List.drop_sublist _ text).length_le
  have hright : (Scan.unwrap ((trimLeft (text.drop LineKind.assignment.operandOffset)).drop
      (separator + 4))).length ≤ 254 :=
    ((Scan.length_unwrap_le _).trans (List.drop_sublist _ _).length_le).trans (hwork.trans htext)
  have hname : (trim ((trimLeft (text.drop LineKind.assignment.operandOffset)).take
      separator)).length ≤ 254 :=
    ((length_trim_le _).trans (List.length_take_le' _ _)).trans (hwork.trans htext)
  obtain ⟨hobject, hrest⟩ := length_splitObject_le hsplit
  refine ⟨?_, show Opcode.assignment ≠ .qualifier by decide, ?_⟩
  · intro spelling hspelling
    obtain ⟨o, ho, rfl⟩ := Option.map_eq_some_iff.1 hspelling
    exact htables.length_object_le ((hobject o ho).trans hright)
  · -- an expression was measured, and a text is shorter than its line by the keyword at least
    have hcontent : value.content.length < 256 := by
      rcases Value.cases_of_parse_eq_ok hvalue with ⟨e, -, hsize, rfl⟩ | rfl
      · rw [maxExpressionSize] at hsize
        rw [Value.content]
        omega
      · have hkept := length_trimLeft_le rest
        rw [Value.content, List.length_cons]
        omega
    have hfields := (covers_target htables hname htarget).cons
      (coversAll_singleton (Field.covers_textWithLength hcontent))
    exact isInstruction_encode rfl hfields

/-- A conditional is delimited. -/
theorem Conditional.isDelimited_of_compile {scope : Scope} {kind : ConditionalKind}
    {following : List LineKind} {text : Bytes} {q : QualifiedInstruction}
    (htables : scope.tables.ShortSpellings) (htext : text.length ≤ 254)
    (h : (compile scope kind following text).result = .ok q) : IsDelimited q := by
  obtain ⟨lines, condition, -, -, -, hsize, rfl⟩ := result_compile_eq_ok_iff.1 h
  refine ⟨?_, show kind.opcode ≠ .qualifier by cases kind <;> decide, ?_⟩
  · intro spelling hspelling
    obtain ⟨object, hobject, rfl⟩ := Option.map_eq_some_iff.1 hspelling
    refine htables.length_object_le ?_
    calc object.length
        ≤ (Scan.unwrap (text.drop kind.lineKind.operandOffset)).length :=
          (length_splitObject_le _).1 object hobject
      _ ≤ (text.drop kind.lineKind.operandOffset).length := Scan.length_unwrap_le _
      _ ≤ text.length := (List.drop_sublist _ text).length_le
      _ ≤ 254 := htext
  · rw [maxExpressionSize] at hsize
    have hcount : (Field.bytes 1).Covers [UInt8.ofNat lines] := Field.covers_bytes rfl
    have hcondition := Field.covers_textWithLength (s := condition.encode) (by omega)
    have hfields := hcount.cons (coversAll_singleton hcondition)
    cases kind <;> exact isInstruction_encode rfl hfields

/-- A call in the format of its code is delimited. -/
theorem isInstruction_call {call : Invocation} (h : Command.HasFormat false call) :
    (Instruction.call call).opcode ≠ .qualifier ∧ IsInstruction (Instruction.call call).encode := by
  obtain ⟨format, hformat, hmarker, hcovers⟩ := h
  constructor
  · -- the code of a qualifier is no code of a call
    intro hqualifier
    have hnone := lookup_statementFields_of_callFormat? hformat
    rw [show call.opcode = .qualifier from hqualifier] at hnone
    exact absurd hnone (by decide)
  · refine isInstruction_encode (instructionFields?_of_callFormat? hformat) ?_
    rw [Instruction.operands, hmarker]
    exact hcovers

/-- What a short line compiles to is delimited. -/
theorem SourceLine.isDelimited_of_compile {scope : Scope} {text : Bytes} {kind : LineKind}
    {following : List LineKind} {q : QualifiedInstruction}
    (htables : scope.tables.ShortSpellings) (htext : text.length ≤ 254)
    (h : (SourceLine.compile scope text kind following).result = .ok q) : IsDelimited q := by
  -- lines that are their keyword and nothing else
  have hplain {instruction : Instruction} (hopcode : instruction.opcode ≠ .qualifier)
      (hfields : instructionFields? instruction.opcode = some [])
      (hoperands : instruction.operands = [])
      (hq : (⟨[], .ok (none, instruction)⟩ : LineOutcome QualifiedInstruction).result = .ok q) :
      IsDelimited q := by
    obtain rfl := Except.ok.inj hq
    refine ⟨by simp, hopcode, isInstruction_encode hfields ?_⟩
    rw [hoperands]
    exact coversAll_nil
  have hcall (hq : (unqualified (Call.compile scope text text)).result = .ok q) :
      IsDelimited q := by
    obtain ⟨instruction, hinstruction, hq⟩ := Outcome.result_bind_eq_ok.1 hq
    obtain ⟨call, hcall, rfl⟩ := Call.result_compile_eq_ok_iff.1 hinstruction
    obtain rfl := Except.ok.inj hq
    obtain ⟨hopcode, hencode⟩ :=
      isInstruction_call (Command.hasFormat_of_invoke htables.global htext hcall)
    exact ⟨by simp, hopcode, hencode⟩
  cases kind with
  | declaration kind => exact hcall h
  | call => exact hcall h
  | assignment => exact Assignment.isDelimited_of_compile htables htext h
  | ifBranch => exact Conditional.isDelimited_of_compile htables htext h
  | elseIfBranch => exact Conditional.isDelimited_of_compile htables htext h
  | whileLoop => exact Conditional.isDelimited_of_compile htables htext h
  | returning => exact hplain (by decide) rfl rfl h
  | ifEnd => exact hplain (by decide) rfl rfl h
  | whileEnd => exact hplain (by decide) rfl rfl h
  | scriptEnd => exact hplain (by decide) rfl rfl h
  | choice =>
    obtain rfl := Except.ok.inj h
    refine ⟨by simp, show Opcode.choice ≠ .qualifier by decide, isInstruction_encode rfl ?_⟩
    have hlength := length_trimLeft_le (text.drop LineKind.choice.operandOffset)
    have hdrop := (List.drop_sublist LineKind.choice.operandOffset text).length_le
    exact coversAll_singleton (Field.covers_textWithLength16 (by omega))
  | elseBranch =>
    obtain ⟨instruction, hinstruction, hq⟩ := Outcome.result_bind_eq_ok.1 h
    obtain ⟨lines, -, hlines⟩ := Outcome.result_bind_eq_ok.1 hinstruction
    obtain rfl := Except.ok.inj hlines
    obtain rfl := Except.ok.inj hq
    refine ⟨by simp, show Opcode.elseBranch ≠ .qualifier by decide, isInstruction_encode rfl ?_⟩
    exact coversAll_singleton (Field.covers_bytes rfl)
  | qualifiedCall =>
    obtain ⟨position, call, -, -, hinvoke, rfl⟩ := Call.exists_of_compileQualified_eq_ok h
    have hdrop := (List.drop_sublist (position + 2) text).length_le
    obtain ⟨hopcode, hencode⟩ := isInstruction_call
      (Command.hasFormat_of_invoke htables.global (hdrop.trans htext) hinvoke)
    refine ⟨?_, hopcode, hencode⟩
    rintro spelling ⟨⟩
    refine htables.length_object_le ?_
    calc (stripQuotes (trim (text.take position))).length
        ≤ (trim (text.take position)).length := length_stripQuotes_le _
      _ ≤ (text.take position).length := length_trim_le _
      _ ≤ text.length := List.length_take_le' position text
      _ ≤ 254 := htext

/-! ## Statements -/

namespace Statement

/-- The instructions of a statement: the qualifier, if it has one, and the instruction itself. -/
def pieces (s : Statement) : List Bytes :=
  (s.object.map qualifierBytes).toList ++ [s.instruction.encode]

/-- The instructions of a statement make up its bytes. -/
theorem flatten_pieces (s : Statement) : s.pieces.flatten = s.encode := by
  rw [pieces, encode]
  cases s.object <;> simp

/-- A delimited statement consists of instructions. -/
theorem isInstruction_of_mem_pieces {s : Statement} (h : IsDelimited (s.object, s.instruction))
    {piece : Bytes} (hpiece : piece ∈ s.pieces) : IsInstruction piece := by
  rcases List.mem_append.1 hpiece with hqualifier | hinstruction
  · obtain ⟨object, hobject, rfl⟩ := Option.map_eq_some_iff.1 (Option.mem_toList.1 hqualifier)
    have hlength := h.object object hobject
    exact isInstruction_of_coversAll rfl
      (coversAll_singleton (Field.covers_textWithLength (by omega)))
  · obtain rfl := List.mem_singleton.1 hinstruction
    exact h.instruction

/-- Joining qualifiers puts the instructions of a statement together. -/
theorem joinQualifiers_pieces_append {s : Statement} (h : IsDelimited (s.object, s.instruction))
    (rest : List Bytes) : joinQualifiers (s.pieces ++ rest) = s.encode :: joinQualifiers rest := by
  -- the instruction itself is no qualifier, so it is not joined with what follows
  have hnot : isQualifier s.instruction.encode = false := by
    rw [← Bool.not_eq_true, Instruction.encode, isQualifier_encode_append]
    exact h.opcode
  rw [pieces, encode]
  cases s.object with
  | none => exact joinQualifiers_cons hnot rest
  | some object =>
    exact joinQualifiers_qualifier ((isQualifier_encode_append _ _).2 rfl) rest

/-- The statements of a script are what joining qualifiers leaves of its instructions. -/
theorem joinQualifiers_flatMap_pieces {statements : List Statement}
    (h : ∀ s ∈ statements, IsDelimited (s.object, s.instruction)) :
    joinQualifiers (statements.flatMap pieces) = statements.map encode := by
  induction statements with
  | nil => rfl
  | cons s statements ih =>
    obtain ⟨hs, hstatements⟩ := List.forall_mem_cons.1 h
    rw [List.flatMap_cons, joinQualifiers_pieces_append hs, ih hstatements, List.map_cons]

end Statement

/-- Statements are placed where their bytes start. -/
theorem map_offset_placeFrom (offset : Nat) (statements : List Statement) :
    (placeFrom offset statements).map PlacedStatement.offset =
      startsFrom offset (statements.map Statement.encode) := by
  induction statements generalizing offset with
  | nil => rfl
  | cons s statements ih => rw [placeFrom, List.map_cons, List.map_cons, startsFrom, ih]

/-! ## Scripts -/

namespace SourceLine

/-- A line that goes on after `else` has room for the word. -/
theorem four_le_length_of_afterElse? {s rest : Bytes} (h : afterElse? s = some rest) :
    4 ≤ s.length := by
  rw [afterElse?] at h
  split at h
  · next hword =>
    have hlength := congrArg List.length (eq_of_beq hword)
    rw [List.length_take] at hlength
    have hfour : (ascii "else").length = 4 := rfl
    omega
  · simp at h

/-- A line taken apart after `else` gives no longer lines. -/
theorem length_le_of_mem_splitElse {s piece : Bytes} (h : piece ∈ splitElse s) :
    piece.length ≤ s.length := by
  fun_induction splitElse s with
  | case1 s rest hrest hlt ih =>
    rcases List.mem_cons.1 h with rfl | h
    · exact four_le_length_of_afterElse? hrest
    · exact (ih h).trans hlt.le
  | case2 s hnone => exact (congrArg List.length (List.mem_singleton.1 h)).le

/-- Cleaning a line makes it no longer. -/
theorem length_clean_le (raw : Bytes) : (clean raw).length ≤ raw.length := by
  have hdrop (s : Bytes) : (dropCarriageReturn s).length ≤ s.length := by
    rw [dropCarriageReturn]
    split
    · exact (List.dropLast_sublist s).length_le
    · exact le_rfl
  refine (length_trim_le _).trans ((hdrop _).trans ?_)
  split
  · exact List.length_take_le' _ raw
  · exact le_rfl

/-- A line of a source is no longer than the physical line it stands on. -/
theorem exists_length_le_of_mem_split {source : Bytes} {line : SourceLine}
    (h : line ∈ split source) : ∃ raw ∈ source.lines, line.text.length ≤ raw.length := by
  obtain ⟨⟨raw, number⟩, hraw, hline⟩ := List.mem_flatMap.1 h
  refine ⟨raw, List.fst_mem_of_mem_zipIdx hraw, ?_⟩
  simp only [ofRaw] at hline
  split at hline
  · exact absurd hline List.not_mem_nil
  · obtain ⟨piece, hpiece, rfl⟩ := List.mem_map.1 hline
    exact (length_le_of_mem_splitElse hpiece).trans (length_clean_le raw)

end SourceLine

namespace Program

/-- The statements of a script of short lines are delimited. -/
theorem isDelimited_of_compiles {scope : Scope} {lines : List (SourceLine × LineKind)}
    {locals : Locals} {statements : List Statement} (htables : scope.tables.ShortSpellings)
    (hlines : ∀ line ∈ lines, line.1.text.length ≤ 254)
    (h : Compiles scope lines locals statements) :
    ∀ s ∈ statements, IsDelimited (s.object, s.instruction) := by
  induction h with
  | declaration _ _ ih => exact ih htables (List.forall_mem_cons.1 hlines).2
  | scriptEnd =>
    intro s hs
    obtain rfl := List.mem_singleton.1 hs
    refine ⟨by simp, show Opcode.scriptEnd ≠ .qualifier by decide, ?_⟩
    exact isInstruction_encode rfl coversAll_nil
  | statement _ _ hline _ ih =>
    obtain ⟨hfirst, hrest⟩ := List.forall_mem_cons.1 hlines
    refine List.forall_mem_cons.2 ⟨?_, ih htables hrest⟩
    exact SourceLine.isDelimited_of_compile htables hfirst hline

/-- The last statement of a script ends it. -/
theorem exists_getLast?_of_compiles {scope : Scope} {lines : List (SourceLine × LineKind)}
    {locals : Locals} {statements : List Statement} (h : Compiles scope lines locals statements) :
    ∃ line, statements.getLast? = some ⟨line, none, .scriptEnd⟩ := by
  obtain ⟨-, line, -, -, hlast⟩ := h.exists_eq_append
  exact ⟨line, hlast⟩

/-- The bytecode of a script of short lines is cut into instructions by its own bytes, from front to
back and without a remainder. Each instruction is measured by its bytes alone. With qualifiers put
together with what they qualify, the instructions start where the statements are placed, and the
last one ends the script. -/
theorem exists_instructions_of_compile {tables : Tables} {source : Bytes} {p : Program}
    (htables : tables.ShortSpellings) (hlines : ∀ line ∈ source.lines, line.length ≤ 254)
    (h : (compile tables source).result = .ok p) :
    ∃ pieces, instructions p.data = some pieces ∧ pieces.flatten = p.data ∧
      (∀ piece ∈ pieces, ∀ rest, instructionLength? (piece ++ rest) = some piece.length) ∧
      startsFrom 0 (joinQualifiers pieces) = p.placed.map PlacedStatement.offset ∧
      pieces.getLast? = some Opcode.scriptEnd.encode := by
  obtain ⟨first, rest, hsplit, -, -, -, -, hcompiles⟩ := result_compile_eq_ok_iff.1 h
  have hshort : ∀ line ∈ rest.map fun line => (line, line.kind), line.1.text.length ≤ 254 := by
    intro pair hpair
    obtain ⟨line, hline, rfl⟩ := List.mem_map.1 hpair
    obtain ⟨raw, hraw, hle⟩ := SourceLine.exists_length_le_of_mem_split
      (hsplit ▸ List.mem_cons_of_mem first hline)
    exact hle.trans (hlines raw hraw)
  have hdelimited := isDelimited_of_compiles htables hshort hcompiles
  -- the instructions are those of the statements, one or two for each
  have hinstructions : ∀ piece ∈ p.statements.flatMap Statement.pieces, IsInstruction piece := by
    intro piece hpiece
    obtain ⟨s, hs, hmem⟩ := List.mem_flatMap.1 hpiece
    exact Statement.isInstruction_of_mem_pieces (hdelimited s hs) hmem
  have hdata : (p.statements.flatMap Statement.pieces).flatten = p.data := by
    rw [data, List.flatMap_def, List.flatMap_def, List.flatten_flatten, List.map_map]
    exact congrArg List.flatten (List.map_congr_left fun s _ => s.flatten_pieces)
  refine ⟨p.statements.flatMap Statement.pieces, ?_, hdata, hinstructions, ?_, ?_⟩
  · rw [← hdata]
    exact instructions_flatten hinstructions
  · rw [Statement.joinQualifiers_flatMap_pieces hdelimited, placed, map_offset_placeFrom]
  · obtain ⟨line, hlast⟩ := exists_getLast?_of_compiles hcompiles
    obtain ⟨init, hinit⟩ := List.getLast?_eq_some_iff.1 hlast
    rw [hinit, List.flatMap_append, List.getLast?_append]
    rfl

/-- A script with a block, a call on an object, a message and an assignment. -/
def greeting : Bytes :=
  joinWith [lineFeed] (List.map ascii
    ["begin greeting", "short seen", "if ( seen == 0 )", "fargoth->AiWander 512 5 0 40 20 10",
      "messagebox \"Hello %g\" seen \"Yes\" \"No\"", "set seen to ( GetPos X + 1 )", "endif",
      "end"])

theorem exists_instructions_of_compile_greeting :
    ∃ p, (compile .empty greeting).result = .ok p ∧
      ∃ pieces, instructions p.data = some pieces ∧ pieces.flatten = p.data ∧
        (∀ piece ∈ pieces, ∀ rest, instructionLength? (piece ++ rest) = some piece.length) ∧
        startsFrom 0 (joinQualifiers pieces) = p.placed.map PlacedStatement.offset ∧
        pieces.getLast? = some Opcode.scriptEnd.encode := by
  have htables : Tables.empty.ShortSpellings :=
    ⟨fun h => absurd h (by simp [Tables.empty]), fun _ => .inl rfl⟩
  have hlines : ∀ line ∈ greeting.lines, line.length ≤ 254 := by decide +kernel
  obtain ⟨p, hp⟩ := Outcome.exists_result_eq_ok
    (x := compile .empty greeting) (by decide +kernel)
  exact ⟨p, hp, exists_instructions_of_compile htables hlines hp⟩

end Program

end MorrowindScript
