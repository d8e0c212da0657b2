import MorrowindScript.Proofs.Program.Tiling
import MorrowindScript.Proofs.SourceLine.Layout

/-!
# Lines are compiled independently

What is emitted for a line depends on its text and on the declarations before it. Of the other lines
of a script nothing shows in it but the length of the body that the line starts.

The module introduces:

* `SameButCount` — the bytes of two lines agree, apart from the length of a body.
* `SourceLine.sameButCount_encode` — the lines after a line show in the length of its body only.
* `Program.lineBytes?`, `Program.lineObject?` — what is emitted for a line, and the object that is
  named in it.
* `EditedCode` — lines other than declarations were inserted, deleted or changed.
* `Program.sameButCount_of_compile` — what is emitted for a line that two scripts have in common
  agrees, and so does what is emitted for a line before and after other lines were edited.
-/

namespace MorrowindScript

open Bytes

/-! ## Lines -/

/-- The code of the instruction that starts a body, by the kind of its line. -/
def Block.startOpcode? : LineKind → Option Opcode
  | .ifBranch => some .ifBranch
  | .elseIfBranch => some .elseIfBranch
  | .elseBranch => some .elseBranch
  | .whileLoop => some .whileLoop
  | _ => none

/-- The bytes of two lines of a kind agree that are about the same object, if about any. If the kind
is one that starts a body, the byte behind the object and the code, which counts the lines of the
body, may be different. -/
inductive SameButCount (kind : LineKind) (object : Option Bytes) : Bytes → Bytes → Prop where
  /-- The bytes are the same. -/
  | same (bytes : Bytes) : SameButCount kind object bytes bytes
  /-- The line starts a body, and the bytes are the same but for the count after the code. -/
  | counts {opcode : Opcode} (hopcode : Block.startOpcode? kind = some opcode)
      (count count' : UInt8) (rest : Bytes) :
      SameButCount kind object
        (object.elim [] qualifierBytes ++ (opcode.encode ++ count :: rest))
        (object.elim [] qualifierBytes ++ (opcode.encode ++ count' :: rest))

theorem Statement.encode_eq (s : Statement) :
    s.encode = s.object.elim [] qualifierBytes ++ s.instruction.encode := by
  rw [encode]
  cases s.object with
  | none => rfl
  | some object => rfl

/-- Two conditionals with one text have the same condition and the same object. -/
theorem Conditional.exists_count_of_compile (conditional : ConditionalKind) {scope : Scope}
    {text : Bytes} {following following' : List LineKind} {object object' : Option Bytes}
    {instruction instruction' : Instruction}
    (h : (compile scope conditional following text).result = .ok (object, instruction))
    (h' : (compile scope conditional following' text).result = .ok (object', instruction')) :
    object = object' ∧ ∃ (count count' : UInt8) (rest : Bytes),
      instruction.encode = conditional.opcode.encode ++ count :: rest ∧
      instruction'.encode = conditional.opcode.encode ++ count' :: rest := by
  obtain ⟨n, condition, -, -, hcondition, -, hq⟩ := result_compile_eq_ok_iff.1 h
  obtain ⟨n', condition', -, -, hcondition', -, hq'⟩ := result_compile_eq_ok_iff.1 h'
  obtain rfl : condition = condition' := Except.ok.inj (hcondition.symm.trans hcondition')
  obtain ⟨rfl, rfl⟩ := Prod.mk.inj hq
  obtain ⟨rfl, rfl⟩ := Prod.mk.inj hq'
  exact ⟨rfl, UInt8.ofNat n, UInt8.ofNat n', textWithLength condition.encode, rfl, rfl⟩

namespace SourceLine

variable {scope : Scope} {text : Bytes} {kind : LineKind} {following following' : List LineKind}
  {object object' : Option Bytes} {instruction instruction' : Instruction}

/-- A line that starts no body is compiled without a look at the lines after it. -/
theorem compile_eq_of_startOpcode?_eq_none (hopcode : Block.startOpcode? kind = none) :
    compile scope text kind following = compile scope text kind following' := by
  cases kind with
  | ifBranch | elseIfBranch | whileLoop | elseBranch => cases hopcode
  | _ => rfl

/-- A line that starts a body is compiled to the same bytes but for the count, whichever lines come
after it. -/
theorem exists_count_of_compile {opcode : Opcode} (hopcode : Block.startOpcode? kind = some opcode)
    (h : (compile scope text kind following).result = .ok (object, instruction))
    (h' : (compile scope text kind following').result = .ok (object', instruction')) :
    object = object' ∧ ∃ (count count' : UInt8) (rest : Bytes),
      instruction.encode = opcode.encode ++ count :: rest ∧
      instruction'.encode = opcode.encode ++ count' :: rest := by
  cases kind with
  | ifBranch =>
    obtain rfl := Option.some.inj hopcode
    exact Conditional.exists_count_of_compile .ifBranch h h'
  | elseIfBranch =>
    obtain rfl := Option.some.inj hopcode
    exact Conditional.exists_count_of_compile .elseIfBranch h h'
  | whileLoop =>
    obtain rfl := Option.some.inj hopcode
    exact Conditional.exists_count_of_compile .whileLoop h h'
  | elseBranch =>
    obtain rfl := Option.some.inj hopcode
    -- such a line has no object and no operand but the count
    have hlines {following : List LineKind} {object : Option Bytes} {instruction : Instruction}
        (h : (compile scope text .elseBranch following).result = .ok (object, instruction)) :
        object = none ∧ ∃ n, instruction = .elseBranch n := by
      obtain ⟨instruction', hinstruction, hq⟩ := Outcome.result_bind_eq_ok.1 h
      obtain ⟨n, -, hn⟩ := Outcome.result_bind_eq_ok.1 hinstruction
      obtain ⟨rfl, rfl⟩ := Prod.mk.inj (Except.ok.inj hq)
      exact ⟨rfl, n, (Except.ok.inj hn).symm⟩
    obtain ⟨rfl, n, rfl⟩ := hlines h
    obtain ⟨rfl, n', rfl⟩ := hlines h'
    exact ⟨rfl, UInt8.ofNat n, UInt8.ofNat n', [], rfl, rfl⟩
  | _ => cases hopcode

/-- What a line is compiled to in one scope is about the same object and agrees, whichever lines
come after it. -/
theorem sameButCount_encode
    (h : (compile scope text kind following).result = .ok (object, instruction))
    (h' : (compile scope text kind following').result = .ok (object', instruction'))
    (number number' : Nat) :
    object = object' ∧
      SameButCount kind object (Statement.encode ⟨⟨text, number⟩, object, instruction⟩)
        (Statement.encode ⟨⟨text, number'⟩, object', instruction'⟩) := by
  rw [Statement.encode_eq, Statement.encode_eq]
  cases hopcode : Block.startOpcode? kind with
  | none =>
    rw [compile_eq_of_startOpcode?_eq_none hopcode] at h
    obtain ⟨rfl, rfl⟩ := Prod.mk.inj (Except.ok.inj (h.symm.trans h'))
    exact ⟨rfl, .same _⟩
  | some opcode =>
    obtain ⟨rfl, count, count', rest, hencode, hencode'⟩ := exists_count_of_compile hopcode h h'
    refine ⟨rfl, ?_⟩
    simp only [hencode, hencode']
    exact .counts hopcode count count' rest

end SourceLine

/-! ## Edits -/

/-- Lines other than declarations were inserted, deleted or changed, and the other lines kept. -/
inductive EditedCode : List Bytes → List Bytes → Prop where
  | nil : EditedCode [] []
  | keep {texts texts' : List Bytes} (text : Bytes) (h : EditedCode texts texts') :
      EditedCode (text :: texts) (text :: texts')
  | insert {texts texts' : List Bytes} {text : Bytes}
      (htext : (LineKind.classify text).isDeclaration = false) (h : EditedCode texts texts') :
      EditedCode texts (text :: texts')
  | delete {texts texts' : List Bytes} {text : Bytes}
      (htext : (LineKind.classify text).isDeclaration = false) (h : EditedCode texts texts') :
      EditedCode (text :: texts) texts'
  | change {texts texts' : List Bytes} {text text' : Bytes}
      (htext : (LineKind.classify text).isDeclaration = false)
      (htext' : (LineKind.classify text').isDeclaration = false) (h : EditedCode texts texts') :
      EditedCode (text :: texts) (text' :: texts')

/-- Such edits leave the declarations as they are. -/
theorem EditedCode.filterMap_declaration?_eq {texts texts' : List Bytes}
    (h : EditedCode texts texts') :
    texts.filterMap Program.declaration? = texts'.filterMap Program.declaration? := by
  have hnone {text : Bytes} (htext : (LineKind.classify text).isDeclaration = false) :
      Program.declaration? text = none := LineKind.declared?_eq_none htext text
  induction h with
  | nil => rfl
  | keep text _ ih => rw [List.filterMap_cons, List.filterMap_cons, ih]
  | insert htext _ ih => rw [ih, List.filterMap_cons_none (hnone htext)]
  | delete htext _ ih => rw [← ih, List.filterMap_cons_none (hnone htext)]
  | change htext htext' _ ih =>
    rw [List.filterMap_cons_none (hnone htext), List.filterMap_cons_none (hnone htext'), ih]

/-! ## Scripts -/

namespace Program

/-- What is emitted for line `i` of the source of a script, the line that opens it being line zero:
nothing for a declaration, and the bytes of its statement for any other line. -/
def lineBytes? (p : Program) (i : Nat) : Option Bytes := do
  let line ← (SourceLine.split p.source)[i]?
  if line.kind.isDeclaration then some []
  else p.placed[statementIndex (lineKinds p.source) i]?.map PlacedStatement.bytes

/-- The object that is named in what is emitted for line `i` of the source of a script. -/
def lineObject? (p : Program) (i : Nat) : Option Bytes := do
  let line ← (SourceLine.split p.source)[i]?
  if line.kind.isDeclaration then none
  else (← p.statements[statementIndex (lineKinds p.source) i]?).object

theorem declarationsBefore_eq (source : Bytes) (i : Nat) :
    declarationsBefore source i =
      (((SourceLine.texts source).take i).drop 1).filterMap declaration? := by
  rw [SourceLine.texts, ← List.map_take, ← List.map_drop, List.filterMap_map]
  rfl

/-- The lines before a line, by their texts. -/
theorem declarationsBefore_of_texts_eq {source opening text : Bytes} {before after : List Bytes}
    (h : SourceLine.texts source = opening :: (before ++ text :: after)) :
    declarationsBefore source (before.length + 1) = before.filterMap declaration? := by
  rw [declarationsBefore_eq, h, List.take_succ_cons, List.drop_one, List.tail_cons, List.take_left]

theorem lineBytes?_of_isDeclaration {tables : Tables} {source : Bytes} {p : Program}
    (h : (compile tables source).result = .ok p) {i : Nat} {line : SourceLine}
    (hline : (SourceLine.split source)[i]? = some line)
    (hkind : line.kind.isDeclaration = true) :
    p.lineBytes? i = some [] ∧ p.lineObject? i = none := by
  obtain ⟨-, -, -, -, -, -, hsource, -⟩ := result_compile_eq_ok_iff.1 h
  rw [lineBytes?, lineObject?, hsource, hline]
  simp [hkind]

/-- What is emitted for a line that is no declaration is what the line compiles to, in the scope of
the declarations before it. -/
theorem exists_lineBytes?_of_compile {tables : Tables} {source : Bytes} {p : Program}
    (h : (compile tables source).result = .ok p) {i : Nat} {line : SourceLine} (hi : 0 < i)
    (hline : (SourceLine.split source)[i]? = some line)
    (hkind : line.kind.isDeclaration = false) :
    ∃ object instruction, p.lineBytes? i = some (Statement.encode ⟨line, object, instruction⟩) ∧
      p.lineObject? i = object ∧
      (SourceLine.compile (Scope.declareEach { tables := tables } (declarationsBefore source i))
        line.text line.kind ((lineKinds source).drop (i + 1))).result =
          .ok (object, instruction) := by
  obtain ⟨-, -, -, -, -, -, hsource, -⟩ := result_compile_eq_ok_iff.1 h
  obtain ⟨object, instruction, hstatement, hcompile⟩ := exists_statement_of_compile h hi hline hkind
  refine ⟨object, instruction, ?_, ?_, hcompile⟩
  · rw [lineBytes?, hsource, hline, placed, getElem?_placeFrom, hstatement]
    simp [hkind]
  · rw [lineObject?, hsource, hline, hstatement]
    simp [hkind]

/-- What is emitted for two lines with the same text and the same declarations before them. -/
theorem exists_sameButCount_of_compile {tables : Tables} {source source' : Bytes} {p q : Program}
    (hp : (compile tables source).result = .ok p) (hq : (compile tables source').result = .ok q)
    {i j : Nat} {text : Bytes} (hi : 0 < i) (hj : 0 < j)
    (htext : (SourceLine.texts source)[i]? = some text)
    (htext' : (SourceLine.texts source')[j]? = some text)
    (hdeclarations : declarationsBefore source i = declarationsBefore source' j) :
    ∃ bytes bytes', p.lineBytes? i = some bytes ∧ q.lineBytes? j = some bytes' ∧
      p.lineObject? i = q.lineObject? j ∧
      SameButCount (LineKind.classify text) (p.lineObject? i) bytes bytes' := by
  rw [SourceLine.texts, List.getElem?_map] at htext htext'
  obtain ⟨⟨text, number⟩, hline, rfl⟩ := Option.map_eq_some_iff.1 htext
  obtain ⟨⟨text', number'⟩, hline', htext⟩ := Option.map_eq_some_iff.1 htext'
  obtain rfl : text' = text := htext
  by_cases hkind : (LineKind.classify text').isDeclaration = true
  · obtain ⟨hbytes, hobject⟩ := lineBytes?_of_isDeclaration hp hline hkind
    obtain ⟨hbytes', hobject'⟩ := lineBytes?_of_isDeclaration hq hline' hkind
    exact ⟨[], [], hbytes, hbytes', hobject.trans hobject'.symm, .same []⟩
  · have hkind := Bool.eq_false_of_not_eq_true hkind
    obtain ⟨object, instruction, hbytes, hobject, hcompile⟩ :=
      exists_lineBytes?_of_compile hp hi hline hkind
    obtain ⟨object', instruction', hbytes', hobject', hcompile'⟩ :=
      exists_lineBytes?_of_compile hq hj hline' hkind
    -- the two lines are compiled in one scope, and only what follows them is different
    rw [← hdeclarations] at hcompile'
    obtain ⟨hsame, hcounts⟩ := SourceLine.sameButCount_encode hcompile hcompile' number number'
    rw [hobject, hobject']
    exact ⟨_, _, hbytes, hbytes', hsame, hcounts⟩

/-- Lines are compiled independently of one another. What two scripts that compile have for lines
with the same text and the same declarations before them is about the same object and agrees, apart
from the length of a body. So does what a script has for a line before and after lines other than
declarations were inserted, deleted or changed before it, and any lines after it. -/
theorem sameButCount_of_compile {tables : Tables} {source source' : Bytes} {p q : Program}
    (hp : (compile tables source).result = .ok p) (hq : (compile tables source').result = .ok q) :
    (∀ i j text, 0 < i → 0 < j → (SourceLine.texts source)[i]? = some text →
      (SourceLine.texts source')[j]? = some text →
      declarationsBefore source i = declarationsBefore source' j →
        ∃ bytes bytes', p.lineBytes? i = some bytes ∧ q.lineBytes? j = some bytes' ∧
          p.lineObject? i = q.lineObject? j ∧
          SameButCount (LineKind.classify text) (p.lineObject? i) bytes bytes') ∧
    ∀ opening opening' before before' text after after',
      SourceLine.texts source = opening :: (before ++ text :: after) →
      SourceLine.texts source' = opening' :: (before' ++ text :: after') →
      EditedCode before before' →
        ∃ bytes bytes', p.lineBytes? (before.length + 1) = some bytes ∧
          q.lineBytes? (before'.length + 1) = some bytes' ∧
          p.lineObject? (before.length + 1) = q.lineObject? (before'.length + 1) ∧
          SameButCount (LineKind.classify text) (p.lineObject? (before.length + 1))
            bytes bytes' := by
  refine ⟨?_, ?_⟩
  · intro i j text hi hj htext htext' hdeclarations
    exact exists_sameButCount_of_compile hp hq hi hj htext htext' hdeclarations
  · intro opening opening' before before' text after after' htexts htexts' hedited
    refine exists_sameButCount_of_compile hp hq (Nat.succ_pos _) (Nat.succ_pos _) ?_ ?_ ?_
    · simp [htexts]
    · simp [htexts']
    · -- the edits before the line leave the declarations as they are
      rw [declarationsBefore_of_texts_eq htexts, declarationsBefore_of_texts_eq htexts',
        hedited.filterMap_declaration?_eq]

/-- A script with one line in a conditional on another object. -/
def errand : Bytes :=
  joinWith [lineFeed] (List.map ascii
    ["begin errand", "short stage", "if ( guard->GetDisabled == 1 )", "set stage to 2", "endif",
      "end"])

/-- The same script with a line more before the conditional and one more in it. -/
def longErrand : Bytes :=
  joinWith [lineFeed] (List.map ascii
    ["begin errand", "short stage", "guard->Activate", "if ( guard->GetDisabled == 1 )",
      "set stage to 2", "return", "endif", "end"])

theorem sameButCount_of_compile_errand :
    ∃ p q bytes bytes', (compile .empty errand).result = .ok p ∧
      (compile .empty longErrand).result = .ok q ∧ p.lineBytes? 2 = some bytes ∧
      q.lineBytes? 3 = some bytes' ∧ bytes ≠ bytes' ∧
      SameButCount .ifBranch (some (ascii "guard")) bytes bytes' := by
  obtain ⟨p, hp, hshort⟩ : ∃ p, (compile .empty errand).result = .ok p ∧
      (p.lineObject? 2, (p.lineBytes? 2).bind (·[10]?)) = (some (ascii "guard"), some 1) :=
    Outcome.exists_result_eq_ok_of_map (by decide +kernel)
  obtain ⟨q, hq, hlong⟩ : ∃ q, (compile .empty longErrand).result = .ok q ∧
      (q.lineBytes? 3).bind (·[10]?) = some 2 :=
    Outcome.exists_result_eq_ok_of_map (by decide +kernel)
  obtain ⟨hobject, hcount⟩ := Prod.mk.inj hshort
  have hedited : EditedCode [ascii "short stage"] [ascii "short stage", ascii "guard->Activate"] :=
    .keep _ (.insert (by decide +kernel) .nil)
  have htexts : SourceLine.texts errand = ascii "begin errand" :: ([ascii "short stage"] ++
      ascii "if ( guard->GetDisabled == 1 )" ::
        List.map ascii ["set stage to 2", "endif", "end"]) := by
    decide +kernel
  have htexts' : SourceLine.texts longErrand = ascii "begin errand" ::
      ([ascii "short stage", ascii "guard->Activate"] ++ ascii "if ( guard->GetDisabled == 1 )" ::
        List.map ascii ["set stage to 2", "return", "endif", "end"]) := by
    decide +kernel
  have hkind : LineKind.classify (ascii "if ( guard->GetDisabled == 1 )") = .ifBranch := by
    decide +kernel
  obtain ⟨bytes, bytes', hbytes, hbytes', -, hsame⟩ :=
    (sameButCount_of_compile hp hq).2 _ _ _ _ _ _ _ htexts htexts' hedited
  have hne : bytes ≠ bytes' := by
    rintro rfl
    rw [show p.lineBytes? 2 = some bytes from hbytes] at hcount
    rw [show q.lineBytes? 3 = some bytes from hbytes'] at hlong
    -- the bodies have different lengths
    exact absurd (hcount.symm.trans hlong) (by decide)
  have hsame : SameButCount .ifBranch (p.lineObject? 2) bytes bytes' := hkind ▸ hsame
  rw [hobject] at hsame
  exact ⟨p, q, bytes, bytes', hp, hq, hbytes, hbytes', hne, hsame⟩

end Program

end MorrowindScript
