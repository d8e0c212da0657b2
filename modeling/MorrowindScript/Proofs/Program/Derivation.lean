import MorrowindScript.Program.Compile
import MorrowindScript.Proofs.Outcome

/-!
# What a script that compiles is made of

Compiling stops at the first fault. A script that compiles is therefore one of which every line
compiles, and the statements are what the lines compile to, in order.

* `Conditional.result_compile_eq_ok_iff`, `Assignment.exists_of_compile_eq_ok`,
  `Call.exists_of_compileQualified_eq_ok`: what a line of each form compiles to.
* `SourceLine.cases_of_compile`: the forms of lines.
* `Program.Compiles`: a derivation that lines compile to statements.
* `Program.Compiles.exists_statement`: the statement of a line, by the number of lines before it.
* `Program.exists_compile_of_mem_statements`: the line of a statement.
* `Program.result_compileLines_eq_ok_iff`, `Program.result_compile_eq_ok_iff`: the compiler succeeds
  exactly if there is a derivation, with the statements of the derivation.
-/

namespace MorrowindScript

open Bytes

/-! ## Lines -/

/-- A length that was checked is there, and within the limit. -/
@[simp]
theorem result_checkedLength_eq_ok_iff {kind : LineKind} {length? : Option Nat} {n : Nat} :
    (checkedLength kind length?).result = .ok n ↔ length? = some n ∧ n ≤ Block.maxLength := by
  cases length? with
  | none => simp [checkedLength]
  | some m =>
    rw [checkedLength]
    split
    · next hlong =>
      simp only [Outcome.result_fail, reduceCtorEq, Option.some.injEq, false_iff, not_and]
      rintro rfl
      omega
    · next hshort =>
      simp only [Outcome.pure_eq, Except.ok.injEq, Option.some.injEq, iff_self_and]
      rintro rfl
      omega

/-- A conditional compiles if its body can be skipped and its condition can be read and is short
enough. -/
theorem Conditional.result_compile_eq_ok_iff {scope : Scope} {kind : ConditionalKind}
    {following : List LineKind} {text : Bytes} {q : QualifiedInstruction} :
    (compile scope kind following text).result = .ok q ↔
      ∃ lines condition, kind.bodyLength? following = some lines ∧ lines ≤ Block.maxLength ∧
        (Condition.parse scope
          (splitObject (Scan.unwrap (text.drop kind.lineKind.operandOffset))).2).result =
            .ok condition ∧
        condition.encode.length ≤ maxExpressionSize ∧
        q = ((splitObject (Scan.unwrap (text.drop kind.lineKind.operandOffset))).1.map scope.object,
          .conditional kind lines condition) := by
  rw [compile]
  simp only [Outcome.result_bind_eq_ok, result_checkedLength_eq_ok_iff,
    Outcome.result_mapError_eq_ok]
  constructor
  · rintro ⟨lines, ⟨hlines, hmax⟩, condition, hcondition, h⟩
    split at h
    · simp at h
    · next hsize =>
      refine ⟨lines, condition, hlines, hmax, hcondition, by omega, ?_⟩
      simpa using h.symm
  · rintro ⟨lines, condition, hlines, hmax, hcondition, hsize, rfl⟩
    refine ⟨lines, ⟨hlines, hmax⟩, condition, hcondition, ?_⟩
    rw [if_neg (by omega)]
    rfl

/-- A value that compiles is an expression that is short enough, or the text itself. -/
theorem Value.cases_of_parse_eq_ok {scope : Scope} {text : Bytes} {value : Value}
    (h : (Value.parse scope text).result = .ok value) :
    (∃ e, (Expression.parse scope text).result = .ok e ∧ e.encode.length ≤ maxExpressionSize ∧
      value = .expression e) ∨ value = .text text := by
  rw [parse] at h
  split at h
  · next e he =>
    split at h
    · simp at h
    · next hsize =>
      obtain rfl : Value.expression e = value := by simpa using h
      exact .inl ⟨e, he, by omega, rfl⟩
  · obtain rfl : Value.text text = value := by simpa using h
    exact .inr rfl

/-- What an assignment that compiles is made of. -/
theorem Assignment.exists_of_compile_eq_ok {scope : Scope} {line : Bytes}
    {q : QualifiedInstruction} (h : (compile scope line).result = .ok q) :
    ∃ separator object rest target value,
      splitObject line (Scan.unwrap ((trimLeft (line.drop LineKind.assignment.operandOffset)).drop
        (separator + 4))) = .ok (object, rest) ∧
      Target.parse scope (trim ((trimLeft (line.drop LineKind.assignment.operandOffset)).take
        separator)) = .ok target ∧
      trimLeft rest ≠ [] ∧ (Value.parse scope (trimLeft rest)).result = .ok value ∧
      q = (object.map scope.object, .assignment target value) := by
  rw [compile] at h
  simp only [Outcome.result_bind_eq_ok, Outcome.result_ofOption_eq_ok,
    Outcome.result_ofExcept] at h
  obtain ⟨separator, -, ⟨object, rest⟩, hsplit, target, htarget, h⟩ := h
  split at h
  · simp at h
  · next hvalue =>
    -- a value that cannot be read is kept as text, so only its length can be a fault
    obtain ⟨value, hparse, hq⟩ := Outcome.result_bind_eq_ok.1 h
    refine ⟨separator, object, rest, target, value, hsplit, htarget, ?_, hparse, ?_⟩
    · simpa using hvalue
    · simpa using hq.symm

/-- A call compiles if its command can be encoded. -/
theorem Call.result_compile_eq_ok_iff {scope : Scope} {line text : Bytes}
    {instruction : Instruction} :
    (compile scope line text).result = .ok instruction ↔
      ∃ call, (Command.invoke scope false text).result = .ok call ∧ .call call = instruction := by
  simp only [compile, Outcome.result_bind_eq_ok, Outcome.result_mapError_eq_ok, Outcome.pure_eq,
    Except.ok.injEq]

/-- What a call on an object that compiles is made of. -/
theorem Call.exists_of_compileQualified_eq_ok {scope : Scope} {line : Bytes}
    {q : QualifiedInstruction} (h : (compileQualified scope line).result = .ok q) :
    ∃ position call, Scan.qualifierStart line = some position ∧
      stripQuotes (trim (line.take position)) ≠ [] ∧
      (Command.invoke scope false (line.drop (position + 2))).result = .ok call ∧
      q = (some (scope.object (stripQuotes (trim (line.take position)))), .call call) := by
  rw [compileQualified] at h
  split at h
  · simp at h
  · next position hposition =>
    simp only at h
    split at h
    · simp at h
    · next hcomplete =>
      obtain ⟨instruction, hinstruction, hq⟩ := Outcome.result_bind_eq_ok.1 h
      obtain ⟨call, hcall, rfl⟩ := Call.result_compile_eq_ok_iff.1 hinstruction
      refine ⟨position, call, hposition, ?_, hcall, by simpa using hq.symm⟩
      intro hempty
      simp [hempty] at hcomplete

/-- The instructions that a line without object and call is compiled to, by the kind of the line. -/
inductive Instruction.IsPlain : LineKind → Instruction → Prop where
  | choice (text : Bytes) : IsPlain .choice (.choice text)
  | returning : IsPlain .returning .returning
  | elseBranch (lines : Nat) : IsPlain .elseBranch (.elseBranch lines)
  | ifEnd : IsPlain .ifEnd .ifEnd
  | whileEnd : IsPlain .whileEnd .whileEnd
  | scriptEnd : IsPlain .scriptEnd .scriptEnd

/-- The line declares a local. -/
def LineKind.isDeclaration : LineKind → Bool
  | declaration _ => true
  | _ => false

/-- The kind and the name of the local that a line of the given kind declares. -/
def LineKind.declared? (kind : LineKind) (text : Bytes) : Option (LocalKind × Bytes) :=
  match kind with
  | declaration k => some (k, trim (text.drop kind.operandOffset))
  | _ => none

theorem LineKind.declared?_eq_none {kind : LineKind} (h : kind.isDeclaration = false)
    (text : Bytes) : kind.declared? text = none := by
  cases kind with
  | declaration k => exact absurd h (by simp [isDeclaration])
  | _ => rfl

/-- Declares locals of several kinds, in order. -/
def Scope.declareEach (scope : Scope) (declarations : List (LocalKind × Bytes)) : Scope :=
  declarations.foldl (fun scope d => scope.declare d.1 d.2) scope

@[simp]
theorem Scope.declareEach_cons (scope : Scope) (kind : LocalKind) (name : Bytes)
    (declarations : List (LocalKind × Bytes)) :
    scope.declareEach ((kind, name) :: declarations) =
      (scope.declare kind name).declareEach declarations := rfl

/-- What a line compiles to, by its kind: an assignment, a conditional, a call on an object, a call
without one, or a plain instruction. -/
theorem SourceLine.cases_of_compile {scope : Scope} {text : Bytes} {kind : LineKind}
    {following : List LineKind} {object : Option Bytes} {instruction : Instruction}
    (h : (SourceLine.compile scope text kind following).result = .ok (object, instruction)) :
    kind = .assignment ∧ (Assignment.compile scope text).result = .ok (object, instruction) ∨
    (∃ conditional : ConditionalKind, kind = conditional.lineKind ∧
      (Conditional.compile scope conditional following text).result = .ok (object, instruction)) ∨
    kind = .qualifiedCall ∧
      (Call.compileQualified scope text).result = .ok (object, instruction) ∨
    (∃ call, (kind = .call ∨ kind.isDeclaration = true) ∧ object = none ∧
      (Command.invoke scope false text).result = .ok call ∧ instruction = .call call) ∨
    object = none ∧ instruction.IsPlain kind := by
  have hcall (hkind : kind = .call ∨ kind.isDeclaration = true)
      (hq : (unqualified (Call.compile scope text text)).result = .ok (object, instruction)) :
      ∃ call, (kind = .call ∨ kind.isDeclaration = true) ∧ object = none ∧
        (Command.invoke scope false text).result = .ok call ∧ instruction = .call call := by
    obtain ⟨instruction', hinstruction, hq⟩ := Outcome.result_bind_eq_ok.1 hq
    obtain ⟨call, hcall, rfl⟩ := Call.result_compile_eq_ok_iff.1 hinstruction
    obtain ⟨rfl, rfl⟩ := Prod.mk.inj (Except.ok.inj hq)
    exact ⟨call, hkind, rfl, hcall, rfl⟩
  have hplain {instruction' : Instruction} (hkind : instruction'.IsPlain kind)
      (hq : (⟨[], .ok (none, instruction')⟩ : LineOutcome QualifiedInstruction).result =
        .ok (object, instruction)) : object = none ∧ instruction.IsPlain kind := by
    obtain ⟨rfl, rfl⟩ := Prod.mk.inj (Except.ok.inj hq)
    exact ⟨rfl, hkind⟩
  cases kind with
  | assignment => exact .inl ⟨rfl, h⟩
  | ifBranch => exact .inr (.inl ⟨.ifBranch, rfl, h⟩)
  | elseIfBranch => exact .inr (.inl ⟨.elseIfBranch, rfl, h⟩)
  | whileLoop => exact .inr (.inl ⟨.whileLoop, rfl, h⟩)
  | qualifiedCall => exact .inr (.inr (.inl ⟨rfl, h⟩))
  | call => exact .inr (.inr (.inr (.inl (hcall (.inl rfl) h))))
  | declaration _ => exact .inr (.inr (.inr (.inl (hcall (.inr rfl) h))))
  | choice => exact .inr (.inr (.inr (.inr (hplain (.choice _) h))))
  | returning => exact .inr (.inr (.inr (.inr (hplain .returning h))))
  | ifEnd => exact .inr (.inr (.inr (.inr (hplain .ifEnd h))))
  | whileEnd => exact .inr (.inr (.inr (.inr (hplain .whileEnd h))))
  | scriptEnd => exact .inr (.inr (.inr (.inr (hplain .scriptEnd h))))
  | elseBranch =>
    obtain ⟨instruction', hinstruction, hq⟩ := Outcome.result_bind_eq_ok.1 h
    obtain ⟨lines, -, hlines⟩ := Outcome.result_bind_eq_ok.1 hinstruction
    obtain rfl := Except.ok.inj hlines
    exact .inr (.inr (.inr (.inr (hplain (.elseBranch lines) hq))))

/-! ## Scripts -/

namespace Program

/-- The lines, read in a scope, compile to locals and statements. A declaration adds a local and no
statement, every other line is a statement, and the last line ends the script. -/
inductive Compiles : Scope → List (SourceLine × LineKind) → Locals → List Statement → Prop where
  /-- A declaration. -/
  | declaration {scope : Scope} {line : SourceLine} {kind : LocalKind}
      {rest : List (SourceLine × LineKind)} {locals : Locals} {statements : List Statement}
      (hname : trim (line.text.drop (LineKind.declaration kind).operandOffset) ≠ [])
      (hrest : Compiles (scope.declare kind
        (trim (line.text.drop (LineKind.declaration kind).operandOffset))) rest locals statements) :
      Compiles scope ((line, .declaration kind) :: rest) locals statements
  /-- The end of the script. -/
  | scriptEnd {scope : Scope} {line : SourceLine} :
      Compiles scope [(line, .scriptEnd)] scope.locals [⟨line, none, .scriptEnd⟩]
  /-- Any other line. -/
  | statement {scope : Scope} {line : SourceLine} {kind : LineKind}
      {rest : List (SourceLine × LineKind)} {object : Option Bytes} {instruction : Instruction}
      {locals : Locals} {statements : List Statement}
      (hdeclaration : ∀ k, kind ≠ .declaration k) (hend : kind ≠ .scriptEnd)
      (hline : (SourceLine.compile scope line.text kind (rest.map (·.2))).result =
        .ok (object, instruction))
      (hrest : Compiles scope rest locals statements) :
      Compiles scope ((line, kind) :: rest) locals (⟨line, object, instruction⟩ :: statements)

/-- Lines compile exactly if there is a derivation. -/
theorem result_compileLines_eq_ok_iff {id : Bytes} {scope : Scope} {last : Nat}
    {lines : List (SourceLine × LineKind)} {locals : Locals} {statements : List Statement} :
    (compileLines id scope last lines).result = .ok (locals, statements) ↔
      Compiles scope lines locals statements := by
  fun_induction compileLines id scope last lines generalizing locals statements with
  | case1 scope last =>
    simp only [Outcome.result_fail, reduceCtorEq, false_iff]
    rintro ⟨⟩
  | case2 scope last line kind rest name =>
    rename_i hname
    simp only [Outcome.result_fail, reduceCtorEq, false_iff]
    intro h
    cases h with
    | declaration hname' => exact hname' (List.isEmpty_iff.1 hname)
    | statement hdeclaration => exact hdeclaration kind rfl
  | case3 scope last line kind rest name hname =>
    rename_i ih
    rw [ih]
    constructor
    · exact .declaration fun hempty => hname (List.isEmpty_iff.2 hempty)
    · intro h
      cases h with
      | declaration _ hrest => exact hrest
      | statement hdeclaration => exact absurd rfl (hdeclaration kind)
  | case4 scope last line =>
    simp only [Outcome.pure_eq, Except.ok.injEq, Prod.mk.injEq]
    constructor
    · rintro ⟨rfl, rfl⟩
      exact .scriptEnd
    · intro h
      cases h with
      | scriptEnd => exact ⟨rfl, rfl⟩
      | statement _ hend => exact absurd rfl hend
  | case5 scope last line next kind rest =>
    simp only [Outcome.result_fail, reduceCtorEq, false_iff]
    intro h
    cases h with
    | statement _ hend => exact hend rfl
  | case6 scope last line kind rest hdeclaration hsingle hlater ih =>
    -- the end of a script was dealt with before, whether lines follow it or not
    have hend : kind ≠ .scriptEnd := by
      rintro rfl
      rcases rest with - | ⟨next, rest⟩
      · exact hsingle rfl rfl
      · exact hlater next.1 next.2 rest rfl rfl
    simp only [LineOutcome.onLine, Outcome.result_bind_eq_ok, Outcome.result_mapError_eq_ok,
      Outcome.result_mapWarnings, Outcome.pure_eq, Except.ok.injEq, Prod.mk.injEq]
    constructor
    · rintro ⟨⟨object, instruction⟩, hline, ⟨locals', statements'⟩, hrest, rfl, rfl⟩
      exact .statement hdeclaration hend hline (ih.1 hrest)
    · intro h
      cases h with
      | declaration => exact absurd rfl (hdeclaration _)
      | scriptEnd => exact absurd rfl hend
      | statement _ _ hline hrest =>
        exact ⟨_, hline, _, ih.2 hrest, rfl, rfl⟩

/-- A line that is no declaration is a statement, after as many statements as there are lines before
it that are no declarations, and is compiled in the scope of the declarations before it. -/
theorem Compiles.exists_statement {scope : Scope} {lines : List (SourceLine × LineKind)}
    {locals : Locals} {statements : List Statement} (h : Compiles scope lines locals statements)
    {i : Nat} {line : SourceLine} {kind : LineKind} (hline : lines[i]? = some (line, kind))
    (hkind : kind.isDeclaration = false) :
    ∃ object instruction,
      statements[(lines.take i).countP fun l => !l.2.isDeclaration]? =
        some ⟨line, object, instruction⟩ ∧
      (SourceLine.compile
        (scope.declareEach ((lines.take i).filterMap fun l => l.2.declared? l.1.text))
        line.text kind ((lines.drop (i + 1)).map (·.2))).result = .ok (object, instruction) := by
  induction h generalizing i with
  | declaration _ _ ih =>
    cases i with
    | zero =>
      obtain ⟨rfl, rfl⟩ := Prod.mk.inj (Option.some.inj hline)
      exact absurd hkind (by simp [LineKind.isDeclaration])
    | succ i => simpa [LineKind.isDeclaration, LineKind.declared?] using ih hline
  | @scriptEnd scope line' =>
    cases i with
    | zero =>
      obtain ⟨rfl, rfl⟩ := Prod.mk.inj (Option.some.inj hline)
      exact ⟨none, .scriptEnd, rfl, rfl⟩
    | succ i => exact absurd hline (by simp)
  | @statement scope line' kind' rest object instruction _ _ hdeclaration _ hcompile _ ih =>
    cases i with
    | zero =>
      obtain ⟨rfl, rfl⟩ := Prod.mk.inj (Option.some.inj hline)
      exact ⟨object, instruction, rfl, hcompile⟩
    | succ i =>
      -- the first line is one more statement before the line, and declares nothing
      have hkind' : kind'.isDeclaration = false := by
        cases kind' with
        | declaration k => exact absurd rfl (hdeclaration k)
        | _ => rfl
      simpa [hkind', LineKind.declared?_eq_none hkind'] using ih hline

/-- The last line ends the script, and none before it does. -/
theorem Compiles.exists_eq_append {scope : Scope} {lines : List (SourceLine × LineKind)}
    {locals : Locals} {statements : List Statement} (h : Compiles scope lines locals statements) :
    ∃ init line, lines = init ++ [(line, .scriptEnd)] ∧ (∀ l ∈ init, l.2 ≠ .scriptEnd) ∧
      statements.getLast? = some ⟨line, none, .scriptEnd⟩ := by
  induction h with
  | @declaration _ line kind _ _ _ _ _ ih =>
    obtain ⟨init, last, rfl, hinit, hlast⟩ := ih
    refine ⟨(line, .declaration kind) :: init, last, rfl, ?_, hlast⟩
    exact List.forall_mem_cons.2 ⟨by simp, hinit⟩
  | @scriptEnd _ line => exact ⟨[], line, rfl, by simp, rfl⟩
  | @statement _ line kind _ _ _ _ _ _ hend _ _ ih =>
    obtain ⟨init, last, rfl, hinit, hlast⟩ := ih
    refine ⟨(line, kind) :: init, last, rfl, List.forall_mem_cons.2 ⟨hend, hinit⟩, ?_⟩
    rw [List.getLast?_cons, hlast]
    rfl

/-- Every statement is what its line compiles to, in a scope with the same tables. -/
theorem Compiles.exists_compile_of_mem {scope : Scope} {lines : List (SourceLine × LineKind)}
    {locals : Locals} {statements : List Statement} (h : Compiles scope lines locals statements)
    {s : Statement} (hs : s ∈ statements) :
    ∃ scope' kind following, scope'.tables = scope.tables ∧ (s.line, kind) ∈ lines ∧
      kind.isDeclaration = false ∧
      (SourceLine.compile scope' s.line.text kind following).result =
        .ok (s.object, s.instruction) := by
  induction h with
  | declaration _ _ ih =>
    obtain ⟨scope', kind, following, htables, hmem, hkind, hcompile⟩ := ih hs
    exact ⟨scope', kind, following, htables, List.mem_cons_of_mem _ hmem, hkind, hcompile⟩
  | @scriptEnd scope line =>
    obtain rfl := List.mem_singleton.1 hs
    exact ⟨scope, .scriptEnd, [], rfl, List.mem_singleton_self _, rfl, rfl⟩
  | @statement scope line kind rest object instruction _ _ hdeclaration _ hcompile _ ih =>
    rcases List.mem_cons.1 hs with rfl | hs
    · refine ⟨scope, kind, _, rfl, List.mem_cons_self, ?_, hcompile⟩
      cases kind with
      | declaration k => exact absurd rfl (hdeclaration k)
      | _ => rfl
    · obtain ⟨scope', kind', following, htables, hmem, hkind, hcompile'⟩ := ih hs
      exact ⟨scope', kind', following, htables, List.mem_cons_of_mem _ hmem, hkind, hcompile'⟩

/-- A source compiles exactly if its first line names a script and there is a derivation for the
lines after it. -/
theorem result_compile_eq_ok_iff {tables : Tables} {source : Bytes} {p : Program} :
    (compile tables source).result = .ok p ↔
      ∃ first rest, SourceLine.split source = first :: rest ∧
        LineKind.isBegin first.text = true ∧
        p.id = trimLeft (first.text.drop Token.scriptBegin.operandOffset) ∧ p.id ≠ [] ∧
        p.source = source ∧
        Compiles { tables := tables } (rest.map fun line => (line, line.kind)) p.locals
          p.statements := by
  rw [compile]
  split
  · next hsplit => simp [hsplit]
  · next first rest hsplit =>
    constructor
    · intro h
      split at h
      · simp at h
      · next hbegin =>
        simp only at h
        split at h
        · simp at h
        · next hid =>
          obtain ⟨⟨locals, statements⟩, hlines, hp⟩ := Outcome.result_bind_eq_ok.1 h
          obtain rfl : (⟨_, locals, statements, source⟩ : Program) = p := by simpa using hp
          refine ⟨first, rest, hsplit, by simpa using hbegin, rfl, ?_, rfl,
            result_compileLines_eq_ok_iff.1 hlines⟩
          simpa using hid
    · rintro ⟨first', rest', hsplit', hbegin, hid, hne, hsource, hcompiles⟩
      obtain ⟨rfl, rfl⟩ := List.cons.inj (hsplit.symm.trans hsplit')
      rw [if_neg (by simp [hbegin]), if_neg (by simpa [← hid] using hne)]
      refine Outcome.result_bind_eq_ok.2
        ⟨(p.locals, p.statements), result_compileLines_eq_ok_iff.2 hcompiles, ?_⟩
      rw [← hid, ← hsource]
      rfl

/-- Every statement of a script is what its line compiles to, as a line of its kind. -/
theorem exists_compile_of_mem_statements {tables : Tables} {source : Bytes} {p : Program}
    (h : (compile tables source).result = .ok p) {s : Statement} (hs : s ∈ p.statements) :
    ∃ scope following, scope.tables = tables ∧ s.line.kind.isDeclaration = false ∧
      (SourceLine.compile scope s.line.text s.line.kind following).result =
        .ok (s.object, s.instruction) := by
  obtain ⟨first, rest, -, -, -, -, -, hcompiles⟩ := result_compile_eq_ok_iff.1 h
  obtain ⟨scope, kind, following, htables, hmem, hkind, hcompile⟩ :=
    hcompiles.exists_compile_of_mem hs
  obtain ⟨line, -, hline⟩ := List.mem_map.1 hmem
  obtain ⟨rfl, rfl⟩ := Prod.mk.inj hline
  exact ⟨scope, following, htables, hkind, hcompile⟩

end Program

end MorrowindScript
