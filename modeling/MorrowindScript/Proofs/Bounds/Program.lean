import MorrowindScript.Proofs.Bounds.Expression
import MorrowindScript.Proofs.Program.Derivation

/-!
# Scripts with bounded accesses

Lines are read by their numbers, and each line is cut after its keyword, at an arrow and at the word
between the two sides of an assignment. The kind of a line was found out before, from the same text,
so a line is long enough for its keyword and a call on an object has an arrow. With a kind that is
not that of the text, the accesses may well be out of range.

The module introduces:

* `SourceLine.boundedCompile`, `Program.boundedCompile` — compile a line and a script with bounded
  accesses.
* `SourceLine.boundedCompile_eq` — all accesses of a line are in range, as a line of its own kind.
* `Program.bounded_eq_inRange` — no access of a script, an expression, a condition or a call is ever
  out of range.
-/

namespace MorrowindScript

open Bytes Access

/-- Compiling a line with bounded accesses. -/
abbrev BoundedLine := Outcome Warning (Halt Fault)

/-- Compiling a script with bounded accesses. -/
abbrev BoundedScript := Outcome LineWarning (Halt CompileError)

/-! ## Conditionals -/

namespace Conditional

/-- Takes off an object in front of a condition. -/
def boundedSplitObject {ω ε : Type} (condition : Bytes) :
    Outcome ω (Halt ε) (Option Bytes × Bytes) :=
  match Scan.qualifierStart condition, Scan.comparison condition with
  | some q, some (c, _) =>
    if q + 2 < c then do
      let object ← sliceTo condition q
      if Scan.isSingleToken object then
        let rest ← sliceFrom condition (q + 2)
        pure (some (stripQuotes (Scan.unwrap object)), rest)
      else pure (none, condition)
    else pure (none, condition)
  | _, _ => pure (none, condition)

/-- Compiles a statement with a condition. -/
def boundedCompile (scope : Scope) (kind : ConditionalKind) (following : List LineKind)
    (text : Bytes) : BoundedLine QualifiedInstruction := do
  let lines ← (checkedLength kind.lineKind (kind.bodyLength? following)).inRange
  let operand ← sliceFrom text kind.lineKind.operandOffset
  let (object, rest) ← boundedSplitObject (Scan.unwrap operand)
  let condition ← (Condition.boundedParse scope rest).mapError (Halt.map Fault.badCondition)
  if condition.encode.length > maxExpressionSize then
    Outcome.fail (.error (.longCondition kind.lineKind condition.encode.length))
  else pure (object.map scope.object, .conditional kind lines condition)

theorem boundedSplitObject_eq {ω ε : Type} (condition : Bytes) :
    (boundedSplitObject condition : Outcome ω (Halt ε) _) = pure (splitObject condition) := by
  rw [boundedSplitObject, splitObject]
  cases harrow : Scan.qualifierStart condition with
  | none => rfl
  | some q =>
    cases Scan.comparison condition with
    | none => rfl
    | some found =>
      -- both cuts are in range whether or not the comparison comes late enough
      have hq := Scan.add_two_le_of_qualifierStart harrow
      simp only [sliceTo_of_le (Nat.le_of_add_right_le hq), sliceFrom_of_le hq, Outcome.pure_bind,
        Bool.and_eq_true, decide_eq_true_eq]
      by_cases hbefore : q + 2 < found.1
      · by_cases hsingle : Scan.isSingleToken (condition.take q) = true
        · rw [if_pos hbefore, if_pos hsingle, if_pos ⟨hbefore, hsingle⟩]
        · rw [if_pos hbefore, if_neg hsingle, if_neg fun h => hsingle h.2]
      · rw [if_neg hbefore, if_neg fun h => hbefore h.1]

theorem boundedCompile_eq {scope : Scope} {kind : ConditionalKind} {following : List LineKind}
    {text : Bytes} (h : kind.lineKind.operandOffset ≤ text.length) :
    boundedCompile scope kind following text = (compile scope kind following text).inRange := by
  rw [boundedCompile, compile, Outcome.inRange_bind]
  simp only [sliceFrom_of_le h, boundedSplitObject_eq, Condition.boundedParse_eq,
    Outcome.pure_bind, Outcome.inRange_bind, Outcome.inRange_mapError,
    apply_ite Outcome.inRange]
  rfl

end Conditional

/-! ## Assignments -/

/-- Reads the target of an assignment. -/
def Target.boundedParse (scope : Scope) (name : Bytes) : BoundedLine Target :=
  match scope.slot? name with
  | some slot => pure (.localVariable slot)
  | none =>
    match scope.global? name with
    | some spelling => pure (.globalVariable spelling)
    | none =>
      match Scan.dotPosition name with
      | some i => do
        match ← scope.boundedDotted name i with
        | (object, some slot) => pure (.foreignVariable (scope.object object) slot)
        | (_, none) => Outcome.fail (.error (.unknownForeign name))
      | none => Outcome.fail (.error (.unknownVariable name))

theorem Target.boundedParse_eq (scope : Scope) (name : Bytes) :
    boundedParse scope name = (Outcome.ofExcept (parse scope name)).inRange := by
  rw [boundedParse, parse]
  cases scope.slot? name with
  | some slot => rfl
  | none =>
    cases scope.global? name with
    | some spelling => rfl
    | none =>
      cases hdot : Scan.dotPosition name with
      | none => rfl
      | some i =>
        simp only [Scope.boundedDotted_eq hdot, Outcome.pure_bind]
        obtain ⟨object, slot?⟩ := scope.dotted? name i
        cases slot? <;> rfl

/-- Reads the value of an assignment. An access out of range is no reason to keep it as text. -/
def Value.boundedParse (scope : Scope) (text : Bytes) : BoundedLine Value :=
  let parsed := Expression.boundedParse scope text
  match parsed.result with
  | .ok e =>
    if e.encode.length > maxExpressionSize then
      ⟨parsed.warnings, .error (.error (.longExpression e.encode.length))⟩
    else ⟨parsed.warnings, .ok (.expression e)⟩
  | .error (.error e) => ⟨parsed.warnings ++ [.storedAsText text e], .ok (.text text)⟩
  | .error .outOfRange => ⟨parsed.warnings, .error .outOfRange⟩

theorem Value.boundedParse_eq (scope : Scope) (text : Bytes) :
    boundedParse scope text = (parse scope text).inRange := by
  rw [boundedParse, parse, Expression.boundedParse_eq]
  obtain ⟨warnings, result⟩ := Expression.parse scope text
  cases result with
  | ok e =>
    simp only [Outcome.inRange_mk_ok]
    split <;> rfl
  | error e => rfl

namespace Assignment

/-- Takes off an object in front of a value. -/
def boundedSplitObject (line value : Bytes) : BoundedLine (Option Bytes × Bytes) :=
  match Scan.qualifierStart value with
  | none => pure (none, value)
  | some q => do
    let object := stripQuotes (trim (← sliceTo value q))
    if object.isEmpty then Outcome.fail (.error (.noObject line))
    else
      let rest ← sliceFrom value (q + 2)
      pure (some object, rest)

/-- Compiles an assignment. -/
def boundedCompile (scope : Scope) (line : Bytes) : BoundedLine QualifiedInstruction := do
  let work := trimLeft (← sliceFrom line LineKind.assignment.operandOffset)
  let separator ← Outcome.ofOption (.error (.noTo line)) (Scan.toPosition work)
  let (object, rest) ← boundedSplitObject line (Scan.unwrap (← sliceFrom work (separator + 4)))
  let target ← Target.boundedParse scope (trim (← sliceTo work separator))
  let value := trimLeft rest
  if value.isEmpty then Outcome.fail (.error (.noValue line))
  else
    let value ← Value.boundedParse scope value
    pure (object.map scope.object, .assignment target value)

theorem boundedSplitObject_eq (line value : Bytes) :
    boundedSplitObject line value = (Outcome.ofExcept (splitObject line value)).inRange := by
  rw [boundedSplitObject, splitObject]
  cases harrow : Scan.qualifierStart value with
  | none => rfl
  | some q =>
    have hq := Scan.add_two_le_of_qualifierStart harrow
    simp only [sliceTo_of_le (Nat.le_of_add_right_le hq), sliceFrom_of_le hq, Outcome.pure_bind]
    split <;> rfl

theorem boundedCompile_eq {scope : Scope} {line : Bytes}
    (h : LineKind.assignment.operandOffset ≤ line.length) :
    boundedCompile scope line = (compile scope line).inRange := by
  rw [boundedCompile, compile, sliceFrom_of_le h, Outcome.pure_bind, Outcome.inRange_bind]
  cases hto : Scan.toPosition (trimLeft (line.drop LineKind.assignment.operandOffset)) with
  | none =>
    simp only [hto]
    rfl
  | some separator =>
    -- the two sides are cut out of what is left after the keyword, not out of the line
    have hle := Scan.add_four_le_of_toPosition hto
    simp only [hto, Outcome.ofOption_some, Outcome.pure_bind, sliceFrom_of_le hle,
      sliceTo_of_le (Nat.le_of_add_right_le hle), boundedSplitObject_eq, Target.boundedParse_eq,
      Value.boundedParse_eq, Outcome.inRange_bind, apply_ite Outcome.inRange]
    rfl

end Assignment

/-! ## Calls -/

namespace Call

/-- Compiles the call `text` that stands on `line`. -/
def boundedCompile (scope : Scope) (line text : Bytes) : BoundedLine Instruction := do
  let invocation ← (Command.boundedInvoke scope false text).mapError (Halt.map fun
    | .noMatch => Fault.unrecognized line
    | error => Fault.badCall error)
  pure (.call invocation)

/-- Compiles a call on a named object. The line is cut at its arrow without a look whether there is
one. -/
def boundedCompileQualified (scope : Scope) (line : Bytes) : BoundedLine QualifiedInstruction := do
  let q ← Outcome.ofOption .outOfRange (Scan.qualifierStart line)
  let object := stripQuotes (trim (← sliceTo line q))
  if object.isEmpty || q + 2 ≥ line.length then Outcome.fail (.error (.incompleteCall line))
  else
    let instruction ← boundedCompile scope line (← sliceFrom line (q + 2))
    pure (some (scope.object object), instruction)

theorem boundedCompile_eq (scope : Scope) (line text : Bytes) :
    boundedCompile scope line text = (compile scope line text).inRange := by
  rw [boundedCompile, compile, Command.boundedInvoke_eq, Outcome.inRange_bind,
    Outcome.inRange_mapError]
  rfl

theorem boundedCompileQualified_eq {scope : Scope} {line : Bytes} {q : Nat}
    (harrow : Scan.qualifierStart line = some q) :
    boundedCompileQualified scope line = (compileQualified scope line).inRange := by
  have hq := Scan.add_two_le_of_qualifierStart harrow
  simp only [boundedCompileQualified, compileQualified, harrow, Outcome.ofOption_some,
    Outcome.pure_bind, sliceTo_of_le (Nat.le_of_add_right_le hq), sliceFrom_of_le hq,
    boundedCompile_eq, apply_ite Outcome.inRange, Outcome.inRange_bind]
  rfl

end Call

/-! ## Lines -/

namespace SourceLine

/-- Compiles a line as one of the given kind. -/
def boundedCompile (scope : Scope) (text : Bytes) (kind : LineKind) (following : List LineKind) :
    BoundedLine QualifiedInstruction :=
  match kind with
  | .assignment => Assignment.boundedCompile scope text
  | .choice => do
    let operand ← sliceFrom text kind.operandOffset
    pure (none, .choice (trimLeft operand))
  | .returning => pure (none, .returning)
  | .ifBranch => Conditional.boundedCompile scope .ifBranch following text
  | .elseIfBranch => Conditional.boundedCompile scope .elseIfBranch following text
  | .whileLoop => Conditional.boundedCompile scope .whileLoop following text
  | .elseBranch => (unqualified do
      let lines ← checkedLength kind (Block.elseLength? following)
      pure (.elseBranch lines)).inRange
  | .ifEnd => pure (none, .ifEnd)
  | .whileEnd => pure (none, .whileEnd)
  | .scriptEnd => pure (none, .scriptEnd)
  | .qualifiedCall => Call.boundedCompileQualified scope text
  | .declaration _ | .call => do
    let instruction ← Call.boundedCompile scope text text
    pure (none, instruction)

theorem boundedCompile_eq {scope : Scope} {text : Bytes} {kind : LineKind}
    {following : List LineKind} (hkind : LineKind.classify text = kind) :
    boundedCompile scope text kind following = (compile scope text kind following).inRange := by
  have hoffset : kind.operandOffset ≤ text.length := hkind ▸ LineKind.operandOffset_le_length text
  have hcall : (do
      let instruction ← Call.boundedCompile scope text text
      pure (none, instruction)) = (unqualified (Call.compile scope text text)).inRange := by
    rw [Call.boundedCompile_eq, unqualified, Outcome.inRange_bind]
    rfl
  cases kind with
  | assignment => exact Assignment.boundedCompile_eq hoffset
  | choice =>
    rw [boundedCompile, sliceFrom_of_le hoffset]
    rfl
  | ifBranch => exact Conditional.boundedCompile_eq hoffset
  | elseIfBranch => exact Conditional.boundedCompile_eq hoffset
  | whileLoop => exact Conditional.boundedCompile_eq hoffset
  | elseBranch => rfl
  | qualifiedCall =>
    obtain ⟨q, harrow⟩ := LineKind.exists_arrow_of_classify hkind
    exact Call.boundedCompileQualified_eq harrow
  | declaration _ => exact hcall
  | call => exact hcall
  | returning => rfl
  | ifEnd => rfl
  | whileEnd => rfl
  | scriptEnd => rfl

/-- A line that is too short for its kind is cut out of range. -/
example : boundedCompile {} (ascii "x") .assignment [] = Outcome.fail .outOfRange := rfl

/-- So is a call on an object without an arrow. -/
example : boundedCompile {} (ascii "x") .qualifiedCall [] = Outcome.fail .outOfRange := rfl

end SourceLine

/-! ## Scripts -/

namespace Program

/-- Compiles the lines from position `i` on, after line `last` of the script. -/
def boundedCompileLines (id : Bytes) (lines : List SourceLine) (kinds : List LineKind)
    (scope : Scope) (last i : Nat) : BoundedScript (Locals × List Statement) :=
  if i < lines.length then do
    let line ← get lines i
    let kind ← get kinds i
    match kind with
    | .declaration kind =>
      let name := trim (← sliceFrom line.text (LineKind.declaration kind).operandOffset)
      if name.isEmpty then Outcome.fail (.error ⟨line.number, .namelessDeclaration kind⟩)
      else boundedCompileLines id lines kinds (scope.declare kind name) line.number (i + 1)
    | .scriptEnd =>
      if i = lines.length - 1 then pure (scope.locals, [⟨line, none, .scriptEnd⟩])
      else
        let next ← get lines (i + 1)
        Outcome.fail (.error ⟨next.number, .codeAfterEnd next.text⟩)
    | kind =>
      let (object, instruction) ←
        ((SourceLine.boundedCompile scope line.text kind (kinds.drop (i + 1))).mapWarnings
          (LineWarning.mk line.number)).mapError (Halt.map (CompileError.mk line.number))
      let (locals, statements) ← boundedCompileLines id lines kinds scope line.number (i + 1)
      pure (locals, ⟨line, object, instruction⟩ :: statements)
  else Outcome.fail (.error ⟨last, .noEnd id⟩)
termination_by lines.length - i

/-- Compiles a script with bounded accesses. -/
def boundedCompile (tables : Tables) (source : Bytes) : BoundedScript Program :=
  let lines := SourceLine.split source
  if lines.length = 0 then Outcome.fail (.error ⟨0, .emptyScript⟩)
  else do
    let first ← get lines 0
    if !LineKind.isBegin first.text then
      Outcome.fail (.error ⟨first.number, .noBegin first.text⟩)
    else
      let id := trimLeft (← sliceFrom first.text Token.scriptBegin.operandOffset)
      if id.isEmpty then Outcome.fail (.error ⟨first.number, .noName⟩)
      else
        let (locals, statements) ← boundedCompileLines id lines (lines.map SourceLine.kind)
          { tables := tables } first.number 1
        pure ⟨id, locals, statements, source⟩

/-- The first of the lines that are left is the one at position `i`. -/
theorem getElem?_of_map_drop {lines : List SourceLine} {line : SourceLine} {kind : LineKind}
    {i : Nat} {rest : List (SourceLine × LineKind)}
    (h : (lines.drop i).map (fun line => (line, line.kind)) = (line, kind) :: rest) :
    i < lines.length ∧ lines[i]? = some line ∧ LineKind.classify line.text = kind ∧
      (lines.map SourceLine.kind)[i]? = some kind ∧
      (lines.drop (i + 1)).map (fun line => (line, line.kind)) = rest := by
  have hi : i < lines.length := by
    refine Nat.lt_of_not_le fun hle => ?_
    rw [List.drop_of_length_le hle] at h
    exact absurd h (by simp)
  rw [List.drop_eq_getElem_cons hi, List.map_cons] at h
  obtain ⟨hline, hrest⟩ := List.cons.inj h
  obtain ⟨rfl, rfl⟩ := Prod.mk.inj hline
  refine ⟨hi, List.getElem?_eq_getElem hi, rfl, ?_, hrest⟩
  rw [List.getElem?_map, List.getElem?_eq_getElem hi]
  rfl

/-- All accesses of the lines from position `i` on are in range. -/
theorem boundedCompileLines_eq {id : Bytes} {lines : List SourceLine} {scope : Scope} {last i : Nat}
    {rest : List (SourceLine × LineKind)}
    (hrest : (lines.drop i).map (fun line => (line, line.kind)) = rest) :
    boundedCompileLines id lines (lines.map SourceLine.kind) scope last i =
      (compileLines id scope last rest).inRange := by
  -- along the recursion of the compiler, with the position of the first line that is left
  fun_induction compileLines id scope last rest generalizing i with
  | case1 scope last =>
    have hi : ¬ i < lines.length := by
      rw [List.map_eq_nil_iff, List.drop_eq_nil_iff] at hrest
      omega
    rw [boundedCompileLines, if_neg hi]
    rfl
  | case2 scope last line kind rest name =>
    rename_i hname
    obtain ⟨hi, hline, hkind, hkinds, -⟩ := getElem?_of_map_drop hrest
    have hoffset := LineKind.operandOffset_le_length line.text
    rw [hkind] at hoffset
    rw [boundedCompileLines, if_pos hi, get_of_getElem? hline, get_of_getElem? hkinds]
    simp only [sliceFrom_of_le hoffset, Outcome.pure_bind]
    rw [if_pos hname]
    rfl
  | case3 scope last line kind rest name hname =>
    rename_i ih
    obtain ⟨hi, hline, hkind, hkinds, hdrop⟩ := getElem?_of_map_drop hrest
    have hoffset := LineKind.operandOffset_le_length line.text
    rw [hkind] at hoffset
    rw [boundedCompileLines, if_pos hi, get_of_getElem? hline, get_of_getElem? hkinds]
    simp only [sliceFrom_of_le hoffset, Outcome.pure_bind]
    rw [if_neg hname, ih hdrop]
  | case4 scope last line =>
    obtain ⟨hi, hline, -, hkinds, hdrop⟩ := getElem?_of_map_drop hrest
    -- no line is left after the end, so it is the last one
    rw [List.map_eq_nil_iff, List.drop_eq_nil_iff] at hdrop
    rw [boundedCompileLines, if_pos hi, get_of_getElem? hline, get_of_getElem? hkinds]
    simp only [Outcome.pure_bind]
    rw [if_pos (by omega)]
    rfl
  | case5 scope last line next kind rest =>
    obtain ⟨hi, hline, -, hkinds, hdrop⟩ := getElem?_of_map_drop hrest
    -- the line that is reported is the next one, which exists
    obtain ⟨hlater, hnext, -⟩ := getElem?_of_map_drop hdrop
    rw [boundedCompileLines, if_pos hi, get_of_getElem? hline, get_of_getElem? hkinds]
    simp only [get_of_getElem? hnext, Outcome.pure_bind]
    rw [if_neg (by omega)]
    rfl
  | case6 scope last line kind rest hdeclaration hsingle hlater ih =>
    obtain ⟨hi, hline, hkind, hkinds, hdrop⟩ := getElem?_of_map_drop hrest
    have hfollowing : (lines.map SourceLine.kind).drop (i + 1) = rest.map (·.2) := by
      rw [← hdrop, List.map_map, List.map_drop]
      rfl
    rw [boundedCompileLines, if_pos hi, get_of_getElem? hline, get_of_getElem? hkinds]
    simp only [Outcome.pure_bind]
    split
    · next kind' => exact absurd rfl (hdeclaration kind')
    · -- the end of a script was dealt with before, whether lines follow it or not
      rcases rest with - | ⟨next, rest⟩
      · exact absurd rfl (hsingle rfl)
      · exact absurd rfl (hlater next.1 next.2 rest rfl)
    · rw [hfollowing, SourceLine.boundedCompile_eq hkind, ih hdrop]
      simp only [Outcome.inRange_bind, LineOutcome.onLine, Outcome.inRange_mapError,
        Outcome.inRange_mapWarnings]
      rfl

/-- All accesses of a script are in range. -/
theorem boundedCompile_eq (tables : Tables) (source : Bytes) :
    boundedCompile tables source = (compile tables source).inRange := by
  rw [boundedCompile, compile]
  cases SourceLine.split source with
  | nil => rfl
  | cons first rest =>
    rw [if_neg (by simp), get_of_getElem? (a := first) rfl, Outcome.pure_bind]
    cases hbegin : LineKind.isBegin first.text with
    | false =>
      simp only [hbegin]
      rfl
    | true =>
      have hoffset := LineKind.operandOffset_le_of_isBegin hbegin
      have hrest : ((first :: rest).drop 1).map (fun line => (line, line.kind)) =
          rest.map fun line => (line, line.kind) := rfl
      simp only [hbegin, sliceFrom_of_le hoffset, Outcome.pure_bind, boundedCompileLines_eq hrest,
        apply_ite Outcome.inRange, Outcome.inRange_bind]
      rfl

/-- No access is ever out of range: whatever the source and the tables, a script is compiled or has
a fault that is reported. The same holds of expressions, conditions and calls with all locals and
tables. -/
theorem bounded_eq_inRange :
    (∀ tables source,
      ((∃ p, (boundedCompile tables source).result = .ok p) ∨
        ∃ e, (boundedCompile tables source).result = .error (.error e)) ∧
      boundedCompile tables source = (compile tables source).inRange) ∧
    (∀ scope text,
      (Expression.boundedParse scope text).result ≠ .error .outOfRange ∧
      Expression.boundedParse scope text = (Expression.parse scope text).inRange) ∧
    (∀ scope text,
      (Condition.boundedParse scope text).result ≠ .error .outOfRange ∧
      Condition.boundedParse scope text = (Condition.parse scope text).inRange) ∧
    ∀ scope inExpression line,
      (Command.boundedInvoke scope inExpression line).result ≠ .error .outOfRange ∧
      Command.boundedInvoke scope inExpression line =
        (Command.invoke scope inExpression line).inRange := by
  refine ⟨fun tables source => ⟨?_, boundedCompile_eq tables source⟩,
    fun scope text => ⟨?_, Expression.boundedParse_eq scope text⟩,
    fun scope text => ⟨?_, Condition.boundedParse_eq scope text⟩,
    fun scope inExpression line => ⟨?_, Command.boundedInvoke_eq scope inExpression line⟩⟩
  · rw [boundedCompile_eq]
    cases hresult : (compile tables source).result with
    | ok p => exact .inl ⟨p, Outcome.result_mapError_eq_ok.2 hresult⟩
    | error e => exact .inr ⟨e, congrArg (Except.mapError Halt.error) hresult⟩
  · rw [Expression.boundedParse_eq]
    exact Outcome.result_inRange_ne_outOfRange _
  · rw [Condition.boundedParse_eq]
    exact Outcome.result_inRange_ne_outOfRange _
  · rw [Command.boundedInvoke_eq]
    exact Outcome.result_inRange_ne_outOfRange _

end Program

end MorrowindScript
