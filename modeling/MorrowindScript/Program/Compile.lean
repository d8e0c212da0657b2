import MorrowindScript.Expression.Parse
import MorrowindScript.Fault
import MorrowindScript.Program.Basic

/-!
# Compiling a script

Lines are compiled one by one. What a line compiles to depends on its text, on the declarations
before it and, for the lines that start a body, on the kinds of the lines after it.

* `Assignment.compile`, `Conditional.compile`, `Call.compile`: the statements with a form of their
  own.
* `SourceLine.compile`: a line that is neither a declaration nor the end.
* `Program.compile`: a whole script.
-/

namespace MorrowindScript

open Bytes

/-- Compiling a line: it may warn, and it may have a fault. -/
abbrev LineOutcome := Outcome Warning Fault

/-- The object a line names, if any, and the instruction of the line. -/
abbrev QualifiedInstruction := Option Bytes × Instruction

/-! ## Blocks -/

/-- The length of a body that starts after a line of the given kind, checked against the limit. -/
def checkedLength (kind : LineKind) (length? : Option Nat) : LineOutcome Nat :=
  match length? with
  | none => Outcome.fail (.unmatchedBlock kind)
  | some n => if n > Block.maxLength then Outcome.fail (.longBlock kind n) else pure n

namespace ConditionalKind

/-- The length of the body after the statement. -/
def bodyLength? (kind : ConditionalKind) (following : List LineKind) : Option Nat :=
  match kind with
  | ifBranch | elseIfBranch => Block.branchLength? following
  | whileLoop => Block.loopLength? following

end ConditionalKind

/-! ## Conditionals -/

namespace Conditional

/-- Takes off an object in front of a condition. The arrow must come before the comparison, with
something between them, and the object must be a single token. -/
def splitObject (condition : Bytes) : Option Bytes × Bytes :=
  match Scan.qualifierStart condition, Scan.comparison condition with
  | some q, some (c, _) =>
    if q + 2 < c && Scan.isSingleToken (condition.take q) then
      (some (stripQuotes (Scan.unwrap (condition.take q))), condition.drop (q + 2))
    else (none, condition)
  | _, _ => (none, condition)

/-- Compiles a statement with a condition. The body is measured before the condition is read. -/
def compile (scope : Scope) (kind : ConditionalKind) (following : List LineKind) (text : Bytes) :
    LineOutcome QualifiedInstruction := do
  let lines ← checkedLength kind.lineKind (kind.bodyLength? following)
  let (object, rest) := splitObject (Scan.unwrap (text.drop kind.lineKind.operandOffset))
  let condition ← (Condition.parse scope rest).mapError Fault.badCondition
  if condition.encode.length > maxExpressionSize then
    Outcome.fail (.longCondition kind.lineKind condition.encode.length)
  else pure (object.map scope.object, .conditional kind lines condition)

end Conditional

/-! ## Assignments -/

/-- Reads the target of an assignment: a local, a global or a variable of another object. -/
def Target.parse (scope : Scope) (name : Bytes) : Except Fault Target :=
  match scope.slot? name with
  | some slot => .ok (.localVariable slot)
  | none =>
    match scope.global? name with
    | some spelling => .ok (.globalVariable spelling)
    | none =>
      match Scan.dotPosition name with
      | some i =>
        match scope.dotted? name i with
        | (object, some slot) => .ok (.foreignVariable (scope.object object) slot)
        | (_, none) => .error (.unknownForeign name)
      | none => .error (.unknownVariable name)

/-- Reads the value of an assignment. A value that cannot be read is kept as text, with a warning. -/
def Value.parse (scope : Scope) (text : Bytes) : LineOutcome Value :=
  let parsed := Expression.parse scope text
  match parsed.result with
  | .ok e =>
    if e.encode.length > maxExpressionSize then
      ⟨parsed.warnings, .error (.longExpression e.encode.length)⟩
    else ⟨parsed.warnings, .ok (.expression e)⟩
  | .error e => ⟨parsed.warnings ++ [.storedAsText text e], .ok (.text text)⟩

namespace Assignment

/-- Takes off an object in front of a value; an arrow needs an object before it. -/
def splitObject (line value : Bytes) : Except Fault (Option Bytes × Bytes) :=
  match Scan.qualifierStart value with
  | none => .ok (none, value)
  | some q =>
    let object := stripQuotes (trim (value.take q))
    if object.isEmpty then .error (.noObject line) else .ok (some object, value.drop (q + 2))

/-- Compiles an assignment. -/
def compile (scope : Scope) (line : Bytes) : LineOutcome QualifiedInstruction := do
  let work := trimLeft (line.drop LineKind.assignment.operandOffset)
  let separator ← Outcome.ofOption (Fault.noTo line) (Scan.toPosition work)
  let (object, rest) ← Outcome.ofExcept (splitObject line (Scan.unwrap (work.drop (separator + 4))))
  let target ← Outcome.ofExcept (Target.parse scope (trim (work.take separator)))
  let value := trimLeft rest
  if value.isEmpty then Outcome.fail (.noValue line)
  else
    let value ← Value.parse scope value
    pure (object.map scope.object, .assignment target value)

end Assignment

/-! ## Calls -/

namespace Call

/-- Compiles the call `text` that stands on `line`. -/
def compile (scope : Scope) (line text : Bytes) : LineOutcome Instruction := do
  let invocation ← (Command.invoke scope false text).mapError fun
    | .noMatch => Fault.unrecognized line
    | error => Fault.badCall error
  pure (.call invocation)

/-- Compiles a call on a named object. -/
def compileQualified (scope : Scope) (line : Bytes) : LineOutcome QualifiedInstruction :=
  match Scan.qualifierStart line with
  | none => Outcome.fail (.incompleteCall line)
  | some q => do
    let object := stripQuotes (trim (line.take q))
    if object.isEmpty || q + 2 ≥ line.length then Outcome.fail (.incompleteCall line)
    else
      let instruction ← compile scope line (line.drop (q + 2))
      pure (some (scope.object object), instruction)

end Call

/-! ## Lines -/

/-- The instruction of a line without object. -/
def unqualified (instruction : LineOutcome Instruction) : LineOutcome QualifiedInstruction := do
  let instruction ← instruction
  pure (none, instruction)

/-- Compiles a line of the given kind that is not a declaration, before lines of the kinds
`following`. -/
def SourceLine.compile (scope : Scope) (text : Bytes) (kind : LineKind)
    (following : List LineKind) : LineOutcome QualifiedInstruction :=
  match kind with
  | .assignment => Assignment.compile scope text
  | .choice => pure (none, .choice (trimLeft (text.drop kind.operandOffset)))
  | .returning => pure (none, .returning)
  | .ifBranch => Conditional.compile scope .ifBranch following text
  | .elseIfBranch => Conditional.compile scope .elseIfBranch following text
  | .whileLoop => Conditional.compile scope .whileLoop following text
  | .elseBranch => unqualified do
    let lines ← checkedLength kind (Block.elseLength? following)
    pure (.elseBranch lines)
  | .ifEnd => pure (none, .ifEnd)
  | .whileEnd => pure (none, .whileEnd)
  | .scriptEnd => pure (none, .scriptEnd)
  | .qualifiedCall => Call.compileQualified scope text
  | .declaration _ | .call => unqualified (Call.compile scope text text)

/-! ## Scripts -/

/-- Compiling a script: it may warn about lines, and it may fail at a line. -/
abbrev ScriptOutcome := Outcome LineWarning CompileError

/-- What happens on the line with the given number. -/
def LineOutcome.onLine {α : Type} (number : Nat) (x : LineOutcome α) : ScriptOutcome α :=
  (x.mapWarnings (LineWarning.mk number)).mapError (CompileError.mk number)

namespace Program

/-- Compiles the lines after line `last` of the script `id`: its locals and its statements. The line
that ends the script must be the last one. -/
def compileLines (id : Bytes) :
    Scope → Nat → List (SourceLine × LineKind) → ScriptOutcome (Locals × List Statement)
  | _, last, [] => Outcome.fail ⟨last, .noEnd id⟩
  | scope, _, (line, .declaration kind) :: rest =>
    let name := trim (line.text.drop (LineKind.declaration kind).operandOffset)
    if name.isEmpty then Outcome.fail ⟨line.number, .namelessDeclaration kind⟩
    else compileLines id (scope.declare kind name) line.number rest
  | scope, _, [(line, .scriptEnd)] => pure (scope.locals, [⟨line, none, .scriptEnd⟩])
  | _, _, (_, .scriptEnd) :: (next, _) :: _ =>
    Outcome.fail ⟨next.number, .codeAfterEnd next.text⟩
  | scope, _, (line, kind) :: rest => do
    let (object, instruction) ←
      LineOutcome.onLine line.number (SourceLine.compile scope line.text kind (rest.map (·.2)))
    let (locals, statements) ← compileLines id scope line.number rest
    pure (locals, ⟨line, object, instruction⟩ :: statements)

/-- Compiles a script. -/
def compile (tables : Tables) (source : Bytes) : ScriptOutcome Program :=
  match SourceLine.split source with
  | [] => Outcome.fail ⟨0, .emptyScript⟩
  | first :: rest =>
    if !LineKind.isBegin first.text then Outcome.fail ⟨first.number, .noBegin first.text⟩
    else
      let id := trimLeft (first.text.drop Token.scriptBegin.operandOffset)
      if id.isEmpty then Outcome.fail ⟨first.number, .noName⟩
      else do
        let (locals, statements) ←
          compileLines id { tables := tables } first.number (rest.map fun line => (line, line.kind))
        pure ⟨id, locals, statements, source⟩

end Program

end MorrowindScript
