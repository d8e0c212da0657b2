import MorrowindScript.Proofs.Bounds.Access
import MorrowindScript.Proofs.Bytecode.Call

/-!
# Calls with bounded accesses

The parameters of a call are read by their positions: the name of the command stands at position
zero, and each operand of a form that is no fixed byte reads one position further. How many
parameters there are decides in which table a command is looked up. Reading stays in range because
no form needs more parameters than the commands of its table take.

The module introduces:

* `Command.boundedInvoke` — encodes a call with bounded accesses.
* `Form.parameterCount` — how many parameters a form reads.
* `Command.boundedInvoke_eq` — all accesses are in range.
-/

namespace MorrowindScript

open Bytes Access

/-- Encoding of a call with bounded accesses. -/
abbrev BoundedCall := Outcome Warning (Halt CallError)

/-! ## Operands -/

namespace Operand

/-- The operand reads a parameter. -/
def takesParameter : Operand → Bool
  | literal _ => false
  | _ => true

/-- Checks and encodes the parameter at position `i`. -/
def boundedEncode (scope : Scope) (params : List Bytes) (i : Nat) (operand : Operand) :
    BoundedCall Datum := do
  let command ← get params 0
  let value ← get params i
  match operand with
  | axis =>
    if value.isEmpty then Outcome.fail (.error (.badParameter command i value .axis))
    else
      let letter := upperByte (← get value 0)
      unless letter == 0x58 || letter == 0x59 || letter == 0x5A do
        Outcome.warn (.invalidAxis value command)
      pure (.byte letter)
  | operand => (operand.encode scope command i value).inRange

/-- Encodes the parameters from position `i` on after a layout. -/
def boundedEncodeAll (scope : Scope) (params : List Bytes) :
    Nat → List Operand → BoundedCall (List Datum)
  | _, [] => pure []
  | i, literal b :: operands => do
    let rest ← boundedEncodeAll scope params i operands
    pure (.byte b :: rest)
  | i, operand :: operands => do
    let first ← operand.boundedEncode scope params i
    let rest ← boundedEncodeAll scope params (i + 1) operands
    pure (first :: rest)

variable {scope : Scope} {command : Bytes} {params : List Bytes} {i : Nat}

theorem boundedEncode_eq {value : Bytes} (hcommand : params[0]? = some command)
    (hvalue : params[i]? = some value) (operand : Operand) :
    operand.boundedEncode scope params i = (operand.encode scope command i value).inRange := by
  simp only [boundedEncode, get_of_getElem? hcommand, get_of_getElem? hvalue, Outcome.pure_bind]
  split
  · -- the letter of an axis is read only if there is one
    cases value with
    | nil => rfl
    | cons c rest =>
      rw [get_of_getElem? (a := c) rfl, encode]
      simp only [apply_ite Outcome.inRange]
      rfl
  · rfl

theorem boundedEncodeAll_eq {operands : List Operand} (hcommand : params[0]? = some command)
    (hparams : i + operands.countP takesParameter ≤ params.length) :
    boundedEncodeAll scope params i operands =
      (encodeAll scope command i operands (params.drop i)).inRange := by
  induction operands generalizing i with
  | nil => rfl
  | cons operand operands ih =>
    cases hread : operand.takesParameter with
    | false =>
      obtain ⟨b, rfl⟩ : ∃ b, operand = literal b := by
        cases operand <;> simp_all [takesParameter]
      rw [List.countP_cons_of_neg (by simp [hread])] at hparams
      rw [boundedEncodeAll, encodeAll, ih hparams, Outcome.inRange_bind]
      rfl
    | true =>
      have hliteral : ∀ b, operand = literal b → False := by
        rintro b rfl
        exact absurd hread (by simp [takesParameter])
      rw [List.countP_cons_of_pos hread] at hparams
      -- the parameter at position `i` is the first of those that are left
      have hi : i < params.length := by omega
      have hvalue : params[i]? = some params[i] := List.getElem?_eq_getElem hi
      have hnext : i + 1 + operands.countP takesParameter ≤ params.length := by omega
      rw [boundedEncodeAll.eq_3 _ _ _ _ _ hliteral, encodeAll.eq_3 _ _ _ _ _ _ hliteral,
        List.drop_eq_getElem_cons hi, boundedEncode_eq hcommand hvalue, ih hnext]
      simp only [Outcome.inRange_bind]
      rfl

end Operand

/-! ## Forms -/

/-- How many parameters are read for a form. -/
def Form.parameterCount : Form → Nat
  | layout _ _ operands => operands.countP Operand.takesParameter
  | wander _ => 4
  | removeEffects | setDelete => 1

namespace Command

/-- No form needs more parameters than the commands of its table take. -/
theorem parameterCount_le_of_mem : ∀ n ∈ List.range (maxParameters + 1),
    ∀ command ∈ withParameters n, command.form.parameterCount ≤ n := by
  decide +kernel

/-- Reads `count` parameters from position `i` on with `read`. -/
def boundedRead {α : Type} (params : List Bytes) (expected : Expectation)
    (read : Bytes → Option α) : Nat → Nat → BoundedCall (List α)
  | _, 0 => pure []
  | i, count + 1 => do
    let command ← get params 0
    let value ← get params i
    let first ← Outcome.ofOption (.error (.badParameter command i value expected)) (read value)
    let rest ← boundedRead params expected read (i + 1) count
    pure (first :: rest)

/-- Wandering. There must be room for the chances, and one of them must be there to be left out. -/
def boundedWander (params : List Bytes) (last : UInt8) : BoundedCall Invocation := do
  let numbers ← boundedRead params .single Literal.single? 1 3
  let _ ← ensure (3 ≤ params.length - 1)
  let idles ← boundedRead params .short Literal.short? 4 (params.length - 1 - 3)
  let written ← sliceFrom idles 1
  pure
    { opcode := .aiWander
      marker := []
      operands := numbers.map (fun v => .single v.toBits) ++
        [.short (params.length - 1 - 4 : Nat)] ++ written.map .short ++ [.byte last] }

/-- Encodes a call with one parameter. -/
def boundedSingle (encode : Bytes → Bytes → CallOutcome Invocation) (params : List Bytes) :
    BoundedCall Invocation := do
  let command ← get params 0
  let value ← get params 1
  (encode command value).inRange

/-- Encodes the parameters of a call by the form of its command. -/
def boundedInvokeForm (scope : Scope) (inExpression : Bool) (params : List Bytes) :
    Form → BoundedCall Invocation
  | .layout opcode marker operands => do
    let data ← Operand.boundedEncodeAll scope params 1 operands
    pure { opcode, marker := if inExpression then marker else [], operands := data }
  | .wander last => boundedWander params last
  | .removeEffects => boundedSingle removeEffects params
  | .setDelete => boundedSingle setDelete params

/-- A message. The buttons are what is left after the text and as many parameters as there are
arguments. -/
def boundedMessage (scope : Scope) (params : List Bytes) : BoundedCall Invocation := do
  let text ← get params 1
  let arguments := (messageArguments scope (← sliceFrom params 2)).1
  let buttons ← sliceFrom params (2 + arguments.length)
  pure
    { opcode := .messageBox
      marker := []
      operands := [.text16 text, .byte (UInt8.ofNat arguments.length)] ++ arguments ++
        [.byte (UInt8.ofNat buttons.length)] ++ buttons.map .zeroText }

/-- The tables of commands, each at the number of parameters of its commands. -/
def tables : List (List Command) :=
  (List.range (maxParameters + 1)).map withParameters

/-- Encodes a call that is given by its parameters, the name of the command first. -/
def boundedInvokeFields (scope : Scope) (inExpression : Bool) (params : List Bytes) :
    BoundedCall Invocation := do
  let command ← get params 0
  if params.length > 2 && command.lower == ascii "messagebox" then
    if params.length - 1 > maxMessageParameters then
      Outcome.fail (.error (.tooManyParameters command))
    else boundedMessage scope params
  else if params.length - 1 > maxParameters then do
    Outcome.warn (.noCommands (params.length - 1))
    Outcome.fail (.error .noMatch)
  else do
    let table ← get tables (params.length - 1)
    match table.find? fun found => ascii found.name == command.lower with
    | some found => boundedInvokeForm scope inExpression params found.form
    | none => Outcome.fail (.error .noMatch)

/-- Encodes a call with bounded accesses. -/
def boundedInvoke (scope : Scope) (inExpression : Bool) (line : Bytes) : BoundedCall Invocation :=
  if line.trim.isEmpty then Outcome.fail (.error .noMatch)
  else do
    unless Scan.isBalanced line do
      Outcome.warn (.unbalancedQuotes line)
    if (Scan.fields line).isEmpty then Outcome.fail (.error .noMatch)
    else boundedInvokeFields scope inExpression (Scan.fields line)

/-! ## Calls stay in range -/

section InRange

variable {scope : Scope} {inExpression : Bool} {command : Bytes} {values : List Bytes}

theorem boundedRead_eq {α : Type} {expected : Expectation} {read : Bytes → Option α} {i count : Nat}
    (hcount : i + count ≤ values.length) :
    boundedRead (command :: values) expected read (i + 1) count =
      (readAll command expected read (i + 1) ((values.drop i).take count)).inRange := by
  induction count generalizing i with
  | zero => rfl
  | succ count ih =>
    have hi : i < values.length := by omega
    have hvalue : (command :: values)[i + 1]? = some values[i] := by
      rw [List.getElem?_cons_succ, List.getElem?_eq_getElem hi]
    have hnext : i + 1 + count ≤ values.length := by omega
    rw [boundedRead, get_of_getElem? rfl, get_of_getElem? hvalue, List.drop_eq_getElem_cons hi,
      List.take_succ_cons, readAll, ih hnext]
    simp only [Outcome.inRange_bind, Outcome.inRange_ofOption, Outcome.pure_bind]
    rfl

theorem boundedWander_eq {last : UInt8} (hvalues : 4 ≤ values.length) :
    boundedWander (command :: values) last = (wander command last values).inRange := by
  have hlength : (command :: values).length - 1 = values.length := rfl
  rw [boundedWander, hlength, boundedRead_eq (i := 0) (by omega),
    boundedRead_eq (i := 3) (by omega), wander]
  have hrest : (values.drop 3).take (values.length - 3) = values.drop 3 :=
    List.take_of_length_le (by simp)
  rw [hrest]
  simp only [Outcome.inRange_bind, ensure_bind_of (Nat.le_of_succ_le hvalues), List.drop_zero]
  refine congrArg _ (funext fun numbers => Outcome.bind_congr_of_result fun idles hidles => ?_)
  -- there is at least one chance
  have hread : (readAll command .short Literal.short? 4 (values.drop 3)).result = .ok idles := by
    simpa [Outcome.inRange] using hidles
  have hidle := length_of_readAll hread
  rw [List.length_drop] at hidle
  rw [sliceFrom_of_le (by omega)]
  rfl

theorem boundedSingle_eq {encode : Bytes → Bytes → CallOutcome Invocation}
    (hvalues : 1 ≤ values.length) :
    boundedSingle encode (command :: values) = (encode command (values.headD [])).inRange := by
  cases values with
  | nil => exact absurd hvalues (by simp)
  | cons value values => rfl

theorem boundedInvokeForm_eq {form : Form} (hform : form.parameterCount ≤ values.length) :
    boundedInvokeForm scope inExpression (command :: values) form =
      (invokeForm scope inExpression command values form).inRange := by
  cases form with
  | layout opcode marker operands =>
    have hparams : 1 + operands.countP Operand.takesParameter ≤ (command :: values).length := by
      rw [Form.parameterCount] at hform
      rw [List.length_cons]
      omega
    rw [boundedInvokeForm, Operand.boundedEncodeAll_eq rfl hparams, invokeForm,
      Outcome.inRange_bind]
    rfl
  | wander last => exact boundedWander_eq hform
  | removeEffects => exact boundedSingle_eq hform
  | setDelete => exact boundedSingle_eq hform

/-- The buttons of a message are the parameters after its arguments. -/
theorem messageArguments_snd (scope : Scope) (values : List Bytes) :
    (messageArguments scope values).2 = values.drop (messageArguments scope values).1.length := by
  induction values with
  | nil => rfl
  | cons value values ih =>
    rw [messageArguments]
    split
    · exact ih
    · rfl

theorem boundedMessage_eq {text : Bytes} :
    boundedMessage scope (command :: text :: values) = pure (message scope text values) := by
  have hlength := length_messageArguments scope values
  have hslice : 2 + (messageArguments scope values).1.length ≤
      (command :: text :: values).length := by
    simp only [List.length_cons]
    omega
  have hdrop : (command :: text :: values).drop (2 + (messageArguments scope values).1.length) =
      (messageArguments scope values).2 := by
    rw [messageArguments_snd, Nat.add_comm]
    rfl
  rw [boundedMessage, get_of_getElem? rfl, sliceFrom_of_le (i := 2) (by simp)]
  simp only [Outcome.pure_bind, List.drop_succ_cons, List.drop_zero]
  rw [sliceFrom_of_le hslice, hdrop]
  rfl

theorem boundedInvokeFields_eq (scope : Scope) (inExpression : Bool) (command : Bytes)
    (values : List Bytes) :
    boundedInvokeFields scope inExpression (command :: values) =
      (invokeFields scope inExpression command values).inRange := by
  have hlength : (command :: values).length - 1 = values.length := rfl
  rw [boundedInvokeFields, get_of_getElem? rfl, Outcome.pure_bind, invokeFields, hlength]
  have htwo : decide ((command :: values).length > 2) = decide (values.length > 1) := by
    rw [List.length_cons]
    exact decide_eq_decide.2 (by omega)
  rw [htwo]
  split
  · next hmessage =>
    obtain ⟨hmany, -⟩ := Bool.and_eq_true_iff.1 hmessage
    split
    · rfl
    · cases values with
      | nil => exact absurd hmany (by simp)
      | cons text values => exact boundedMessage_eq
  · split
    · rfl
    · next hfew =>
      -- there is a table for this many parameters, and its commands need no more
      have hn : values.length ∈ List.range (maxParameters + 1) := by
        rw [List.mem_range]
        omega
      have htable : tables[values.length]? = some (withParameters values.length) := by
        rw [tables, List.getElem?_map, List.getElem?_range (List.mem_range.1 hn)]
        rfl
      rw [get_of_getElem? htable, Outcome.pure_bind, ← find?]
      cases hfound : find? command.lower values.length with
      | none => rfl
      | some found =>
        exact boundedInvokeForm_eq
          (parameterCount_le_of_mem _ hn found (List.mem_of_find?_eq_some hfound))

end InRange

/-- All accesses of a call are in range. -/
theorem boundedInvoke_eq (scope : Scope) (inExpression : Bool) (line : Bytes) :
    boundedInvoke scope inExpression line = (invoke scope inExpression line).inRange := by
  rw [boundedInvoke, invoke]
  split
  · rfl
  · cases Scan.fields line with
    | nil => cases Scan.isBalanced line <;> rfl
    | cons command values =>
      have hfields := boundedInvokeFields_eq scope inExpression command values
      cases Scan.isBalanced line with
      | true => exact hfields
      | false =>
        exact congrArg (fun x => Outcome.warn (.unbalancedQuotes line) >>= fun _ => x) hfields

end Command

end MorrowindScript
