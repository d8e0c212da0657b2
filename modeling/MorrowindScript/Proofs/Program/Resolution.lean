import MorrowindScript.Program.Compile
import MorrowindScript.Proofs.Bounds.Command
import MorrowindScript.Proofs.Expression.Step
import MorrowindScript.Proofs.GameData.Search
import MorrowindScript.Proofs.Scan.Word

/-!
# One name, one variable

The name of a variable can stand in four places: before the `to` of an assignment, in an
expression, among the parameters of a message, and as the parameter of a command that takes a
number or a local. Each place cuts the name out of its line and looks it up by itself. This module
shows that all four of them find the same variable.

## Main definitions

* `IsVariableName`: a name that can stand in all four places.
* `Assignment.Frame`, `Command.MessageGap`, `Command.SingleGap`: lines with a gap for a name.
* `Assignment.Assigns`, `Command.TakesAsArgument`, `Command.TakesAsSingle`: what is made of the
  name in the gap, whatever the line.

## Main results

* `IsVariableName.resolves_alike`: the four places agree on every name.
-/

namespace MorrowindScript

open Bytes

/-- A name that can stand wherever a variable can. -/
structure IsVariableName (name : Bytes) : Prop where
  /-- It is not empty. -/
  ne_nil : name ≠ []
  /-- It has no blanks and commas. -/
  isSeparator_of_mem : ∀ c ∈ name, Scan.isSeparator c = false
  /-- It has no quotes. -/
  quote_notMem : quote ∉ name
  /-- It opens no bracket. -/
  openBracket_notMem : openBracket ∉ name
  /-- It closes no bracket. -/
  closeBracket_notMem : closeBracket ∉ name
  /-- It has no operators. -/
  ofByte?_of_mem : ∀ c ∈ name, Arithmetic.ofByte? c = none
  /-- It is not a number. -/
  single?_eq_none : Literal.single? name = none

/-- The bytes of such a name. -/
def isVariableByte (c : UInt8) : Bool :=
  !(Scan.isSeparator c || c == quote || c == openBracket || c == closeBracket) &&
    (Arithmetic.ofByte? c).isNone

theorem isVariableName_iff {name : Bytes} :
    IsVariableName name ↔
      (!name.isEmpty && name.all isVariableByte && (Literal.single? name).isNone) = true := by
  simp only [Bool.and_eq_true, Bool.not_eq_true', List.isEmpty_eq_false_iff, List.all_eq_true,
    Option.isNone_iff_eq_none, isVariableByte, Bool.or_eq_false_iff, beq_eq_false_iff_ne]
  constructor
  · intro h
    refine ⟨⟨h.ne_nil, fun c hc => ⟨⟨⟨⟨h.isSeparator_of_mem c hc, ?_⟩, ?_⟩, ?_⟩,
      h.ofByte?_of_mem c hc⟩⟩, h.single?_eq_none⟩
    · rintro rfl
      exact h.quote_notMem hc
    · rintro rfl
      exact h.openBracket_notMem hc
    · rintro rfl
      exact h.closeBracket_notMem hc
  · rintro ⟨⟨hne, hbyte⟩, hnumber⟩
    refine ⟨hne, fun c hc => (hbyte c hc).1.1.1.1, fun hc => ?_, fun hc => ?_, fun hc => ?_,
      fun c hc => (hbyte c hc).2, hnumber⟩
    · exact (hbyte quote hc).1.1.1.2 rfl
    · exact (hbyte openBracket hc).1.1.2 rfl
    · exact (hbyte closeBracket hc).1.2 rfl

instance (name : Bytes) : Decidable (IsVariableName name) :=
  decidable_of_iff _ isVariableName_iff.symm

namespace IsVariableName

variable {name : Bytes}

theorem isBlank_of_mem (h : IsVariableName name) : ∀ c ∈ name, isBlank c = false := by
  intro c hc
  have hseparator := h.isSeparator_of_mem c hc
  rw [Scan.isSeparator, Bool.or_eq_false_iff] at hseparator
  exact hseparator.1

end IsVariableName

/-! ## Assignments -/

namespace Assignment

/-- An assignment with a gap for the name it assigns to. -/
structure Frame where
  /-- The keyword and a separator. -/
  keyword : Bytes
  /-- They are as long as those of an assignment. -/
  length_keyword : keyword.length = LineKind.assignment.operandOffset
  /-- What stands before the gap. -/
  before : Bytes
  /-- It is blank. -/
  isBlank_before : ∀ c ∈ before, isBlank c = true
  /-- What stands after the gap. -/
  after : Bytes
  /-- It is blank. -/
  isBlank_after : ∀ c ∈ after, isBlank c = true
  /-- The rest of the line. -/
  rest : Bytes
  /-- It starts with the `to`. -/
  isTo_rest : Scan.isTo rest = true

/-- The assignment to a name. -/
def Frame.fill (frame : Frame) (name : Bytes) : Bytes :=
  frame.keyword ++ (frame.before ++ (name ++ (frame.after ++ frame.rest)))

/-- Reads the right side of an assignment: the object in front of the value, and the value. -/
def source (scope : Scope) (line text : Bytes) : LineOutcome (Option Bytes × Value) := do
  let (object, rest) ← Outcome.ofExcept (splitObject line text)
  if (trimLeft rest).isEmpty then Outcome.fail (.noValue line)
  else
    let value ← Value.parse scope (trimLeft rest)
    pure (object.map scope.object, value)

/-- Every assignment to the name is one to the target, and can be compiled if its right side can. -/
def Assigns (scope : Scope) (name : Bytes) (target : Target) : Prop :=
  ∀ frame : Frame, compile scope (frame.fill name) = do
    let (object, value) ← source scope (frame.fill name) (Scan.unwrap (frame.rest.drop 4))
    pure (object, .assignment target value)

/-- No assignment to the name can be compiled. -/
def Refuses (scope : Scope) (name : Bytes) : Prop :=
  ∀ frame : Frame, ∃ fault, (compile scope (frame.fill name)).result = .error fault

variable {scope : Scope} {name : Bytes}

/-- Behind the keyword the assignment starts with the name. -/
theorem trimLeft_drop_fill (h : IsVariableName name) (frame : Frame) :
    trimLeft ((frame.fill name).drop LineKind.assignment.operandOffset) =
      name ++ (frame.after ++ frame.rest) := by
  obtain ⟨c, tail, rfl⟩ := List.exists_cons_of_ne_nil h.ne_nil
  have hc : isBlank c = false := h.isBlank_of_mem c List.mem_cons_self
  rw [Frame.fill, ← frame.length_keyword, List.drop_left, trimLeft,
    List.dropWhile_append_of_pos frame.isBlank_before, List.cons_append,
    List.dropWhile_cons_of_neg (by simp [hc])]

/-- An assignment is compiled from its target and its right side. -/
theorem compile_fill (h : IsVariableName name) (frame : Frame) :
    compile scope (frame.fill name) = (do
      let (object, rest) ← Outcome.ofExcept
        (splitObject (frame.fill name) (Scan.unwrap (frame.rest.drop 4)))
      let target ← Outcome.ofExcept (Target.parse scope name)
      if (trimLeft rest).isEmpty then Outcome.fail (.noValue (frame.fill name))
      else
        let value ← Value.parse scope (trimLeft rest)
        pure (object.map scope.object, .assignment target value)) := by
  -- the name has no blanks, so the first `to` is the one behind it
  have hposition : Scan.toPosition (name ++ (frame.after ++ frame.rest)) =
      some (name ++ frame.after).length :=
    Scan.toPosition_append h.quote_notMem h.isBlank_of_mem frame.isBlank_after frame.isTo_rest
  have htarget : trim ((name ++ (frame.after ++ frame.rest)).take (name ++ frame.after).length) =
      name := by
    rw [← List.append_assoc, List.take_left, trim_append_blank frame.isBlank_after,
      trim_eq_self h.isBlank_of_mem]
  have hrest : (name ++ (frame.after ++ frame.rest)).drop ((name ++ frame.after).length + 4) =
      frame.rest.drop 4 := by
    rw [← List.append_assoc, List.drop_length_add_append]
  rw [compile]
  simp only [trimLeft_drop_fill h, hposition]
  refine (Outcome.pure_bind _ _).trans ?_
  rw [htarget, hrest]

theorem assigns_of_parse (h : IsVariableName name) {target : Target}
    (htarget : Target.parse scope name = .ok target) : Assigns scope name target := by
  intro frame
  rw [compile_fill h, htarget, source]
  cases splitObject (frame.fill name) (Scan.unwrap (frame.rest.drop 4)) with
  | error fault => rfl
  | ok right =>
    obtain ⟨object, rest⟩ := right
    have hpure {α : Type} (a : α) : (Outcome.ofExcept (.ok a) : LineOutcome α) = pure a := rfl
    simp only [hpure, Outcome.pure_bind]
    by_cases hempty : (trimLeft rest).isEmpty = true
    · rw [if_pos hempty, if_pos hempty]
      rfl
    · rw [if_neg hempty, if_neg hempty]
      obtain ⟨warnings, result⟩ := Value.parse scope (trimLeft rest)
      cases result with
      | error fault => rfl
      | ok value => simp

theorem refuses_of_parse (h : IsVariableName name) {fault : Fault}
    (htarget : Target.parse scope name = .error fault) : Refuses scope name := by
  intro frame
  rw [compile_fill h, htarget]
  -- an object that is missing in front of the value is complained of first
  cases splitObject (frame.fill name) (Scan.unwrap (frame.rest.drop 4)) with
  | error other => exact ⟨other, rfl⟩
  | ok right => exact ⟨fault, rfl⟩

end Assignment

/-! ## Calls -/

namespace Command

variable {scope : Scope} {name : Bytes} {inExpression : Bool}

/-- A call with a name in it is given by its fields. -/
theorem result_invoke_fill (h : IsVariableName name) (gap : Scan.Gap) {command : Bytes}
    {arguments : List Bytes} (hstart : Scan.fields gap.start = command :: arguments) :
    (invoke scope inExpression (gap.fill name)).result =
      (invokeFields scope inExpression command
        (arguments ++ name :: Scan.fields gap.rest)).result := by
  have hfields : Scan.fields (gap.fill name) =
      command :: (arguments ++ name :: Scan.fields gap.rest) := by
    rw [gap.fields_fill h.ne_nil h.quote_notMem h.isSeparator_of_mem, hstart]
    rfl
  -- the call is not blank, since the name is not
  have hblank : (gap.fill name).trim.isEmpty = false := by
    obtain ⟨c, tail, rfl⟩ := List.exists_cons_of_ne_nil h.ne_nil
    have hc : isBlank c = false := h.isBlank_of_mem c List.mem_cons_self
    have htrim := trim_append_cons hc (gap.start ++ [gap.separator]) (tail ++ gap.rest)
    rw [List.append_assoc, List.singleton_append] at htrim
    rw [Scan.Gap.fill, List.cons_append, htrim]
    simp
  rw [invoke, hblank, hfields]
  cases Scan.isBalanced (gap.fill name) with
  | true => rfl
  | false => rfl

/-! ### Messages -/

/-- A message with a gap after parameters that all name variables. -/
structure MessageGap (scope : Scope) extends Scan.Gap where
  /-- The command. -/
  command : Bytes
  /-- The text of the message. -/
  text : Bytes
  /-- The parameters before the gap. -/
  arguments : List Bytes
  /-- They are all that stands before the gap. -/
  fields_start : Scan.fields start = command :: text :: arguments
  /-- The command is that of a message. -/
  lower_command : command.lower = ascii "messagebox"
  /-- The parameters before the gap name variables. -/
  isSome_argument : ∀ value ∈ arguments, (messageArgument? scope value).isSome = true
  /-- There are not too many parameters. -/
  length_le : arguments.length + (Scan.fields rest).length + 2 ≤ maxMessageParameters

/-- Every message takes the name as an argument. -/
def TakesAsArgument (scope : Scope) (name : Bytes) (argument : Datum) : Prop :=
  ∀ (inExpression : Bool) (gap : MessageGap scope), ∃ call,
    (invoke scope inExpression (gap.fill name)).result = .ok call ∧
      call.operands[gap.arguments.length + 2]? = some argument

/-- Every message takes the name, and all parameters after it, as buttons. -/
def TakesAsButton (scope : Scope) (name : Bytes) : Prop :=
  ∀ (inExpression : Bool) (gap : MessageGap scope), ∃ call arguments,
    (invoke scope inExpression (gap.fill name)).result = .ok call ∧
      arguments.length = gap.arguments.length ∧
      call.operands = [.text16 gap.text, .byte (UInt8.ofNat gap.arguments.length)] ++ arguments ++
        [.byte (UInt8.ofNat (name :: Scan.fields gap.rest).length)] ++
        (name :: Scan.fields gap.rest).map .zeroText

/-- Parameters that name variables are arguments. -/
theorem messageArguments_append {arguments : List Bytes}
    (h : ∀ value ∈ arguments, (messageArgument? scope value).isSome = true) (values : List Bytes) :
    ∃ data : List Datum, data.length = arguments.length ∧
      messageArguments scope (arguments ++ values) =
        (data ++ (messageArguments scope values).1, (messageArguments scope values).2) := by
  induction arguments with
  | nil => exact ⟨[], rfl, rfl⟩
  | cons value arguments ih =>
    obtain ⟨hvalue, harguments⟩ := List.forall_mem_cons.1 h
    obtain ⟨datum, hdatum⟩ := Option.isSome_iff_exists.1 hvalue
    obtain ⟨data, hlength, hdata⟩ := ih harguments
    refine ⟨datum :: data, congrArg (· + 1) hlength, ?_⟩
    rw [List.cons_append, messageArguments, hdatum, hdata]
    rfl

/-- A message with a name in it is compiled. -/
theorem result_invoke_message (h : IsVariableName name) (gap : MessageGap scope) :
    (invoke scope inExpression (gap.fill name)).result =
      .ok (message scope gap.text (gap.arguments ++ name :: Scan.fields gap.rest)) := by
  have hlength : (gap.text :: gap.arguments ++ name :: Scan.fields gap.rest).length =
      gap.arguments.length + (Scan.fields gap.rest).length + 2 := by
    simp only [List.length_append, List.length_cons]
    omega
  have hmany : (decide ((gap.text :: gap.arguments ++ name :: Scan.fields gap.rest).length > 1) &&
      gap.command.lower == ascii "messagebox") = true := by
    rw [hlength, gap.lower_command]
    simp
  have hfew : ¬(gap.text :: gap.arguments ++ name :: Scan.fields gap.rest).length >
      maxMessageParameters := by
    rw [hlength]
    exact Nat.not_lt.2 gap.length_le
  rw [result_invoke_fill h gap.toGap gap.fields_start, invokeFields, if_pos hmany, if_neg hfew]
  rfl

theorem takesAsArgument_of_some (h : IsVariableName name) {argument : Datum}
    (hargument : messageArgument? scope name = some argument) :
    TakesAsArgument scope name argument := by
  intro inExpression gap
  refine ⟨_, result_invoke_message h gap, ?_⟩
  obtain ⟨data, hlength, hdata⟩ :=
    messageArguments_append gap.isSome_argument (name :: Scan.fields gap.rest)
  rw [message, hdata, messageArguments, hargument, ← hlength]
  simp

theorem takesAsButton_of_none (h : IsVariableName name)
    (hargument : messageArgument? scope name = none) : TakesAsButton scope name := by
  intro inExpression gap
  obtain ⟨data, hlength, hdata⟩ :=
    messageArguments_append gap.isSome_argument (name :: Scan.fields gap.rest)
  refine ⟨_, data, result_invoke_message h gap, hlength, ?_⟩
  rw [message, hdata, messageArguments, hargument, ← hlength]
  simp

/-! ### Numbers or locals -/

/-- A call with a gap where the layout of its command has a number or a local. -/
structure SingleGap extends Scan.Gap where
  /-- The name of the command. -/
  command : Bytes
  /-- The parameters before the gap. -/
  arguments : List Bytes
  /-- They are all that stands before the gap. -/
  fields_start : Scan.fields start = command :: arguments
  /-- The command. -/
  found : Command
  /-- It is the one of the name and the number of parameters. -/
  find?_eq : find? command.lower (arguments.length + 1 + (Scan.fields rest).length) = some found
  /-- The code of the command. -/
  opcode : Opcode
  /-- Its marker in an expression. -/
  marker : Bytes
  /-- The operands before the one of the gap. -/
  before : List Operand
  /-- The operands after it. -/
  after : List Operand
  /-- The gap is the place of a number or a local. -/
  form_eq : found.form = .layout opcode marker (before ++ .singleOrLocal :: after)
  /-- The operands before it take the parameters before the gap. -/
  countP_before : before.countP Operand.takesParameter = arguments.length

/-- The name is accepted in place of a number, and every call has the datum in its place. -/
structure TakesAsSingle (scope : Scope) (name : Bytes) (datum : Datum) : Prop where
  /-- The name is accepted by itself. -/
  encode_eq : ∀ command index,
    Operand.encode scope command index name .singleOrLocal = pure datum
  /-- It is accepted in a call. -/
  operands_getElem? : ∀ (inExpression : Bool) (gap : SingleGap) (call : Invocation),
    (invoke scope inExpression (gap.fill name)).result = .ok call →
      call.operands[gap.before.length]? = some datum

/-- No call with the name in place of a number can be compiled. -/
def RefusesAsSingle (scope : Scope) (name : Bytes) : Prop :=
  ∀ (inExpression : Bool) (gap : SingleGap),
    ∃ error, (invoke scope inExpression (gap.fill name)).result = .error error

/-- A command of the tables has few parameters. -/
theorem length_le_of_find? {command : Bytes} {n : Nat} {found : Command}
    (h : find? command n = some found) : n ≤ maxParameters := by
  by_contra hmany
  obtain ⟨m, rfl⟩ := Nat.exists_eq_add_of_le' (Nat.not_le.1 hmany)
  exact absurd h (by simp [find?, maxParameters, withParameters])

/-- A message with more than its text is not in the tables. -/
theorem find?_messageBox {n : Nat} (hn : 1 < n) : find? (ascii "messagebox") n = none := by
  refine Option.eq_none_iff_forall_ne_some.2 fun found hfound => ?_
  have hrange : n ∈ List.range (maxParameters + 1) :=
    List.mem_range.2 (Nat.lt_succ_of_le (length_le_of_find? hfound))
  have hnone : ∀ n ∈ List.range (maxParameters + 1), 1 < n →
      find? (ascii "messagebox") n = none := by
    decide +kernel
  exact absurd hfound (by simp [hnone n hrange hn])

/-- The call is encoded after the layout of its command. -/
theorem result_invoke_single (h : IsVariableName name) (gap : SingleGap) :
    (invoke scope inExpression (gap.fill name)).result =
      (invokeForm scope inExpression gap.command (gap.arguments ++ name :: Scan.fields gap.rest)
        (.layout gap.opcode gap.marker (gap.before ++ .singleOrLocal :: gap.after))).result := by
  have hlength : (gap.arguments ++ name :: Scan.fields gap.rest).length =
      gap.arguments.length + 1 + (Scan.fields gap.rest).length := by
    simp only [List.length_append, List.length_cons]
    omega
  have hfound := gap.find?_eq
  rw [← hlength] at hfound
  -- a message with more than its text would not have been found in the tables
  have hmessage : ¬(decide ((gap.arguments ++ name :: Scan.fields gap.rest).length > 1) &&
      gap.command.lower == ascii "messagebox") = true := by
    intro hmessage
    obtain ⟨hmany, hcommand⟩ := Bool.and_eq_true_iff.1 hmessage
    rw [eq_of_beq hcommand, find?_messageBox (of_decide_eq_true hmany)] at hfound
    exact absurd hfound (by simp)
  have hfew := Nat.not_lt.2 (length_le_of_find? hfound)
  rw [result_invoke_fill h gap.toGap gap.fields_start, invokeFields, if_neg hmessage, if_neg hfew,
    hfound]
  simp only [gap.form_eq]

end Command

/-- In a layout that is encoded, every operand that takes a parameter is encoded from its own. -/
theorem Operand.exists_encode_of_encodeAll {scope : Scope} {command : Bytes} {operand : Operand}
    (hoperand : operand.takesParameter = true) {before after : List Operand} {index : Nat}
    {values : List Bytes} {data : List Datum}
    (h : (encodeAll scope command index (before ++ operand :: after) values).result = .ok data) :
    ∃ datum, data[before.length]? = some datum ∧
      (operand.encode scope command (index + before.countP takesParameter)
        ((values.drop (before.countP takesParameter)).headD [])).result = .ok datum := by
  have hliteral {operand : Operand} (htakes : operand.takesParameter = true) :
      ∀ b, operand = literal b → False := by
    rintro b rfl
    exact absurd htakes (by simp [takesParameter])
  -- the operands before it take their parameters first, and fixed bytes take none
  induction before generalizing index values data with
  | nil =>
    rw [List.nil_append, encodeAll.eq_3 _ _ _ _ _ _ (hliteral hoperand)] at h
    obtain ⟨datum, hdatum, hrest⟩ := Outcome.result_bind_eq_ok.1 h
    obtain ⟨rest, -, hdata⟩ := Outcome.result_bind_eq_ok.1 hrest
    obtain rfl := Except.ok.inj hdata
    exact ⟨datum, rfl, hdatum⟩
  | cons other before ih =>
    cases htakes : other.takesParameter with
    | false =>
      obtain ⟨b, rfl⟩ : ∃ b, other = literal b := by
        cases other <;> simp_all [takesParameter]
      rw [List.cons_append, encodeAll] at h
      obtain ⟨rest, hrest, hdata⟩ := Outcome.result_bind_eq_ok.1 h
      obtain rfl := Except.ok.inj hdata
      rw [List.countP_cons_of_neg (by simp [htakes])]
      exact ih hrest
    | true =>
      rw [List.cons_append, encodeAll.eq_3 _ _ _ _ _ _ (hliteral htakes)] at h
      obtain ⟨first, -, hlater⟩ := Outcome.result_bind_eq_ok.1 h
      obtain ⟨rest, hrest, hdata⟩ := Outcome.result_bind_eq_ok.1 hlater
      obtain rfl := Except.ok.inj hdata
      obtain ⟨datum, hget, hdatum⟩ := ih hrest
      refine ⟨datum, hget, ?_⟩
      rw [List.countP_cons_of_pos htakes]
      rwa [List.drop_tail, Nat.add_assoc, Nat.add_comm 1] at hdatum

namespace Command

variable {scope : Scope} {name : Bytes} {inExpression : Bool}

/-- A call that is compiled has the operand of the name in its place. -/
theorem exists_encode_of_invoke (h : IsVariableName name) (gap : SingleGap) {call : Invocation}
    (hcall : (invoke scope inExpression (gap.fill name)).result = .ok call) :
    ∃ datum, call.operands[gap.before.length]? = some datum ∧
      (Operand.encode scope gap.command (1 + gap.arguments.length) name .singleOrLocal).result =
        .ok datum := by
  rw [result_invoke_single h, invokeForm] at hcall
  obtain ⟨data, hdata, hinvocation⟩ := Outcome.result_bind_eq_ok.1 hcall
  obtain rfl := Except.ok.inj hinvocation
  have hplace := Operand.exists_encode_of_encodeAll rfl hdata
  rwa [gap.countP_before, List.drop_left] at hplace

theorem takesAsSingle_of_encode (h : IsVariableName name) {datum : Datum}
    (hencode : ∀ command index,
      Operand.encode scope command index name .singleOrLocal = pure datum) :
    TakesAsSingle scope name datum := by
  refine ⟨hencode, fun inExpression gap call hcall => ?_⟩
  obtain ⟨other, hget, hother⟩ := exists_encode_of_invoke h gap hcall
  rw [hencode] at hother
  obtain rfl := Except.ok.inj hother
  exact hget

theorem refusesAsSingle_of_encode (h : IsVariableName name)
    (hencode : ∀ command index, Operand.encode scope command index name .singleOrLocal =
      Outcome.fail (.badParameter command index name .singleOrLocal)) :
    RefusesAsSingle scope name := by
  intro inExpression gap
  cases hresult : (invoke scope inExpression (gap.fill name)).result with
  | error error => exact ⟨error, rfl⟩
  | ok call =>
    obtain ⟨datum, -, hdatum⟩ := exists_encode_of_invoke h gap hresult
    rw [hencode] at hdatum
    exact absurd hdatum (by simp)

end Command

/-! ## Names -/

namespace IsVariableName

variable {scope : Scope} {name : Bytes}

/-- As an expression the name is a single operand. -/
theorem parse_eq (h : IsVariableName name) (scope : Scope) :
    Expression.parse scope name = (do
      let a ← Atom.parse scope name
      pure (.atom a)) := by
  have hunwrap : Scan.unwrap name = name :=
    Scan.unwrap_eq_self h.isBlank_of_mem
      fun hopen => h.openBracket_notMem (List.mem_of_mem_head? hopen)
  have hclosed := Scan.bracketDepth_eq_zero h.openBracket_notMem h.closeBracket_notMem
  have hnone : Scan.nextOperator (Scan.unwrap name) 0 = none := by
    rw [hunwrap]
    exact Scan.nextOperator_eq_none h.quote_notMem hclosed (.of_forall h.ofByte?_of_mem)
  rw [Expression.parse_eq_atom scope hnone, hunwrap]

/-- In place of a number a name that is no local is refused. -/
theorem refusesAsSingle (h : IsVariableName name) (hslot : scope.slot? name = none) :
    Command.RefusesAsSingle scope name := by
  refine Command.refusesAsSingle_of_encode h fun command index => ?_
  rw [Operand.encode, h.single?_eq_none, hslot]
  rfl

/-- In a message a name that is neither a local nor a global is the label of a button. -/
theorem takesAsButton (h : IsVariableName name) (hslot : scope.slot? name = none)
    (hglobal : scope.global? name = none) : Command.TakesAsButton scope name := by
  refine Command.takesAsButton_of_none h ?_
  rw [Command.messageArgument?, hslot, hglobal]
  rfl

/-- A name that is neither a local nor a global but has a full stop in it is divided there, on both
sides of an assignment. -/
theorem exists_dotted? (h : IsVariableName name) (hdot : dot ∈ name) (scope : Scope) :
    ∃ object member i, name = object ++ dot :: member ∧ dot ∉ object ∧
      Scan.dotPosition name = some i ∧
      scope.dotted? name i = (object, scope.foreign? object member) := by
  obtain ⟨object, member, rfl, hobject⟩ := List.eq_append_cons_of_mem hdot
  have hquote : quote ∉ object := fun hmem => h.quote_notMem (List.mem_append_left _ hmem)
  refine ⟨object, member, object.length, rfl, hobject,
    Scan.dotPosition_append hquote hobject member, ?_⟩
  rw [Scope.dotted?, List.take_left, stripQuotes_eq_self hquote, List.drop_length_add_append]
  rfl

/-- All four places agree on what a name means. A local is the same local in all of them. A name
that is no local but a global is the same global in all of them but the last, where it is refused.
Any other name with a full stop in it is the same variable of the same object on both sides of an
assignment, or is refused on both, and it is the label of a button in a message. A name that is none
of these cannot be assigned to, and is the label of a button in a message. -/
theorem resolves_alike (h : IsVariableName name) (scope : Scope) :
    (∀ slot, scope.slot? name = some slot →
      Assignment.Assigns scope name (.localVariable slot) ∧
      Expression.parse scope name = pure (.atom (.localVariable name slot)) ∧
      Command.TakesAsArgument scope name (.slot slot) ∧
      Command.TakesAsSingle scope name (.paddedSlot slot)) ∧
    (∀ spelling, scope.slot? name = none → scope.global? name = some spelling →
      Assignment.Assigns scope name (.globalVariable spelling) ∧
      Expression.parse scope name = pure (.atom (.globalVariable spelling)) ∧
      Command.TakesAsArgument scope name (.globalName spelling) ∧
      Command.RefusesAsSingle scope name) ∧
    (scope.slot? name = none → scope.global? name = none → dot ∈ name →
      ∃ object member, name = object ++ dot :: member ∧ dot ∉ object ∧
        (match scope.foreign? object member with
        | some slot =>
          Assignment.Assigns scope name (.foreignVariable (scope.object object) slot) ∧
          Expression.parse scope name = pure (.atom (.foreignVariable name object slot))
        | none =>
          Assignment.Refuses scope name ∧
          ∃ error, (Expression.parse scope name).result = .error error) ∧
        Command.TakesAsButton scope name ∧
        Command.RefusesAsSingle scope name) ∧
    (scope.slot? name = none → scope.global? name = none → dot ∉ name →
      Assignment.Refuses scope name ∧
      Command.TakesAsButton scope name ∧
      Command.RefusesAsSingle scope name) := by
  refine ⟨fun slot hslot => ⟨?_, ?_, ?_, ?_⟩, fun spelling hslot hglobal => ⟨?_, ?_, ?_, ?_⟩,
    fun hslot hglobal hdot => ?_, fun hslot hglobal hdot => ⟨?_, ?_, ?_⟩⟩
  -- a local
  · exact Assignment.assigns_of_parse h (by simp [Target.parse, hslot])
  · simp [h.parse_eq, Atom.parse, h.single?_eq_none, hslot]
  · exact Command.takesAsArgument_of_some h (by simp [Command.messageArgument?, hslot])
  · refine Command.takesAsSingle_of_encode h fun command index => ?_
    rw [Operand.encode, h.single?_eq_none, hslot]
    rfl
  -- a global
  · exact Assignment.assigns_of_parse h (by simp [Target.parse, hslot, hglobal])
  · simp [h.parse_eq, Atom.parse, h.single?_eq_none, hslot, hglobal]
  · exact Command.takesAsArgument_of_some h (by simp [Command.messageArgument?, hslot, hglobal])
  · exact h.refusesAsSingle hslot
  -- a variable of another object
  · obtain ⟨object, member, i, hname, hobject, hposition, hdotted⟩ := h.exists_dotted? hdot scope
    refine ⟨object, member, hname, hobject, ?_, h.takesAsButton hslot hglobal,
      h.refusesAsSingle hslot⟩
    cases hforeign : scope.foreign? object member with
    | some slot =>
      rw [hforeign] at hdotted
      refine ⟨Assignment.assigns_of_parse h ?_, ?_⟩
      · simp [Target.parse, hslot, hglobal, hposition, hdotted]
      · simp [h.parse_eq, Atom.parse, h.single?_eq_none, hslot, hglobal, hposition, hdotted]
    | none =>
      rw [hforeign] at hdotted
      have htarget : Target.parse scope name = .error (.unknownForeign name) := by
        simp [Target.parse, hslot, hglobal, hposition, hdotted]
      have hatom : Atom.parse scope name = Outcome.fail ⟨name, .unknownForeign⟩ := by
        simp [Atom.parse, h.single?_eq_none, hslot, hglobal, hposition, hdotted]
      refine ⟨Assignment.refuses_of_parse h htarget, ⟨name, .unknownForeign⟩, ?_⟩
      rw [h.parse_eq, hatom]
      rfl
  -- no variable
  · have hposition := Scan.dotPosition_eq_none h.quote_notMem hdot
    have htarget : Target.parse scope name = .error (.unknownVariable name) := by
      simp [Target.parse, hslot, hglobal, hposition]
    exact Assignment.refuses_of_parse h htarget
  · exact h.takesAsButton hslot hglobal
  · exact h.refusesAsSingle hslot

end IsVariableName

/-- What names mean in a script with one local, in a game with the data of the bazaar. -/
def bazaarScope : Scope :=
  Scope.declare { tables := GameData.bazaar.index.tables } .short (ascii "state")

/-- An assignment with a gap. -/
def bazaarAssignment : Assignment.Frame where
  keyword := ascii "set "
  length_keyword := rfl
  before := []
  isBlank_before := List.forall_mem_nil _
  after := []
  isBlank_after := List.forall_mem_nil _
  rest := ascii " to 3"
  isTo_rest := by decide

/-- A message with a gap after a global. -/
def bazaarMessage : Command.MessageGap bazaarScope where
  start := ascii "MessageBox \"%g: %g\" day"
  isBalanced_start := by decide
  separator := space
  isSeparator_separator := by decide
  rest := ascii " Yes"
  isSeparator_head := by
    rintro c ⟨⟩
    rfl
  command := ascii "MessageBox"
  text := ascii "%g: %g"
  arguments := [ascii "day"]
  fields_start := by decide +kernel
  lower_command := by decide
  isSome_argument := by decide +kernel
  length_le := by decide +kernel

/-- A command that takes an axis and a number or a local, with a gap for the latter. -/
def bazaarCall : Command.SingleGap where
  start := ascii "SetPos X,"
  isBalanced_start := by decide
  separator := space
  isSeparator_separator := by decide
  rest := []
  isSeparator_head := nofun
  command := ascii "SetPos"
  arguments := [ascii "X"]
  fields_start := by decide +kernel
  found := ⟨"setpos", .plain 0x100B [.axis, .singleOrLocal]⟩
  find?_eq := by decide +kernel
  opcode := ⟨0x100B⟩
  marker := []
  before := [.axis]
  after := []
  form_eq := rfl
  countP_before := by decide

/-- The local, the global, the variable of the chest and a name that means nothing, with lines that
they stand in. -/
theorem IsVariableName.resolves_alike_bazaar :
    bazaarAssignment.fill (ascii "State") = ascii "set State to 3" ∧
    bazaarMessage.fill (ascii "State") = ascii "MessageBox \"%g: %g\" day State Yes" ∧
    bazaarCall.fill (ascii "State") = ascii "SetPos X, State" ∧
    Assignment.Assigns bazaarScope (ascii "State") (.localVariable ⟨.short, 1⟩) ∧
    Command.TakesAsArgument bazaarScope (ascii "State") (.slot ⟨.short, 1⟩) ∧
    Command.TakesAsSingle bazaarScope (ascii "State") (.paddedSlot ⟨.short, 1⟩) ∧
    Assignment.Assigns bazaarScope (ascii "gamehour") (.globalVariable (ascii "GAMEHOUR")) ∧
    Command.RefusesAsSingle bazaarScope (ascii "gamehour") ∧
    Assignment.Assigns bazaarScope (ascii "Chest.open")
      (.foreignVariable (ascii "CHEST") ⟨.short, 1⟩) ∧
    Command.TakesAsButton bazaarScope (ascii "Chest.open") ∧
    Assignment.Refuses bazaarScope (ascii "nobody") := by
  have hlocal : IsVariableName (ascii "State") := by decide +kernel
  have hglobal : IsVariableName (ascii "gamehour") := by decide +kernel
  have hforeign : IsVariableName (ascii "Chest.open") := by decide +kernel
  have hnothing : IsVariableName (ascii "nobody") := by decide +kernel
  obtain ⟨hassigns, -, hargument, hsingle⟩ :=
    (hlocal.resolves_alike bazaarScope).1 ⟨.short, 1⟩ (by decide +kernel)
  obtain ⟨hassignsGlobal, -, -, hrefuses⟩ :=
    (hglobal.resolves_alike bazaarScope).2.1 (ascii "GAMEHOUR") (by decide +kernel)
      (by decide +kernel)
  obtain ⟨object, member, hname, hobject, hmatch, hbutton, -⟩ :=
    (hforeign.resolves_alike bazaarScope).2.2.1 (by decide +kernel) (by decide +kernel)
      (by decide +kernel)
  obtain ⟨hrefusesNothing, -, -⟩ :=
    (hnothing.resolves_alike bazaarScope).2.2.2 (by decide +kernel) (by decide +kernel)
      (by decide +kernel)
  -- there is only one way to divide a name at its first full stop
  have hquote : quote ∉ object := fun hmem => hforeign.quote_notMem
    (hname ▸ List.mem_append_left _ hmem)
  have hlength : some object.length = some (ascii "Chest").length := by
    rw [← Scan.dotPosition_append hquote hobject member, ← hname]
    decide
  obtain ⟨rfl, hmember⟩ : object = ascii "Chest" ∧ dot :: member = ascii ".open" :=
    List.append_inj hname.symm (Option.some.inj hlength)
  obtain rfl : member = ascii "open" := (List.cons.inj hmember).2
  have hslot : bazaarScope.foreign? (ascii "Chest") (ascii "open") = some ⟨.short, 1⟩ := by
    decide +kernel
  rw [hslot] at hmatch
  exact ⟨by decide, by decide, by decide, hassigns, hargument, hsingle, hassignsGlobal, hrefuses,
    hmatch.1, hbutton, hrefusesNothing⟩

end MorrowindScript
