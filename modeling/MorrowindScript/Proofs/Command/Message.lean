import MorrowindScript.Proofs.Bounds.Command
import MorrowindScript.Proofs.Scan.Word
import Mathlib.Order.Bounds.Defs

/-!
# Messages

A message takes a text and any number of further parameters. Those at the start that name variables
are the arguments of the text, and from the first other one on all parameters are labels of buttons,
even those that name variables. Both lists are counted in one byte, which is why there is a limit on
the parameters. A message without further parameters stands in the tables of commands, all others
are encoded apart. The module shows that there is one format for all of them.

## Main definitions

* `Command.IsArgument`: how a parameter that names a variable is written.
* `Command.leadingCounts`: the numbers of parameters at the start that all name variables.
* `Command.IsMessage`: the format of messages.

## Main results

* `Command.result_invoke_of_fields`: a call is encoded from its fields.
* `Command.isGreatest_messageArguments`: the arguments are as many as possible.
* `Command.result_invoke_messageBox`: messages of every length.
-/

namespace MorrowindScript

open Bytes

namespace Scan

/-- A line with fields is not blank. -/
theorem trim_isEmpty_of_fields {line : Bytes} (h : fields line ≠ []) :
    line.trim.isEmpty = false := by
  obtain ⟨c, hmem, hc⟩ : ∃ c ∈ line, isBlank c = false := by
    by_contra hblank
    refine h (IsSpacing.fields_eq_nil fun c hc => ?_)
    have hc : isBlank c = true := by
      by_contra hne
      exact hblank ⟨c, hc, Bool.eq_false_iff.2 hne⟩
    rw [isSeparator, hc, Bool.true_or]
  obtain ⟨before, after, rfl⟩ := List.append_of_mem hmem
  rw [trim_append_cons hc]
  simp

end Scan

namespace Command

variable {scope : Scope} {inExpression : Bool}

/-- A call is encoded from its fields. -/
theorem result_invoke_of_fields {line command : Bytes} {values : List Bytes}
    (h : Scan.fields line = command :: values) :
    (invoke scope inExpression line).result =
      (invokeFields scope inExpression command values).result := by
  have hblank : line.trim.isEmpty = false := Scan.trim_isEmpty_of_fields (by simp [h])
  rw [invoke, hblank, h]
  cases Scan.isBalanced line with
  | true => rfl
  | false => rfl

/-! ## Arguments -/

/-- How a parameter is written that names a variable. A local hides a global of the same name. -/
inductive IsArgument (scope : Scope) (value : Bytes) : Bytes → Prop where
  /-- A local is written as a reference. -/
  | slot {slot : Slot} (hslot : scope.slot? value = some slot) :
    IsArgument scope value slot.reference
  /-- A global is written by its letter and its registered spelling. -/
  | globalName {name : Bytes} (hslot : scope.slot? value = none)
    (hglobal : scope.global? value = some name) :
    IsArgument scope value (0x47 :: zeroTerminated name)

/-- The numbers of parameters at the start that all name variables. -/
def leadingCounts (scope : Scope) (values : List Bytes) : Set Nat :=
  {k | k ≤ values.length ∧ ∀ value ∈ values.take k, ∃ bytes, IsArgument scope value bytes}

/-- An argument is written as the variable that it names. -/
theorem isArgument_of_some {value : Bytes} {argument : Datum}
    (h : messageArgument? scope value = some argument) :
    IsArgument scope value argument.encode := by
  unfold messageArgument? at h
  cases hslot : scope.slot? value with
  | some slot =>
    obtain rfl : Datum.slot slot = argument := by simpa [hslot] using h
    exact .slot hslot
  | none =>
    obtain ⟨name, hname, rfl⟩ : ∃ name, scope.global? value = some name ∧
        Datum.globalName name = argument := by
      simpa [hslot] using h
    exact .globalName hslot hname

/-- A parameter that is no argument names no variable. -/
theorem not_isArgument_of_none {value : Bytes} (h : messageArgument? scope value = none)
    (bytes : Bytes) : ¬IsArgument scope value bytes := by
  unfold messageArgument? at h
  rintro (hslot | ⟨hslot, hglobal⟩)
  · simp [hslot] at h
  · simp [hslot, hglobal] at h

/-- One more parameter that names a variable is one more argument. -/
theorem succ_mem_leadingCounts_iff {value : Bytes} {values : List Bytes} {k : Nat} :
    k + 1 ∈ leadingCounts scope (value :: values) ↔
      (∃ bytes, IsArgument scope value bytes) ∧ k ∈ leadingCounts scope values := by
  unfold leadingCounts
  simp only [Set.mem_ofPred_eq, List.length_cons, List.take_succ_cons, List.forall_mem_cons,
    Nat.add_le_add_iff_right]
  tauto

theorem zero_mem_leadingCounts (scope : Scope) (values : List Bytes) :
    0 ∈ leadingCounts scope values :=
  ⟨Nat.zero_le _, by simp⟩

/-- The arguments of a message are as many parameters as possible. -/
theorem isGreatest_messageArguments (scope : Scope) (values : List Bytes) :
    IsGreatest (leadingCounts scope values) (messageArguments scope values).1.length := by
  induction values with
  | nil => exact ⟨zero_mem_leadingCounts scope [], fun k hk => hk.1⟩
  | cons value values ih =>
    rw [messageArguments]
    cases hargument : messageArgument? scope value with
    | some argument =>
      have hvalue : ∃ bytes, IsArgument scope value bytes := ⟨_, isArgument_of_some hargument⟩
      refine ⟨succ_mem_leadingCounts_iff.2 ⟨hvalue, ih.1⟩, fun k hk => ?_⟩
      cases k with
      | zero => exact Nat.zero_le _
      | succ k => exact Nat.succ_le_succ (ih.2 (succ_mem_leadingCounts_iff.1 hk).2)
    | none =>
      refine ⟨zero_mem_leadingCounts scope _, fun k hk => ?_⟩
      cases k with
      | zero => exact le_rfl
      | succ k =>
        -- this parameter would have to name a variable
        obtain ⟨bytes, hbytes⟩ := (succ_mem_leadingCounts_iff.1 hk).1
        exact absurd hbytes (not_isArgument_of_none hargument bytes)

/-- Each argument is written as the variable that the parameter in its place names. -/
theorem forall₂_isArgument_messageArguments (scope : Scope) (values : List Bytes) :
    List.Forall₂ (IsArgument scope) (values.take (messageArguments scope values).1.length)
      ((messageArguments scope values).1.map Datum.encode) := by
  induction values with
  | nil => exact .nil
  | cons value values ih =>
    rw [messageArguments]
    cases hargument : messageArgument? scope value with
    | some argument => exact .cons (isArgument_of_some hargument) ih
    | none => exact .nil

/-! ## The format -/

/-- How a message is written that has the given text and further parameters. After the code come the
text with its length, the arguments with their number, and the labels of the buttons with theirs.
The first `k` parameters are the arguments, where `k` is the largest number of parameters at the
start that all name variables, and the others are the labels. -/
def IsMessage (scope : Scope) (text : Bytes) (values : List Bytes) (bytes : Bytes) : Prop :=
  ∃ (k : Nat) (arguments : List Bytes) (argumentCount buttonCount : UInt8),
    IsGreatest (leadingCounts scope values) k ∧
    List.Forall₂ (IsArgument scope) (values.take k) arguments ∧
    argumentCount.toNat = k ∧ buttonCount.toNat = values.length - k ∧
    bytes = Opcode.messageBox.encode ++ (littleEndian 2 text.length ++ text) ++
      [argumentCount] ++ arguments.flatten ++
      [buttonCount] ++ (values.drop k).flatMap zeroTerminated

/-- A message with at most 255 parameters after its text is in the format. -/
theorem isMessage_message {text : Bytes} {values : List Bytes} (hfew : values.length ≤ 255) :
    IsMessage scope text values (message scope text values).encode := by
  have hlength := length_messageArguments scope values
  have hbuttons := messageArguments_snd scope values
  refine ⟨(messageArguments scope values).1.length,
    (messageArguments scope values).1.map Datum.encode,
    UInt8.ofNat (messageArguments scope values).1.length,
    UInt8.ofNat (messageArguments scope values).2.length,
    isGreatest_messageArguments scope values, forall₂_isArgument_messageArguments scope values,
    ?_, ?_, ?_⟩
  -- arguments and buttons together are at most 255, so neither count wraps
  · rw [UInt8.toNat_ofNat']
    omega
  · rw [UInt8.toNat_ofNat']
    omega
  · rw [← hbuttons, message, Invocation.encode]
    simp [Datum.encode, textWithLength16, List.flatMap_def, Function.comp_def]

/-! ## All messages -/

/-- The command of messages without further parameters stands in the tables. -/
theorem find?_messageBox_one : find? (ascii "messagebox") 1 =
    some ⟨"messagebox", .plain 0x1000 [.text16, .literal 0x00, .literal 0x00]⟩ := by
  decide +kernel

/-- A message within the limit is encoded, whether its command stands in the tables or not. -/
theorem result_invokeFields_message {command text : Bytes} {values : List Bytes}
    (hcommand : command.lower = ascii "messagebox")
    (hfew : (text :: values).length ≤ maxMessageParameters) :
    (invokeFields scope inExpression command (text :: values)).result =
      .ok (message scope text values) := by
  cases values with
  | nil =>
    -- the layout of the tables has zeros for the counts
    have hfound : find? command.lower [text].length = _ := hcommand ▸ find?_messageBox_one
    rw [invokeFields, if_neg (by simp), if_neg (by simp [maxParameters]), hfound]
    cases inExpression with
    | true => rfl
    | false => rfl
  | cons value values =>
    rw [invokeFields, if_pos (by simp [hcommand]), if_neg (Nat.not_lt.2 hfew)]
    rfl

/-- A message beyond the limit is refused. -/
theorem result_invokeFields_tooMany {command : Bytes} {values : List Bytes}
    (hcommand : command.lower = ascii "messagebox") (hmany : maxMessageParameters < values.length) :
    (invokeFields scope inExpression command values).result =
      .error (.tooManyParameters command) := by
  have hone : values.length > 1 := lt_of_le_of_lt (by decide) hmany
  rw [invokeFields, if_pos (by simp [hcommand, hone]), if_pos hmany]
  rfl

/-- Messages are divided into text, arguments and buttons whatever their number of parameters. With
more than 256 parameters a message is refused, and with at least one and at most 256 it is encoded
in the format of messages. -/
theorem result_invoke_messageBox {line command : Bytes} {values : List Bytes}
    (hfields : Scan.fields line = command :: values)
    (hcommand : command.lower = ascii "messagebox") (scope : Scope) (inExpression : Bool) :
    (256 < values.length →
      (invoke scope inExpression line).result = .error (.tooManyParameters command)) ∧
    ∀ text rest, values = text :: rest → values.length ≤ 256 →
      ∃ call, (invoke scope inExpression line).result = .ok call ∧
        IsMessage scope text rest call.encode := by
  rw [result_invoke_of_fields hfields]
  refine ⟨result_invokeFields_tooMany hcommand, ?_⟩
  rintro text rest rfl hfew
  refine ⟨_, result_invokeFields_message hcommand hfew, isMessage_message ?_⟩
  rw [List.length_cons] at hfew
  omega

/-- A game with one global. -/
def innTables : Tables :=
  { Tables.empty with
    globalSpelling := fun name =>
      if equalFold name (ascii "day") then some (ascii "Day") else none }

/-- A script with one local in that game. -/
def innScope : Scope :=
  Scope.declare { tables := innTables } .short (ascii "state")

/-- A message about both, with the local once more after the first button. -/
def innMessage : Bytes :=
  ascii "MessageBox, \"%g %g\" State DAY Yes state"

/-- The bytes of that message. -/
def innBytes : Bytes :=
  [0x00, 0x10, 5, 0] ++ ascii "%g %g" ++ [2, 0x73, 1, 0, 0x47, 4] ++ ascii "Day" ++ [0, 2, 4] ++
    ascii "Yes" ++ [0, 6] ++ ascii "state" ++ [0]

/-- The local is an argument, and after the first button it is the label of a button. -/
theorem result_invoke_messageBox_inn :
    Scan.fields innMessage = [ascii "MessageBox", ascii "%g %g", ascii "State", ascii "DAY",
      ascii "Yes", ascii "state"] ∧
    (ascii "MessageBox").lower = ascii "messagebox" ∧
    ∃ call, (invoke innScope true innMessage).result = .ok call ∧
      IsMessage innScope (ascii "%g %g")
        [ascii "State", ascii "DAY", ascii "Yes", ascii "state"] call.encode ∧
      call.encode = innBytes := by
  have hfields : Scan.fields innMessage = [ascii "MessageBox", ascii "%g %g", ascii "State",
      ascii "DAY", ascii "Yes", ascii "state"] := by
    decide +kernel
  have hcommand : (ascii "MessageBox").lower = ascii "messagebox" := by decide +kernel
  obtain ⟨call, hcall, hmessage⟩ :=
    (result_invoke_messageBox hfields hcommand innScope true).2 _ _ rfl (by decide)
  have hbytes : (invoke innScope true innMessage).result.toOption.map Invocation.encode =
      some innBytes := by
    decide +kernel
  rw [hcall] at hbytes
  exact ⟨hfields, hcommand, call, hcall, hmessage, Option.some.inj hbytes⟩

end Command

end MorrowindScript
