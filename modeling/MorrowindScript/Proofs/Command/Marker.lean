import MorrowindScript.Proofs.Bytecode.Instruction

/-!
# Calls inside expressions

A call can be a statement or an operand of an expression. In an expression a few commands carry two
marker bytes between their code and their operands. This module compares the two encodings of one
line: apart from the marker they are equal, and so are their warnings and errors.

## Main definitions

* `Opcode.marker`: the marker of each code.
* `Invocation.marked`: a call with the marker of its code.

## Main results

* `Command.marker_eq_of_mem`: all commands of the tables that share a code have its marker.
* `Command.invoke_true_eq`: inside an expression a call is the call outside of it, marked.
* `Command.invoke_alike_but_marker`: the same in bytes.
-/

namespace MorrowindScript

/-- A computation in three parts may be grouped either way. -/
theorem Outcome.bind_assoc {ω ε α β γ : Type} (x : Outcome ω ε α) (f : α → Outcome ω ε β)
    (g : β → Outcome ω ε γ) : x >>= f >>= g = x >>= fun a => f a >>= g := by
  obtain ⟨ws, r⟩ := x
  cases r with
  | error e => rfl
  | ok a =>
    rw [mk_ok_bind, mk_ok_bind]
    obtain ⟨ws', r'⟩ := f a
    cases r' with
    | error e => rfl
    | ok b => simp

/-- The bytes that calls with the code have after it inside an expression. -/
def Opcode.marker (op : Opcode) : Bytes :=
  match op.code with
  -- `GetDistance` and `GetLineOfSight`
  | 0x1001 | 0x10FC => [0x20, 0x72]
  -- `GetItemCount` and `GetSpell`
  | 0x10FD | 0x111F => [0x20, 0x6F]
  -- `GetJournalIndex`
  | 0x10CD => [0x20, 0x64]
  | _ => []

example : ∀ entry ∈ [(0x1001, "GetDistance"), (0x10FC, "GetLineOfSight"), (0x10FD, "GetItemCount"),
    (0x111F, "GetSpell"), (0x10CD, "GetJournalIndex")], entry ∈ Opcode.names.toList := by
  decide +kernel

/-- The marker bytes of a form; only layouts have any. -/
def Form.marker : Form → Bytes
  | layout _ marker _ => marker
  | _ => []

/-- The call with the marker of its code. -/
def Invocation.marked (call : Invocation) : Invocation :=
  { call with marker := call.opcode.marker }

namespace Command

variable {scope : Scope} {command : Bytes} {values : List Bytes}

/-- A code has the same marker in all tables. -/
theorem marker_eq_of_mem : ∀ n ∈ List.range (maxParameters + 1), ∀ found ∈ withParameters n,
    found.form.marker = found.form.opcode.marker := by
  decide +kernel

/-- Outside of expressions no call has a marker. -/
theorem marker_of_invokeForm {form : Form} {call : Invocation}
    (h : (invokeForm scope false command values form).result = .ok call) : call.marker = [] := by
  cases form with
  | layout opcode marker operands =>
    obtain ⟨data, -, hcall⟩ := Outcome.result_bind_eq_ok.1 h
    obtain rfl := Except.ok.inj hcall
    rfl
  | wander last =>
    obtain ⟨numbers, -, hrest⟩ := Outcome.result_bind_eq_ok.1 h
    obtain ⟨idles, -, hcall⟩ := Outcome.result_bind_eq_ok.1 hrest
    obtain rfl := Except.ok.inj hcall
    rfl
  | removeEffects =>
    obtain ⟨index, -, hcall⟩ := Outcome.result_bind_eq_ok.1 h
    -- with or without a warning about the number
    split at hcall
    · obtain rfl := Except.ok.inj hcall
      rfl
    · obtain rfl := Except.ok.inj hcall
      rfl
  | setDelete =>
    obtain ⟨switch, -, hcall⟩ := Outcome.result_bind_eq_ok.1 h
    obtain rfl := Except.ok.inj hcall
    rfl

/-- Calls whose code has no marker are not changed by marking. -/
theorem bind_marked_eq_self {x : CallOutcome Invocation}
    (h : ∀ call, x.result = .ok call → call.marker = [] ∧ call.opcode.marker = []) :
    (do let call ← x; pure call.marked) = x := by
  obtain ⟨ws, r⟩ := x
  cases r with
  | error e => rfl
  | ok call =>
    obtain ⟨hmarker, hcode⟩ := h call rfl
    have hmarked : call.marked = call := by
      rw [Invocation.marked, hcode, ← hmarker]
    rw [Outcome.mk_ok_bind, hmarked]
    simp

/-- Inside an expression a form whose marker is that of its code gives the marked call. -/
theorem invokeForm_true_eq {form : Form} (hform : form.marker = form.opcode.marker) :
    invokeForm scope true command values form =
      (do let call ← invokeForm scope false command values form; pure call.marked) := by
  -- the forms without layout do not look at where they stand
  have hplain (heq : invokeForm scope true command values form =
      invokeForm scope false command values form) (hnone : form.marker = []) :
      invokeForm scope true command values form =
        (do let call ← invokeForm scope false command values form; pure call.marked) := by
    rw [heq]
    refine (bind_marked_eq_self fun call hcall => ⟨marker_of_invokeForm hcall, ?_⟩).symm
    rw [opcode_of_invokeForm hcall, ← hform, hnone]
  cases form with
  | layout opcode marker operands =>
    obtain rfl : marker = opcode.marker := hform
    rw [invokeForm, invokeForm, Outcome.bind_assoc]
    rfl
  | wander last => exact hplain rfl rfl
  | removeEffects => exact hplain rfl rfl
  | setDelete => exact hplain rfl rfl

/-- Inside an expression a call given by its fields is the marked call. -/
theorem invokeFields_true_eq (scope : Scope) (command : Bytes) (values : List Bytes) :
    invokeFields scope true command values =
      (do let call ← invokeFields scope false command values; pure call.marked) := by
  unfold invokeFields
  split
  · -- a message has no marker
    split
    · rfl
    · exact (bind_marked_eq_self fun call hcall => by
        obtain rfl := Except.ok.inj hcall
        exact ⟨rfl, rfl⟩).symm
  · split
    · rfl
    · next hfew =>
      cases hfound : find? command.lower values.length with
      | none => rfl
      | some found =>
        have hrange : values.length ∈ List.range (maxParameters + 1) :=
          List.mem_range.2 (by omega)
        exact invokeForm_true_eq
          (marker_eq_of_mem _ hrange found (List.mem_of_find?_eq_some hfound))

/-- Inside an expression a call is the call outside of it, marked. -/
theorem invoke_true_eq (scope : Scope) (line : Bytes) :
    invoke scope true line = (do let call ← invoke scope false line; pure call.marked) := by
  unfold invoke
  split
  · rfl
  · cases Scan.fields line with
    | nil => cases Scan.isBalanced line <;> rfl
    | cons command values =>
      have hfields := invokeFields_true_eq scope command values
      cases Scan.isBalanced line with
      | true => exact hfields
      | false =>
        -- both warn of the quotes before anything else
        show (Outcome.warn (.unbalancedQuotes line) >>= fun _ =>
            invokeFields scope true command values) =
          (Outcome.warn (.unbalancedQuotes line) >>= fun _ =>
            invokeFields scope false command values) >>= fun call => pure call.marked
        rw [Outcome.bind_assoc, hfields]

/-- Outside of expressions no call has a marker, whatever its line. -/
theorem marker_of_invoke {line : Bytes} {call : Invocation}
    (h : (invoke scope false line).result = .ok call) : call.marker = [] := by
  obtain ⟨command, values, -, hfields⟩ := exists_fields_of_invoke h
  rcases cases_of_invokeFields hfields with ⟨-, rfl⟩ | ⟨-, found, -, hform⟩
  · rfl
  · exact marker_of_invokeForm hform

/-- Being inside an expression only adds the marker bytes, which the code alone determines. The two
encodings of a line warn alike, and both fail with the same error or both succeed; then one has the
marker of the code between the code and what follows it, and the other has not. -/
theorem invoke_alike_but_marker (scope : Scope) (line : Bytes) :
    (invoke scope true line).warnings = (invoke scope false line).warnings ∧
    ((∃ error, (invoke scope true line).result = .error error ∧
        (invoke scope false line).result = .error error) ∨
      ∃ (inside outside : Invocation) (code : Opcode) (rest : Bytes),
        (invoke scope true line).result = .ok inside ∧
        (invoke scope false line).result = .ok outside ∧
        inside.encode = code.encode ++ code.marker ++ rest ∧
        outside.encode = code.encode ++ rest) := by
  rw [invoke_true_eq]
  cases hresult : invoke scope false line with
  | mk warnings result =>
    cases result with
    | error error => exact ⟨rfl, .inl ⟨error, rfl, rfl⟩⟩
    | ok call =>
      have hmarker : call.marker = [] := marker_of_invoke (by rw [hresult])
      refine ⟨List.append_nil _, .inr ⟨call.marked, call, call.opcode,
        call.operands.flatMap Datum.encode, rfl, rfl, rfl, ?_⟩⟩
      rw [Invocation.encode, hmarker, List.append_nil]

/-- A call of `GetDistance` has its marker inside an expression and not outside. -/
theorem invoke_alike_but_marker_distance :
    ∃ (inside outside : Invocation) (rest : Bytes),
      (invoke {} true (ascii "GetDistance player")).result = .ok inside ∧
      (invoke {} false (ascii "GetDistance player")).result = .ok outside ∧
      inside.encode = [0x01, 0x10] ++ [0x20, 0x72] ++ rest ∧
      outside.encode = [0x01, 0x10] ++ rest ∧ rest = 6 :: ascii "player" := by
  have hbytes : (invoke {} false (ascii "GetDistance player")).result.toOption.map
      Invocation.encode = some ([0x01, 0x10] ++ 6 :: ascii "player") := by
    decide +kernel
  obtain ⟨-, ⟨error, -, herror⟩ | ⟨inside, outside, code, rest, hinside, houtside, hmarked,
    hplain⟩⟩ := invoke_alike_but_marker {} (ascii "GetDistance player")
  · rw [herror] at hbytes
    cases hbytes
  · rw [houtside] at hbytes
    -- the code is the first two bytes, and the marker goes by the code
    have hcut := hplain.symm.trans (Option.some.inj hbytes)
    obtain ⟨hcode, rfl⟩ := List.append_inj hcut rfl
    obtain rfl : code = ⟨0x1001⟩ := by
      have hread := Opcode.read?_encode_append code []
      rw [hcode] at hread
      exact (Prod.mk.inj (Option.some.inj hread)).1.symm
    exact ⟨inside, outside, _, hinside, houtside, hmarked, hplain, rfl⟩

end Command

end MorrowindScript
