import MorrowindScript.Proofs.Bytecode.Format

/-!
# Encoded calls

Whatever its command and however many parameters it has, an encoded call is in the format of its
code. Most calls follow a layout; wandering, messages and two commands with a single number have
encodings of their own.

* `Command.HasFormat`: a call is in the format of its code.
* `Command.hasFormat_of_invoke`: so is every call that can be encoded.
* `Command.cases_of_invokeFields`: a call is a message or its command stands in the tables.
-/

namespace MorrowindScript

open Bytes

namespace Command

/-- A call is in the format of its code: the operands fill the fields of the format, and inside an
expression the marker of the format stands before them. -/
def HasFormat (inExpression : Bool) (call : Invocation) : Prop :=
  ∃ format, callFormat? call.opcode = some format ∧
    call.marker = (if inExpression then format.marker else []) ∧
    CoversAll format.fields (call.operands.flatMap Datum.encode)

/-! ## Numbers -/

/-- A 16-bit number is two bytes long. -/
theorem covers_short (v : Int) : (Field.bytes 2).Covers (Datum.short v).encode :=
  Field.covers_bytes (length_littleEndianInt 2 v)

/-- A count of numbers, and that many numbers. -/
theorem covers_shorts (numbers : List Int) (h : numbers.length < 65536) :
    (Field.repeated 2 (.bytes 2)).Covers
      ((Datum.short numbers.length).encode ++ (numbers.map Datum.short).flatMap Datum.encode) := by
  -- the count is written as a signed number, and is small enough for that not to matter
  rw [List.flatMap_def, List.map_map]
  refine Field.covers_repeated (length_littleEndianInt 2 _) ?_ fun piece hpiece => ?_
  · rw [Datum.encode, littleEndianInt_natCast 2 h, ofLittleEndian_littleEndian,
      List.length_map]
    exact Nat.mod_eq_of_lt h
  · obtain ⟨v, -, rfl⟩ := List.mem_map.1 hpiece
    exact covers_short v

/-- A single number is in the format of a single number. -/
theorem coversAll_number (v : Int) :
    CoversAll CallFormat.number.fields ([Datum.short v].flatMap Datum.encode) := by
  rw [List.flatMap_singleton]
  exact coversAll_singleton (covers_short v)

/-! ## Wandering -/

/-- There are as many numbers as texts read. -/
theorem length_of_readAll {α : Type} {command : Bytes} {expected : Expectation}
    {read : Bytes → Option α} {index : Nat} {values : List Bytes} {numbers : List α}
    (h : (readAll command expected read index values).result = .ok numbers) :
    numbers.length = values.length := by
  induction values generalizing index numbers with
  | nil =>
    obtain rfl : [] = numbers := by simpa [readAll] using h
    rfl
  | cons value values ih =>
    obtain ⟨first, -, rest, hrest, rfl⟩ : ∃ first, read value = some first ∧
        ∃ rest, (readAll command expected read (index + 1) values).result = .ok rest ∧
          first :: rest = numbers := by
      simpa [readAll] using h
    rw [List.length_cons, List.length_cons, ih hrest]

/-- Wandering with at least one idle chance is in its format. -/
theorem coversAll_wander {command : Bytes} {last : UInt8} {values : List Bytes}
    {call : Invocation} (hfour : 4 ≤ values.length) (hmany : values.length < 256)
    (h : (wander command last values).result = .ok call) :
    call.opcode = .aiWander ∧ call.marker = [] ∧
      CoversAll CallFormat.wander.fields (call.operands.flatMap Datum.encode) := by
  obtain ⟨numbers, hnumbers, idles, hidles, rfl⟩ : ∃ numbers,
      (readAll command .single Literal.single? 1 (values.take 3)).result = .ok numbers ∧
      ∃ idles, (readAll command .short Literal.short? 4 (values.drop 3)).result = .ok idles ∧
        (⟨.aiWander, [], numbers.map (fun v => .single v.toBits) ++
          [.short (values.length - 4 : Nat)] ++ (idles.drop 1).map .short ++ [.byte last]⟩ :
            Invocation) = call := by
    simpa [wander] using h
  refine ⟨rfl, rfl, ?_⟩
  have hthree : numbers.length = 3 := by
    rw [length_of_readAll hnumbers, List.length_take]
    omega
  -- the first chance is not written, and not counted either
  have hcount : (idles.drop 1).length = values.length - 4 := by
    rw [List.length_drop, length_of_readAll hidles, List.length_drop]
    omega
  obtain ⟨a, b, c, rfl⟩ := List.length_eq_three.1 hthree
  have hchances := covers_shorts (idles.drop 1) (by omega)
  rw [hcount] at hchances
  have hlast : (Field.bytes 1).Covers (Datum.byte last).encode := Field.covers_bytes rfl
  have hall := (Operand.covers_single a.toBits).cons <| (Operand.covers_single b.toBits).cons <|
    (Operand.covers_single c.toBits).cons <| hchances.cons (coversAll_singleton hlast)
  simpa [CallFormat.wander] using hall

/-! ## Messages -/

/-- The leading variables and the buttons are together all the parameters. -/
theorem length_messageArguments (scope : Scope) (values : List Bytes) :
    (messageArguments scope values).1.length + (messageArguments scope values).2.length =
      values.length := by
  induction values with
  | nil => rfl
  | cons value values ih =>
    rw [messageArguments]
    split
    · simp only [List.length_cons]
      omega
    · simp

/-- The buttons are parameters. -/
theorem messageArguments_subset (scope : Scope) (values : List Bytes) :
    (messageArguments scope values).2 ⊆ values := by
  induction values with
  | nil => exact List.Subset.refl _
  | cons value values ih =>
    rw [messageArguments]
    split
    · exact List.subset_cons_of_subset value ih
    · exact List.Subset.refl _

/-- The letter of a local is not the letter of a global. -/
theorem tag_ne_global (kind : LocalKind) : kind.tag ≠ 0x47 := by
  cases kind <;> decide

/-- A local or a global as an argument is written as an argument. -/
theorem covers_messageArgument {scope : Scope} {value : Bytes} {datum : Datum}
    (hglobal : ∀ {name spelling}, scope.global? name = some spelling → spelling.length ≤ 254)
    (h : messageArgument? scope value = some datum) :
    CallFormat.argument.Covers datum.encode := by
  rw [messageArgument?] at h
  rcases hslot : scope.slot? value with - | slot
  · obtain ⟨name, hname, rfl⟩ : ∃ name, scope.global? value = some name ∧
        Datum.globalName name = datum := by
      simpa [hslot] using h
    have hlength := hglobal hname
    exact (Field.covers_zeroTerminated (by omega)).tag _ _
  · obtain rfl : Datum.slot slot = datum := by simpa [hslot] using h
    have hslotBytes : (Field.bytes 3).Covers slot.reference :=
      Field.covers_bytes (by simp [Slot.reference, Reference.whole])
    exact Field.Covers.noTag hslotBytes (tag_ne_global slot.kind) _

/-- All arguments are written as arguments. -/
theorem covers_of_mem_messageArguments {scope : Scope} {values : List Bytes} {datum : Datum}
    (hglobal : ∀ {name spelling}, scope.global? name = some spelling → spelling.length ≤ 254)
    (h : datum ∈ (messageArguments scope values).1) :
    CallFormat.argument.Covers datum.encode := by
  induction values with
  | nil => exact absurd h List.not_mem_nil
  | cons value values ih =>
    rw [messageArguments] at h
    split at h
    · next argument hargument =>
      rcases List.mem_cons.1 h with rfl | h
      · exact covers_messageArgument hglobal hargument
      · exact ih h
    · exact absurd h List.not_mem_nil

/-- A count in one byte, and that many data. -/
theorem covers_counted_data {item : Field} (data : List Datum) (hfew : data.length < 256)
    (h : ∀ datum ∈ data, item.Covers datum.encode) :
    (Field.repeated 1 item).Covers
      ((Datum.byte (UInt8.ofNat data.length)).encode ++ data.flatMap Datum.encode) := by
  rw [List.flatMap_def]
  refine Field.covers_repeated rfl ?_ fun piece hpiece => ?_
  · rw [List.length_map]
    exact Field.ofLittleEndian_singleton hfew
  · obtain ⟨datum, hdatum, rfl⟩ := List.mem_map.1 hpiece
    exact h datum hdatum

/-- A message is in its format. -/
theorem coversAll_message {scope : Scope} {text : Bytes} {values : List Bytes}
    (hglobal : ∀ {name spelling}, scope.global? name = some spelling → spelling.length ≤ 254)
    (htext : text.length ≤ 254) (hvalues : ∀ value ∈ values, value.length ≤ 254)
    (hmany : values.length < 256) :
    CoversAll CallFormat.message.fields ((message scope text values).operands.flatMap
      Datum.encode) := by
  -- arguments and buttons together are fewer than 256, so neither count wraps
  have hlength := length_messageArguments scope values
  have harguments := covers_counted_data (messageArguments scope values).1 (by omega)
    fun _ => covers_of_mem_messageArguments hglobal
  have hlabel : ∀ datum ∈ (messageArguments scope values).2.map Datum.zeroText,
      Field.text.Covers datum.encode := by
    intro datum hdatum
    obtain ⟨value, hvalue, rfl⟩ := List.mem_map.1 hdatum
    have hshort := hvalues value (messageArguments_subset scope values hvalue)
    exact Field.covers_zeroTerminated (by omega)
  have hbuttons := covers_counted_data _ (by rw [List.length_map]; omega) hlabel
  have htext16 : Field.text16.Covers (Datum.text16 text).encode :=
    Field.covers_textWithLength16 (by omega)
  have hall := htext16.cons (harguments.cons (coversAll_singleton hbuttons))
  simpa [message, CallFormat.message] using hall

/-! ## All calls -/

/-- The code of messages has the format of messages. -/
theorem callFormat?_messageBox : callFormat? .messageBox = some .message := by
  decide +kernel

/-- A call of a form of the tables is in the format of its code. -/
theorem hasFormat_of_invokeForm {scope : Scope} {inExpression : Bool} {command : Bytes}
    {values : List Bytes} {format : CallFormat} {form : Form} {call : Invocation}
    (hvalues : ∀ value ∈ values, value.length ≤ 254) (hmany : values.length ≤ maxParameters)
    (hformat : callFormat? form.opcode = some format) (hfits : form.fits values.length format = true)
    (h : (invokeForm scope inExpression command values form).result = .ok call) :
    HasFormat inExpression call := by
  -- forms of their own have no marker in either use
  have hnoMarker : ([] : Bytes) = if inExpression then [] else [] := by
    rw [ite_self]
  cases form with
  | layout opcode marker operands =>
    obtain ⟨data, hdata, rfl⟩ : ∃ data,
        (Operand.encodeAll scope command 1 operands values).result = .ok data ∧
          (⟨opcode, if inExpression then marker else [], data⟩ : Invocation) = call := by
      simpa [invokeForm] using h
    obtain ⟨rfl, hfields⟩ : format.marker = marker ∧ fieldsFit format.fields operands = true := by
      simpa [Form.fits] using hfits
    refine ⟨format, hformat, rfl, coversAll_of_fieldsFit hfields ?_⟩
    exact Operand.forall₂_writes_of_encodeAll
      (fun value hvalue => Nat.lt_of_le_of_lt (hvalues value hvalue) (by decide)) hdata
  | wander last =>
    obtain ⟨hfour, rfl⟩ : 4 ≤ values.length ∧ format = .wander := by
      simpa [Form.fits] using hfits
    rw [maxParameters] at hmany
    obtain ⟨hopcode, hmarker, hcovers⟩ := coversAll_wander hfour (by omega) h
    exact ⟨.wander, hopcode ▸ hformat, hmarker.trans hnoMarker, hcovers⟩
  | removeEffects =>
    obtain rfl : format = .number := by simpa [Form.fits] using hfits
    obtain ⟨v, rfl⟩ : ∃ v, (⟨.removeEffects, [], [.short v]⟩ : Invocation) = call := by
      obtain ⟨v, -, hcall⟩ := Outcome.result_bind_eq_ok.1 h
      refine ⟨v, ?_⟩
      -- a number without an effect is written all the same
      split at hcall
      · simpa using hcall
      · simpa using hcall
    exact ⟨.number, hformat, hnoMarker, coversAll_number v⟩
  | setDelete =>
    obtain rfl : format = .number := by simpa [Form.fits] using hfits
    obtain ⟨v, -, rfl⟩ : ∃ v, _ ∧ (⟨.setDelete, [], [.short v]⟩ : Invocation) = call := by
      simpa only [invokeForm, setDelete, Outcome.result_bind_eq_ok, Outcome.pure_eq,
        Except.ok.injEq] using h
    exact ⟨.number, hformat, hnoMarker, coversAll_number v⟩

/-- A call has the code of its form. -/
theorem opcode_of_invokeForm {scope : Scope} {inExpression : Bool} {command : Bytes}
    {values : List Bytes} {form : Form} {call : Invocation}
    (h : (invokeForm scope inExpression command values form).result = .ok call) :
    call.opcode = form.opcode := by
  cases form with
  | layout opcode marker operands =>
    obtain ⟨_, -, rfl⟩ : ∃ data, _ ∧ (⟨opcode, _, data⟩ : Invocation) = call := by
      simpa only [invokeForm, Outcome.result_bind_eq_ok, Outcome.pure_eq, Except.ok.injEq] using h
    rfl
  | wander last =>
    simp only [invokeForm, wander, Outcome.result_bind_eq_ok, Outcome.pure_eq,
      Except.ok.injEq] at h
    obtain ⟨_, -, _, -, rfl⟩ := h
    rfl
  | removeEffects =>
    obtain ⟨_, -, hcall⟩ := Outcome.result_bind_eq_ok.1 h
    split at hcall
    · obtain rfl := Except.ok.inj hcall
      rfl
    · obtain rfl := Except.ok.inj hcall
      rfl
  | setDelete =>
    obtain ⟨_, -, rfl⟩ : ∃ v, _ ∧ (⟨.setDelete, [], [.short v]⟩ : Invocation) = call := by
      simpa only [invokeForm, setDelete, Outcome.result_bind_eq_ok, Outcome.pure_eq,
        Except.ok.injEq] using h
    rfl

/-- A call is a message of more than one parameter, or its command stands in the tables. -/
theorem cases_of_invokeFields {scope : Scope} {inExpression : Bool} {command : Bytes}
    {values : List Bytes} {call : Invocation}
    (h : (invokeFields scope inExpression command values).result = .ok call) :
    (command.lower = ascii "messagebox" ∧ 1 < values.length ∧
        values.length ≤ maxMessageParameters) ∧
          call = message scope (values.headD []) values.tail ∨
      values.length ≤ maxParameters ∧ ∃ found, find? command.lower values.length = some found ∧
        (invokeForm scope inExpression command values found.form).result = .ok call := by
  rw [invokeFields] at h
  split at h
  · next hmessage =>
    split at h
    · simp at h
    · next hfew =>
      rw [Bool.and_eq_true, decide_eq_true_iff, beq_iff_eq] at hmessage
      obtain rfl : message scope (values.headD []) values.tail = call := by simpa using h
      exact .inl ⟨⟨hmessage.2, hmessage.1, by omega⟩, rfl⟩
  · split at h
    · simp at h
    · next hfew =>
      split at h
      · next found hfound =>
        exact .inr ⟨by omega, found, hfound, h⟩
      · simp at h

/-- A call is encoded by its name and its parameters; quotes that are not closed are only warned
of. -/
theorem exists_fields_of_invoke {scope : Scope} {inExpression : Bool} {line : Bytes}
    {call : Invocation} (h : (invoke scope inExpression line).result = .ok call) :
    ∃ command values, Scan.fields line = command :: values ∧
      (invokeFields scope inExpression command values).result = .ok call := by
  rw [invoke] at h
  split at h
  · simp at h
  · rcases hcut : Scan.fields line with - | ⟨command, values⟩
    · simp only [hcut] at h
      split at h
      · simp at h
      · simp at h
    · refine ⟨command, values, rfl, ?_⟩
      simp only [hcut] at h
      split at h
      · exact h
      · simpa using h

/-- The code of a command that stands in the tables has a format that its form fits. -/
theorem exists_format_of_mem {n : Nat} (hn : n ≤ maxParameters) {found : Command}
    (hfound : found ∈ withParameters n) :
    ∃ format, callFormat? found.form.opcode = some format ∧ found.form.fits n format = true := by
  have hrange : n ∈ List.range (maxParameters + 1) := by
    rw [List.mem_range]
    omega
  exact (Option.any_eq_true _ _).1 (formFits_of_mem n hrange found hfound)

/-- The code of every call that can be encoded has a format. -/
theorem exists_callFormat?_of_invoke {scope : Scope} {inExpression : Bool} {line : Bytes}
    {call : Invocation} (h : (invoke scope inExpression line).result = .ok call) :
    ∃ format, callFormat? call.opcode = some format := by
  obtain ⟨command, values, -, hfields⟩ := exists_fields_of_invoke h
  rcases cases_of_invokeFields hfields with ⟨-, rfl⟩ | ⟨hfew, found, hfound, hform⟩
  · exact ⟨.message, callFormat?_messageBox⟩
  · obtain ⟨format, hformat, -⟩ :=
      exists_format_of_mem hfew (List.mem_of_find?_eq_some hfound)
    rw [opcode_of_invokeForm hform]
    exact ⟨format, hformat⟩

/-- A call given by its name and its parameters is in the format of its code. -/
theorem hasFormat_of_invokeFields {scope : Scope} {inExpression : Bool} {command : Bytes}
    {values : List Bytes} {call : Invocation}
    (hglobal : ∀ {name spelling}, scope.global? name = some spelling → spelling.length ≤ 254)
    (hvalues : ∀ value ∈ values, value.length ≤ 254)
    (h : (invokeFields scope inExpression command values).result = .ok call) :
    HasFormat inExpression call := by
  rcases cases_of_invokeFields h with ⟨⟨-, -, hfew⟩, rfl⟩ | ⟨hfew, found, hfound, hform⟩
  · rw [maxMessageParameters] at hfew
    refine ⟨.message, callFormat?_messageBox, ?_, coversAll_message hglobal ?_ ?_ ?_⟩
    · exact (ite_self _).symm
    · cases values with
      | nil => simp
      | cons value values => exact hvalues value List.mem_cons_self
    · exact fun value hvalue => hvalues value (List.mem_of_mem_tail hvalue)
    · rw [List.length_tail]
      omega
  · obtain ⟨format, hformat, hfits⟩ :=
      exists_format_of_mem hfew (List.mem_of_find?_eq_some hfound)
    exact hasFormat_of_invokeForm hvalues hfew hformat hfits hform

/-- A call that can be encoded is in the format of its code. -/
theorem hasFormat_of_invoke {scope : Scope} {inExpression : Bool} {line : Bytes}
    {call : Invocation}
    (hglobal : ∀ {name spelling}, scope.global? name = some spelling → spelling.length ≤ 254)
    (hline : line.length ≤ 254) (h : (invoke scope inExpression line).result = .ok call) :
    HasFormat inExpression call := by
  obtain ⟨command, values, hcut, hfields⟩ := exists_fields_of_invoke h
  refine hasFormat_of_invokeFields hglobal (fun value hvalue => ?_) hfields
  have hmem : value ∈ Scan.fields line := hcut ▸ List.mem_cons_of_mem command hvalue
  exact (Scan.length_le_of_mem_fields hmem).trans hline

end Command

end MorrowindScript
