import MorrowindScript.Command.Call
import MorrowindScript.Proofs.Bytecode.Field
import MorrowindScript.Proofs.Outcome
import Mathlib.Data.List.Forall2

/-!
# The format of calls

A command may take several numbers of parameters, and each number has a layout of its own. All
layouts under one code agree on how long the operands are, so the code alone says in which format
they are written. The module introduces:

* `Operand.field`, `Form.format`: the fields a layout writes.
* `callFormat?`: the format of the calls with a given code.
* `formFits_of_mem`: every layout of the tables fits the format of its code.
* `Command.exists_format_of_invoke`: the operands of an encoded call are in the format of its code.
-/

namespace MorrowindScript

open Bytes

/-! ## Formats -/

/-- The field an operand is written in. -/
def Operand.field : Operand → Field
  | text => .text
  | text16 => .text16
  | short | group => .bytes 2
  | long | single | singleOrLocal => .bytes 4
  | shortByte | axis | effect | length | literal _ => .bytes 1

/-- How calls with a given code are written. -/
structure CallFormat where
  /-- The bytes after the code inside an expression. -/
  marker : Bytes
  /-- The fields of the operands. -/
  fields : List Field
  deriving DecidableEq, Repr

namespace CallFormat

/-- An argument of a message: a global after its letter, or a local. -/
def argument : Field :=
  .tagged 0x47 .text (.bytes 3)

/-- Messages: the text, the arguments and the buttons. -/
def message : CallFormat :=
  ⟨[], [.text16, .repeated 1 argument, .repeated 1 .text]⟩

/-- Wandering: three numbers, the idle chances and one byte. -/
def wander : CallFormat :=
  ⟨[], [.bytes 4, .bytes 4, .bytes 4, .repeated 2 (.bytes 2), .bytes 1]⟩

/-- A single number. -/
def number : CallFormat :=
  ⟨[], [.bytes 2]⟩

end CallFormat

namespace Form

/-- The code of the calls of a form. -/
def opcode : Form → Opcode
  | layout opcode _ _ => opcode
  | wander _ => .aiWander
  | removeEffects => .removeEffects
  | setDelete => .setDelete

/-- The format a form is written in, with the fixed bytes of a layout as fields of their own. -/
def format : Form → CallFormat
  | layout _ marker operands => ⟨marker, operands.map Operand.field⟩
  | wander _ => .wander
  | removeEffects | setDelete => .number

end Form

/-- The formats by code. The same code may occur again further on, with fixed bytes in place of
operands that are left out, so commands with more parameters come first. -/
def callFormats : List (Opcode × CallFormat) :=
  (.messageBox, .message) ::
    ((List.range (Command.maxParameters + 1)).reverse.flatMap Command.withParameters).map
      fun command => (command.form.opcode, command.form.format)

/-- The format of calls with the given code. -/
def callFormat? (opcode : Opcode) : Option CallFormat :=
  (callFormats.find? fun entry => entry.1.code.toNat.beq opcode.code.toNat).map (·.2)

/-- The fields fit a layout: each is the field of an operand, or a count for which the layout has
zeros. -/
def fieldsFit : List Field → List Operand → Bool
  | [], operands => operands.isEmpty
  | field :: fields, operands =>
    if operands.head?.map Operand.field = some field then fieldsFit fields operands.tail
    else
      -- an operand that is left out altogether
      match field with
      | .repeated width _ =>
        operands.take width = List.replicate width (.literal 0) &&
          fieldsFit fields (operands.drop width)
      | _ => false

/-- A form for `n` parameters fits a format. -/
def Form.fits (n : Nat) (format : CallFormat) : Form → Bool
  | layout _ marker operands => format.marker = marker && fieldsFit format.fields operands
  | wander _ => 4 ≤ n && format = .wander
  | removeEffects | setDelete => format = .number

/-- Every form of the tables fits the format of its code. -/
theorem formFits_of_mem : ∀ n ∈ List.range (Command.maxParameters + 1),
    ∀ command ∈ Command.withParameters n,
      (callFormat? command.form.opcode).any (command.form.fits n ·) = true := by
  decide +kernel

/-! ## Layouts -/

/-- The datum is a form of the operand: it fills the field, and a fixed byte is that byte. -/
structure Operand.Writes (operand : Operand) (datum : Datum) : Prop where
  covers : operand.field.Covers datum.encode
  fixed : ∀ b, operand = .literal b → datum = .byte b

namespace Operand

/-- A number in a single is four bytes long. -/
theorem covers_single (bits : UInt32) : (Field.bytes 4).Covers (Datum.single bits).encode :=
  Field.covers_bytes (length_littleEndian 4 _)

/-- A parameter that is no fixed byte is written in the field of its operand. -/
theorem covers_of_encode {scope : Scope} {command value : Bytes} {index : Nat} {operand : Operand}
    {datum : Datum} (hvalue : value.length < 256)
    (h : (operand.encode scope command index value).result = .ok datum) :
    operand.field.Covers datum.encode := by
  cases operand with
  | text =>
    obtain rfl : Datum.text value = datum := by simpa [encode] using h
    exact Field.covers_textWithLength hvalue
  | text16 =>
    obtain rfl : Datum.text16 value = datum := by simpa [encode] using h
    exact Field.covers_textWithLength16 (by omega)
  | short =>
    obtain ⟨v, -, rfl⟩ : ∃ v, Literal.short? value = some v ∧ Datum.short v = datum := by
      simpa [encode] using h
    exact Field.covers_bytes (length_littleEndianInt 2 _)
  | shortByte =>
    obtain ⟨v, -, rfl⟩ : ∃ v, Literal.short? value = some v ∧
        Datum.byte (UInt8.ofInt v) = datum := by
      simpa [encode] using h
    exact Field.covers_bytes rfl
  | long =>
    obtain ⟨v, -, rfl⟩ : ∃ v, Literal.long? value = some v ∧ Datum.long v = datum := by
      simpa [encode] using h
    exact Field.covers_bytes (length_littleEndianInt 4 _)
  | single =>
    obtain ⟨v, -, rfl⟩ : ∃ v, Literal.single? value = some v ∧ Datum.single v.toBits = datum := by
      simpa [encode] using h
    exact covers_single _
  | axis =>
    cases value with
    | nil => simp [encode] at h
    | cons c value =>
      -- a letter that is no axis is written too, after a warning
      obtain rfl : Datum.byte (upperByte c) = datum := by
        rw [encode] at h
        split at h
        · simpa using h
        · simpa using h
      exact Field.covers_bytes rfl
  | singleOrLocal =>
    -- a local is padded to the four bytes of a number
    rw [encode] at h
    rcases hsingle : Literal.single? value with - | v
    · obtain ⟨slot, -, rfl⟩ : ∃ slot, scope.slot? value = some slot ∧
          Datum.paddedSlot slot = datum := by
        simpa [hsingle] using h
      exact Field.covers_bytes rfl
    · obtain rfl : Datum.single v.toBits = datum := by simpa [hsingle] using h
      exact covers_single _
  | group =>
    rcases hgroup : AnimationGroup.find? value with - | n
    · simp [encode, hgroup] at h
    · obtain rfl : Datum.short n = datum := by simpa [encode, hgroup] using h
      exact Field.covers_bytes (length_littleEndianInt 2 _)
  | effect =>
    obtain ⟨n, -, rfl⟩ : ∃ n, Effect.index? value = some n ∧
        Datum.byte (UInt8.ofNat n) = datum := by
      simpa [encode] using h
    exact Field.covers_bytes rfl
  | length =>
    obtain rfl : Datum.byte (UInt8.ofNat value.length) = datum := by simpa [encode] using h
    exact Field.covers_bytes rfl
  | literal b =>
    obtain rfl : Datum.byte b = datum := by simpa [encode] using h
    exact Field.covers_bytes rfl

/-- The first of short parameters is short; a missing one is empty. -/
private theorem length_headD_lt {values : List Bytes} (h : ∀ value ∈ values, value.length < 256) :
    (values.headD []).length < 256 := by
  cases values with
  | nil => simp
  | cons value values => exact h value List.mem_cons_self

/-- The data of a call are forms of the operands of its layout. -/
theorem forall₂_writes_of_encodeAll {scope : Scope} {command : Bytes} {index : Nat}
    {operands : List Operand} {values : List Bytes} {data : List Datum}
    (hvalues : ∀ value ∈ values, value.length < 256)
    (h : (encodeAll scope command index operands values).result = .ok data) :
    List.Forall₂ Writes operands data := by
  fun_induction encodeAll scope command index operands values generalizing data with
  | case1 =>
    obtain rfl : [] = data := by simpa using h
    exact .nil
  | case2 index b operands values ih =>
    obtain ⟨rest, hrest, rfl⟩ : ∃ rest, (encodeAll scope command index operands values).result =
        .ok rest ∧ Datum.byte b :: rest = data := by
      simpa using h
    refine .cons ⟨Field.covers_bytes rfl, ?_⟩ (ih hvalues hrest)
    rintro c ⟨⟩
    rfl
  | case3 index operand operands values hfixed ih =>
    obtain ⟨first, hfirst, rest, hrest, rfl⟩ : ∃ first,
        (operand.encode scope command index (values.headD [])).result = .ok first ∧
          ∃ rest, (encodeAll scope command (index + 1) operands values.tail).result = .ok rest ∧
            first :: rest = data := by
      simpa using h
    -- this operand took a parameter, so it is no fixed byte
    refine .cons ⟨covers_of_encode (length_headD_lt hvalues) hfirst, ?_⟩
      (ih (fun value hvalue => hvalues value (List.mem_of_mem_tail hvalue)) hrest)
    intro b hb
    exact absurd hb (hfixed b)

end Operand

/-- Zeros in a layout are written as zeros. -/
theorem flatMap_encode_of_writes_zeros {n : Nat} {data : List Datum}
    (h : List.Forall₂ Operand.Writes (List.replicate n (.literal 0)) data) :
    data.flatMap Datum.encode = List.replicate n 0 := by
  induction n generalizing data with
  | zero =>
    obtain rfl := List.forall₂_nil_left_iff.1 h
    rfl
  | succ n ih =>
    rw [List.replicate_succ] at h ⊢
    obtain ⟨datum, rest, hdatum, hrest, rfl⟩ := List.forall₂_cons_left_iff.1 h
    rw [List.flatMap_cons, hdatum.fixed 0 rfl, ih hrest]
    rfl

/-- Data for a layout are in fields that fit it. -/
theorem coversAll_of_fieldsFit {fields : List Field} {operands : List Operand}
    {data : List Datum} (hfit : fieldsFit fields operands = true)
    (h : List.Forall₂ Operand.Writes operands data) :
    CoversAll fields (data.flatMap Datum.encode) := by
  induction fields generalizing operands data with
  | nil =>
    obtain rfl : operands = [] := by simpa [fieldsFit] using hfit
    obtain rfl := List.forall₂_nil_left_iff.1 h
    exact coversAll_nil
  | cons field fields ih =>
    by_cases hhead : operands.head?.map Operand.field = some field
    · -- the field of the next operand
      have htail : fieldsFit fields operands.tail = true := by
        cases field <;> simpa [fieldsFit, hhead] using hfit
      obtain ⟨operand, hoperand, rfl⟩ := Option.map_eq_some_iff.1 hhead
      obtain ⟨operands', rfl⟩ := List.head?_eq_some_iff.1 hoperand
      obtain ⟨datum, data', hdatum, hrest, rfl⟩ := List.forall₂_cons_left_iff.1 h
      rw [List.flatMap_cons]
      exact hdatum.covers.cons (ih htail hrest)
    · cases field with
      | repeated width item =>
        -- a count of zero, which the layout has as fixed bytes
        obtain ⟨htake, hdrop⟩ : operands.take width = List.replicate width (.literal 0) ∧
            fieldsFit fields (operands.drop width) = true := by
          simpa [fieldsFit, hhead] using hfit
        have hzeros := List.forall₂_take width h
        rw [htake] at hzeros
        rw [← List.take_append_drop width data, List.flatMap_append,
          flatMap_encode_of_writes_zeros hzeros]
        exact (Field.covers_zeros width item).cons (ih hdrop (List.forall₂_drop width h))
      | bytes n => simp [fieldsFit, hhead] at hfit
      | seq first second => simp [fieldsFit, hhead] at hfit
      | tagged tag marked other => simp [fieldsFit, hhead] at hfit

end MorrowindScript
