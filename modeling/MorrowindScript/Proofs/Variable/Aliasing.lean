import MorrowindScript.Proofs.Bytecode.Call
import MorrowindScript.Proofs.Variable

/-!
# Which local a reference means

A local is written in three forms. An operand of an expression and an argument of a message have the
whole position of the local. The target of an assignment and a local in place of a number have only
the low byte of the position, so that in these two forms every 256th local of a kind is written
alike.

## Main definitions

* `Slot.Aliases`: two locals agree in what the short forms say about them.
* `Assignment.targetName?`: the name that an assignment gives a value.
* `Command.IsNumberPlace`, `Command.IsArgumentPlace`: what stands at a place of a call.

## Main results

* `Slot.reference_inj`, `Slot.padded_eq_iff`, `Slot.target_eq_iff`: when two locals are written
  alike, by form.
* `Scope.length_gt_of_aliases`: different locals written alike are among more than 256 of a kind.
* `Target.isPrefix_encode_iff`: the locals that the target of an assignment can be read as.
* `Command.slot?_of_invoke`: every reference in a call is to the local that its parameter names.
* `Scope.references_told_apart`: all of these together.
-/

namespace MorrowindScript

open Bytes

/-! ## Forms of references -/

/-- The two locals are of one kind, and their positions have the same low byte. -/
def Slot.Aliases (slot other : Slot) : Prop :=
  slot.kind = other.kind ∧ slot.index.toNat % 256 = other.index.toNat % 256

instance (slot other : Slot) : Decidable (slot.Aliases other) :=
  inferInstanceAs (Decidable (_ ∧ _))

theorem LocalKind.tag_inj {kind other : LocalKind} : kind.tag = other.tag ↔ kind = other := by
  cases kind <;> cases other <;> decide

/-- The letter of a local is not the letter of a variable of another object. -/
theorem LocalKind.tag_ne_foreign (kind : LocalKind) : kind.tag ≠ 0x72 := by
  cases kind <;> decide

namespace Slot

variable {slot other : Slot}

theorem eq_of_toNat_index (hkind : slot.kind = other.kind)
    (hindex : slot.index.toNat = other.index.toNat) : slot = other := by
  cases slot
  cases other
  exact congrArg₂ mk hkind (UInt16.toNat_inj.1 hindex)

/-- With the whole position different locals are written differently. -/
theorem reference_inj : slot.reference = other.reference ↔ slot = other := by
  constructor
  · intro h
    obtain ⟨htag, hindex⟩ := List.cons.inj h
    have hread := congrArg ofLittleEndian hindex
    rw [ofLittleEndian_littleEndian, ofLittleEndian_littleEndian] at hread
    have hlt := slot.index.toNat_lt
    have hlt' := other.index.toNat_lt
    exact eq_of_toNat_index (LocalKind.tag_inj.1 htag) (by omega)
  · rintro rfl
    rfl

/-- What the short forms have of a local: its letter and one byte. -/
theorem aliases_iff :
    slot.Aliases other ↔
      slot.kind.tag = other.kind.tag ∧ slot.index.toUInt8 = other.index.toUInt8 := by
  rw [Aliases, LocalKind.tag_inj, ← UInt8.toNat_inj, UInt16.toNat_toUInt8, UInt16.toNat_toUInt8]

theorem padded_eq_iff : slot.padded = other.padded ↔ slot.Aliases other := by
  rw [aliases_iff]
  unfold padded Reference.padded
  simp

theorem target_eq_iff : slot.target = other.target ↔ slot.Aliases other := by
  rw [aliases_iff]
  unfold target Reference.target
  simp

end Slot

namespace Scope

variable {scope : Scope}

/-- A position is at most the number of locals of the kind. -/
theorem index_bounds (hsize : ∀ kind, (scope.locals.ofKind kind).length ≤ 65535) {name : Bytes}
    {slot : Slot} (h : scope.slot? name = some slot) :
    1 ≤ slot.index.toNat ∧ slot.index.toNat ≤ (scope.locals.ofKind slot.kind).length := by
  have hfirst := (Locals.resolve_eq_some_iff hsize).1 h
  obtain ⟨spelling, hspelling, -⟩ := hfirst.own
  have hlt := (List.getElem?_eq_some_iff.1 hspelling).1
  exact ⟨hfirst.pos, by omega⟩

/-- Different locals that the short forms write alike are among more than 256 of their kind. -/
theorem length_gt_of_aliases (hsize : ∀ kind, (scope.locals.ofKind kind).length ≤ 65535)
    {name name' : Bytes} {slot slot' : Slot} (hname : scope.slot? name = some slot)
    (hname' : scope.slot? name' = some slot') (hne : slot ≠ slot') (halias : slot.Aliases slot') :
    256 < (scope.locals.ofKind slot.kind).length := by
  obtain ⟨hkind, hmod⟩ := halias
  have hindex : slot.index.toNat ≠ slot'.index.toNat := by
    intro heq
    apply hne
    exact Slot.eq_of_toNat_index hkind heq
  obtain ⟨hpos, hle⟩ := index_bounds hsize hname
  obtain ⟨hpos', hle'⟩ := index_bounds hsize hname'
  rw [← hkind] at hle'
  -- positions from 1 to 256 differ in their low bytes
  omega

end Scope

/-! ## Assignments -/

/-- The bytes of a target start like those of a local exactly if it is a local that is written
alike. -/
theorem Target.isPrefix_encode_iff {target : Target} {rest : Bytes} {other : Slot} :
    other.target <+: target.encode ++ rest ↔
      ∃ slot, target = .localVariable slot ∧ slot.Aliases other := by
  cases target with
  | localVariable slot =>
    have hprefix : other.target <+: slot.target ++ rest ↔ slot.target = other.target := by
      constructor
      · intro h
        exact ((List.prefix_of_prefix_length_le h (List.prefix_append _ _) le_rfl).eq_of_length
          rfl).symm
      · intro h
        rw [h]
        exact List.prefix_append _ _
    simp only [localVariable.injEq, exists_eq_left', ← Slot.target_eq_iff]
    exact hprefix
  | globalVariable name =>
    -- the first byte is the letter of a global
    simp only [reduceCtorEq, false_and, exists_false, iff_false]
    intro h
    exact Command.tag_ne_global other.kind (List.cons_prefix_cons.1 h).1
  | foreignVariable object slot =>
    simp only [reduceCtorEq, false_and, exists_false, iff_false]
    intro h
    exact LocalKind.tag_ne_foreign other.kind (List.cons_prefix_cons.1 h).1

/-- A name that can be assigned to is read as a local exactly if it is the name of one. -/
theorem Target.eq_localVariable_iff {scope : Scope} {name : Bytes} {target : Target}
    (h : parse scope name = .ok target) (slot : Slot) :
    target = .localVariable slot ↔ scope.slot? name = some slot := by
  unfold parse at h
  split at h
  · next own hown =>
    obtain rfl := Except.ok.inj h
    rw [hown, localVariable.injEq, Option.some.injEq]
  · next hnone =>
    rw [hnone]
    simp only [reduceCtorEq, iff_false]
    rintro rfl
    repeat' split at h
    all_goals simp at h

/-- The name of the variable that an assignment gives a value, as it is written. -/
def Assignment.targetName? (line : Bytes) : Option Bytes :=
  let work := trimLeft (line.drop LineKind.assignment.operandOffset)
  (Scan.toPosition work).map fun separator => trim (work.take separator)

/-- An assignment that compiles has the target that its name means. -/
theorem Assignment.exists_targetName {scope : Scope} {line : Bytes} {object : Option Bytes}
    {instruction : Instruction} (h : (compile scope line).result = .ok (object, instruction)) :
    ∃ name target value, targetName? line = some name ∧ Target.parse scope name = .ok target ∧
      instruction = .assignment target value := by
  unfold compile at h
  simp only [Outcome.result_bind_eq_ok, Outcome.result_ofOption_eq_ok,
    Outcome.result_ofExcept] at h
  obtain ⟨separator, hseparator, ⟨before, rest⟩, -, target, htarget, h⟩ := h
  split at h
  · simp at h
  · obtain ⟨value, -, hq⟩ := Outcome.result_bind_eq_ok.1 h
    obtain ⟨-, rfl⟩ := Prod.mk.inj (Except.ok.inj hq)
    refine ⟨_, target, value, ?_, htarget, rfl⟩
    rw [targetName?, hseparator, Option.map_some]

/-! ## Calls -/

/-- The local that a piece of an instruction refers to. -/
def Datum.slot? : Datum → Option Slot
  | slot s | paddedSlot s => some s
  | _ => none

/-- The operand is a byte of the layout and takes no parameter. -/
def Operand.isFixed : Operand → Bool
  | literal _ => true
  | _ => false

/-- The operands of a form; only layouts have any. -/
def Form.operands : Form → List Operand
  | layout _ _ operands => operands
  | _ => []

namespace Operand

variable {scope : Scope} {command : Bytes} {index : Nat} {slot : Slot}

/-- Only a place for a number or a local can refer to a local, and then its parameter names it. -/
theorem slot?_of_encode {value : Bytes} {operand : Operand} {datum : Datum}
    (h : (operand.encode scope command index value).result = .ok datum)
    (hslot : datum.slot? = some slot) :
    operand = .singleOrLocal ∧ datum = .paddedSlot slot ∧ scope.slot? value = some slot := by
  -- everything else is written as a number, a text or a byte
  have hother (hnone : datum.slot? = none) : False := by
    rw [hnone] at hslot
    cases hslot
  cases operand with
  | singleOrLocal =>
    cases hsingle : Literal.single? value with
    | some v =>
      obtain rfl : Datum.single v.toBits = datum := by simpa [encode, hsingle] using h
      exact (hother rfl).elim
    | none =>
      obtain ⟨own, hown, rfl⟩ : ∃ own, scope.slot? value = some own ∧
          Datum.paddedSlot own = datum := by
        simpa [encode, hsingle] using h
      obtain rfl : own = slot := Option.some.inj hslot
      exact ⟨rfl, rfl, hown⟩
  | axis =>
    cases value with
    | nil => simp [encode] at h
    | cons c value =>
      obtain rfl : Datum.byte (upperByte c) = datum := by
        rw [encode] at h
        split at h
        · simpa using h
        · simpa using h
      exact (hother rfl).elim
  | group =>
    cases hgroup : AnimationGroup.find? value with
    | none => simp [encode, hgroup] at h
    | some n =>
      obtain rfl : Datum.short n = datum := by simpa [encode, hgroup] using h
      exact (hother rfl).elim
  | short | shortByte | long | single | effect =>
    obtain ⟨v, -, rfl⟩ : ∃ v, _ ∧ _ = datum := by simpa [encode] using h
    exact (hother rfl).elim
  | text | text16 | length | literal _ =>
    obtain rfl := Except.ok.inj h
    exact (hother rfl).elim

/-- A local among the data of a layout is the local that a parameter names: the one after as many
parameters as the operands before it take. -/
theorem slot?_of_encodeAll {operands : List Operand} {values : List Bytes} {data : List Datum}
    (h : (encodeAll scope command index operands values).result = .ok data) {i : Nat}
    {datum : Datum} (hdatum : data[i]? = some datum) (hslot : datum.slot? = some slot) :
    operands[i]? = some .singleOrLocal ∧ datum = .paddedSlot slot ∧
      scope.slot? (values.getD ((operands.take i).countP (!·.isFixed)) []) = some slot := by
  fun_induction encodeAll scope command index operands values generalizing data i with
  | case1 =>
    obtain rfl : [] = data := by simpa using h
    simp at hdatum
  | case2 index b operands values ih =>
    obtain ⟨rest, hrest, rfl⟩ : ∃ rest, (encodeAll scope command index operands values).result =
        .ok rest ∧ Datum.byte b :: rest = data := by
      simpa using h
    cases i with
    | zero =>
      obtain rfl : Datum.byte b = datum := by simpa using hdatum
      cases hslot
    | succ i => simpa [isFixed] using ih hrest hdatum
  | case3 index operand operands values hfixed ih =>
    obtain ⟨first, hfirst, rest, hrest, rfl⟩ : ∃ first,
        (operand.encode scope command index (values.headD [])).result = .ok first ∧
          ∃ rest, (encodeAll scope command (index + 1) operands values.tail).result = .ok rest ∧
            first :: rest = data := by
      simpa using h
    cases i with
    | zero =>
      obtain rfl : first = datum := by simpa using hdatum
      obtain ⟨rfl, hform, hname⟩ := slot?_of_encode hfirst hslot
      refine ⟨rfl, hform, ?_⟩
      cases values <;> simpa using hname
    | succ i =>
      have htakes : operand.isFixed = false := by
        cases operand with
        | literal b => exact absurd rfl (hfixed b)
        | _ => rfl
      obtain ⟨hplace, hform, hname⟩ := ih hrest hdatum
      refine ⟨hplace, hform, ?_⟩
      cases values <;> simpa [htakes] using hname

end Operand

namespace Command

variable {scope : Scope} {inExpression : Bool} {slot : Slot}

/-- No layout has a fixed byte before a place for a local, and all such places are among the
parameters. -/
theorem place_of_mem : ∀ n ∈ List.range (maxParameters + 1), ∀ found ∈ withParameters n,
    ∀ i < found.form.operands.length, found.form.operands[i]? = some .singleOrLocal →
      i < n ∧ (found.form.operands.take i).countP (!·.isFixed) = i := by
  decide +kernel

/-- The command of the line has a layout with a number or a local at place `i` of the call. -/
def IsNumberPlace (line : Bytes) (call : Invocation) (i : Nat) : Prop :=
  ∃ command values found, Scan.fields line = command :: values ∧
    find? command.lower values.length = some found ∧ call.opcode = found.form.opcode ∧
    found.form.operands[i]? = some .singleOrLocal

/-- The line is a message of more than one parameter with an argument at place `i` of the call,
behind the text and the number of arguments. -/
def IsArgumentPlace (scope : Scope) (line : Bytes) (call : Invocation) (i : Nat) : Prop :=
  ∃ command text values, Scan.fields line = command :: text :: values ∧
    command.lower = ascii "messagebox" ∧ call = message scope text values ∧
    2 ≤ i ∧ i < (messageArguments scope values).1.length + 2

/-- A local among the arguments of a message is named by the parameter at its place. -/
theorem slot?_of_messageArguments {values : List Bytes} {i : Nat} {datum : Datum}
    (h : (messageArguments scope values).1[i]? = some datum) (hslot : datum.slot? = some slot) :
    datum = .slot slot ∧ ∃ value, values[i]? = some value ∧ scope.slot? value = some slot := by
  induction values generalizing i with
  | nil => simp [messageArguments] at h
  | cons value values ih =>
    unfold messageArguments at h
    split at h
    · next argument hargument =>
      cases i with
      | zero =>
        obtain rfl : argument = datum := by simpa using h
        cases hvalue : scope.slot? value with
        | some own =>
          obtain rfl : Datum.slot own = argument := by
            simpa [messageArgument?, hvalue] using hargument
          obtain rfl : own = slot := Option.some.inj hslot
          exact ⟨rfl, value, rfl, hvalue⟩
        | none =>
          -- a global is no local
          obtain ⟨name, -, rfl⟩ : ∃ name, scope.global? value = some name ∧
              Datum.globalName name = argument := by
            simpa [messageArgument?, hvalue] using hargument
          cases hslot
      | succ i => exact ih h
    · simp at h

/-- A message refers to locals only in its arguments, which stand after the text and their number,
and each of them is named by the parameter at its place. -/
theorem slot?_of_message {text : Bytes} {values : List Bytes} {i : Nat} {datum : Datum}
    (h : (message scope text values).operands[i]? = some datum) (hslot : datum.slot? = some slot) :
    datum = .slot slot ∧ ∃ j value, i = j + 2 ∧ j < (messageArguments scope values).1.length ∧
      values[j]? = some value ∧ scope.slot? value = some slot := by
  match i with
  | 0 =>
    obtain rfl : Datum.text16 text = datum := Option.some.inj h
    cases hslot
  | 1 =>
    obtain rfl : Datum.byte _ = datum := Option.some.inj h
    cases hslot
  | j + 2 =>
    have hrest : ((messageArguments scope values).1 ++
        (.byte (UInt8.ofNat (messageArguments scope values).2.length) ::
          (messageArguments scope values).2.map .zeroText))[j]? = some datum := by
      simpa [message] using h
    by_cases hj : j < (messageArguments scope values).1.length
    · rw [List.getElem?_append_left hj] at hrest
      obtain ⟨hform, value, hvalue, hname⟩ := slot?_of_messageArguments hrest hslot
      exact ⟨hform, j, value, rfl, hj, hvalue, hname⟩
    · -- buttons are texts
      rw [List.getElem?_append_right (Nat.le_of_not_lt hj)] at hrest
      rcases List.mem_cons.1 (List.mem_of_getElem? hrest) with rfl | hbutton
      · cases hslot
      · obtain ⟨label, -, rfl⟩ := List.mem_map.1 hbutton
        cases hslot

/-- A call that follows no layout refers to no local. -/
theorem slot?_eq_none_of_invokeForm {command : Bytes} {values : List Bytes} {form : Form}
    {call : Invocation} (hform : ∀ opcode marker operands, form ≠ .layout opcode marker operands)
    (h : (invokeForm scope inExpression command values form).result = .ok call) {datum : Datum}
    (hdatum : datum ∈ call.operands) : datum.slot? = none := by
  cases form with
  | layout opcode marker operands => exact absurd rfl (hform opcode marker operands)
  | wander last =>
    obtain ⟨numbers, -, hrest⟩ := Outcome.result_bind_eq_ok.1 h
    obtain ⟨idles, -, hcall⟩ := Outcome.result_bind_eq_ok.1 hrest
    obtain rfl := Except.ok.inj hcall
    simp only [List.mem_append, List.mem_map, List.mem_singleton] at hdatum
    rcases hdatum with ((⟨v, -, rfl⟩ | rfl) | ⟨v, -, rfl⟩) | rfl <;> rfl
  | removeEffects =>
    obtain ⟨number, -, hcall⟩ := Outcome.result_bind_eq_ok.1 h
    -- with or without a warning the number is written
    obtain rfl : datum = .short number := by
      split at hcall
      · obtain rfl := Except.ok.inj hcall
        exact List.mem_singleton.1 hdatum
      · obtain rfl := Except.ok.inj hcall
        exact List.mem_singleton.1 hdatum
    rfl
  | setDelete =>
    obtain ⟨switch, -, hcall⟩ := Outcome.result_bind_eq_ok.1 h
    obtain rfl := Except.ok.inj hcall
    obtain rfl := List.mem_singleton.1 hdatum
    rfl

/-- A form of the tables refers to locals only in place of numbers, each named by the parameter at
its place. -/
theorem slot?_of_invokeForm {command : Bytes} {values : List Bytes} {found : Command}
    {call : Invocation} (hfew : values.length ≤ maxParameters)
    (hfound : found ∈ withParameters values.length)
    (h : (invokeForm scope inExpression command values found.form).result = .ok call) {i : Nat}
    {datum : Datum} (hdatum : call.operands[i]? = some datum) (hslot : datum.slot? = some slot) :
    found.form.operands[i]? = some .singleOrLocal ∧ datum = .paddedSlot slot ∧
      ∃ value, values[i]? = some value ∧ scope.slot? value = some slot := by
  have hplace := place_of_mem _ (List.mem_range.2 (by omega)) found hfound i
  cases hform : found.form with
  | layout opcode marker operands =>
    rw [hform] at h hplace
    obtain ⟨data, hdata, hcall⟩ := Outcome.result_bind_eq_ok.1 h
    obtain rfl := Except.ok.inj hcall
    obtain ⟨hoperand, hpadded, hname⟩ := Operand.slot?_of_encodeAll hdata hdatum hslot
    obtain ⟨hlt, hcount⟩ := hplace (List.getElem?_eq_some_iff.1 hoperand).1 hoperand
    -- each operand before this one took a parameter
    have hcount : (operands.take i).countP (!·.isFixed) = i := hcount
    rw [hcount] at hname
    refine ⟨hoperand, hpadded, values[i], List.getElem?_eq_getElem hlt, ?_⟩
    simpa [hlt] using hname
  | wander _ | removeEffects | setDelete =>
    have hnone := slot?_eq_none_of_invokeForm (by simp [hform]) h (List.mem_of_getElem? hdatum)
    rw [hnone] at hslot
    cases hslot

/-- Every reference to a local in a call is to the local that a field of the line names. A local in
place of a number is named by the parameter at its place; in a message the number of arguments
stands between the text and the arguments, so that an argument is one place further on. -/
theorem slot?_of_invoke {line : Bytes} {call : Invocation}
    (h : (invoke scope inExpression line).result = .ok call) {i : Nat} {datum : Datum}
    (hdatum : call.operands[i]? = some datum) (hslot : datum.slot? = some slot) :
    IsNumberPlace line call i ∧ datum = .paddedSlot slot ∧
        (∃ value, (Scan.fields line)[i + 1]? = some value ∧ scope.slot? value = some slot) ∨
      IsArgumentPlace scope line call i ∧ datum = .slot slot ∧
        ∃ value, (Scan.fields line)[i]? = some value ∧ scope.slot? value = some slot := by
  obtain ⟨command, values, hcut, hfields⟩ := exists_fields_of_invoke h
  rcases cases_of_invokeFields hfields with ⟨⟨hname, hmany, -⟩, rfl⟩ |
    ⟨hfew, found, hfound, hform⟩
  · obtain ⟨text, values, rfl⟩ : ∃ text rest, values = text :: rest :=
      List.exists_cons_of_length_pos (by omega)
    obtain ⟨hform, j, value, rfl, hj, hvalue, hlocal⟩ := slot?_of_message hdatum hslot
    have hplace : IsArgumentPlace scope line (message scope text values) (j + 2) :=
      ⟨command, text, values, hcut, hname, rfl, Nat.le_add_left 2 j, Nat.add_lt_add_right hj 2⟩
    rw [hcut]
    exact .inr ⟨hplace, hform, value, hvalue, hlocal⟩
  · obtain ⟨hoperand, hpadded, hvalue⟩ :=
      slot?_of_invokeForm hfew (List.mem_of_find?_eq_some hfound) hform hdatum hslot
    have hplace : IsNumberPlace line call i :=
      ⟨command, values, found, hcut, hfound, opcode_of_invokeForm hform, hoperand⟩
    rw [hcut]
    exact .inl ⟨hplace, hpadded, hvalue⟩

end Command

/-! ## Scripts -/

/-- With the whole position different locals are written differently. In the short forms they are
written alike exactly if they alias, which takes more than 256 locals of one kind. So an assignment
can be read to change exactly the aliases of the local it names, and no local if it names none; and
every reference in a call is to the local that its parameter names, and can be read as one of its
aliases where it stands in place of a number and as no other in a message. -/
theorem Scope.references_told_apart {scope : Scope}
    (hsize : ∀ kind, (scope.locals.ofKind kind).length ≤ 65535) :
    (∀ name name' slot slot', scope.slot? name = some slot → scope.slot? name' = some slot' →
      slot ≠ slot' →
        slot.reference ≠ slot'.reference ∧
        (slot.padded = slot'.padded ↔ slot.Aliases slot') ∧
        (slot.target = slot'.target ↔ slot.Aliases slot') ∧
        (slot.Aliases slot' → 256 < (scope.locals.ofKind slot.kind).length)) ∧
    (∀ line object instruction,
      (Assignment.compile scope line).result = .ok (object, instruction) →
        ∃ name, Assignment.targetName? line = some name ∧
          ∀ slot', slot'.target <+: instruction.operands ↔
            ∃ slot, scope.slot? name = some slot ∧ slot.Aliases slot') ∧
    ∀ inExpression line call i datum slot,
      (Command.invoke scope inExpression line).result = .ok call →
      call.operands[i]? = some datum → datum.slot? = some slot →
        (Command.IsNumberPlace line call i ∧
          ∃ value, (Scan.fields line)[i + 1]? = some value ∧ scope.slot? value = some slot ∧
            ∀ slot', datum.encode = slot'.padded ↔ slot.Aliases slot') ∨
        Command.IsArgumentPlace scope line call i ∧
          ∃ value, (Scan.fields line)[i]? = some value ∧ scope.slot? value = some slot ∧
            ∀ slot', datum.encode = slot'.reference ↔ slot = slot' := by
  refine ⟨?_, ?_, ?_⟩
  · intro name name' slot slot' hname hname' hne
    exact ⟨mt Slot.reference_inj.1 hne, Slot.padded_eq_iff, Slot.target_eq_iff,
      length_gt_of_aliases hsize hname hname' hne⟩
  · intro line object instruction h
    obtain ⟨name, target, value, hname, htarget, rfl⟩ := Assignment.exists_targetName h
    refine ⟨name, hname, fun slot' => ?_⟩
    unfold Instruction.operands
    simp only [Target.isPrefix_encode_iff, Target.eq_localVariable_iff htarget]
  · intro inExpression line call i datum slot h hdatum hslot
    rcases Command.slot?_of_invoke h hdatum hslot with
      ⟨hplace, rfl, value, hvalue, hname⟩ | ⟨hplace, rfl, value, hvalue, hname⟩
    · exact .inl ⟨hplace, value, hvalue, hname, fun slot' => Slot.padded_eq_iff⟩
    · exact .inr ⟨hplace, value, hvalue, hname, fun slot' => Slot.reference_inj⟩

/-- A script with 257 shorts, from `x0` to `x256`. -/
def Scope.crowded : Scope :=
  Scope.declareAll {} .short ((List.range 257).map fun i => ascii "x" ++ decimal i)

theorem Scope.length_ofKind_crowded_le (kind : LocalKind) :
    (Scope.crowded.locals.ofKind kind).length ≤ 65535 := by
  cases kind <;> decide +kernel

/-- The first and the last of 257 shorts differ in the whole position only. The assignment to the
first can be read as one to the last, and so can the call with the first in place of a number, but
not the message with the first as an argument. -/
theorem Scope.references_told_apart_crowded :
    (∀ kind, (Scope.crowded.locals.ofKind kind).length ≤ 65535) ∧
    Scope.crowded.slot? (ascii "x0") = some ⟨.short, 1⟩ ∧
    Scope.crowded.slot? (ascii "x256") = some ⟨.short, 257⟩ ∧
    Slot.reference ⟨.short, 1⟩ ≠ Slot.reference ⟨.short, 257⟩ ∧
    256 < (Scope.crowded.locals.ofKind .short).length ∧
    (∃ object instruction,
      (Assignment.compile Scope.crowded (ascii "set x0 to 1")).result = .ok (object, instruction) ∧
      Slot.target ⟨.short, 257⟩ <+: instruction.operands) ∧
    (∃ call datum,
      (Command.invoke Scope.crowded false (ascii "GetSquareRoot x0")).result = .ok call ∧
      call.operands[0]? = some datum ∧
      Command.IsNumberPlace (ascii "GetSquareRoot x0") call 0 ∧
      datum.encode = Slot.padded ⟨.short, 257⟩) ∧
    ∃ call datum,
      (Command.invoke Scope.crowded false (ascii "MessageBox shown x0")).result = .ok call ∧
      call.operands[2]? = some datum ∧
      Command.IsArgumentPlace Scope.crowded (ascii "MessageBox shown x0") call 2 ∧
      datum.encode ≠ Slot.reference ⟨.short, 257⟩ := by
  obtain ⟨hforms, hassignments, hcalls⟩ :=
    Scope.references_told_apart Scope.length_ofKind_crowded_le
  have hfirst : Scope.crowded.slot? (ascii "x0") = some ⟨.short, 1⟩ := by decide +kernel
  have hlast : Scope.crowded.slot? (ascii "x256") = some ⟨.short, 257⟩ := by decide +kernel
  have halias : Slot.Aliases ⟨.short, 1⟩ ⟨.short, 257⟩ := by decide
  obtain ⟨hreference, -, -, hlength⟩ := hforms _ _ _ _ hfirst hlast (by decide)
  obtain ⟨⟨object, instruction⟩, hcompile⟩ :
      ∃ q, (Assignment.compile Scope.crowded (ascii "set x0 to 1")).result = .ok q :=
    Outcome.exists_result_eq_ok (by decide +kernel)
  obtain ⟨name, hname, htarget⟩ := hassignments _ _ _ hcompile
  obtain rfl : ascii "x0" = name := by
    have hwritten : Assignment.targetName? (ascii "set x0 to 1") = some (ascii "x0") := by
      decide +kernel
    exact Option.some.inj (hwritten.symm.trans hname)
  obtain ⟨root, hroot, hnumber⟩ : ∃ call,
      (Command.invoke Scope.crowded false (ascii "GetSquareRoot x0")).result = .ok call ∧
        call.operands[0]? = some (.paddedSlot ⟨.short, 1⟩) :=
    Outcome.exists_result_eq_ok_of_map (by decide +kernel)
  obtain ⟨shown, hshown, hargument⟩ : ∃ call,
      (Command.invoke Scope.crowded false (ascii "MessageBox shown x0")).result = .ok call ∧
        call.operands[2]? = some (.slot ⟨.short, 1⟩) :=
    Outcome.exists_result_eq_ok_of_map (by decide +kernel)
  refine ⟨Scope.length_ofKind_crowded_le, hfirst, hlast, hreference, hlength halias,
    ⟨object, instruction, hcompile, (htarget _).2 ⟨_, hfirst, halias⟩⟩,
    ⟨root, _, hroot, hnumber, ?_⟩, ⟨shown, _, hshown, hargument, ?_⟩⟩
  · rcases hcalls _ _ _ _ _ _ hroot hnumber rfl with
      ⟨hplace, value, -, -, hbytes⟩ | ⟨⟨command, text, values, -, -, -, htwo, -⟩, -⟩
    · exact ⟨hplace, (hbytes _).2 halias⟩
    · -- arguments come behind the text and their number
      omega
  · rcases hcalls _ _ _ _ _ _ hshown hargument rfl with
      ⟨-, value, hvalue, -⟩ | ⟨hplace, value, -, -, hbytes⟩
    · -- the line has no fourth field
      have hnone : (Scan.fields (ascii "MessageBox shown x0"))[2 + 1]? = none := by decide +kernel
      rw [hnone] at hvalue
      cases hvalue
    · exact ⟨hplace, mt (hbytes _).1 (by decide)⟩

/-- Two locals with different positions may be written alike, and then nothing in an assignment or a
call tells which of them was named. -/
theorem Scope.crowded_written_alike :
    (∀ kind, (Scope.crowded.locals.ofKind kind).length ≤ 65535) ∧
    Scope.crowded.slot? (ascii "x0") = some ⟨.short, 1⟩ ∧
    Scope.crowded.slot? (ascii "x256") = some ⟨.short, 257⟩ ∧
    (⟨.short, 1⟩ : Slot) ≠ ⟨.short, 257⟩ ∧
    Slot.padded ⟨.short, 1⟩ = Slot.padded ⟨.short, 257⟩ ∧
    Slot.target ⟨.short, 1⟩ = Slot.target ⟨.short, 257⟩ ∧
    (∀ line ∈ [ascii "set x0 to 1", ascii "set x256 to 1"],
      (Assignment.compile Scope.crowded line).result.toOption.map (·.2.encode) =
        some [0x05, 0x01, 0x73, 1, 0, 2, 0x20, 0x31]) ∧
    ∀ line ∈ [ascii "GetSquareRoot x0", ascii "GetSquareRoot x256"],
      (Command.invoke Scope.crowded false line).result.toOption.map Invocation.encode =
        some [0xAC, 0x11, 0x73, 1, 0, 0] := by
  refine ⟨Scope.length_ofKind_crowded_le, ?_, ?_, by decide, rfl, rfl, ?_, ?_⟩
  · decide +kernel
  · decide +kernel
  · decide +kernel
  · decide +kernel

end MorrowindScript
