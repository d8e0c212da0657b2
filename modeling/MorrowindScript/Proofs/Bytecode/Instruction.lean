import MorrowindScript.Proofs.Bytecode.Call
import MorrowindScript.Instruction

/-!
# Reading instructions off the bytecode

The code of an instruction says which fields follow it, and the fields say how long they are. So the
length of the instruction at the start of a text can be told from the bytes of the instruction, and
bytecode can be cut into its instructions from front to back. The module introduces:

* `instructionLength?`: the length of the instruction at the start of a text.
* `IsInstruction`: a piece of bytecode that is measured as one instruction, whatever follows it.
* `instructions`: the instructions of a text, one after another.
* `instructions_flatten`: instructions put together are taken apart into the same instructions.
-/

namespace MorrowindScript

open Bytes

/-! ## Codes -/

/-- The code at the start of a text, and what follows it. -/
def Opcode.read? : Bytes → Option (Opcode × Bytes)
  | low :: high :: rest => some (⟨UInt16.ofNat (ofLittleEndian [low, high])⟩, rest)
  | _ => none

/-- A code is read back. -/
theorem Opcode.read?_encode_append (opcode : Opcode) (rest : Bytes) :
    Opcode.read? (opcode.encode ++ rest) = some (opcode, rest) := by
  have hbytes : opcode.encode = [UInt8.ofNat (opcode.code.toNat % 256),
      UInt8.ofNat (opcode.code.toNat / 256 % 256)] := rfl
  have hcode : ofLittleEndian opcode.encode = opcode.code.toNat := by
    rw [encode, ofLittleEndian_littleEndian]
    exact Nat.mod_eq_of_lt opcode.code.toNat_lt
  rw [hbytes] at hcode ⊢
  rw [List.cons_append, List.cons_append, read?, hcode, UInt16.ofNat_toNat, List.nil_append]

/-! ## The fields of instructions -/

/-- The target of an assignment: a global or a variable of another object after its letter, or a
local. -/
def targetField : Field :=
  .tagged 0x47 .text (.tagged 0x72 (.seq .text (.bytes 3)) (.bytes 3))

/-- The fields of the instructions that are no calls. -/
def statementFields : List (Opcode × List Field) :=
  [(.scriptEnd, []), (.assignment, [targetField, .text]), (.ifBranch, [.bytes 1, .text]),
    (.elseIfBranch, [.bytes 1, .text]), (.elseBranch, [.bytes 1]), (.ifEnd, []),
    (.whileLoop, [.bytes 1, .text]), (.whileEnd, []), (.qualifier, [.text]), (.returning, []),
    (.choice, [.text16])]

/-- The fields after a code. A call is a statement here, so there is no marker. -/
def instructionFields? (opcode : Opcode) : Option (List Field) :=
  statementFields.lookup opcode <|> (callFormat? opcode).map CallFormat.fields

/-- No code of a call is the code of another instruction. -/
theorem lookup_statementFields_of_mem :
    ∀ entry ∈ callFormats, statementFields.lookup entry.1 = none := by
  decide +kernel

/-- A code with a format is among those the formats are given for. -/
theorem lookup_statementFields_of_callFormat? {opcode : Opcode} {format : CallFormat}
    (h : callFormat? opcode = some format) : statementFields.lookup opcode = none := by
  -- codes are looked up by number, and a code is its number
  obtain ⟨⟨opcode', format'⟩, hfind, -⟩ := Option.map_eq_some_iff.1 h
  have hbeq := List.find?_some hfind
  have hcode : opcode'.code.toNat = opcode.code.toNat := Nat.eq_of_beq_eq_true hbeq
  obtain rfl : opcode' = opcode := by
    cases opcode'
    cases opcode
    exact congrArg Opcode.mk (UInt16.toNat_inj.1 hcode)
  exact lookup_statementFields_of_mem (opcode', format') (List.mem_of_find?_eq_some hfind)

/-- The fields of a call are those of its format. -/
theorem instructionFields?_of_callFormat? {opcode : Opcode} {format : CallFormat}
    (h : callFormat? opcode = some format) : instructionFields? opcode = some format.fields := by
  rw [instructionFields?, lookup_statementFields_of_callFormat? h, h]
  rfl

/-! ## Lengths -/

/-- The length of the instruction at the start of a text. -/
def instructionLength? (s : Bytes) : Option Nat := do
  let (opcode, operands) ← Opcode.read? s
  let fields ← instructionFields? opcode
  let rest ← skipAll fields operands
  pure (s.length - rest.length)

/-- Before any bytes, the piece is measured as one instruction. -/
def IsInstruction (piece : Bytes) : Prop :=
  ∀ rest, instructionLength? (piece ++ rest) = some piece.length

/-- A code before operands that fill its fields is an instruction. -/
theorem isInstruction_of_coversAll {opcode : Opcode} {fields : List Field} {operands : Bytes}
    (hfields : instructionFields? opcode = some fields) (h : CoversAll fields operands) :
    IsInstruction (opcode.encode ++ operands) := by
  intro rest
  rw [instructionLength?, List.append_assoc, Opcode.read?_encode_append]
  simp only [Option.bind_eq_bind, Option.bind_some, hfields, h rest, Option.pure_def,
    List.length_append, Option.some.injEq]
  omega

/-- What is measured as an instruction in one text is measured so in every text. -/
theorem isInstruction_take {s : Bytes} {n : Nat} (h : instructionLength? s = some n) :
    2 ≤ n ∧ n ≤ s.length ∧ IsInstruction (s.take n) := by
  rw [instructionLength?] at h
  rcases s with - | ⟨low, - | ⟨high, operands⟩⟩
  · simp [Opcode.read?] at h
  · simp [Opcode.read?] at h
  · rw [Opcode.read?] at h
    obtain ⟨fields, hfields, rest, hskip, hn⟩ : ∃ fields, _ = some fields ∧
        ∃ rest, skipAll fields operands = some rest ∧
          (low :: high :: operands).length - rest.length = n := by
      simpa only [Option.bind_eq_bind, Option.bind_some, Option.bind_eq_some_iff,
        Option.pure_def, Option.some.injEq] using h
    -- the operands are a piece that the fields take off any text
    obtain ⟨piece, rfl, hpiece⟩ := exists_coversAll_of_skipAll hskip
    obtain rfl : piece.length + 2 = n := by
      simp only [List.length_cons, List.length_append] at hn
      omega
    refine ⟨by omega, by simp, ?_⟩
    rw [List.take_succ_cons, List.take_succ_cons, List.take_left]
    -- before another rest, the same code is read and the same fields are skipped
    intro rest'
    have hread : Opcode.read? (low :: high :: piece ++ rest') =
        some (⟨UInt16.ofNat (ofLittleEndian [low, high])⟩, piece ++ rest') := rfl
    rw [instructionLength?, hread]
    simp only [Option.bind_eq_bind, Option.bind_some, hfields, hpiece rest', Option.pure_def,
      List.cons_append, List.length_cons, List.length_append, Option.some.injEq]
    omega

/-- An instruction has at least the two bytes of its code. -/
theorem IsInstruction.two_le_length {piece : Bytes} (h : IsInstruction piece) :
    2 ≤ piece.length := by
  have hself := h []
  rw [List.append_nil] at hself
  exact (isInstruction_take hself).1

/-! ## Cutting bytecode -/

/-- The instructions of a text, one after another, if it consists of instructions. -/
def instructions (s : Bytes) : Option (List Bytes) :=
  if s.isEmpty then some []
  else
    match h : instructionLength? s with
    | none => none
    | some n =>
      -- an instruction is not empty, so what is left is shorter
      have := isInstruction_take h
      (instructions (s.drop n)).map (s.take n :: ·)
termination_by s.length
decreasing_by
  rw [List.length_drop]
  omega

/-- Instructions put together are taken apart again. -/
theorem instructions_flatten {pieces : List Bytes} (h : ∀ piece ∈ pieces, IsInstruction piece) :
    instructions pieces.flatten = some pieces := by
  induction pieces with
  | nil =>
    rw [instructions]
    rfl
  | cons piece pieces ih =>
    obtain ⟨hpiece, hpieces⟩ := List.forall_mem_cons.1 h
    have htwo := hpiece.two_le_length
    have hnonempty : (piece ++ pieces.flatten).isEmpty = false := by
      rw [List.isEmpty_eq_false_iff]
      rintro hempty
      rw [(List.append_eq_nil_iff.1 hempty).1, List.length_nil] at htwo
      omega
    rw [List.flatten_cons, instructions, hnonempty]
    split
    · next hcontra => exact absurd hcontra (by simp)
    · -- the first piece is measured before the pieces after it
      split
      · next hnone => exact absurd ((hpiece pieces.flatten).symm.trans hnone) (by simp)
      · next n hsome =>
        obtain rfl := Option.some.inj ((hpiece pieces.flatten).symm.trans hsome)
        simp only [List.drop_left, List.take_left, ih hpieces, Option.map_some]

/-! ## Statements -/

/-- The piece starts with the code of a qualifier. -/
def isQualifier (piece : Bytes) : Bool :=
  Opcode.qualifier.encode.isPrefixOf piece

/-- The pieces, with every qualifier put together with the instruction after it. -/
def joinQualifiers : List Bytes → List Bytes
  | piece :: next :: rest =>
    if isQualifier piece then (piece ++ next) :: joinQualifiers rest
    else piece :: joinQualifiers (next :: rest)
  | pieces => pieces

/-- Where pieces start that stand one after another, the first at `offset`. -/
def startsFrom (offset : Nat) : List Bytes → List Nat
  | [] => []
  | piece :: rest => offset :: startsFrom (offset + piece.length) rest

/-- A qualifier and its instruction are one piece of what is joined. -/
theorem joinQualifiers_qualifier {piece next : Bytes} (h : isQualifier piece = true)
    (rest : List Bytes) :
    joinQualifiers (piece :: next :: rest) = (piece ++ next) :: joinQualifiers rest := by
  rw [joinQualifiers, if_pos h]

/-- Any other instruction stays as it is. -/
theorem joinQualifiers_cons {piece : Bytes} (h : isQualifier piece = false) (rest : List Bytes) :
    joinQualifiers (piece :: rest) = piece :: joinQualifiers rest := by
  cases rest with
  | nil => rfl
  | cons next rest => simp [joinQualifiers, h]

/-- Only the code of a qualifier has its bytes. -/
theorem isQualifier_encode_append (opcode : Opcode) (operands : Bytes) :
    isQualifier (opcode.encode ++ operands) = true ↔ opcode = .qualifier := by
  rw [isQualifier, List.isPrefixOf_iff_prefix]
  constructor
  · -- both codes are read from the same bytes
    rintro ⟨rest, hrest⟩
    have hread := congrArg Opcode.read? hrest
    rw [Opcode.read?_encode_append, Opcode.read?_encode_append] at hread
    exact (Prod.mk.inj (Option.some.inj hread)).1.symm
  · rintro rfl
    exact List.prefix_append _ _

end MorrowindScript
