import MorrowindScript.Proofs.Bytecode.Instruction
import MorrowindScript.Proofs.Expression.Derivation
import MorrowindScript.Proofs.Expression.Grammar
import MorrowindScript.Proofs.Literal.Single

/-!
# Decoding expressions and conditions

The bytes of an expression list its operands and operators in the order of evaluation, each after a
space. The items have no common length, and their bytes may contain spaces, so they are read one by
one from the front: the first byte of an item says of what sort it is. The module introduces:

* `CodeAtom`, `CodeTree`, `Code`: what the bytes tell of operands, expressions and conditions.
* `Code.readItem?`: the item at the start of a text.
* `Code.readTrees`: the trees that the items at the start of a text build on a stack.
* `Code.decode`: the expression or the condition with the given bytes.
* `readTrees_encode`: reading the bytes of an expression leaves its tree on the stack.
* `decode_eq_of_isWritten`: decoding undoes what reading and encoding a text makes of it.
-/

namespace MorrowindScript

open Bytes

/-! ## What the bytes tell -/

/-- An operand without its spelling in the source. -/
inductive CodeAtom where
  /-- A number, as written. -/
  | literal (text : Bytes)
  /-- A local of the script. -/
  | localVariable (slot : Slot)
  /-- A global. -/
  | globalVariable (name : Bytes)
  /-- A variable of another object. -/
  | foreignVariable (object : Bytes) (slot : Slot)
  /-- A call, by its bytes. -/
  | call (code : Bytes)
  deriving DecidableEq, Repr

/-- An expression without the spelling of its operands. -/
inductive CodeTree where
  /-- An operand. -/
  | atom (a : CodeAtom)
  /-- An operator with its two operands. -/
  | binary (op : Arithmetic) (left right : CodeTree)
  deriving DecidableEq, Repr

/-- What is decoded: an expression that stands alone, or a condition. -/
inductive Code where
  /-- An expression. -/
  | value (tree : CodeTree)
  /-- A condition that compares nothing. -/
  | bare (tree : CodeTree)
  /-- A comparison. -/
  | comparison (left : CodeTree) (relation : Relation) (right : CodeTree)
  deriving DecidableEq, Repr

/-- The operand without its spelling. -/
def Atom.code : Atom → CodeAtom
  | literal text _ => .literal text
  | localVariable _ slot => .localVariable slot
  | globalVariable name => .globalVariable name
  | foreignVariable _ object slot => .foreignVariable object slot
  | call _ code => .call code.encode

/-- The expression without the spelling of its operands. -/
def Expression.code : Expression → CodeTree
  | atom a => .atom a.code
  | binary op left right => .binary op left.code right.code

/-- The condition without the spelling of its operands. -/
def Condition.code : Condition → Code
  | comparison left relation right => .comparison left.code relation right.code
  | bare value => .bare value.code

/-! ## Reading items -/

/-- The kind of local a letter marks. -/
def LocalKind.ofTag? (c : UInt8) : Option LocalKind :=
  if c = 0x73 then some .short
  else if c = 0x6C then some .long
  else if c = 0x66 then some .float
  else none

/-- The letter of a kind is read back. -/
theorem LocalKind.ofTag?_tag (kind : LocalKind) : ofTag? kind.tag = some kind := by
  cases kind <;> rfl

namespace Code

/-- A text after its length in one byte, and what follows it. -/
def readText? : Bytes → Option (Bytes × Bytes)
  | [] => none
  | n :: rest =>
    if n.toNat ≤ rest.length then some (rest.take n.toNat, rest.drop n.toNat) else none

/-- A reference to a local, and what follows it. -/
def readSlot? : Bytes → Option (Slot × Bytes)
  | tag :: low :: high :: rest =>
    (LocalKind.ofTag? tag).map fun kind =>
      (⟨kind, UInt16.ofNat (ofLittleEndian [low, high])⟩, rest)
  | _ => none

/-- The bytes of a call inside an expression, and what follows them. -/
def readCall? (s : Bytes) : Option (Bytes × Bytes) := do
  let (opcode, operands) ← Opcode.read? s
  let format ← callFormat? opcode
  let rest ← skipAll (.bytes format.marker.length :: format.fields) operands
  pure (s.take (s.length - rest.length), rest)

/-- An item of an expression. -/
inductive Item where
  /-- An operand. -/
  | operand (a : CodeAtom)
  /-- An operator. -/
  | operator (op : Arithmetic)
  deriving DecidableEq, Repr

/-- The bytes at the start of a text are those of a number. A minus sign starts a number only if the
number follows at once. -/
def startsLiteral : Bytes → Bool
  | [] => false
  | c :: rest => Literal.isNumeral c || c == minus && rest.head?.any Literal.isNumeral

/-- The item at the start of a text, and what follows it. -/
def readItem? (s : Bytes) : Option (Item × Bytes) :=
  match s with
  | [] => none
  | c :: rest =>
    -- variables and calls start with a letter, numbers with a digit, a full stop or a sign
    if c = 0x47 then do
      let (name, rest) ← readText? rest
      pure (.operand (.globalVariable name), rest)
    else if c = 0x72 then do
      let (object, rest) ← readText? rest
      let (slot, rest) ← readSlot? rest
      pure (.operand (.foreignVariable object slot), rest)
    else if c = 0x58 then do
      let (code, rest) ← readCall? rest
      pure (.operand (.call code), rest)
    else if startsLiteral s then
      some (.operand (.literal (c :: rest.takeWhile Literal.isNumeral)),
        rest.dropWhile Literal.isNumeral)
    else
      match Arithmetic.ofByte? c with
      | some op => some (.operator op, rest)
      | none => do
        let (slot, rest) ← readSlot? s
        pure (.operand (.localVariable slot), rest)

/-- What is left behind a text with its length is shorter. -/
theorem length_readText?_lt {s text rest : Bytes} (h : readText? s = some (text, rest)) :
    rest.length < s.length := by
  cases s with
  | nil => simp [readText?] at h
  | cons n s =>
    rw [readText?] at h
    split at h
    · obtain ⟨-, rfl⟩ := Prod.mk.inj (Option.some.inj h)
      rw [List.length_drop, List.length_cons]
      omega
    · simp at h

/-- What is left behind a reference to a local is shorter. -/
theorem length_readSlot?_lt {s rest : Bytes} {slot : Slot} (h : readSlot? s = some (slot, rest)) :
    rest.length < s.length := by
  rcases s with - | ⟨tag, - | ⟨low, - | ⟨high, s⟩⟩⟩
  · simp [readSlot?] at h
  · simp [readSlot?] at h
  · simp [readSlot?] at h
  · obtain ⟨kind, -, hkind⟩ := Option.map_eq_some_iff.1 h
    obtain ⟨-, rfl⟩ := Prod.mk.inj hkind
    simp only [List.length_cons]
    omega

/-- What is left behind a call is shorter. -/
theorem length_readCall?_lt {s code rest : Bytes} (h : readCall? s = some (code, rest)) :
    rest.length < s.length := by
  rw [readCall?] at h
  rcases s with - | ⟨low, - | ⟨high, operands⟩⟩
  · simp [Opcode.read?] at h
  · simp [Opcode.read?] at h
  · rw [Opcode.read?] at h
    simp only [Option.bind_eq_bind, Option.bind_some, Option.bind_eq_some_iff, Option.pure_def,
      Option.some.injEq, Prod.mk.injEq] at h
    obtain ⟨format, -, rest', hskip, -, rfl⟩ := h
    obtain ⟨piece, rfl, -⟩ := exists_coversAll_of_skipAll hskip
    simp only [List.length_cons, List.length_append]
    omega

/-- What is left behind an item is shorter. -/
theorem length_readItem?_lt {s rest : Bytes} {item : Item} (h : readItem? s = some (item, rest)) :
    rest.length < s.length := by
  cases s with
  | nil => simp [readItem?] at h
  | cons c s =>
    rw [readItem?] at h
    rw [List.length_cons]
    split at h
    · obtain ⟨⟨name, rest'⟩, hname, hitem⟩ := Option.bind_eq_some_iff.1 h
      obtain ⟨-, rfl⟩ := Prod.mk.inj (Option.some.inj hitem)
      exact (length_readText?_lt hname).trans (Nat.lt_succ_self _)
    · split at h
      · obtain ⟨⟨object, rest'⟩, hobject, h⟩ := Option.bind_eq_some_iff.1 h
        obtain ⟨⟨slot, rest''⟩, hslot, hitem⟩ := Option.bind_eq_some_iff.1 h
        obtain ⟨-, rfl⟩ := Prod.mk.inj (Option.some.inj hitem)
        exact ((length_readSlot?_lt hslot).trans (length_readText?_lt hobject)).trans
          (Nat.lt_succ_self _)
      · split at h
        · obtain ⟨⟨code, rest'⟩, hcode, hitem⟩ := Option.bind_eq_some_iff.1 h
          obtain ⟨-, rfl⟩ := Prod.mk.inj (Option.some.inj hitem)
          exact (length_readCall?_lt hcode).trans (Nat.lt_succ_self _)
        · split at h
          · obtain ⟨-, rfl⟩ := Prod.mk.inj (Option.some.inj h)
            exact Nat.lt_succ_of_le (List.dropWhile_sublist _).length_le
          · split at h
            · obtain ⟨-, rfl⟩ := Prod.mk.inj (Option.some.inj h)
              exact Nat.lt_succ_self _
            · obtain ⟨⟨slot, rest'⟩, hslot, hitem⟩ := Option.bind_eq_some_iff.1 h
              obtain ⟨-, rfl⟩ := Prod.mk.inj (Option.some.inj hitem)
              exact length_readSlot?_lt hslot

/-! ## Reading trees -/

/-- Puts an item on a stack of trees: an operator takes its operands off the stack. -/
def Item.push? : Item → List CodeTree → Option (List CodeTree)
  | operand a, stack => some (.atom a :: stack)
  | operator op, right :: left :: stack => some (.binary op left right :: stack)
  | operator _, _ => none

/-- The item at the start of a text, after a space. -/
def readSpacedItem? : Bytes → Option (Item × Bytes)
  | [] => none
  | c :: rest => if c = space then readItem? rest else none

/-- What is left behind an item and the space before it is shorter. -/
theorem length_readSpacedItem?_lt {s rest : Bytes} {item : Item}
    (h : readSpacedItem? s = some (item, rest)) : rest.length < s.length := by
  cases s with
  | nil => simp [readSpacedItem?] at h
  | cons c s =>
    rw [readSpacedItem?] at h
    split at h
    · exact (length_readItem?_lt h).trans (Nat.lt_succ_self _)
    · simp at h

/-- The trees that the items at the start of a text build on a stack, and what follows the items. -/
def readTrees (stack : List CodeTree) (s : Bytes) : List CodeTree × Bytes :=
  match h : readSpacedItem? s with
  | none => (stack, s)
  | some (item, rest) =>
    have := length_readSpacedItem?_lt h
    match item.push? stack with
    | some stack' => readTrees stack' rest
    | none => (stack, s)
termination_by s.length

/-- The expression or the condition with the given bytes. A zero at the end marks a condition that
compares nothing. -/
def decode (s : Bytes) : Option Code :=
  match readTrees [] s with
  | ([tree], []) => some (.value tree)
  | ([tree], [0]) => some (.bare tree)
  | ([left], _ :: c :: rest) => do
    let relation ← Scan.relationAt false c rest
    match readTrees [] ((c :: rest).drop relation.bytes.length) with
    | ([right], []) => some (.comparison left relation right)
    | _ => none
  | _ => none

/-- The next item goes on the stack. -/
theorem readTrees_of_readSpacedItem? {s rest : Bytes} {item : Item} {stack stack' : List CodeTree}
    (h : readSpacedItem? s = some (item, rest)) (hpush : item.push? stack = some stack') :
    readTrees stack s = readTrees stack' rest := by
  rw [readTrees]
  split
  · next hnone => exact absurd (h.symm.trans hnone) (by simp)
  · next item' rest' hsome =>
    obtain ⟨rfl, rfl⟩ := Prod.mk.inj (Option.some.inj (h.symm.trans hsome))
    simp [hpush]

/-- Without a next item the stack is final. -/
theorem readTrees_of_readSpacedItem?_eq_none {s : Bytes} {stack : List CodeTree}
    (h : readSpacedItem? s = none) : readTrees stack s = (stack, s) := by
  rw [readTrees]
  split
  · rfl
  · next hsome => exact absurd (h.symm.trans hsome) (by simp)

end Code

/-! ## Items are read back -/

open Code

/-- A short text is read back. -/
theorem readText?_textWithLength_append {s : Bytes} (h : s.length < 256) (rest : Bytes) :
    readText? (textWithLength s ++ rest) = some (s, rest) := by
  have hlength : (UInt8.ofNat s.length).toNat = s.length := by
    rw [UInt8.toNat_ofNat']
    exact Nat.mod_eq_of_lt h
  rw [textWithLength, List.cons_append, readText?, hlength, List.take_left, List.drop_left,
    if_pos (by simp)]

/-- A reference to a local is read back. -/
theorem readSlot?_reference_append (slot : Slot) (rest : Bytes) :
    readSlot? (slot.reference ++ rest) = some (slot, rest) := by
  have hbytes : slot.reference = [slot.kind.tag, UInt8.ofNat (slot.index.toNat % 256),
      UInt8.ofNat (slot.index.toNat / 256 % 256)] := rfl
  have hindex : ofLittleEndian [UInt8.ofNat (slot.index.toNat % 256),
      UInt8.ofNat (slot.index.toNat / 256 % 256)] = slot.index.toNat := by
    rw [show [UInt8.ofNat (slot.index.toNat % 256), UInt8.ofNat (slot.index.toNat / 256 % 256)] =
      littleEndian 2 slot.index.toNat from rfl, ofLittleEndian_littleEndian]
    exact Nat.mod_eq_of_lt slot.index.toNat_lt
  -- the kind from its letter, and the index from its two bytes
  rw [hbytes, List.cons_append, List.cons_append, List.cons_append, readSlot?,
    LocalKind.ofTag?_tag, hindex, UInt16.ofNat_toNat, List.nil_append]
  rfl

/-- A call in the format of its code is read back. -/
theorem readCall?_encode_append {call : Invocation} (h : Command.HasFormat true call)
    (rest : Bytes) : readCall? (call.encode ++ rest) = some (call.encode, rest) := by
  obtain ⟨format, hformat, hmarker, hcovers⟩ := h
  -- the marker is skipped by its length, as one more field
  have hall : CoversAll (.bytes format.marker.length :: format.fields)
      (call.marker ++ call.operands.flatMap Datum.encode) :=
    (Field.covers_bytes (congrArg List.length hmarker)).cons hcovers
  have hencode : call.encode = call.opcode.encode ++
      (call.marker ++ call.operands.flatMap Datum.encode) := List.append_assoc _ _ _
  have hread : Opcode.read? (call.encode ++ rest) =
      some (call.opcode, call.marker ++ call.operands.flatMap Datum.encode ++ rest) := by
    rw [hencode, List.append_assoc, Opcode.read?_encode_append]
  have hlength : (call.encode ++ rest).length - rest.length = call.encode.length := by
    rw [List.length_append]
    omega
  rw [readCall?, hread]
  simp only [Option.bind_eq_bind, Option.bind_some, hformat, hall rest, Option.pure_def, hlength,
    List.take_left]

/-- The operand can be told from its bytes: lengths fit their byte, and a call is in the format of
its code. -/
def Atom.IsReadable : Atom → Prop
  | literal text _ => ∃ body, body ≠ [] ∧ (∀ c ∈ body, Literal.isNumeral c) ∧
      (text = body ∨ text = minus :: body)
  | localVariable _ _ => True
  | globalVariable name => name.length < 256
  | foreignVariable _ object _ => object.length < 256
  | call _ code => Command.HasFormat true code

/-- A number at the end of what was read so far would not go on in the rest. -/
def EndsItem (rest : Bytes) : Prop :=
  ∀ c ∈ rest.head?, Literal.isNumeral c = false

/-- Digits and full stops are taken up to the end of the item. -/
theorem span_isNumeral_append {s rest : Bytes} (hs : ∀ c ∈ s, Literal.isNumeral c)
    (hrest : EndsItem rest) :
    (s ++ rest).takeWhile Literal.isNumeral = s ∧ (s ++ rest).dropWhile Literal.isNumeral = rest := by
  rw [List.takeWhile_append_of_pos hs, List.dropWhile_append_of_pos hs]
  cases rest with
  | nil => simp
  | cons c rest =>
    have hc : Literal.isNumeral c = false := hrest c rfl
    simp [hc]

/-- A byte of a number differs from every byte that is none. -/
private theorem ne_of_isNumeral {c d : UInt8} (h : Literal.isNumeral c)
    (hd : Literal.isNumeral d = false) : c ≠ d := by
  rintro rfl
  exact absurd h (by simp [hd])

/-- A number is read back. -/
theorem readItem?_literal_append {text rest : Bytes} {bits : UInt32}
    (h : (Atom.literal text bits).IsReadable) (hrest : EndsItem rest) :
    readItem? (text ++ rest) = some (.operand (.literal text), rest) := by
  obtain ⟨body, hne, hbody, htext⟩ := h
  obtain ⟨d, body, rfl⟩ := List.exists_cons_of_ne_nil hne
  obtain ⟨hd, hdigits⟩ := List.forall_mem_cons.1 hbody
  rcases htext with rfl | rfl
  · obtain ⟨htake, hdrop⟩ := span_isNumeral_append hdigits hrest
    have hglobal : d ≠ 0x47 := ne_of_isNumeral hd (by decide)
    have hforeign : d ≠ 0x72 := ne_of_isNumeral hd (by decide)
    have hcall : d ≠ 0x58 := ne_of_isNumeral hd (by decide)
    rw [List.cons_append, readItem?, if_neg hglobal, if_neg hforeign, if_neg hcall,
      if_pos (by simp [startsLiteral, hd]), htake, hdrop]
  · -- the sign is part of the number, as a digit or full stop follows it
    obtain ⟨htake, hdrop⟩ := span_isNumeral_append hbody hrest
    rw [List.cons_append, readItem?, if_neg (by decide), if_neg (by decide), if_neg (by decide),
      if_pos (by simp [startsLiteral, hd]), htake, hdrop]

/-- An operator is read back. A minus sign is no number, as the item ends. -/
theorem readItem?_operator (op : Arithmetic) {rest : Bytes} (hrest : EndsItem rest) :
    readItem? (op.byte :: rest) = some (.operator op, rest) := by
  have hnumeral : rest.head?.any Literal.isNumeral = false := by
    cases rest with
    | nil => rfl
    | cons c rest => exact hrest c rfl
  have hliteral : startsLiteral (op.byte :: rest) = false := by
    rw [startsLiteral, hnumeral, Bool.and_false, Bool.or_false]
    cases op <;> decide
  rw [readItem?, hliteral, Arithmetic.ofByte?_byte]
  cases op <;> rfl

/-- A local is read back. -/
theorem readItem?_reference_append (slot : Slot) (rest : Bytes) :
    readItem? (slot.reference ++ rest) = some (.operand (.localVariable slot), rest) := by
  have hread := readSlot?_reference_append slot rest
  obtain ⟨tail, htail⟩ : ∃ tail, slot.reference ++ rest = slot.kind.tag :: tail := ⟨_, rfl⟩
  have hliteral : startsLiteral (slot.kind.tag :: tail) = false := by
    cases slot.kind <;> simp [startsLiteral, LocalKind.tag, Literal.isNumeral, isDigit, dot, minus]
  have hop : Arithmetic.ofByte? slot.kind.tag = none := by
    cases slot.kind <;> rfl
  -- the letter of a kind is no other letter, no digit and no operator
  rw [htail] at hread ⊢
  rw [readItem?, if_neg (Command.tag_ne_global slot.kind), hliteral, hop, hread]
  cases slot.kind <;> rfl

/-- An operand is read back. -/
theorem readItem?_encode_append {a : Atom} {rest : Bytes} (h : a.IsReadable)
    (hrest : EndsItem rest) : readItem? (a.encode ++ rest) = some (.operand a.code, rest) := by
  cases a with
  | literal text bits => exact readItem?_literal_append h hrest
  | localVariable name slot => exact readItem?_reference_append slot rest
  | globalVariable name =>
    rw [Atom.encode, globalReference, List.cons_append, readItem?, if_pos rfl,
      readText?_textWithLength_append h]
    rfl
  | foreignVariable source object slot =>
    rw [Atom.encode, foreignReference, List.cons_append, List.cons_append, List.append_assoc,
      readItem?, if_neg (by decide), if_pos rfl, readText?_textWithLength_append h]
    simp [readSlot?_reference_append, Atom.code]
  | call source code =>
    rw [Atom.encode, List.cons_append, readItem?, if_neg (by decide), if_neg (by decide),
      if_pos rfl, readCall?_encode_append h]
    rfl

/-- No operand is without bytes. -/
theorem Atom.encode_ne_nil {a : Atom} (h : a.IsReadable) : a.encode ≠ [] := by
  cases a with
  | literal text bits =>
    obtain ⟨body, hne, -, rfl | rfl⟩ := h
    · exact hne
    · simp [encode]
  | localVariable name slot => simp [encode, Slot.reference, Reference.whole]
  | globalVariable name => simp [encode, globalReference]
  | foreignVariable source object slot => simp [encode, foreignReference]
  | call source code => simp [encode]

/-! ## Trees are read back -/

/-- An expression starts with a space. -/
theorem Expression.exists_encode_eq_cons {e : Expression} (h : ∀ a ∈ e.leaves, a.IsReadable) :
    ∃ tail, e.encode = space :: tail := by
  induction e with
  | atom a =>
    have hne := Atom.encode_ne_nil (h a (by simp [leaves]))
    exact ⟨a.encode, by simp [encode, spaced, hne]⟩
  | binary op left right ihLeft _ =>
    obtain ⟨tail, htail⟩ := ihLeft fun a ha => h a (List.mem_append_left _ ha)
    exact ⟨tail ++ (right.encode ++ spaced [op.byte]), by simp [encode, htail]⟩

/-- Before an expression an item has ended. -/
theorem endsItem_encode_append {e : Expression} (h : ∀ a ∈ e.leaves, a.IsReadable)
    (rest : Bytes) : EndsItem (e.encode ++ rest) := by
  obtain ⟨tail, htail⟩ := Expression.exists_encode_eq_cons h
  rw [htail]
  rintro c ⟨⟩
  decide

/-- Reading the bytes of an expression leaves its tree on the stack. -/
theorem readTrees_encode {e : Expression} (h : ∀ a ∈ e.leaves, a.IsReadable) {rest : Bytes}
    (hrest : EndsItem rest) (stack : List CodeTree) :
    readTrees stack (e.encode ++ rest) = readTrees (e.code :: stack) rest := by
  induction e generalizing rest stack with
  | atom a =>
    have ha : a.IsReadable := h a (by simp [Expression.leaves])
    have hencode : (Expression.atom a).encode ++ rest = space :: (a.encode ++ rest) := by
      simp [Expression.encode, spaced, Atom.encode_ne_nil ha]
    have hread : readSpacedItem? (space :: (a.encode ++ rest)) = some (.operand a.code, rest) := by
      rw [readSpacedItem?, if_pos rfl, readItem?_encode_append ha hrest]
    rw [hencode]
    exact readTrees_of_readSpacedItem? hread rfl
  | binary op left right ihLeft ihRight =>
    have hleft : ∀ a ∈ left.leaves, a.IsReadable := fun a ha => h a (List.mem_append_left _ ha)
    have hright : ∀ a ∈ right.leaves, a.IsReadable := fun a ha => h a (List.mem_append_right _ ha)
    have hop : readSpacedItem? (space :: op.byte :: rest) = some (.operator op, rest) := by
      rw [readSpacedItem?, if_pos rfl, readItem?_operator op hrest]
    have hspace : EndsItem (space :: op.byte :: rest) := by
      rintro c ⟨⟩
      decide
    -- left side, right side and operator go on the stack one after another
    calc readTrees stack ((Expression.binary op left right).encode ++ rest)
        = readTrees stack (left.encode ++ (right.encode ++ space :: op.byte :: rest)) := by
          simp [Expression.encode, spaced]
      _ = readTrees (left.code :: stack) (right.encode ++ space :: op.byte :: rest) :=
          ihLeft hleft (endsItem_encode_append hright _) stack
      _ = readTrees (right.code :: left.code :: stack) (space :: op.byte :: rest) :=
          ihRight hright hspace _
      _ = readTrees ((Expression.binary op left right).code :: stack) rest :=
          readTrees_of_readSpacedItem? hop rfl

/-! ## Expressions and conditions are decoded -/

/-- A reference to a local starts with the letter of a kind. -/
theorem readSlot?_eq_none {c : UInt8} (h : LocalKind.ofTag? c = none) (rest : Bytes) :
    readSlot? (c :: rest) = none := by
  rcases rest with - | ⟨low, - | ⟨high, rest⟩⟩
  · rfl
  · rfl
  · rw [readSlot?, h]
    rfl

/-- A relation is no item. -/
theorem readSpacedItem?_relation (relation : Relation) (rest : Bytes) :
    readSpacedItem? (space :: (relation.bytes ++ rest)) = none := by
  have hnone {c : UInt8} (hc : c = 0x3D ∨ c = 0x21 ∨ c = 0x3C ∨ c = 0x3E) (tail : Bytes) :
      readItem? (c :: tail) = none := by
    have hslot : readSlot? (c :: tail) = none := readSlot?_eq_none (by
      rcases hc with rfl | rfl | rfl | rfl <;> rfl) tail
    rcases hc with rfl | rfl | rfl | rfl <;>
      simp [readItem?, startsLiteral, Literal.isNumeral, isDigit, dot, minus,
        Arithmetic.ofByte?, hslot]
  rw [readSpacedItem?, if_pos rfl]
  cases relation <;> exact hnone (by decide) _

/-- A relation is read back from in front of a space. -/
theorem exists_relationAt (relation : Relation) (rest : Bytes) :
    ∃ c tail, relation.bytes ++ space :: rest = c :: tail ∧
      Scan.relationAt false c tail = some relation := by
  cases relation <;> exact ⟨_, _, rfl, rfl⟩

/-- An expression before something that is no item is read as its tree. -/
theorem readTrees_encode_append {e : Expression} (h : ∀ a ∈ e.leaves, a.IsReadable) {rest : Bytes}
    (hrest : EndsItem rest) (hstop : readSpacedItem? rest = none) :
    readTrees [] (e.encode ++ rest) = ([e.code], rest) := by
  rw [readTrees_encode h hrest, readTrees_of_readSpacedItem?_eq_none hstop]

/-- An expression alone is read as its tree. -/
theorem readTrees_encode_self {e : Expression} (h : ∀ a ∈ e.leaves, a.IsReadable) :
    readTrees [] e.encode = ([e.code], []) := by
  have hread := readTrees_encode_append h (show EndsItem [] by rintro c ⟨⟩) rfl
  rwa [List.append_nil] at hread

/-- An expression is decoded. -/
theorem Expression.decode_encode {e : Expression} (h : ∀ a ∈ e.leaves, a.IsReadable) :
    decode e.encode = some (.value e.code) := by
  rw [decode, readTrees_encode_self h]

/-- A condition that compares nothing is decoded. -/
theorem Condition.decode_encode_bare {value : Expression} (h : ∀ a ∈ value.leaves, a.IsReadable) :
    decode (bare value).encode = some (bare value).code := by
  have hzero : EndsItem [0] := by
    rintro c ⟨⟩
    decide
  rw [decode, encode, readTrees_encode_append h hzero rfl]
  rfl

/-- A comparison is decoded. -/
theorem Condition.decode_encode_comparison {left right : Expression} (relation : Relation)
    (hleft : ∀ a ∈ left.leaves, a.IsReadable) (hright : ∀ a ∈ right.leaves, a.IsReadable) :
    decode (comparison left relation right).encode = some (comparison left relation right).code := by
  have hspace : EndsItem (space :: (relation.bytes ++ right.encode)) := by
    rintro c ⟨⟩
    decide
  have hread := readTrees_encode_append hleft hspace (readSpacedItem?_relation relation _)
  -- the space at the start of the right side tells `<` from `<=` and `>` from `>=`
  obtain ⟨tail, htail⟩ := Expression.exists_encode_eq_cons hright
  obtain ⟨c, rest, hbytes, hrelation⟩ := exists_relationAt relation tail
  have hdrop : (c :: rest).drop relation.bytes.length = right.encode := by
    rw [← hbytes, ← htail, List.drop_left]
  have hencode : (comparison left relation right).encode =
      left.encode ++ space :: (relation.bytes ++ right.encode) := by
    simp [encode]
  rw [decode, hencode, hread, htail, hbytes]
  simp [hrelation, hdrop, readTrees_encode_self hright, code]

/-! ## Texts that are read -/

/-- An operand that was read from a short text can be told from its bytes. -/
theorem Atom.Parses.isReadable {scope : Scope} {text : Bytes} {a : Atom}
    (hglobal : ∀ {name spelling}, scope.global? name = some spelling → spelling.length ≤ 254)
    (htext : text.length ≤ 254) (h : a.Parses scope text) : a.IsReadable := by
  cases h with
  | literal hvalue => exact Literal.exists_numeral_of_single? hvalue
  | localVariable => trivial
  | globalVariable _ _ hname => exact Nat.lt_of_le_of_lt (hglobal hname) (by decide)
  | @foreignVariable i object slot _ _ _ _ hdotted =>
    have hobject : object = stripQuotes (text.take i) := (congrArg Prod.fst hdotted).symm
    have hlength : object.length ≤ text.length := by
      rw [hobject]
      exact (length_stripQuotes_le _).trans (List.length_take_le' i text)
    exact Nat.lt_of_le_of_lt (hlength.trans htext) (by decide)
  | call _ _ _ _ hcode => exact Command.hasFormat_of_invoke hglobal htext hcode

/-- All operands of an expression that was read from a short text can be told from their bytes. -/
theorem Expression.Parses.isReadable {scope : Scope} {source : Bytes} {e : Expression}
    (hglobal : ∀ {name spelling}, scope.global? name = some spelling → spelling.length ≤ 254)
    (hsource : source.length ≤ 254) (h : Parses scope source e) :
    ∀ a ∈ e.leaves, a.IsReadable := by
  induction h with
  | @operand source a _ ha =>
    intro b hb
    obtain rfl := List.mem_singleton.1 hb
    exact ha.isReadable hglobal ((Scan.length_unwrap_le source).trans hsource)
  | negative _ ha =>
    intro b hb
    obtain rfl := List.mem_singleton.1 hb
    -- a number as a whole, with its sign
    rw [negativeLiteral?] at ha
    split at ha
    · obtain ⟨value, hvalue, rfl⟩ := Option.map_eq_some_iff.1 ha
      exact Literal.exists_numeral_of_single? hvalue
    · simp at ha
  | @binary source first left right _ _ _ _ _ _ ihLeft ihRight =>
    have hunwrap := (Scan.length_unwrap_le source).trans hsource
    intro a ha
    rcases List.mem_append.1 ha with ha | ha
    · exact ihLeft ((List.length_take_le' _ _).trans hunwrap) a ha
    · exact ihRight ((List.drop_sublist _ _).length_le.trans hunwrap) a ha

/-- The bytes are written for what the text is read as, an expression or a condition, and the code is
what was read, without the spelling of operands. -/
inductive IsWritten (scope : Scope) (text : Bytes) : Bytes → Code → Prop where
  /-- An expression. -/
  | expression {e : Expression} (h : (Expression.parse scope text).result = .ok e) :
      IsWritten scope text e.encode (.value e.code)
  /-- A condition. -/
  | condition {c : Condition} (h : (Condition.parse scope text).result = .ok c) :
      IsWritten scope text c.encode c.code

/-- What is written for a short text is decoded. -/
theorem IsWritten.decode_eq {scope : Scope} {text bytes : Bytes} {code : Code}
    (hglobal : ∀ {name spelling}, scope.global? name = some spelling → spelling.length ≤ 254)
    (htext : text.length ≤ 254) (h : IsWritten scope text bytes code) :
    decode bytes = some code := by
  cases h with
  | expression h =>
    exact Expression.decode_encode
      ((Expression.result_parse_eq_ok_iff.1 h).isReadable hglobal htext)
  | condition h =>
    rcases Condition.cases_of_parse_eq_ok h with
      ⟨value, -, hvalue, rfl⟩ | ⟨i, relation, left, right, -, hleft, hright, rfl⟩
    · exact Condition.decode_encode_bare (hvalue.isReadable hglobal htext)
    · -- both sides are parts of the text
      have htake := (List.length_take_le' i text).trans htext
      have hdrop := (List.drop_sublist (i + relation.bytes.length) text).length_le.trans htext
      exact Condition.decode_encode_comparison relation (hleft.isReadable hglobal htake)
        (hright.isReadable hglobal hdrop)

/-- Decoding the bytes that are written for a short text gives the expression or the condition back
that was read from it. So no other expression or condition has these bytes. -/
theorem decode_eq_of_isWritten {scope : Scope} {text bytes : Bytes} {code : Code}
    (hglobal : ∀ {name spelling}, scope.global? name = some spelling → spelling.length ≤ 254)
    (htext : text.length ≤ 254) (h : IsWritten scope text bytes code) :
    decode bytes = some code ∧
      ∀ (scope' : Scope) (text' : Bytes) (code' : Code),
        (∀ {name spelling}, scope'.global? name = some spelling → spelling.length ≤ 254) →
        text'.length ≤ 254 → IsWritten scope' text' bytes code' → code' = code := by
  have hcode := h.decode_eq hglobal htext
  refine ⟨hcode, ?_⟩
  intro scope' text' code' hglobal' htext' h'
  exact Option.some.inj ((h'.decode_eq hglobal' htext').symm.trans hcode)

theorem decode_eq_of_isWritten_distance :
    ∃ c, (Condition.parse { locals := { shorts := [ascii "x"] } }
        (ascii "-1 + x >= GetDistance fargoth")).result = .ok c ∧
      decode c.encode = some c.code := by
  obtain ⟨c, hc⟩ : ∃ c, (Condition.parse { locals := { shorts := [ascii "x"] } }
      (ascii "-1 + x >= GetDistance fargoth")).result = .ok c :=
    Outcome.exists_result_eq_ok (by decide +kernel)
  refine ⟨c, hc, (decode_eq_of_isWritten ?_ ?_ (.condition hc)).1⟩
  · intro name spelling hspelling
    exact absurd hspelling (by simp [Scope.global?, Tables.empty])
  · decide +kernel

end MorrowindScript
