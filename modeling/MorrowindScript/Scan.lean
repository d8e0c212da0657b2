import MorrowindScript.Token

/-!
# Scanning a line

The scanners look for marks inside one line. They know about quotes: a double quote opens or closes
a quoted span, and inside such a span no mark counts. Positions count bytes from zero, and `none`
says that there is no mark.

* `commentStart`, `qualifierStart`, `dotPosition`, `toPosition`: the first unquoted mark of a sort.
* `comparison`: the first unquoted relation.
* `nextOperator`: the first unquoted arithmetic operator outside brackets.
* `fields`: the name and the parameters of a call.
* `unwrap`: a text without blanks and brackets around it.
-/

namespace MorrowindScript.Scan

open Bytes

/-! ## Unquoted marks -/

/-- The first unquoted position at which `mark` accepts the rest of the text; `outside` says whether
the text starts outside quotes. -/
def findUnquoted (mark : Bytes → Bool) : Bool → Bytes → Option Nat
  | _, [] => none
  | outside, c :: rest =>
    if c == quote then (findUnquoted mark (!outside) rest).map (· + 1)
    else if outside && mark (c :: rest) then some 0
    else (findUnquoted mark outside rest).map (· + 1)

/-- A semicolon starts a comment. -/
def isCommentMark : Bytes → Bool
  | c :: _ => c == 0x3B
  | [] => false

/-- An arrow stands between an object and a call on it. -/
def isArrow : Bytes → Bool
  | a :: b :: _ => a == minus && b == greater
  | _ => false

/-- A full stop stands between an object and a variable of its script. -/
def isDot : Bytes → Bool
  | c :: _ => c == dot
  | [] => false

/-- The word that separates the target of an assignment from its value, with a blank on each side. -/
def isTo : Bytes → Bool
  | a :: t :: o :: b :: _ =>
    isBlank a && lowerByte t == 0x74 && lowerByte o == 0x6F && isBlank b
  | _ => false

/-- Where the comment of a line starts. -/
def commentStart (s : Bytes) : Option Nat :=
  findUnquoted isCommentMark true s

/-- Where the arrow of a qualified call starts. -/
def qualifierStart (s : Bytes) : Option Nat :=
  findUnquoted isArrow true s

/-- Where the first full stop is. -/
def dotPosition (s : Bytes) : Option Nat :=
  findUnquoted isDot true s

/-- Where the blank before the word of an assignment is. -/
def toPosition (s : Bytes) : Option Nat :=
  findUnquoted isTo true s

/-! ## Relations -/

/-- The relation that starts at the byte `c`, before `rest`. Doubled signs are needed for equality
and its negation, and a `>` after a minus sign is the head of an arrow unless `=` follows. -/
def relationAt (afterMinus : Bool) (c : UInt8) (rest : Bytes) : Option Relation :=
  let thenEquals := rest.head? == some equals
  if c == 0x3C then some (if thenEquals then .le else .lt)
  else if c == equals then if thenEquals then some .eq else none
  else if c == greater then
    if thenEquals then some .ge else if afterMinus then none else some .gt
  else if c == 0x21 then if thenEquals then some .ne else none
  else none

/-- The first unquoted relation of a text that starts outside quotes or not, after a minus sign or
not. -/
def findRelation : Bool → Bool → Bytes → Option (Nat × Relation)
  | _, _, [] => none
  | outside, afterMinus, c :: rest =>
    let later (outside : Bool) : Option (Nat × Relation) :=
      (findRelation outside (c == minus) rest).map fun (i, r) => (i + 1, r)
    if c == quote then later (!outside)
    else if outside then
      match relationAt afterMinus c rest with
      | some r => some (0, r)
      | none => later outside
    else later outside

/-- The position and the relation of a comparison. -/
def comparison (s : Bytes) : Option (Nat × Relation) :=
  findRelation true false s

/-! ## Arithmetic operators -/

/-- The quotes of the text are closed again. -/
def isBalanced (s : Bytes) : Bool :=
  s.count quote % 2 == 0

/-- The operator at the byte `c`, before `rest`. A minus sign before `>` belongs to an arrow. -/
def operatorAt (c : UInt8) (rest : Bytes) : Option Arithmetic :=
  if isArrow (c :: rest) then none else Arithmetic.ofByte? c

/-- The first unquoted arithmetic operator outside brackets, `depth` brackets being open, with its
position. -/
def findOperator : Bool → Int → Bytes → Option (Nat × Arithmetic)
  | _, _, [] => none
  | outside, depth, c :: rest =>
    let later (outside : Bool) (depth : Int) : Option (Nat × Arithmetic) :=
      (findOperator outside depth rest).map fun (i, op) => (i + 1, op)
    if c == quote then later (!outside) depth
    else if !outside then later outside depth
    else if c == openBracket then later outside (depth + 1)
    else if c == closeBracket then later outside (depth - 1)
    else if depth ≠ 0 then later outside depth
    else
      match operatorAt c rest with
      | some op => some (0, op)
      | none => later outside depth

/-- The first operator at or after `offset`, with its position. Quotes are counted from the start of
the text, brackets from `offset`. -/
def nextOperator (s : Bytes) (offset : Nat) : Option (Nat × Arithmetic) :=
  (findOperator (isBalanced (s.take offset)) 0 (s.drop offset)).map fun (i, op) => (i + offset, op)

theorem findOperator_lt_length {outside : Bool} {depth : Int} {s : Bytes} {i : Nat}
    {op : Arithmetic} (h : findOperator outside depth s = some (i, op)) : i < s.length := by
  induction s generalizing outside depth i op with
  | nil => simp [findOperator] at h
  | cons c rest ih =>
    have step {outside : Bool} {depth : Int}
        (h : (findOperator outside depth rest).map (fun (i, op) => (i + 1, op)) = some (i, op)) :
        i < (c :: rest).length := by
      obtain ⟨⟨j, op'⟩, hj, he⟩ := Option.map_eq_some_iff.1 h
      simp only [Prod.mk.injEq] at he
      have := ih hj
      simp only [List.length_cons]
      omega
    simp only [findOperator] at h
    repeat' split at h
    all_goals first
      | exact step h
      | (simp only [Option.some.injEq, Prod.mk.injEq] at h
         simp [← h.1])

theorem nextOperator_lt_length {s : Bytes} {offset i : Nat} {op : Arithmetic}
    (h : nextOperator s offset = some (i, op)) : i < s.length := by
  obtain ⟨⟨j, op'⟩, hj, he⟩ := Option.map_eq_some_iff.1 h
  have := findOperator_lt_length hj
  simp only [Prod.mk.injEq] at he
  rw [List.length_drop] at this
  omega

/-! ## Calls -/

/-- Spaces, commas and tabs separate the parameters of a call. -/
def isSeparator (c : UInt8) : Bool :=
  isBlank c || c == 0x2C

/-- The rest of the piece in progress and the pieces after it; `inside` says whether the text starts
inside quotes. -/
def cut : Bool → Bytes → Bytes × List Bytes
  | _, [] => ([], [])
  | inside, c :: rest =>
    if c == quote then
      let (piece, pieces) := cut (!inside) rest
      (c :: piece, pieces)
    else if !inside && isSeparator c then
      let (piece, pieces) := cut inside rest
      ([], piece :: pieces)
    else
      let (piece, pieces) := cut inside rest
      (c :: piece, pieces)

/-- The name and the parameters of a call: the pieces between unquoted separators that are not
empty, each without the quotes around it. -/
def fields (s : Bytes) : List Bytes :=
  let (piece, pieces) := cut false s
  ((piece :: pieces).filter (!·.isEmpty)).map stripQuotes

/-- The text is one atomic operand: no full stop, no operator and fewer than two fields. -/
def isSingleToken (s : Bytes) : Bool :=
  (dotPosition s).isNone && (nextOperator s 0).isNone && (fields s).length < 2

/-! ## Brackets -/

/-- Where the bracket is that closes the last of `depth` open brackets; quotes do not matter. -/
def closingBracket : Nat → Bytes → Option Nat
  | _, [] => none
  | depth, c :: rest =>
    if c == openBracket then (closingBracket (depth + 1) rest).map (· + 1)
    else if c == closeBracket then
      if depth ≤ 1 then some 0 else (closingBracket (depth - 1) rest).map (· + 1)
    else (closingBracket depth rest).map (· + 1)

/-- The text between a bracket at its start and the matching bracket at its very end. -/
def enclosed? : Bytes → Option Bytes
  | [] => none
  | c :: rest =>
    if c == openBracket && closingBracket 1 rest == some (rest.length - 1) then some rest.dropLast
    else none

/-- The text without blanks around it, one pair of enclosing brackets, and blanks inside these. -/
def unwrap (s : Bytes) : Bytes :=
  match enclosed? s.trim with
  | some inner => inner.trim
  | none => s.trim

theorem length_enclosed_lt {s inner : Bytes} (h : enclosed? s = some inner) :
    inner.length < s.length := by
  cases s with
  | nil => simp [enclosed?] at h
  | cons c rest =>
    simp only [enclosed?] at h
    split at h
    · simp only [Option.some.injEq] at h
      simp only [← h, List.length_dropLast, List.length_cons]
      omega
    · simp at h

theorem length_unwrap_le (s : Bytes) : (unwrap s).length ≤ s.length := by
  unfold unwrap
  split
  · next inner h =>
    have := length_enclosed_lt h
    have := length_trim_le inner
    have := length_trim_le s
    omega
  · exact length_trim_le s

end MorrowindScript.Scan
