import MorrowindScript.Proofs.Bytes.Length
import MorrowindScript.Proofs.Literal.Single

/-!
# The grammar of floating point literals

A floating point literal is read from both ends: its whole part from the left, up to the full stop,
and its fraction from the right. Only the whole part is ever too large, and no more is looked at to
find that out. So a text is a literal exactly if it has the form of one and its whole part is one by
itself, whatever its sign and its fraction are.

## Main definitions

* `Literal.Numeral`: the parts of a literal, and `Literal.Numeral.text`: the literal made of them.
* `Literal.IsMark`: the bytes that stand between operands or around them.

## Main results

* `Literal.whole?_append`: digits are read before what follows them.
* `Literal.exists_numeral_of_whole?`: an accepted text has the form of a literal.
* `Literal.single?_accepts_numerals`: which texts are accepted.
-/

namespace MorrowindScript.Literal

open Bytes

/-- The parts of a floating point literal. -/
structure Numeral where
  /-- The literal starts with a minus sign. -/
  isNegative : Bool
  /-- The digits of the whole part. -/
  whole : Bytes
  /-- The digits after the full stop, or nothing if there is no full stop. -/
  fraction? : Option Bytes
  /-- The whole part has digits only. -/
  isDigit_whole : ∀ c ∈ whole, isDigit c = true
  /-- The fraction has digits only. -/
  isDigit_fraction : ∀ digits ∈ fraction?, ∀ c ∈ digits, isDigit c = true
  /-- Without full stop there is a digit. -/
  whole_ne_nil : fraction? = none → whole ≠ []

namespace Numeral

/-- The full stop and the fraction after it, if there is one. -/
def ending (n : Numeral) : Bytes :=
  n.fraction?.elim [] (dot :: ·)

/-- The literal without its sign. -/
def body (n : Numeral) : Bytes :=
  n.whole ++ n.ending

/-- The literal. -/
def text (n : Numeral) : Bytes :=
  if n.isNegative then minus :: n.body else n.body

theorem body_ne_nil (n : Numeral) : n.body ≠ [] := by
  rw [body, ending]
  cases hfraction : n.fraction? with
  | none => simpa using n.whole_ne_nil hfraction
  | some digits => simp

/-- A literal without sign does not start with a minus sign. -/
theorem head?_body_ne (n : Numeral) : n.body.head? ≠ some minus := by
  rw [body, ending]
  cases hwhole : n.whole with
  | nil =>
    cases n.fraction? with
    | none => simp
    | some digits => simp [dot, minus]
  | cons c digits =>
    have hc : isDigit c = true := n.isDigit_whole c (by simp [hwhole])
    simp only [List.cons_append, List.head?_cons, ne_eq, Option.some.injEq]
    rintro rfl
    exact absurd hc (by decide)

end Numeral

/-- Bytes that stand between operands or around them: separators, quotes, brackets, and the bytes of
all operators. -/
def IsMark (c : UInt8) : Prop :=
  Scan.isSeparator c = true ∨ c = quote ∨ c = openBracket ∨ c = closeBracket ∨
    ∃ token : Token, c ∈ token.bytes

/-! ## Digits -/

/-- Every text of digits is a fraction. -/
theorem isSome_fraction?_of_isDigit {digits : Bytes} (h : ∀ c ∈ digits, isDigit c = true) :
    (fraction? digits).isSome = true := by
  induction digits with
  | nil => rfl
  | cons c digits ih =>
    obtain ⟨hc, hdigits⟩ := List.forall_mem_cons.1 h
    obtain ⟨value, hvalue⟩ := Option.isSome_iff_exists.1 (ih hdigits)
    rw [fraction?, hvalue]
    simp [hc]

/-- Digits are read before what follows them, which is read on with their value. -/
theorem whole?_append {digits : Bytes} (h : ∀ c ∈ digits, isDigit c = true) (start : Float32)
    (rest : Bytes) :
    whole? start (digits ++ rest) =
      (whole? start digits).bind fun value => whole? value rest := by
  -- the start is generalized, because every digit changes it
  induction digits generalizing start with
  | nil => rfl
  | cons c digits ih =>
    obtain ⟨hc, hdigits⟩ := List.forall_mem_cons.1 h
    rw [List.cons_append, whole?, whole?, if_pos hc, if_pos hc]
    split
    · rfl
    · exact ih hdigits _

/-- What follows the digits of the whole part is never refused. -/
theorem isSome_whole?_ending (n : Numeral) (value : Float32) :
    (whole? value n.ending).isSome = true := by
  rw [Numeral.ending]
  cases hfraction : n.fraction? with
  | none => rfl
  | some digits =>
    have hdigits := isSome_fraction?_of_isDigit (n.isDigit_fraction digits hfraction)
    change (whole? value (dot :: digits)).isSome = true
    rw [whole?, if_neg (by decide), if_pos (by decide), Option.isSome_map]
    exact hdigits

/-- A literal without sign is accepted if its whole part is. -/
theorem isSome_whole?_body (n : Numeral) :
    (whole? 0 n.body).isSome = (whole? 0 n.whole).isSome := by
  rw [Numeral.body, whole?_append n.isDigit_whole]
  cases whole? 0 n.whole with
  | none => rfl
  | some value => exact isSome_whole?_ending n value

/-! ## Signs -/

/-- A text that does not start with a minus sign is read as it is. -/
theorem single?_of_head?_ne {s : Bytes} (hne : s ≠ []) (h : s.head? ≠ some minus) :
    single? s = whole? 0 s := by
  obtain ⟨c, rest, rfl⟩ := List.exists_cons_of_ne_nil hne
  have hc : c ≠ minus := by simpa using h
  rw [single?, if_neg (by simpa using hc)]

/-- A minus sign is taken off a text that goes on after it. -/
theorem single?_minus_cons {s : Bytes} (hne : s ≠ []) :
    single? (minus :: s) = (whole? 0 s).map (- ·) := by
  rw [single?, if_pos (by decide), if_neg (by simpa using hne)]

/-- The sign does not matter for a literal to be accepted. -/
theorem isSome_single?_text (n : Numeral) :
    (single? n.text).isSome = (whole? 0 n.body).isSome := by
  rw [Numeral.text]
  split
  · rw [single?_minus_cons n.body_ne_nil, Option.isSome_map]
  · rw [single?_of_head?_ne n.body_ne_nil n.head?_body_ne]

/-- The whole part by itself is read up to its end. An empty whole part is worth zero, but is no
literal. -/
theorem isSome_whole?_whole_iff (n : Numeral) :
    (whole? 0 n.whole).isSome = true ↔ n.whole = [] ∨ (single? n.whole).isSome = true := by
  by_cases hwhole : n.whole = []
  · simp [hwhole, whole?]
  · have hminus : n.whole.head? ≠ some minus := by
      intro hhead
      exact absurd (n.isDigit_whole minus (List.mem_of_head? hhead)) (by decide)
    rw [single?_of_head?_ne hwhole hminus, or_iff_right hwhole]

/-! ## Accepted texts -/

/-- An accepted text is digits, and maybe a full stop and digits after it. -/
theorem exists_parts_of_whole? {s : Bytes} {start value : Float32}
    (h : whole? start s = some value) :
    ∃ digits rest, s = digits ++ rest ∧ (∀ c ∈ digits, isDigit c = true) ∧
      (rest = [] ∨ ∃ decimals, rest = dot :: decimals ∧ ∀ c ∈ decimals, isDigit c = true) := by
  induction s generalizing start with
  | nil => exact ⟨[], [], rfl, List.forall_mem_nil _, .inl rfl⟩
  | cons c s ih =>
    rw [whole?] at h
    split at h
    · next hdigit =>
      split at h
      · exact absurd h (by simp)
      · obtain ⟨digits, rest, rfl, hdigits, hrest⟩ := ih h
        exact ⟨c :: digits, rest, rfl, List.forall_mem_cons.2 ⟨hdigit, hdigits⟩, hrest⟩
    · split at h
      · next hdot =>
        -- the whole part ends here, and the fraction takes all the rest
        obtain ⟨fraction, hfraction, -⟩ := Option.map_eq_some_iff.1 h
        obtain rfl := eq_of_beq hdot
        exact ⟨[], dot :: s, rfl, List.forall_mem_nil _,
          .inr ⟨s, rfl, isDigit_of_fraction? hfraction⟩⟩
      · exact absurd h (by simp)

/-- An accepted text that is not empty has the form of a literal without sign. -/
theorem exists_numeral_of_whole? {s : Bytes} {start value : Float32} (hne : s ≠ [])
    (h : whole? start s = some value) (isNegative : Bool) :
    ∃ n : Numeral, n.isNegative = isNegative ∧ n.body = s := by
  obtain ⟨digits, rest, rfl, hdigits, rfl | ⟨decimals, rfl, hdecimals⟩⟩ := exists_parts_of_whole? h
  · refine ⟨⟨isNegative, digits, none, hdigits, ?_, fun _ => by simpa using hne⟩, rfl, rfl⟩
    exact fun decimals hnone => nomatch hnone
  · refine ⟨⟨isNegative, digits, some decimals, hdigits, ?_, fun hnone => nomatch hnone⟩, rfl, rfl⟩
    rintro _ ⟨⟩
    exact hdecimals

/-- An accepted text has the form of a literal. -/
theorem exists_text_of_single? {s : Bytes} {value : Float32} (h : single? s = some value) :
    ∃ n : Numeral, n.text = s := by
  cases s with
  | nil => exact absurd h (by simp [single?])
  | cons c s =>
    by_cases hminus : c = minus
    · by_cases hne : s = []
      · exact absurd h (by simp [single?, hminus, hne])
      · rw [hminus, single?_minus_cons hne] at h
        obtain ⟨magnitude, hwhole, -⟩ := Option.map_eq_some_iff.1 h
        obtain ⟨n, hnegative, rfl⟩ := exists_numeral_of_whole? hne hwhole true
        exact ⟨n, by rw [Numeral.text, hnegative, hminus]; rfl⟩
    · rw [single?_of_head?_ne (List.cons_ne_nil c s) (by simpa using hminus)] at h
      obtain ⟨n, hnegative, hbody⟩ := exists_numeral_of_whole? (List.cons_ne_nil c s) h false
      exact ⟨n, by rw [Numeral.text, hnegative, ← hbody]; rfl⟩

/-- No mark is a digit or a full stop. -/
theorem isNumeral_of_isMark {c : UInt8} (h : IsMark c) : isNumeral c = false := by
  have hseparator : ∀ c : UInt8, Scan.isSeparator c = true → isNumeral c = false := by
    apply forall_byte
    decide +kernel
  have htoken (token : Token) : ∀ c ∈ token.bytes, isNumeral c = false := by
    cases token with
    | arithmetic op => cases op <;> decide +kernel
    | relation r => cases r <;> decide +kernel
    | illegal | scriptBegin | line | unassigned => exact List.forall_mem_nil _
  rcases h with hc | rfl | rfl | rfl | ⟨token, hc⟩
  · exact hseparator c hc
  · decide
  · decide
  · decide
  · exact htoken token c hc

/-- The only mark in an accepted text is a minus sign at its start. -/
theorem not_isMark_of_single? {s : Bytes} {value : Float32} (h : single? s = some value) :
    (∀ c ∈ s.head?, IsMark c → c = minus) ∧ ∀ c ∈ s.tail, ¬IsMark c := by
  obtain ⟨body, -, hbody, hs⟩ := exists_numeral_of_single? h
  have hfree (c : UInt8) (hc : c ∈ body) : ¬IsMark c := by
    intro hmark
    exact absurd (hbody c hc) (by simp [isNumeral_of_isMark hmark])
  rcases hs with rfl | rfl
  · refine ⟨fun c hc hmark => absurd hmark (hfree c (List.mem_of_mem_head? hc)), fun c hc => ?_⟩
    exact hfree c (List.mem_of_mem_tail hc)
  · refine ⟨fun c hc _ => (Option.some.inj hc).symm, fun c hc => hfree c hc⟩

/-- A text is accepted only if it has the form of a floating point literal, and then it has no
separator, quote, bracket or operator in it besides a minus sign at its start. A text of that form
is accepted exactly if its whole part is empty or is accepted by itself, so neither the sign nor the
fraction decides. -/
theorem single?_accepts_numerals (s : Bytes) :
    ((single? s).isSome = true →
      (∃ n : Numeral, n.text = s) ∧
        (∀ c ∈ s.head?, IsMark c → c = minus) ∧ ∀ c ∈ s.tail, ¬IsMark c) ∧
    ∀ n : Numeral, n.text = s →
      ((single? s).isSome = true ↔ n.whole = [] ∨ (single? n.whole).isSome = true) := by
  refine ⟨fun hsome => ?_, ?_⟩
  · obtain ⟨value, hvalue⟩ := Option.isSome_iff_exists.1 hsome
    exact ⟨exists_text_of_single? hvalue, not_isMark_of_single? hvalue⟩
  · rintro n rfl
    rw [isSome_single?_text, isSome_whole?_body]
    exact isSome_whole?_whole_iff n

/-- A sum of money that is owed. -/
def debt : Numeral where
  isNegative := true
  whole := ascii "12"
  fraction? := some (ascii "50")
  isDigit_whole := by decide +kernel
  isDigit_fraction := by decide +kernel
  whole_ne_nil := by decide

/-- The sum is accepted, because twelve is. -/
theorem single?_accepts_numerals_debt :
    debt.text = ascii "-12.50" ∧ (single? (ascii "12")).isSome = true ∧
      (single? (ascii "-12.50")).isSome = true ∧ ∀ c ∈ ascii "12.50", ¬IsMark c := by
  have htwelve : (single? (ascii "12")).isSome = true := by decide +kernel
  have haccepted := ((single?_accepts_numerals (ascii "-12.50")).2 debt rfl).2 (.inr htwelve)
  have hmarks := ((single?_accepts_numerals (ascii "-12.50")).1 haccepted).2.2
  exact ⟨rfl, htwelve, haccepted, hmarks⟩

/-- A whole part that is too large is refused with every fraction. -/
example : single? (ascii "3402823500000000000000000000000000000000") = none ∧
    single? (ascii "-3402823500000000000000000000000000000000.5") = none ∧
    (single? (ascii "-.")).isSome = true := by decide +kernel

end MorrowindScript.Literal
