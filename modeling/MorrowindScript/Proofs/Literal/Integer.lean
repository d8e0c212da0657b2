import MorrowindScript.Literal.Integer
import MorrowindScript.Proofs.Bytes.Length
import Mathlib.Data.Nat.Digits.Defs

/-!
# Integer literals are read exactly

Digits are read from left to right into an accumulator, which is tested before it is multiplied by
ten and before a digit is added, so that it never grows beyond the limit. The first test compares it
with the tenth part of the limit, rounded down. The module shows that the tests refuse exactly the
literals that are worth more than the limit, and that the accumulator fits a machine word.

## Main definitions

* `decimalValue`: what digits are worth, by their places.
* `IsInteger`: a text is a literal within a limit, and what it is worth.
* `wordInteger`: reads a literal into a machine word, which wraps, and lists what the word holds.
* `ReadsInWords`: the machine word agrees with the number and is never beyond the limit.

## Main results

* `digits?_eq_some_iff`, `integer?_eq_some_iff`: which texts are accepted, with which value.
* `wordDigits_of_isWithin`: what a machine word holds while digits are read.
* `integers_read_exactly`: short and long literals.
-/

namespace MorrowindScript.Literal

open Bytes

/-- The number that digits stand for, the last of them in the place of the units. -/
def decimalValue (digits : Bytes) : Nat :=
  Nat.ofDigits 10 (digits.map digitValue).reverse

/-- The text is an optional minus sign and at least one digit, the digits are worth at most `limit`,
and `v` is what they are worth, with the sign. -/
def IsInteger (limit : Nat) (s : Bytes) (v : Int) : Prop :=
  ∃ digits : Bytes, digits ≠ [] ∧ (∀ c ∈ digits, isDigit c = true) ∧ decimalValue digits ≤ limit ∧
    (s = digits ∧ v = decimalValue digits ∨ s = minus :: digits ∧ v = -(decimalValue digits : Int))

/-- A literal within a limit is one within every larger limit. -/
theorem IsInteger.mono {limit limit' : Nat} (hle : limit ≤ limit') {s : Bytes} {v : Int}
    (h : IsInteger limit s v) : IsInteger limit' s v := by
  obtain ⟨digits, hne, hdigits, hlimit, hsign⟩ := h
  exact ⟨digits, hne, hdigits, hlimit.trans hle, hsign⟩

/-! ## Digits -/

theorem decimalValue_nil : decimalValue [] = 0 := rfl

/-- The first digit is worth most. -/
theorem decimalValue_cons (c : UInt8) (s : Bytes) :
    decimalValue (c :: s) = digitValue c * 10 ^ s.length + decimalValue s := by
  unfold decimalValue
  rw [List.map_cons, Nat.ofDigits_reverse_cons, List.length_map, Nat.add_comm, Nat.mul_comm]

/-- A digit is worth at most nine. -/
theorem digitValue_le {c : UInt8} (h : isDigit c = true) : digitValue c ≤ 9 := by
  have hle : ∀ c : UInt8, isDigit c = true → digitValue c ≤ 9 := by
    apply forall_byte
    decide +kernel
  exact hle c h

/-- The minus sign is no digit. -/
theorem ne_minus_of_isDigit {c : UInt8} (h : isDigit c = true) : c ≠ minus := by
  rintro rfl
  exact absurd h (by decide)

/-- A digit is accepted exactly if the accumulator does not get beyond the limit by it. The tests
need no number beyond the limit for that, since `limit / 10` is the largest number that is within
the limit when multiplied by ten. -/
theorem accepts_digit_iff {limit d : Nat} (value : Nat) (hd : d ≤ limit) :
    ¬(value > limit / 10 ∨ value * 10 > limit - d) ↔ value * 10 + d ≤ limit := by
  omega

/-- Digits are accepted after a number exactly if the number that they make together is within the
limit. A number beyond the limit gets no smaller by further digits, so it may be refused at once. -/
theorem digits?_eq_some_iff {limit value n : Nat} {s : Bytes} (hnine : 9 ≤ limit)
    (hvalue : value ≤ limit) :
    digits? limit value s = some n ↔
      (∀ c ∈ s, isDigit c = true) ∧ n = value * 10 ^ s.length + decimalValue s ∧ n ≤ limit := by
  induction s generalizing value with
  | nil =>
    rw [digits?, decimalValue_nil, List.length_nil, Nat.pow_zero, Nat.mul_one, Nat.add_zero,
      Option.some.injEq]
    constructor
    · rintro rfl
      exact ⟨List.forall_mem_nil _, rfl, hvalue⟩
    · rintro ⟨-, rfl, -⟩
      rfl
  | cons c s ih =>
    by_cases hdigit : isDigit c = true
    · have hd := digitValue_le hdigit
      have haccepts := accepts_digit_iff value (hd.trans hnine)
      -- reading on from the new number gives the same sum
      have hshift : (value * 10 + digitValue c) * 10 ^ s.length + decimalValue s =
          value * 10 ^ (c :: s).length + decimalValue (c :: s) := by
        rw [decimalValue_cons, List.length_cons, Nat.pow_succ']
        ring
      by_cases hfits : value * 10 + digitValue c ≤ limit
      · have htests := haccepts.2 hfits
        rw [not_or, not_lt, not_lt] at htests
        rw [digits?, if_neg (by simp [hdigit, htests]), ih hfits, hshift, List.forall_mem_cons]
        simp [hdigit]
      · have hrefused : value > limit / 10 ∨ value * 10 > limit - digitValue c := by
          by_contra hneither
          exact hfits (haccepts.1 hneither)
        rw [digits?, if_pos (by simpa [hdigit] using hrefused)]
        refine iff_of_false (by simp) ?_
        rintro ⟨-, rfl, hlimit⟩
        -- the digits that follow would have to take the number back below the limit
        have hgrows : value * 10 + digitValue c ≤
            (value * 10 + digitValue c) * 10 ^ s.length + decimalValue s :=
          (Nat.le_mul_of_pos_right _ (by positivity)).trans (Nat.le_add_right _ _)
        rw [hshift] at hgrows
        exact hfits (hgrows.trans hlimit)
    · rw [digits?, if_pos (by simp [hdigit])]
      refine iff_of_false (by simp) ?_
      rintro ⟨hall, -, -⟩
      exact hdigit (hall c List.mem_cons_self)

/-- The digits of a literal are accepted if they are worth no more than the limit. -/
theorem digits?_zero_eq_some_iff {limit n : Nat} {s : Bytes} (hnine : 9 ≤ limit) :
    digits? limit 0 s = some n ↔
      (∀ c ∈ s, isDigit c = true) ∧ decimalValue s ≤ limit ∧ n = decimalValue s := by
  rw [digits?_eq_some_iff hnine (Nat.zero_le limit), Nat.zero_mul, Nat.zero_add]
  constructor
  · rintro ⟨hdigits, rfl, hlimit⟩
    exact ⟨hdigits, hlimit, rfl⟩
  · rintro ⟨hdigits, hlimit, rfl⟩
    exact ⟨hdigits, rfl, hlimit⟩

/-- The value of a literal without sign, and with one. -/
theorem integer?_cons (limit : Nat) (c : UInt8) (s : Bytes) :
    integer? limit (c :: s) =
      if c = minus then
        if s = [] then none else (digits? limit 0 s).map fun n : Nat => -(n : Int)
      else (digits? limit 0 (c :: s)).map fun n : Nat => (n : Int) := by
  simp only [integer?, beq_iff_eq, List.isEmpty_iff]
  split
  · cases digits? limit 0 s <;> rfl
  · cases digits? limit 0 (c :: s) <;> rfl

/-- A text is accepted exactly if it is a literal within the limit, with the value of that. -/
theorem integer?_eq_some_iff {limit : Nat} (hnine : 9 ≤ limit) {s : Bytes} {v : Int} :
    integer? limit s = some v ↔ IsInteger limit s v := by
  unfold IsInteger
  cases s with
  | nil =>
    refine iff_of_false (by simp [integer?]) ?_
    rintro ⟨digits, hne, -, -, ⟨rfl, -⟩ | ⟨hs, -⟩⟩
    · exact hne rfl
    · exact absurd hs (by simp)
  | cons c s =>
    rw [integer?_cons]
    by_cases hminus : c = minus
    · -- after a sign there must be digits, and the sign itself is none
      rw [if_pos hminus]
      subst hminus
      constructor
      · intro h
        split at h
        · exact absurd h (by simp)
        · next hne =>
          obtain ⟨n, hn, rfl⟩ := Option.map_eq_some_iff.1 h
          obtain ⟨hdigits, hlimit, rfl⟩ := (digits?_zero_eq_some_iff hnine).1 hn
          exact ⟨s, hne, hdigits, hlimit, .inr ⟨rfl, rfl⟩⟩
      · rintro ⟨digits, hne, hdigits, hlimit, ⟨rfl, -⟩ | ⟨hs, rfl⟩⟩
        · exact absurd rfl (ne_minus_of_isDigit (hdigits minus List.mem_cons_self))
        · obtain rfl : s = digits := (List.cons.inj hs).2
          rw [if_neg hne, (digits?_zero_eq_some_iff hnine).2 ⟨hdigits, hlimit, rfl⟩]
          rfl
    · rw [if_neg hminus, Option.map_eq_some_iff]
      constructor
      · rintro ⟨n, hn, rfl⟩
        obtain ⟨hdigits, hlimit, rfl⟩ := (digits?_zero_eq_some_iff hnine).1 hn
        exact ⟨c :: s, by simp, hdigits, hlimit, .inl ⟨rfl, rfl⟩⟩
      · rintro ⟨digits, -, hdigits, hlimit, ⟨rfl, rfl⟩ | ⟨hs, -⟩⟩
        · exact ⟨_, (digits?_zero_eq_some_iff hnine).2 ⟨hdigits, hlimit, rfl⟩, rfl⟩
        · exact absurd (List.cons.inj hs).1 hminus

/-! ## Machine words -/

/-- The value of a digit as a machine word. -/
def digitWord (c : UInt8) : Int64 :=
  Int64.ofNat (digitValue c)

/-- Reads further digits after those worth `value` into a machine word, whose arithmetic wraps. The
result comes with everything that the word holds on the way: it is multiplied by ten first, and then
the digit is added. -/
def wordDigits (limit : Int64) : Int64 → Bytes → List Int64 × Option Int64
  | value, [] => ([], some value)
  | value, c :: rest =>
    if !isDigit c || value > limit / 10 then ([], none)
    else if value * 10 > limit - digitWord c then ([value * 10], none)
    else
      let later := wordDigits limit (value * 10 + digitWord c) rest
      (value * 10 :: (value * 10 + digitWord c) :: later.1, later.2)

/-- Reads an integer literal into a machine word, with everything that the word holds before the
sign is given to it. -/
def wordInteger (limit : Int64) : Bytes → List Int64 × Option Int64
  | [] => ([], none)
  | c :: rest =>
    if c = minus then
      if rest = [] then ([], none)
      else ((wordDigits limit 0 rest).1, (wordDigits limit 0 rest).2.map (- ·))
    else wordDigits limit 0 (c :: rest)

/-- Read into a machine word, the text is worth what it is worth as a number, and the word is never
beyond the limit. -/
structure ReadsInWords (limit : Nat) (s : Bytes) : Prop where
  /-- The word is read exactly if the number is, and is equal to it. -/
  toInt_eq : (wordInteger (Int64.ofNat limit) s).2.map Int64.toInt = integer? limit s
  /-- The word is between zero and the limit. -/
  le_of_mem : ∀ w ∈ (wordInteger (Int64.ofNat limit) s).1, 0 ≤ w ∧ w ≤ Int64.ofNat limit

/-- The limit as a machine word, and a number within it. -/
structure IsWithin (limit : Int64) (bound : Nat) (value : Int64) (n : Nat) : Prop where
  /-- The word of the limit. -/
  toInt_limit : limit.toInt = bound
  /-- The limit is at least the largest digit. -/
  nine_le : 9 ≤ bound
  /-- The word of the number. -/
  toInt_value : value.toInt = n
  /-- The number is within the limit. -/
  le : n ≤ bound

namespace IsWithin

variable {limit value : Int64} {bound n : Nat} {c : UInt8}

/-- A machine word holds numbers below `2 ^ 63`. -/
theorem bound_lt (h : IsWithin limit bound value n) : (bound : Int) < 2 ^ 63 := by
  rw [← h.toInt_limit]
  exact Int64.toInt_lt limit

/-- The first test on the word is the one on the number. -/
theorem gt_div_iff (h : IsWithin limit bound value n) : value > limit / 10 ↔ n > bound / 10 := by
  have hne : limit ≠ Int64.minValue := by
    rintro rfl
    have := h.toInt_limit
    rw [Int64.toInt_minValue] at this
    omega
  have hten : (10 : Int64).toInt = 10 := by decide
  have hdiv : (limit / 10).toInt = ((bound / 10 : Nat) : Int) := by
    rw [Int64.toInt_div_of_ne_left _ _ hne, h.toInt_limit, hten]
    rfl
  rw [gt_iff_lt, Int64.lt_iff_toInt_lt, hdiv, h.toInt_value]
  exact Int.ofNat_lt

/-- Once the first test is passed the word can be multiplied by ten. -/
theorem toInt_mul_ten (h : IsWithin limit bound value n) (hn : n ≤ bound / 10) :
    (value * 10).toInt = (n * 10 : Nat) := by
  have hbound := h.bound_lt
  have hten : (10 : Int64).toInt = 10 := by decide
  rw [Int64.toInt_mul, h.toInt_value, hten, Int.bmod_eq_of_le (by omega) (by omega)]
  rfl

theorem toInt_digitWord (hc : isDigit c = true) : (digitWord c).toInt = digitValue c := by
  have hd := digitValue_le hc
  exact Int64.toInt_ofNat_of_lt (by omega)

/-- The second test on the word is the one on the number. -/
theorem mul_ten_gt_iff (h : IsWithin limit bound value n) (hn : n ≤ bound / 10)
    (hc : isDigit c = true) :
    value * 10 > limit - digitWord c ↔ n * 10 > bound - digitValue c := by
  have hbound := h.bound_lt
  have hnine := h.nine_le
  have hd := digitValue_le hc
  have hsub : (limit - digitWord c).toInt = ((bound - digitValue c : Nat) : Int) := by
    rw [Int64.toInt_sub, h.toInt_limit, toInt_digitWord hc, Int.bmod_eq_of_le (by omega) (by omega)]
    omega
  rw [gt_iff_lt, Int64.lt_iff_toInt_lt, hsub, h.toInt_mul_ten hn]
  exact Int.ofNat_lt

/-- Once both tests are passed the digit can be added, and the word is within the limit again. -/
theorem add_digit (h : IsWithin limit bound value n) (hc : isDigit c = true)
    (hfits : n * 10 + digitValue c ≤ bound) :
    IsWithin limit bound (value * 10 + digitWord c) (n * 10 + digitValue c) := by
  have hbound := h.bound_lt
  have hmul := h.toInt_mul_ten (by omega)
  refine ⟨h.toInt_limit, h.nine_le, ?_, hfits⟩
  rw [Int64.toInt_add, hmul, toInt_digitWord hc, Int.bmod_eq_of_le (by omega) (by omega)]
  rfl

end IsWithin

/-- The machine word ends up with the number that is read, and is refused where the number is. All
that it holds on the way is between zero and the limit. -/
theorem wordDigits_of_isWithin {limit value : Int64} {bound n : Nat} {s : Bytes}
    (h : IsWithin limit bound value n) :
    (wordDigits limit value s).2.map Int64.toInt =
        (digits? bound n s).map (fun m : Nat => (m : Int)) ∧
      ∀ w ∈ (wordDigits limit value s).1, 0 ≤ w ∧ w ≤ limit := by
  -- the induction is on the digits; what the word holds before each of them is within the limit
  induction s generalizing value n with
  | nil => exact ⟨congrArg some h.toInt_value, List.forall_mem_nil _⟩
  | cons c s ih =>
    -- a word of a number within the limit is between zero and the limit
    have hheld {w : Int64} {m : Nat} (hw : w.toInt = m) (hm : m ≤ bound) : 0 ≤ w ∧ w ≤ limit := by
      rw [Int64.le_iff_toInt_le, Int64.le_iff_toInt_le, hw, h.toInt_limit]
      exact ⟨Int.natCast_nonneg m, Int.ofNat_le.2 hm⟩
    by_cases hrefused : isDigit c = true ∧ n ≤ bound / 10
    · obtain ⟨hdigit, htenth⟩ := hrefused
      have hfirst : ¬(!isDigit c || decide (value > limit / 10)) = true := by
        simp [hdigit, h.gt_div_iff, htenth]
      have hproduct := hheld (h.toInt_mul_ten htenth) (by omega)
      have hsecond := h.mul_ten_gt_iff htenth hdigit
      rw [wordDigits, if_neg hfirst]
      by_cases hover : n * 10 > bound - digitValue c
      · rw [if_pos (hsecond.2 hover), digits?, if_pos (by simp [hover])]
        exact ⟨rfl, by simpa using hproduct⟩
      · have hd := digitValue_le hdigit
        have hnine := h.nine_le
        have hnext := h.add_digit hdigit (by omega)
        rw [if_neg (fun hgt => hover (hsecond.1 hgt)), digits?,
          if_neg (by simp [hdigit, htenth, hover])]
        obtain ⟨hresult, hlater⟩ := ih hnext
        exact ⟨hresult, List.forall_mem_cons.2 ⟨hproduct,
          List.forall_mem_cons.2 ⟨hheld hnext.toInt_value hnext.le, hlater⟩⟩⟩
    · have hfirst : (!isDigit c || decide (value > limit / 10)) = true := by
        simpa [h.gt_div_iff, imp_iff_not_or] using hrefused
      rw [wordDigits, if_pos hfirst, digits?, if_pos ?_]
      · exact ⟨rfl, List.forall_mem_nil _⟩
      · simp only [h.gt_div_iff] at hfirst
        rw [hfirst]
        rfl

/-- Every literal can be read into a machine word that holds the limit. -/
theorem readsInWords {limit : Nat} (hnine : 9 ≤ limit) (hlimit : limit < 2 ^ 63) (s : Bytes) :
    ReadsInWords limit s := by
  have hzero : IsWithin (Int64.ofNat limit) limit 0 0 :=
    ⟨Int64.toInt_ofNat_of_lt hlimit, hnine, Int64.toInt_zero, Nat.zero_le limit⟩
  have hread (digits : Bytes) := wordDigits_of_isWithin (s := digits) hzero
  cases s with
  | nil => exact ⟨rfl, List.forall_mem_nil _⟩
  | cons c s =>
    by_cases hminus : c = minus
    · by_cases hempty : s = []
      · refine ⟨?_, ?_⟩ <;> simp [wordInteger, integer?_cons, hminus, hempty]
      · obtain ⟨hresult, hheld⟩ := hread s
        refine ⟨?_, by simpa [wordInteger, hminus, hempty] using hheld⟩
        simp only [wordInteger, integer?_cons, if_pos hminus, if_neg hempty]
        cases hword : (wordDigits (Int64.ofNat limit) 0 s).2 with
        | none =>
          rw [hword, Option.map_none, eq_comm, Option.map_eq_none_iff] at hresult
          rw [hresult]
          rfl
        | some w =>
          rw [hword, Option.map_some, eq_comm] at hresult
          obtain ⟨n, hn, hnw⟩ := Option.map_eq_some_iff.1 hresult
          -- the word is not negative, so its negative does not wrap
          have hneg : (-w).toInt = -(n : Int) := by
            have hlt := Int64.toInt_lt w
            rw [Int64.toInt_neg, ← hnw, Int.bmod_eq_of_le (by omega) (by omega)]
          rw [hn, Option.map_some, Option.map_some, Option.map_some, hneg]
    · obtain ⟨hresult, hheld⟩ := hread (c :: s)
      refine ⟨?_, by simpa [wordInteger, hminus] using hheld⟩
      rw [wordInteger, if_neg hminus, integer?_cons, if_neg hminus, hresult]

/-- Integer literals are read exactly. A text is a short or a long literal if and only if it is an
optional minus sign and at least one digit, worth at most 32767 or 2147483647, and it is read as
what the digits are worth, with the sign. The 64-bit word that the digits are read into is never
beyond that limit. So a short literal is also a long literal, and worth the same. -/
theorem integers_read_exactly (s : Bytes) :
    (∀ v, short? s = some v ↔ IsInteger 32767 s v) ∧
    (∀ v, long? s = some v ↔ IsInteger 2147483647 s v) ∧
    ReadsInWords maxShort s ∧ ReadsInWords maxLong s ∧
    ∀ v, short? s = some v → long? s = some v := by
  have hshort (v : Int) : short? s = some v ↔ IsInteger 32767 s v :=
    integer?_eq_some_iff (by decide)
  have hlong (v : Int) : long? s = some v ↔ IsInteger 2147483647 s v :=
    integer?_eq_some_iff (by decide)
  refine ⟨hshort, hlong, readsInWords (by decide) (by decide) s,
    readsInWords (by decide) (by decide) s, fun v hv => ?_⟩
  exact (hlong v).2 (((hshort v).1 hv).mono (by decide))

/-- Leading zeros do not matter, and the last literal within the limit is followed by none. -/
example : short? (ascii "-00032767") = some (-32767) ∧ short? (ascii "32768") = none ∧
    short? (ascii "-") = none := by decide +kernel

end MorrowindScript.Literal
