import MorrowindScript.Scan
import Mathlib.Algebra.Order.Group.Nat

/-!
# Lengths and little-endian numbers

The operations that cut a text never make it longer, and a little-endian number that fits its width
can be read back.

* `forall_byte`: a property of bytes is checked on the numbers below 256.
* `length_stripQuotes_le`, `length_le_of_mem_fields`: cut texts are no longer than the text.
* `ofLittleEndian_littleEndian`, `ofLittleEndian_littleEndianInt`: fixed-width numbers are read back
  modulo their range.
* `littleEndian_ofLittleEndian`: bytes are written again for the number they stand for.
-/

namespace MorrowindScript

namespace Bytes

/-- What holds of the bytes of all numbers below 256 holds of all bytes. -/
theorem forall_byte {P : UInt8 → Prop} (h : ∀ n < 256, P (UInt8.ofNat n)) (c : UInt8) : P c := by
  have hc := h c.toNat c.toNat_lt
  rwa [UInt8.ofNat_toNat] at hc

/-- Without the quotes around it a text is no longer. -/
theorem length_stripQuotes_le (s : Bytes) : s.stripQuotes.length ≤ s.length := by
  cases s with
  | nil => simp [stripQuotes]
  | cons c rest =>
    rw [stripQuotes]
    split
    · simp only [List.length_dropLast, List.length_cons]
      omega
    · exact le_rfl

/-- A number is read back modulo the range of its width. -/
theorem ofLittleEndian_littleEndian (width n : Nat) :
    ofLittleEndian (littleEndian width n) = n % 256 ^ width := by
  induction width generalizing n with
  | zero => simp [littleEndian, ofLittleEndian, Nat.mod_one]
  | succ width ih =>
    have hbyte : (UInt8.ofNat (n % 256)).toNat = n % 256 := by
      rw [UInt8.toNat_ofNat']
      exact Nat.mod_eq_of_lt (Nat.mod_lt n (by decide))
    rw [littleEndian, ofLittleEndian, ih, hbyte, Nat.pow_succ', Nat.mod_mul]

/-- Bytes are written again for the number that they stand for. -/
theorem littleEndian_ofLittleEndian (s : Bytes) : littleEndian s.length (ofLittleEndian s) = s := by
  induction s with
  | nil => rfl
  | cons b s ih =>
    have hb : b.toNat < 256 := b.toNat_lt
    have hmod : (b.toNat + 256 * ofLittleEndian s) % 256 = b.toNat := by omega
    have hdiv : (b.toNat + 256 * ofLittleEndian s) / 256 = ofLittleEndian s := by omega
    rw [ofLittleEndian, List.length_cons, littleEndian, hmod, hdiv, ih, UInt8.ofNat_toNat]

/-- Zeros are the bytes of zero. -/
theorem ofLittleEndian_replicate_zero (width : Nat) :
    ofLittleEndian (List.replicate width 0) = 0 := by
  induction width with
  | zero => rfl
  | succ width ih => simp [List.replicate_succ, ofLittleEndian, ih]

/-- The range of a width in bits and in bytes. -/
theorem two_pow_eight_mul (width : Nat) : 2 ^ (8 * width) = 256 ^ width := by
  rw [Nat.pow_mul]

/-- A small number in two's complement has the bytes of the number itself. -/
theorem littleEndianInt_natCast (width : Nat) {n : Nat} (h : n < 256 ^ width) :
    littleEndianInt width n = littleEndian width n := by
  rw [littleEndianInt, BitVec.ofInt_natCast, BitVec.toNat_ofNat, two_pow_eight_mul,
    Nat.mod_eq_of_lt h]

/-- An integer in two's complement is read back as a number, modulo the range of its width. -/
theorem ofLittleEndian_littleEndianInt (width : Nat) (v : Int) :
    ofLittleEndian (littleEndianInt width v) = (v % (256 ^ width : Nat)).toNat := by
  have hlt : (v % (256 ^ width : Nat)).toNat < 256 ^ width := by
    have hpos : (0 : Int) < (256 ^ width : Nat) := by exact_mod_cast Nat.pow_pos (by decide)
    have hmod := Int.emod_lt_of_pos v hpos
    have hnonneg := Int.emod_nonneg v hpos.ne'
    omega
  rw [littleEndianInt, ofLittleEndian_littleEndian, BitVec.toNat_ofInt, two_pow_eight_mul,
    Nat.mod_eq_of_lt hlt]

@[simp]
theorem length_littleEndianInt (width : Nat) (v : Int) :
    (littleEndianInt width v).length = width :=
  length_littleEndian width _

end Bytes

namespace Scan

/-- The pieces of a cut text are no longer than the text. -/
theorem length_le_of_mem_cut (inside : Bool) (s : Bytes) :
    (cut inside s).1.length ≤ s.length ∧ ∀ p ∈ (cut inside s).2, p.length ≤ s.length := by
  induction s generalizing inside with
  | nil => simp [cut]
  | cons c rest ih =>
    -- the piece in progress grows by at most the byte read, and finished pieces stay as they are
    have hlater (inside : Bool) :
        ∀ p ∈ (cut inside rest).2, p.length ≤ (c :: rest).length := fun p hp =>
      Nat.le_succ_of_le ((ih inside).2 p hp)
    rw [cut]
    split
    · exact ⟨Nat.succ_le_succ (ih _).1, hlater _⟩
    · split
      · refine ⟨Nat.zero_le _, fun p hp => ?_⟩
        rcases List.mem_cons.1 hp with rfl | hp
        · exact Nat.le_succ_of_le (ih inside).1
        · exact hlater inside p hp
      · exact ⟨Nat.succ_le_succ (ih _).1, hlater _⟩

/-- The name and the parameters of a call are no longer than the call. -/
theorem length_le_of_mem_fields {s p : Bytes} (h : p ∈ fields s) : p.length ≤ s.length := by
  obtain ⟨q, hq, rfl⟩ := List.mem_map.1 h
  have hcut := length_le_of_mem_cut false s
  have hle : q.length ≤ s.length := by
    rcases List.mem_cons.1 (List.mem_filter.1 hq).1 with rfl | hq
    · exact hcut.1
    · exact hcut.2 q hq
  exact (Bytes.length_stripQuotes_le q).trans hle

end Scan

end MorrowindScript
