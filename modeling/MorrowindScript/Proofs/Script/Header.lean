import MorrowindScript.Proofs.Bytes.Length
import MorrowindScript.Script.Basic
import Mathlib.Algebra.Order.Ring.Nat

/-!
# Headers are read back

A header has a place of fixed size for the name of a script and five numbers of fixed width after
it. A name that is too long is cut, a shorter one is filled up with zeros, and numbers wrap. So a
header says less than the script it is made of, but what it says is read back, and a header that has
nothing behind the end of its name is told by what it says.

## Main definitions

* `Script.headerInfo`: what the header of a script says.
* `Header.IsPadded`: only zeros follow the first zero of the name.
* `Header.encode`: the header that says so, with zeros after the name.

## Main results

* `Header.parse_append`: the parts of a header are read where they stand.
* `Header.eq_encode_of_parse`: a padded header is the one that is written for what it says.
* `Script.header_round_trip`: both ways.
-/

namespace MorrowindScript

open Bytes

namespace Bytes

/-- Zeros after a text make no difference to what stands before its first zero. -/
theorem takeWhile_append_replicate (s : Bytes) (n : Nat) :
    (s ++ List.replicate n 0).takeWhile (· != 0) = s.takeWhile (· != 0) := by
  have hzeros : (List.replicate n (0 : UInt8)).takeWhile (· != 0) = [] := by
    cases n <;> rfl
  rw [List.takeWhile_append, hzeros, List.append_nil]
  split
  · next hlength =>
    exact ((List.takeWhile_prefix _).eq_of_length hlength).symm
  · rfl

end Bytes

namespace Header

/-- After a zero in the place of the name there are only zeros. -/
def IsPadded (h : Bytes) : Prop :=
  (h.take idSize).Pairwise fun b c => b = 0 → c = 0

instance (h : Bytes) : Decidable (IsPadded h) :=
  inferInstanceAs (Decidable (List.Pairwise _ _))

/-- A header that says so, with zeros after the name. -/
def encode (info : Header) : Bytes :=
  idField info.id ++ littleEndian 4 info.shorts ++ littleEndian 4 info.longs ++
    littleEndian 4 info.floats ++ littleEndian 4 info.dataSize ++ littleEndian 4 info.localsSize

/-! ## Parts of a header -/

theorem length_idField (id : Bytes) : (idField id).length = idSize := by
  rw [idField, List.length_append, List.length_take, List.length_replicate]
  omega

/-- The number at a place is that of the four bytes there. -/
theorem field_append {before word : Bytes} {offset : Nat} (hbefore : before.length = offset)
    (hword : word.length = 4) (after : Bytes) :
    field (before ++ word ++ after) offset = ofLittleEndian word := by
  rw [field, ← hbefore, List.append_assoc, List.drop_left, ← hword, List.take_left]

/-- The parts of a header are read where they stand. -/
theorem parse_append {id shorts longs floats dataSize localsSize : Bytes}
    (hid : id.length = idSize) (hshorts : shorts.length = 4) (hlongs : longs.length = 4)
    (hfloats : floats.length = 4) (hdata : dataSize.length = 4) (hlocals : localsSize.length = 4) :
    parse (id ++ shorts ++ longs ++ floats ++ dataSize ++ localsSize) = .ok
      { id := id.takeWhile (· != 0)
        shorts := ofLittleEndian shorts
        longs := ofLittleEndian longs
        floats := ofLittleEndian floats
        dataSize := ofLittleEndian dataSize
        localsSize := ofLittleEndian localsSize } := by
  have hsize : (id ++ shorts ++ longs ++ floats ++ dataSize ++ localsSize).length = size := by
    simp [hid, hshorts, hlongs, hfloats, hdata, hlocals, idSize, size]
  have hname : (id ++ shorts ++ longs ++ floats ++ dataSize ++ localsSize).take idSize = id := by
    simp only [List.append_assoc, ← hid, List.take_left]
  -- each number follows the parts before it
  have h32 : field (id ++ shorts ++ (longs ++ floats ++ dataSize ++ localsSize)) 32 = _ :=
    field_append hid hshorts _
  have h36 : field (id ++ shorts ++ longs ++ (floats ++ dataSize ++ localsSize)) 36 = _ :=
    field_append (by simp [hid, hshorts, idSize]) hlongs _
  have h40 : field (id ++ shorts ++ longs ++ floats ++ (dataSize ++ localsSize)) 40 = _ :=
    field_append (by simp [hid, hshorts, hlongs, idSize]) hfloats _
  have h44 : field (id ++ shorts ++ longs ++ floats ++ dataSize ++ localsSize) 44 = _ :=
    field_append (by simp [hid, hshorts, hlongs, hfloats, idSize]) hdata _
  have h48 : field (id ++ shorts ++ longs ++ floats ++ dataSize ++ localsSize ++ []) 48 = _ :=
    field_append (by simp [hid, hshorts, hlongs, hfloats, hdata, idSize]) hlocals _
  simp only [List.append_assoc, List.append_nil] at hsize hname h32 h36 h40 h44 h48 ⊢
  rw [parse, if_neg (not_not.2 hsize), hname, h32, h36, h40, h44, h48]

/-- A text can be divided at every place. -/
theorem exists_append_of_length {s : Bytes} {m n : Nat} (h : s.length = m + n) :
    ∃ a b : Bytes, s = a ++ b ∧ a.length = m ∧ b.length = n := by
  refine ⟨s.take m, s.drop m, (List.take_append_drop m s).symm, ?_, ?_⟩
  · rw [List.length_take]
    omega
  · rw [List.length_drop]
    omega

/-- A text with the size of a header has the parts of one. -/
theorem exists_parts {h : Bytes} (hsize : h.length = size) :
    ∃ id shorts longs floats dataSize localsSize : Bytes,
      h = id ++ shorts ++ longs ++ floats ++ dataSize ++ localsSize ∧ id.length = idSize ∧
        shorts.length = 4 ∧ longs.length = 4 ∧ floats.length = 4 ∧ dataSize.length = 4 ∧
        localsSize.length = 4 := by
  obtain ⟨rest, localsSize, rfl, hrest, hlocals⟩ := exists_append_of_length (m := 48) (n := 4) hsize
  obtain ⟨rest, dataSize, rfl, hrest, hdata⟩ := exists_append_of_length (m := 44) (n := 4) hrest
  obtain ⟨rest, floats, rfl, hrest, hfloats⟩ := exists_append_of_length (m := 40) (n := 4) hrest
  obtain ⟨rest, longs, rfl, hrest, hlongs⟩ := exists_append_of_length (m := 36) (n := 4) hrest
  obtain ⟨id, shorts, rfl, hid, hshorts⟩ := exists_append_of_length (m := 32) (n := 4) hrest
  exact ⟨id, shorts, longs, floats, dataSize, localsSize, rfl, hid, hshorts, hlongs, hfloats, hdata,
    hlocals⟩

/-- A text is read as a header exactly if it has the size of one. -/
theorem exists_parse_eq_ok_iff (h : Bytes) : (∃ info, parse h = .ok info) ↔ h.length = size := by
  constructor
  · rintro ⟨info, hinfo⟩
    by_contra hsize
    rw [parse, if_pos hsize] at hinfo
    nomatch hinfo
  · intro hsize
    exact ⟨_, by rw [parse, if_neg (not_not.2 hsize)]⟩

/-! ## Padding -/

/-- A text with only zeros after its first zero is what stands before that, and zeros. -/
theorem eq_takeWhile_append_replicate {s : Bytes} (h : s.Pairwise fun b c => b = 0 → c = 0) :
    s = s.takeWhile (· != 0) ++
      List.replicate (s.length - (s.takeWhile (· != 0)).length) 0 := by
  induction s with
  | nil => rfl
  | cons b s ih =>
    obtain ⟨hb, hs⟩ := List.pairwise_cons.1 h
    by_cases hzero : b = 0
    · -- all bytes are zero from here on
      have hall : s = List.replicate s.length 0 :=
        List.eq_replicate_of_mem fun c hc => hb c hc hzero
      rw [hzero, List.takeWhile_cons_of_neg (by simp), List.nil_append, List.length_nil,
        Nat.sub_zero, List.length_cons, List.replicate_succ, ← hall]
    · rw [List.takeWhile_cons_of_pos (by simpa using hzero), List.cons_append, List.length_cons,
        List.length_cons, Nat.add_sub_add_right, ← ih hs]

/-- A padded place for the name is filled with what stands before the first zero. -/
theorem idField_takeWhile {s : Bytes} (hlength : s.length = idSize)
    (h : s.Pairwise fun b c => b = 0 → c = 0) : idField (s.takeWhile (· != 0)) = s := by
  have hle : (s.takeWhile (· != 0)).length ≤ idSize := by
    rw [← hlength]
    exact (List.takeWhile_prefix _).length_le
  rw [idField, List.take_of_length_le hle, ← hlength]
  exact (eq_takeWhile_append_replicate h).symm

/-- A padded header is the one that is written for what it says. -/
theorem eq_encode_of_parse {h : Bytes} {info : Header} (hpadded : IsPadded h)
    (hinfo : parse h = .ok info) : h = info.encode := by
  obtain ⟨id, shorts, longs, floats, dataSize, localsSize, rfl, hid, hshorts, hlongs, hfloats,
    hdata, hlocals⟩ := exists_parts ((exists_parse_eq_ok_iff h).1 ⟨info, hinfo⟩)
  have hname : id.Pairwise fun b c => b = 0 → c = 0 := by
    simpa only [IsPadded, List.append_assoc, ← hid, List.take_left] using hpadded
  -- the four bytes of a number are those that are written for it
  have hword {word : Bytes} (hlength : word.length = 4) :
      littleEndian 4 (ofLittleEndian word) = word := by
    rw [← hlength]
    exact littleEndian_ofLittleEndian word
  rw [parse_append hid hshorts hlongs hfloats hdata hlocals] at hinfo
  obtain rfl := Except.ok.inj hinfo
  rw [encode, idField_takeWhile hid hname, hword hshorts, hword hlongs, hword hfloats, hword hdata,
    hword hlocals]

end Header

namespace Script

/-- What the header of a script says: the name up to its first zero, as far as it fits, and the
numbers modulo `2 ^ 32`. -/
def headerInfo (s : Script) : Header where
  id := (s.id.take 32).takeWhile (· != 0)
  shorts := (s.shorts % 2 ^ 32).toNat
  longs := (s.longs % 2 ^ 32).toNat
  floats := (s.floats % 2 ^ 32).toNat
  dataSize := s.data.length % 2 ^ 32
  localsSize := (s.locals.map fun name => name.length + 1).sum % 2 ^ 32

/-- The local names with a zero after each. -/
theorem localsSize_eq_sum (s : Script) :
    s.localsSize = (s.locals.map fun name => name.length + 1).sum := by
  rw [localsSize]
  induction s.locals with
  | nil => rfl
  | cons name names ih => rw [List.foldr_cons, ih, List.map_cons, List.sum_cons]

/-- The header of a script is read back. -/
theorem parse_header (s : Script) : Header.parse s.header = .ok s.headerInfo := by
  have hname : (Header.idField s.id).takeWhile (· != 0) = (s.id.take 32).takeWhile (· != 0) :=
    takeWhile_append_replicate _ _
  have hcount (n : Nat) : ((n : Int) % (256 ^ 4 : Nat)).toNat = n % 2 ^ 32 := by omega
  rw [header, Header.parse_append (Header.length_idField s.id) (length_littleEndianInt 4 _)
    (length_littleEndianInt 4 _) (length_littleEndianInt 4 _) (length_littleEndianInt 4 _)
    (length_littleEndianInt 4 _)]
  simp only [ofLittleEndian_littleEndianInt, hname, hcount, localsSize_eq_sum]
  rfl

/-- A header has 52 bytes and is read back: the name up to its first zero, as far as it fits, and
the numbers modulo `2 ^ 32`. Just the texts of 52 bytes are headers, and two headers that say the
same and have only zeros after the first zero of their names are equal. -/
theorem header_round_trip :
    (∀ s : Script, s.header.length = 52 ∧ Header.parse s.header = .ok s.headerInfo) ∧
    (∀ h : Bytes, (∃ info, Header.parse h = .ok info) ↔ h.length = 52) ∧
    ∀ (h h' : Bytes) (info : Header), Header.IsPadded h → Header.IsPadded h' →
      Header.parse h = .ok info → Header.parse h' = .ok info → h = h' := by
  refine ⟨fun s => ⟨?_, parse_header s⟩, Header.exists_parse_eq_ok_iff, ?_⟩
  · exact (Header.exists_parse_eq_ok_iff s.header).1 ⟨_, parse_header s⟩
  · intro h h' info hpadded hpadded' hinfo hinfo'
    rw [Header.eq_encode_of_parse hpadded hinfo, Header.eq_encode_of_parse hpadded' hinfo']

/-- Two scripts with long names, and with numbers of shorts that differ by `2 ^ 32`. -/
def namesake (ending : String) (shorts : Int) : Script where
  id := ascii ("TheLongNameOfAScriptThatGoesOn" ++ ending)
  shorts := shorts
  locals := [ascii "door", ascii "key"]
  data := [0x01, 0x01]

/-- The headers of the two scripts say the same, so they are equal. -/
theorem header_round_trip_namesakes :
    namesake "Forever" (-1) ≠ namesake "Forth" 4294967295 ∧
    (namesake "Forever" (-1)).header = (namesake "Forth" 4294967295).header ∧
    (namesake "Forever" (-1)).headerInfo.shorts = 4294967295 ∧
    (namesake "Forever" (-1)).headerInfo.id = ascii "TheLongNameOfAScriptThatGoesOnFo" := by
  obtain ⟨hread, -, hunique⟩ := header_round_trip
  refine ⟨by decide, hunique _ _ _ (by decide) (by decide) (hread _).2 ?_, by decide, by decide⟩
  rw [(hread _).2]
  decide

end Script

end MorrowindScript
