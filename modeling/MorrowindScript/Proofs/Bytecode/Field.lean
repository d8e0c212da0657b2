import MorrowindScript.Proofs.Bytes.Length
import MorrowindScript.Datum

/-!
# Fields that say by their own bytes how long they are

A field describes the bytes of an operand so far as its length is concerned: a fixed number of
bytes, a count followed by that many items, or one of two forms told apart by a tag byte. The module
introduces:

* `Field`, `Field.skip`: fields, and what is left of a text behind a field.
* `Field.Covers`, `CoversAll`: the pieces a field, or a list of fields, takes off any text that
  starts with them.
* `Field.exists_covers_of_skip`: a field that takes a piece off a text takes the same piece off
  every text that starts with it, so skipping looks at nothing else.
-/

namespace MorrowindScript

open Bytes

/-- The form of an operand, so far as its length is concerned. -/
inductive Field where
  /-- A fixed number of bytes. -/
  | bytes (n : Nat)
  /-- A count in `width` bytes, and that many items. -/
  | repeated (width : Nat) (item : Field)
  /-- Two fields one after the other. -/
  | seq (first second : Field)
  /-- After the byte `tag` the field `marked`, and otherwise the field `other`, which takes at least
  the byte that was looked at. -/
  | tagged (tag : UInt8) (marked other : Field)
  deriving DecidableEq, Repr

/-- Skips `n` items one after another. -/
def skipTimes (skip : Bytes → Option Bytes) : Nat → Bytes → Option Bytes
  | 0, s => some s
  | n + 1, s => do
    let rest ← skip s
    skipTimes skip n rest

/-- What is left of a text behind a field at its start. -/
def Field.skip : Field → Bytes → Option Bytes
  | bytes n, s => if n ≤ s.length then some (s.drop n) else none
  | repeated width item, s =>
    -- the count is read from the bytes before the items
    if width ≤ s.length then
      skipTimes item.skip (ofLittleEndian (s.take width)) (s.drop width)
    else none
  | seq first second, s => do
    let rest ← first.skip s
    second.skip rest
  | tagged tag marked other, s =>
    match s with
    | [] => none
    | c :: rest =>
      if c = tag then marked.skip rest
      else (other.skip (c :: rest)).filter fun left => left.length ≤ rest.length

/-- What is left of a text behind fields at its start. -/
def skipAll : List Field → Bytes → Option Bytes
  | [], s => some s
  | field :: fields, s => do
    let rest ← field.skip s
    skipAll fields rest

/-- The field takes the piece, and nothing else, off every text that starts with the piece. -/
def Field.Covers (field : Field) (piece : Bytes) : Prop :=
  ∀ rest, field.skip (piece ++ rest) = some rest

/-- The fields take the piece, and nothing else, off every text that starts with the piece. -/
def CoversAll (fields : List Field) (piece : Bytes) : Prop :=
  ∀ rest, skipAll fields (piece ++ rest) = some rest

/-! ## Common fields -/

namespace Field

/-- A text after its length in one byte. -/
def text : Field := .repeated 1 (.bytes 1)

/-- A text after its length in two bytes. -/
def text16 : Field := .repeated 2 (.bytes 1)

/-- As many bytes as it says. -/
theorem covers_bytes {n : Nat} {piece : Bytes} (h : piece.length = n) :
    (bytes n).Covers piece := by
  intro rest
  have hle : n ≤ (piece ++ rest).length := by
    rw [List.length_append]
    omega
  rw [skip, if_pos hle, ← h, List.drop_left]

/-- Two fields take off two pieces. -/
theorem Covers.seq {first second : Field} {piece piece' : Bytes} (h : first.Covers piece)
    (h' : second.Covers piece') : (Field.seq first second).Covers (piece ++ piece') := by
  intro rest
  rw [skip, List.append_assoc, h (piece' ++ rest)]
  exact h' rest

/-- The form after the tag. -/
theorem Covers.tag {marked : Field} {piece : Bytes} (h : marked.Covers piece) (tag : UInt8)
    (other : Field) : (tagged tag marked other).Covers (tag :: piece) := by
  intro rest
  rw [List.cons_append, skip]
  simp [h rest]

/-- The form without the tag. -/
theorem Covers.noTag {tag c : UInt8} {other : Field} {piece : Bytes}
    (h : other.Covers (c :: piece)) (hc : c ≠ tag) (marked : Field) :
    (tagged tag marked other).Covers (c :: piece) := by
  intro rest
  have hother : other.skip (c :: (piece ++ rest)) = some rest := h rest
  rw [List.cons_append, skip, if_neg hc, hother]
  simp

/-- Items are skipped one after another. -/
theorem skipTimes_flatten {item : Field} {items : List Bytes}
    (h : ∀ piece ∈ items, item.Covers piece) (rest : Bytes) :
    skipTimes item.skip items.length (items.flatten ++ rest) = some rest := by
  induction items with
  | nil => rfl
  | cons piece items ih =>
    -- what follows the first item is the other items and the rest
    obtain ⟨hpiece, hitems⟩ := List.forall_mem_cons.1 h
    rw [List.length_cons, skipTimes, List.flatten_cons, List.append_assoc, hpiece]
    exact ih hitems

/-- A count that fits its width, before that many items. -/
theorem covers_repeated {width : Nat} {item : Field} {items : List Bytes} {count : Bytes}
    (hcount : count.length = width) (hitems : ofLittleEndian count = items.length)
    (h : ∀ piece ∈ items, item.Covers piece) :
    (repeated width item).Covers (count ++ items.flatten) := by
  intro rest
  have hle : width ≤ (count ++ items.flatten ++ rest).length := by
    rw [List.append_assoc, List.length_append]
    omega
  rw [skip, if_pos hle, List.append_assoc, ← hcount, List.take_left, List.drop_left, hitems]
  exact skipTimes_flatten h rest

/-- A count that fits its width, before that many bytes. -/
theorem covers_counted {width : Nat} {count s : Bytes} (hcount : count.length = width)
    (hlength : ofLittleEndian count = s.length) :
    (repeated width (bytes 1)).Covers (count ++ s) := by
  -- the items are the bytes of the text, one by one
  have hflatten : (s.map fun c => [c]).flatten = s := by
    rw [← List.flatMap_def, List.flatMap_singleton']
  rw [← hflatten]
  refine covers_repeated hcount (by simpa using hlength) fun piece hpiece => ?_
  obtain ⟨c, -, rfl⟩ := List.mem_map.1 hpiece
  exact covers_bytes rfl

/-- The length byte of a short text is its length. -/
theorem ofLittleEndian_singleton {n : Nat} (h : n < 256) :
    ofLittleEndian [UInt8.ofNat n] = n := by
  simp [ofLittleEndian, Nat.mod_eq_of_lt h]

/-- A text whose length fits in one byte. -/
theorem covers_textWithLength {s : Bytes} (h : s.length < 256) :
    text.Covers (textWithLength s) :=
  covers_counted rfl (ofLittleEndian_singleton h)

/-- A text whose length fits in two bytes. -/
theorem covers_textWithLength16 {s : Bytes} (h : s.length < 65536) :
    text16.Covers (textWithLength16 s) := by
  refine covers_counted (length_littleEndian 2 _) ?_
  rw [ofLittleEndian_littleEndian]
  exact Nat.mod_eq_of_lt h

/-- A text whose length with the zero at its end fits in one byte. -/
theorem covers_zeroTerminated {s : Bytes} (h : s.length + 1 < 256) :
    text.Covers (zeroTerminated s) := by
  have hlength : (s ++ [0]).length = s.length + 1 := by simp
  have := covers_textWithLength (s := s ++ [0]) (by rwa [hlength])
  rwa [textWithLength, hlength] at this

/-- A count of zero is made of zeros. -/
theorem covers_zeros (width : Nat) (item : Field) :
    (repeated width item).Covers (List.replicate width 0) := by
  have h : (repeated width item).Covers (List.replicate width 0 ++ [].flatten) :=
    covers_repeated List.length_replicate (ofLittleEndian_replicate_zero width) (by simp)
  simpa using h

/-! ## Skipping looks at the skipped piece only -/

/-- Skipped items are the pieces of some text, one for each. -/
theorem exists_items_of_skipTimes {item : Field}
    (hitem : ∀ s rest, item.skip s = some rest → ∃ piece, s = piece ++ rest ∧ item.Covers piece)
    {n : Nat} {s rest : Bytes} (h : skipTimes item.skip n s = some rest) :
    ∃ items : List Bytes, items.length = n ∧ s = items.flatten ++ rest ∧
      ∀ piece ∈ items, item.Covers piece := by
  induction n generalizing s with
  | zero => exact ⟨[], rfl, by simpa [skipTimes] using h, by simp⟩
  | succ n ih =>
    obtain ⟨between, hfirst, hlater⟩ := Option.bind_eq_some_iff.1 h
    obtain ⟨piece, rfl, hpiece⟩ := hitem s between hfirst
    obtain ⟨items, rfl, rfl, hitems⟩ := ih hlater
    exact ⟨piece :: items, rfl, by simp, List.forall_mem_cons.2 ⟨hpiece, hitems⟩⟩

/-- A field that takes a piece off one text takes it off every text that starts with it. -/
theorem exists_covers_of_skip {field : Field} {s rest : Bytes} (h : field.skip s = some rest) :
    ∃ piece, s = piece ++ rest ∧ field.Covers piece := by
  induction field generalizing s rest with
  | bytes n =>
    rw [skip] at h
    split at h
    · next hle =>
      obtain rfl := Option.some.inj h
      exact ⟨s.take n, (List.take_append_drop n s).symm, covers_bytes (List.length_take_of_le hle)⟩
    · exact absurd h (by simp)
  | repeated width item ih =>
    rw [skip] at h
    split at h
    · next hle =>
      -- the same count comes before any rest, so the same number of items is skipped
      obtain ⟨items, hlength, hs, hitems⟩ := exists_items_of_skipTimes (fun _ _ => ih) h
      refine ⟨s.take width ++ items.flatten, ?_,
        covers_repeated (List.length_take_of_le hle) hlength.symm hitems⟩
      rw [List.append_assoc, ← hs, List.take_append_drop]
    · exact absurd h (by simp)
  | seq first second ihFirst ihSecond =>
    obtain ⟨between, hfirst, hsecond⟩ := Option.bind_eq_some_iff.1 h
    obtain ⟨piece, rfl, hpiece⟩ := ihFirst hfirst
    obtain ⟨piece', rfl, hpiece'⟩ := ihSecond hsecond
    exact ⟨piece ++ piece', (List.append_assoc _ _ _).symm, hpiece.seq hpiece'⟩
  | tagged tag marked other ihMarked ihOther =>
    cases s with
    | nil => exact absurd h (by simp [skip])
    | cons c s =>
      rw [skip] at h
      split at h
      · next htag =>
        obtain ⟨piece, rfl, hpiece⟩ := ihMarked h
        exact ⟨c :: piece, rfl, htag ▸ hpiece.tag c other⟩
      · next htag =>
        obtain ⟨hother, hshorter⟩ := Option.filter_eq_some_iff.1 h
        obtain ⟨piece, hs, hpiece⟩ := ihOther hother
        cases piece with
        | nil =>
          -- nothing was taken, which the length of what is left rules out
          have hlength : (c :: s).length = rest.length := congrArg List.length hs
          simp only [List.length_cons, decide_eq_true_eq] at hlength hshorter
          omega
        | cons d piece =>
          obtain ⟨rfl, rfl⟩ := List.cons.inj hs
          exact ⟨c :: piece, rfl, hpiece.noTag htag marked⟩

end Field

/-! ## Lists of fields -/

/-- No fields take nothing. -/
theorem coversAll_nil : CoversAll [] [] := fun _ => rfl

/-- The first field takes the first piece, and the others take the rest. -/
theorem Field.Covers.cons {field : Field} {fields : List Field} {piece piece' : Bytes}
    (h : field.Covers piece) (h' : CoversAll fields piece') :
    CoversAll (field :: fields) (piece ++ piece') := by
  intro rest
  rw [skipAll, List.append_assoc, h (piece' ++ rest)]
  exact h' rest

/-- A field and a piece for it. -/
theorem coversAll_singleton {field : Field} {piece : Bytes} (h : field.Covers piece) :
    CoversAll [field] piece := by
  have hall := h.cons coversAll_nil
  rwa [List.append_nil] at hall

/-- Fields that take a piece off one text take it off every text that starts with it. -/
theorem exists_coversAll_of_skipAll {fields : List Field} {s rest : Bytes}
    (h : skipAll fields s = some rest) : ∃ piece, s = piece ++ rest ∧ CoversAll fields piece := by
  induction fields generalizing s with
  | nil => exact ⟨[], by simpa [skipAll] using h, coversAll_nil⟩
  | cons field fields ih =>
    obtain ⟨between, hfirst, hlater⟩ := Option.bind_eq_some_iff.1 h
    obtain ⟨piece, rfl, hpiece⟩ := Field.exists_covers_of_skip hfirst
    obtain ⟨piece', rfl, hpiece'⟩ := ih hlater
    exact ⟨piece ++ piece', (List.append_assoc _ _ _).symm, hpiece.cons hpiece'⟩

end MorrowindScript
