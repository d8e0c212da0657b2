import MorrowindScript.Proofs.Script.Verify
import MorrowindScript.Proofs.Text.Hex
import MorrowindScript.Script.Stored

/-!
# Compiled scripts survive in a data set

A data set keeps the names of the locals in three lists and the bytecode as digits. A compiled script
that was put into a data set this way is read back as it was, and passes verification.

## Main definitions

* `Script.record`: the record of a script in a data set.

## Main results

* `ScriptRecord.script_eq_of_shows`: a record is read back with its lists joined and its digits read.
* `Script.script_record_of_compile`: the record of a compiled script is read back as the script, which
  passes verification.
-/

namespace MorrowindScript

open Bytes

/-- A record whose text shows the digits of bytecode is read back with that bytecode, and with the
names of the locals in one list. -/
theorem ScriptRecord.script_eq_of_shows {record : ScriptRecord} {data : Bytes}
    (h : Hex.Shows record.data (Hex.encode data)) :
    record.script = .ok
      { id := record.id
        shorts := record.shorts.length
        longs := record.longs.length
        floats := record.floats.length
        locals := record.shorts ++ record.longs ++ record.floats
        data := data
        text := record.text } := by
  rw [script, Hex.decode_remove_of_shows h]
  rfl

namespace Script

/-- The record of a script in a data set, with the given text for its bytecode. The names of the
locals are divided by their numbers: shorts come first, floats last and longs between them. -/
def record (s : Script) (data : Bytes) : ScriptRecord where
  id := s.id
  shorts := s.locals.take s.shorts.toNat
  longs := (s.locals.drop s.shorts.toNat).take s.longs.toNat
  floats := s.locals.drop (s.locals.length - s.floats.toNat)
  text := s.text
  data := data

/-- The names of the locals of a compiled script are divided into those of each kind. -/
theorem record_script (p : Program) (data : Bytes) :
    p.script.record data =
      { id := p.id, shorts := p.locals.shorts, longs := p.locals.longs, floats := p.locals.floats,
        text := p.source, data := data } := by
  have hnames : p.script.locals = p.locals.shorts ++ (p.locals.longs ++ p.locals.floats) :=
    List.append_assoc ..
  have hfloats : p.script.locals.length - p.locals.floats.length =
      (p.locals.shorts ++ p.locals.longs).length := by
    rw [hnames]
    simp only [List.length_append]
    omega
  rw [record]
  congr 1
  · show p.script.locals.take p.locals.shorts.length = _
    rw [hnames, List.take_left]
  · show (p.script.locals.drop p.locals.shorts.length).take p.locals.longs.length = _
    rw [hnames, List.drop_left, List.take_left]
  · show p.script.locals.drop (p.script.locals.length - p.locals.floats.length) = _
    rw [hfloats]
    exact List.drop_left

/-- A compiled script survives in a data set. Its record, with its bytecode laid out in digits of
either case with white space anywhere, is read back as the same script, and the script read back
passes verification with the tables it was compiled with. -/
theorem script_record_of_compile {tables : Tables} {source : Bytes} {p : Program} {data : Bytes}
    (h : (Program.compile tables source).result = .ok p)
    (hdata : Hex.Shows data (Hex.encode p.script.data)) :
    ∃ stored, (p.script.record data).script = .ok stored ∧ stored = p.script ∧
      (stored.verify tables).result = .ok () := by
  refine ⟨p.script, ?_, rfl, result_verify_script h⟩
  rw [record_script]
  exact ScriptRecord.script_eq_of_shows hdata

/-- A script with locals of two kinds. -/
def ledger : Bytes :=
  joinWith [lineFeed] (List.map ascii
    ["begin Ledger", "float share", "long sum", "set sum to 2", "end"])

/-- Its bytecode, with digits in both cases, a line for each statement and a tab inside a byte. -/
def ledgerDigits : Bytes :=
  ascii "05 01 6C 0\t1 00 02 20 32\n0101 "

theorem script_record_of_compile_ledger :
    ∃ p, (Program.compile .empty ledger).result = .ok p ∧
      Hex.Shows ledgerDigits (Hex.encode p.script.data) ∧
      (p.script.record ledgerDigits).longs = [ascii "sum"] ∧
      (p.script.record ledgerDigits).script = .ok p.script ∧
      (p.script.verify .empty).result = .ok () := by
  obtain ⟨p, hp, hfacts⟩ : ∃ p, (Program.compile .empty ledger).result = .ok p ∧
      (Hex.encode p.script.data, (p.script.record ledgerDigits).longs) =
        (lower (ledgerDigits.filter (!WhiteSpace.isAsciiSpace ·)), [ascii "sum"]) :=
    Outcome.exists_result_eq_ok_of_map (by decide +kernel)
  obtain ⟨hdigits, hlongs⟩ := Prod.mk.inj hfacts
  have hshows : Hex.Shows ledgerDigits (Hex.encode p.script.data) := by
    rw [hdigits]
    exact Hex.shows_lower_filter ledgerDigits
  obtain ⟨stored, hstored, rfl, hverify⟩ := script_record_of_compile hp hshows
  exact ⟨p, hp, hshows, hlongs, hstored, hverify⟩

end Script

end MorrowindScript
