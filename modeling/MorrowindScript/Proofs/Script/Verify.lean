import MorrowindScript.Proofs.Program.Derivation
import MorrowindScript.Script.Verify
import Mathlib.Order.Nat
import Mathlib.Tactic.ByContra

/-!
# Verification is exact

A script on record is accepted exactly if its source compiles to a script that agrees with it in all
that is compared. Otherwise the verdict tells which of three things happened: the source does not
compile, names or locals differ, or only the bytecode differs, and then it gives the first place at
which it does.

## Main definitions

* `DiffersAt`: the first place at which two texts differ.
* `Script.SameHead`: two scripts agree in all that is compared before the bytecode.
* `Script.IsVerdict`: the verdict on a script on record, given the fresh script.

## Main results

* `firstDifference_eq_some_iff`: what is searched for is found, and nothing else.
* `Script.isVerdict_verify`: verification gives the error of the compiler or the right verdict. It
  accepts what was compiled, and finds each byte that was changed afterwards.
-/

namespace MorrowindScript

open Bytes

/-! ## The first difference of two texts -/

/-- Place `k` is the first at which two texts differ: both have at least `k` bytes and the same `k`
bytes before it, and either both have a byte there, not the same, or exactly one of them ends there. -/
structure DiffersAt (a b : Bytes) (k : Nat) : Prop where
  left : k ≤ a.length
  right : k ≤ b.length
  before : a.take k = b.take k
  differ : (∃ c d, a[k]? = some c ∧ b[k]? = some d ∧ c ≠ d) ∨ Xor (a.length = k) (b.length = k)

/-- At the first place where two texts differ they do not have the same byte or end. -/
theorem DiffersAt.getElem?_ne {a b : Bytes} {k : Nat} (h : DiffersAt a b k) : a[k]? ≠ b[k]? := by
  intro hsame
  rcases h.differ with ⟨c, d, hc, hd, hne⟩ | hends
  · rw [hc, hd] at hsame
    exact hne (Option.some.inj hsame)
  · -- a text that has no byte at `k` ends there, since it has at least `k` bytes
    have hleft : a.length = k ↔ a[k]? = none := by
      rw [List.getElem?_eq_none_iff]
      exact ⟨fun h => h.le, fun hle => Nat.le_antisymm hle h.left⟩
    have hright : b.length = k ↔ b[k]? = none := by
      rw [List.getElem?_eq_none_iff]
      exact ⟨fun h => h.le, fun hle => Nat.le_antisymm hle h.right⟩
    rw [hleft, hright, hsame] at hends
    rcases hends with ⟨hend, hno⟩ | ⟨hend, hno⟩
    · exact hno hend
    · exact hno hend

/-- Texts that start with different bytes differ at once. -/
theorem differsAt_zero_of_ne {c d : UInt8} (h : c ≠ d) (a b : Bytes) :
    DiffersAt (c :: a) (d :: b) 0 where
  left := Nat.zero_le _
  right := Nat.zero_le _
  before := rfl
  differ := .inl ⟨c, d, rfl, rfl, h⟩

/-- A byte that two texts start with moves their first difference on. -/
theorem DiffersAt.cons {a b : Bytes} {k : Nat} (h : DiffersAt a b k) (c : UInt8) :
    DiffersAt (c :: a) (c :: b) (k + 1) where
  left := Nat.succ_le_succ h.left
  right := Nat.succ_le_succ h.right
  before := by rw [List.take_succ_cons, List.take_succ_cons, h.before]
  differ := by simpa using h.differ

/-- Two texts differ at one place first. -/
theorem DiffersAt.unique {a b : Bytes} {k l : Nat} (hk : DiffersAt a b k) (hl : DiffersAt a b l) :
    k = l := by
  -- before a first difference there is no other
  have hle {i j : Nat} (hi : DiffersAt a b i) (hj : DiffersAt a b j) : i ≤ j := by
    by_contra hlt
    apply hj.getElem?_ne
    have hbyte := congrArg (·[j]?) hi.before
    rwa [List.getElem?_take_of_lt (by omega), List.getElem?_take_of_lt (by omega)] at hbyte
  exact Nat.le_antisymm (hle hk hl) (hle hl hk)

theorem firstDifference_eq_none_iff {a b : Bytes} : firstDifference a b = none ↔ a = b := by
  fun_induction firstDifference a b with
  | case1 => simp
  | case2 c a d b hcd ih =>
    rw [Option.map_eq_none_iff, ih, eq_of_beq hcd, List.cons_inj_right]
  | case3 c a d b hcd =>
    have hne : c ≠ d := by simpa using hcd
    simp [hne]
  | case4 a b hnil hcons =>
    -- one of the texts has ended and the other has not
    simp only [reduceCtorEq, false_iff]
    rintro rfl
    cases a with
    | nil => exact hnil rfl rfl
    | cons c a => exact hcons c a c a rfl rfl

theorem differsAt_of_firstDifference {a b : Bytes} {k : Nat} (h : firstDifference a b = some k) :
    DiffersAt a b k := by
  fun_induction firstDifference a b generalizing k with
  | case1 => nomatch h
  | case2 c a d b hcd ih =>
    obtain ⟨l, hl, rfl⟩ := Option.map_eq_some_iff.1 h
    rw [eq_of_beq hcd]
    exact (ih hl).cons d
  | case3 c a d b hcd =>
    obtain rfl := Option.some.inj h
    exact differsAt_zero_of_ne (by simpa using hcd) a b
  | case4 a b hnil hcons =>
    obtain rfl := Option.some.inj h
    refine ⟨Nat.zero_le _, Nat.zero_le _, rfl, .inr ?_⟩
    rw [List.length_eq_zero_iff, List.length_eq_zero_iff]
    cases a with
    | nil => exact .inl ⟨rfl, hnil rfl⟩
    | cons c a =>
      cases b with
      | nil => exact .inr ⟨rfl, List.cons_ne_nil c a⟩
      | cons d b => exact absurd rfl (hcons c a d b rfl)

/-- The search finds the first difference, and finds one wherever there is one. -/
theorem firstDifference_eq_some_iff {a b : Bytes} {k : Nat} :
    firstDifference a b = some k ↔ DiffersAt a b k := by
  constructor
  · exact differsAt_of_firstDifference
  · intro h
    obtain ⟨l, hl⟩ : ∃ l, firstDifference a b = some l := by
      rw [← Option.ne_none_iff_exists', Ne, firstDifference_eq_none_iff]
      rintro rfl
      exact h.getElem?_ne rfl
    rw [hl, (differsAt_of_firstDifference hl).unique h]

/-- A text differs from itself with one byte changed where the byte was changed. -/
theorem differsAt_set {s : Bytes} {k : Nat} {c : UInt8} (hk : k < s.length)
    (hc : s[k]? ≠ some c) : DiffersAt s (s.set k c) k where
  left := hk.le
  right := by rw [List.length_set]; exact hk.le
  before := (List.take_set_of_le le_rfl).symm
  differ := by
    refine .inl ⟨s[k], c, List.getElem?_eq_getElem hk, List.getElem?_set_self hk, ?_⟩
    rintro rfl
    exact hc (List.getElem?_eq_getElem hk)

/-! ## The verdict -/

namespace Script

/-- Two scripts agree in all that is compared before the bytecode: their names up to case, the
numbers of their locals, and the names of their locals. -/
structure SameHead (fresh stored : Script) : Prop where
  id : CaseFold.equalFold fresh.id stored.id = true
  shorts : fresh.shorts = stored.shorts
  longs : fresh.longs = stored.longs
  floats : fresh.floats = stored.floats
  locals : fresh.locals = stored.locals

/-- The verdict on a script on record, given the script its source compiles to. A difference is
reported under the name on record, with a place in the bytecode only if nothing else differs. -/
structure IsVerdict (fresh stored : Script) (verdict : Except VerifyError Unit) : Prop where
  ok_iff : verdict = .ok () ↔ fresh.SameHead stored ∧ fresh.data = stored.data
  head : ¬ fresh.SameHead stored →
    ∃ difference, verdict = .error (.mismatch stored.id difference) ∧ difference.offset? = none
  bytecode : fresh.SameHead stored → fresh.data ≠ stored.data →
    ∃ difference k, verdict = .error (.mismatch stored.id difference) ∧
      difference.offset? = some k ∧ DiffersAt fresh.data stored.data k

variable {fresh stored : Script}

theorem counts_eq_iff : fresh.counts = stored.counts ↔
    fresh.shorts = stored.shorts ∧ fresh.longs = stored.longs ∧ fresh.floats = stored.floats := by
  simp [counts]

theorem SameHead.refl (s : Script) : s.SameHead s where
  id := by simp [CaseFold.equalFold]
  shorts := rfl
  longs := rfl
  floats := rfl
  locals := rfl

/-- The bytecode is compared if nothing else differs. -/
theorem SameHead.mismatch?_eq (h : fresh.SameHead stored) :
    fresh.mismatch? stored = (firstDifference fresh.data stored.data).map fun offset =>
      .bytecode offset fresh.data.length fresh.digest stored.data.length := by
  have hcounts : fresh.counts = stored.counts := counts_eq_iff.2 ⟨h.shorts, h.longs, h.floats⟩
  rw [mismatch?, if_neg (by simp [h.id]), if_neg (not_not.2 hcounts), if_neg (not_not.2 h.locals)]

/-- Scripts that differ in what is compared before the bytecode do so without a place in it. -/
theorem exists_mismatch?_of_not_sameHead (h : ¬ fresh.SameHead stored) :
    ∃ difference, fresh.mismatch? stored = some difference ∧ difference.offset? = none := by
  rw [mismatch?]
  -- the comparisons in their order: if all of them agree, so do the scripts
  split
  · exact ⟨_, rfl, rfl⟩
  · next hid =>
    split
    · exact ⟨_, rfl, rfl⟩
    · next hcounts =>
      split
      · exact ⟨_, rfl, rfl⟩
      · next hlocals =>
        obtain ⟨hshorts, hlongs, hfloats⟩ := counts_eq_iff.1 (not_not.1 hcounts)
        exact absurd ⟨by simpa using hid, hshorts, hlongs, hfloats, not_not.1 hlocals⟩ h

/-- A source that does not compile cannot be verified, for the reason it does not compile. -/
theorem result_verify_of_error {tables : Tables} {e : CompileError}
    (h : (Program.compile tables stored.text).result = .error e) :
    (verify tables stored).result = .error (.compile e) := by
  rw [verify, Outcome.mapError]
  simp only [h]
  rfl

/-- The verdict is the first difference from the fresh script. -/
theorem result_verify_of_ok {tables : Tables} {p : Program}
    (h : (Program.compile tables stored.text).result = .ok p) :
    (verify tables stored).result =
      (p.script.mismatch? stored).elim (.ok ()) fun d => .error (.mismatch stored.id d) := by
  rw [verify, Outcome.mapError]
  simp only [h]
  cases hd : p.script.mismatch? stored <;> simp [Except.mapError, Outcome.fail, hd]

/-- The first difference, if there is one, makes the right verdict. -/
theorem isVerdict_mismatch? (fresh stored : Script) :
    IsVerdict fresh stored
      ((fresh.mismatch? stored).elim (.ok ()) fun d => .error (.mismatch stored.id d)) := by
  by_cases hhead : fresh.SameHead stored
  · rw [hhead.mismatch?_eq]
    cases hdata : firstDifference fresh.data stored.data with
    | none =>
      have hsame := firstDifference_eq_none_iff.1 hdata
      exact ⟨by simp [hhead, hsame], fun hno => absurd hhead hno, fun _ hne => absurd hsame hne⟩
    | some k =>
      have hdiffers := firstDifference_eq_some_iff.1 hdata
      have hne : fresh.data ≠ stored.data := by
        intro hsame
        exact hdiffers.getElem?_ne (by rw [hsame])
      refine ⟨by simp [hne], fun hno => absurd hhead hno, fun _ _ => ⟨_, k, rfl, rfl, hdiffers⟩⟩
  · obtain ⟨difference, hdifference, hoffset⟩ := exists_mismatch?_of_not_sameHead hhead
    rw [hdifference]
    exact ⟨by simp [hhead], fun _ => ⟨difference, rfl, hoffset⟩, fun hyes => absurd hyes hhead⟩

/-- The record of a compiled script has its source. -/
theorem text_of_compile {tables : Tables} {source : Bytes} {p : Program}
    (h : (Program.compile tables source).result = .ok p) : p.script.text = source := by
  obtain ⟨-, -, -, -, -, -, hsource, -⟩ := Program.result_compile_eq_ok_iff.1 h
  exact hsource

/-- The verdict on a script whose source compiles. -/
theorem isVerdict_of_compile {tables : Tables} {p : Program}
    (h : (Program.compile tables stored.text).result = .ok p) :
    IsVerdict p.script stored (verify tables stored).result := by
  rw [result_verify_of_ok h]
  exact isVerdict_mismatch? p.script stored

/-- What was compiled passes verification with the same tables. -/
theorem result_verify_script {tables : Tables} {source : Bytes} {p : Program}
    (h : (Program.compile tables source).result = .ok p) :
    (verify tables p.script).result = .ok () := by
  rw [← text_of_compile h] at h
  exact (isVerdict_of_compile h).ok_iff.2 ⟨.refl p.script, rfl⟩

/-- Verification is exact. A script on record whose source does not compile is refused with the error
of the compiler, and any other script gets the verdict that it deserves by comparison with what its
source compiles to. In particular a compiled script is accepted, and one with a byte of its bytecode
changed is refused at that byte. -/
theorem isVerdict_verify (tables : Tables) :
    (∀ stored e, (Program.compile tables stored.text).result = .error e →
      (verify tables stored).result = .error (.compile e)) ∧
    (∀ stored p, (Program.compile tables stored.text).result = .ok p →
      IsVerdict p.script stored (verify tables stored).result) ∧
    ∀ source p, (Program.compile tables source).result = .ok p →
      (verify tables p.script).result = .ok () ∧
      ∀ k c, k < p.script.data.length → p.script.data[k]? ≠ some c →
        ∃ difference, (verify tables { p.script with data := p.script.data.set k c }).result =
          .error (.mismatch p.script.id difference) ∧ difference.offset? = some k := by
  refine ⟨fun _ _ => result_verify_of_error, fun _ _ => isVerdict_of_compile, ?_⟩
  intro source p h
  refine ⟨result_verify_script h, fun k c hk hc => ?_⟩
  rw [← text_of_compile h] at h
  -- the changed script has the same source, and agrees with the fresh one before the bytecode
  have hhead : p.script.SameHead { p.script with data := p.script.data.set k c } :=
    ⟨(SameHead.refl p.script).id, rfl, rfl, rfl, rfl⟩
  have hplace : firstDifference p.script.data (p.script.data.set k c) = some k :=
    firstDifference_eq_some_iff.2 (differsAt_set hk hc)
  have hverdict : (verify tables { p.script with data := p.script.data.set k c }).result = _ :=
    result_verify_of_ok h
  rw [hverdict, hhead.mismatch?_eq, hplace]
  exact ⟨_, rfl, rfl⟩

/-- A script with a local and an assignment. -/
def bell : Bytes :=
  joinWith [lineFeed] (List.map ascii ["begin bell", "short rung", "set rung to 1", "end"])

theorem isVerdict_verify_bell :
    ∃ p e, (Program.compile .empty bell).result = .ok p ∧
      (Program.compile .empty []).result = .error e ∧
      (verify .empty {}).result = .error (.compile e) ∧
      IsVerdict p.script { p.script with longs := 1 }
        (verify .empty { p.script with longs := 1 }).result ∧
      (verify .empty p.script).result = .ok () ∧
      ∃ difference, (verify .empty { p.script with data := p.script.data.set 2 0 }).result =
        .error (.mismatch p.script.id difference) ∧ difference.offset? = some 2 := by
  obtain ⟨hfail, hverdict, hcompiled⟩ := isVerdict_verify .empty
  obtain ⟨p, hp, hbytes⟩ : ∃ p, (Program.compile .empty bell).result = .ok p ∧
      p.script.data.take 3 = [0x05, 0x01, 0x73] :=
    Outcome.exists_result_eq_ok_of_map (by decide +kernel)
  have hempty : (Program.compile .empty []).result = .error ⟨0, .emptyScript⟩ := rfl
  obtain ⟨rest, hdata⟩ : ∃ rest, p.script.data = [0x05, 0x01, 0x73] ++ rest :=
    ⟨p.script.data.drop 3, by rw [← hbytes, List.take_append_drop]⟩
  obtain ⟨haccepted, hchanged⟩ := hcompiled bell p hp
  refine ⟨p, _, hp, hempty, hfail {} _ hempty, hverdict _ p ?_, haccepted, hchanged 2 0 ?_ ?_⟩
  · rwa [← text_of_compile hp] at hp
  · rw [hdata, List.length_append]
    exact Nat.lt_add_right _ (by decide)
  · rw [hdata]
    exact fun hzero => absurd (Option.some.inj hzero) (by decide)

end Script

end MorrowindScript
