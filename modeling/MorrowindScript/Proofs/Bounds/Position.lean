import Mathlib.Logic.Basic
import MorrowindScript.SourceLine

/-!
# Where the scanners point

A scanner reports the position of a mark, and the text is then cut at that position or after the
mark. This module says for each scanner how much text there is at the position it reports. The kind
of a line says as much: a line with a keyword is as long as its keyword and one separator.

The module introduces:

* `Scan.mark_drop_of_findUnquoted` — the mark is found at the reported position.
* `Scan.add_length_le_of_comparison`, `Scan.getElem?_of_nextOperator` — relations and operators.
* `LineKind.operandOffset_le_length`, `LineKind.exists_arrow_of_classify` — what the kind of a line
  says about its text.
-/

namespace MorrowindScript

open Bytes

namespace Scan

/-! ## Marks -/

theorem mark_drop_of_findUnquoted {mark : Bytes → Bool} {outside : Bool} {s : Bytes} {i : Nat}
    (h : findUnquoted mark outside s = some i) : mark (s.drop i) = true := by
  induction s generalizing outside i with
  | nil => simp [findUnquoted] at h
  | cons c rest ih =>
    rw [findUnquoted] at h
    split at h
    · obtain ⟨j, hj, rfl⟩ := Option.map_eq_some_iff.1 h
      exact ih hj
    · split at h
      · next hmark =>
        obtain rfl : 0 = i := Option.some.inj h
        exact (Bool.and_eq_true_iff.1 hmark).2
      · obtain ⟨j, hj, rfl⟩ := Option.map_eq_some_iff.1 h
        exact ih hj

/-- There is room for the mark where it is found. -/
theorem add_lt_length_of_findUnquoted {mark : Bytes → Bool} {outside : Bool} {s : Bytes} {i n : Nat}
    (hmark : ∀ t, mark t = true → n < t.length) (h : findUnquoted mark outside s = some i) :
    i + n < s.length := by
  have hroom := hmark _ (mark_drop_of_findUnquoted h)
  rw [List.length_drop] at hroom
  omega

theorem add_two_le_of_qualifierStart {s : Bytes} {q : Nat} (h : qualifierStart s = some q) :
    q + 2 ≤ s.length := by
  refine add_lt_length_of_findUnquoted (n := 1) (fun t ht => ?_) h
  rw [isArrow.eq_def] at ht
  split at ht
  · simp
  · exact absurd ht (by simp)

theorem lt_length_of_dotPosition {s : Bytes} {i : Nat} (h : dotPosition s = some i) :
    i < s.length := by
  refine add_lt_length_of_findUnquoted (n := 0) (fun t ht => ?_) h
  rw [isDot.eq_def] at ht
  split at ht
  · simp
  · exact absurd ht (by simp)

theorem add_four_le_of_toPosition {s : Bytes} {i : Nat} (h : toPosition s = some i) :
    i + 4 ≤ s.length := by
  refine add_lt_length_of_findUnquoted (n := 3) (fun t ht => ?_) h
  rw [isTo.eq_def] at ht
  split at ht
  · simp
  · exact absurd ht (by simp)

/-! ## Relations and operators -/

theorem length_le_of_relationAt {afterMinus : Bool} {c : UInt8} {rest : Bytes} {r : Relation}
    (h : relationAt afterMinus c rest = some r) : r.bytes.length ≤ (c :: rest).length := by
  -- the relations of two bytes are those with an equals sign after the first
  have hequals (hhead : rest.head? = some equals) : 2 ≤ (c :: rest).length := by
    cases rest with
    | nil => simp at hhead
    | cons d rest => simp
  have hsingle : 1 ≤ (c :: rest).length := by simp
  by_cases hhead : rest.head? = some equals
  · refine Nat.le_trans ?_ (hequals hhead)
    cases r <;> decide
  · rw [relationAt] at h
    simp only [hhead, beq_iff_eq, if_false] at h
    refine Nat.le_trans ?_ hsingle
    split at h
    · obtain rfl := Option.some.inj h
      decide
    · split at h
      · exact absurd h (by simp)
      · split at h
        · split at h
          · exact absurd h (by simp)
          · obtain rfl := Option.some.inj h
            decide
        · split at h <;> exact absurd h (by simp)

theorem add_length_le_of_findRelation {outside afterMinus : Bool} {s : Bytes} {i : Nat}
    {r : Relation} (h : findRelation outside afterMinus s = some (i, r)) :
    i + r.bytes.length ≤ s.length := by
  induction s generalizing outside afterMinus i with
  | nil => simp [findRelation] at h
  | cons c rest ih =>
    have hlater {outside : Bool}
        (h : (findRelation outside (c == minus) rest).map (fun found => (found.1 + 1, found.2)) =
          some (i, r)) : i + r.bytes.length ≤ (c :: rest).length := by
      obtain ⟨⟨j, r'⟩, hj, he⟩ := Option.map_eq_some_iff.1 h
      obtain ⟨rfl, rfl⟩ := Prod.mk.inj he
      have := ih hj
      rw [List.length_cons]
      omega
    rw [findRelation] at h
    split at h
    · exact hlater h
    · split at h
      · split at h
        · next hrelation =>
          obtain ⟨rfl, rfl⟩ := Prod.mk.inj (Option.some.inj h)
          simpa using length_le_of_relationAt hrelation
        · exact hlater h
      · exact hlater h

theorem add_length_le_of_comparison {s : Bytes} {i : Nat} {r : Relation}
    (h : comparison s = some (i, r)) : i + r.bytes.length ≤ s.length :=
  add_length_le_of_findRelation h

theorem eq_byte_of_ofByte? {c : UInt8} {op : Arithmetic} (h : Arithmetic.ofByte? c = some op) :
    c = op.byte := by
  simp only [Arithmetic.ofByte?, ite_eq_iff, Option.some.injEq, beq_iff_eq] at h
  rcases h with ⟨rfl, rfl⟩ | ⟨-, ⟨rfl, rfl⟩ | ⟨-, ⟨rfl, rfl⟩ | ⟨-, ⟨rfl, rfl⟩ | ⟨-, h⟩⟩⟩⟩
  · rfl
  · rfl
  · rfl
  · rfl
  · exact absurd h (by simp)

theorem getElem?_of_findOperator {outside : Bool} {depth : Int} {s : Bytes} {i : Nat}
    {op : Arithmetic} (h : findOperator outside depth s = some (i, op)) :
    s[i]? = some op.byte := by
  induction s generalizing outside depth i with
  | nil => simp [findOperator] at h
  | cons c rest ih =>
    have hlater {outside : Bool} {depth : Int}
        (h : (findOperator outside depth rest).map (fun found => (found.1 + 1, found.2)) =
          some (i, op)) : (c :: rest)[i]? = some op.byte := by
      obtain ⟨⟨j, op'⟩, hj, he⟩ := Option.map_eq_some_iff.1 h
      obtain ⟨rfl, rfl⟩ := Prod.mk.inj he
      rw [List.getElem?_cons_succ]
      exact ih hj
    rw [findOperator] at h
    split at h
    · exact hlater h
    · split at h
      · exact hlater h
      · split at h
        · exact hlater h
        · split at h
          · exact hlater h
          · split at h
            · exact hlater h
            · split at h
              · next hoperator =>
                obtain ⟨rfl, rfl⟩ := Prod.mk.inj (Option.some.inj h)
                rw [operatorAt] at hoperator
                split at hoperator
                · exact absurd hoperator (by simp)
                · rw [eq_byte_of_ofByte? hoperator]
                  rfl
              · exact hlater h

/-- The byte at the position of an operator spells it. -/
theorem getElem?_of_nextOperator {s : Bytes} {offset i : Nat} {op : Arithmetic}
    (h : nextOperator s offset = some (i, op)) : s[i]? = some op.byte := by
  obtain ⟨⟨j, op'⟩, hj, he⟩ := Option.map_eq_some_iff.1 h
  obtain ⟨rfl, rfl⟩ := Prod.mk.inj he
  have hbyte := getElem?_of_findOperator hj
  rwa [List.getElem?_drop, Nat.add_comm] at hbyte

end Scan

/-! ## Keywords -/

namespace LineKind

theorem length_lt_of_opens {word : String} {follows : UInt8 → Bool} {s : Bytes}
    (h : opens word follows s = true) : (ascii word).length < s.length := by
  rw [opens, Bool.and_eq_true_iff] at h
  refine Nat.lt_of_not_le fun hlength => ?_
  rw [List.drop_of_length_le hlength] at h
  exact absurd h.2 (by simp)

/-- A keyword that takes an operand is one byte shorter than the offset of the operand. -/
theorem operandOffset_le_of_keyword? {s : Bytes} {kind : LineKind} (h : keyword? s = some kind) :
    kind.hasKeyword = true ∧ kind.operandOffset ≤ s.length := by
  have hopens {word : String} {follows : UInt8 → Bool} {kind' : LineKind}
      (hword : opens word follows s = true) (hkind : some kind' = some kind)
      (hoffset : kind'.hasKeyword = true ∧ kind'.operandOffset ≤ (ascii word).length + 1) :
      kind.hasKeyword = true ∧ kind.operandOffset ≤ s.length := by
    have := length_lt_of_opens hword
    rw [← Option.some.inj hkind]
    exact ⟨hoffset.1, by omega⟩
  have hbare {kind' : LineKind} (hkind : some kind' = some kind)
      (hoffset : kind'.hasKeyword = true ∧ kind'.operandOffset = 0) :
      kind.hasKeyword = true ∧ kind.operandOffset ≤ s.length := by
    rw [← Option.some.inj hkind]
    exact ⟨hoffset.1, by omega⟩
  -- the keywords in the order in which they are tried
  rw [keyword?] at h
  obtain ⟨hword, hkind⟩ | ⟨-, h⟩ := ite_eq_iff.1 h
  · exact hopens hword hkind (by decide)
  obtain ⟨hword, hkind⟩ | ⟨-, h⟩ := ite_eq_iff.1 h
  · exact hopens hword hkind (by decide)
  obtain ⟨hword, hkind⟩ | ⟨-, h⟩ := ite_eq_iff.1 h
  · exact hopens hword hkind (by decide)
  obtain ⟨hword, hkind⟩ | ⟨-, h⟩ := ite_eq_iff.1 h
  · exact hopens hword hkind (by decide)
  obtain ⟨hword, hkind⟩ | ⟨-, h⟩ := ite_eq_iff.1 h
  · exact hopens hword hkind (by decide)
  obtain ⟨-, hkind⟩ | ⟨-, h⟩ := ite_eq_iff.1 h
  · exact hbare hkind (by decide)
  obtain ⟨hword, hkind⟩ | ⟨-, h⟩ := ite_eq_iff.1 h
  · exact hopens hword hkind (by decide)
  obtain ⟨hword, hkind⟩ | ⟨-, h⟩ := ite_eq_iff.1 h
  · exact hopens hword hkind (by decide)
  obtain ⟨-, hkind⟩ | ⟨-, h⟩ := ite_eq_iff.1 h
  · exact hbare hkind (by decide)
  obtain ⟨-, hkind⟩ | ⟨-, h⟩ := ite_eq_iff.1 h
  · exact hbare hkind (by decide)
  obtain ⟨hword, hkind⟩ | ⟨-, h⟩ := ite_eq_iff.1 h
  · exact hopens hword hkind (by decide)
  obtain ⟨-, hkind⟩ | ⟨-, h⟩ := ite_eq_iff.1 h
  · exact hbare hkind (by decide)
  obtain ⟨-, hkind⟩ | ⟨-, h⟩ := ite_eq_iff.1 h
  · exact hbare hkind (by decide)
  · exact absurd h (by simp)

/-- A line is at least as long as its keyword and the separator after it. -/
theorem operandOffset_le_length (s : Bytes) : (classify s).operandOffset ≤ s.length := by
  rw [classify]
  split
  · next kind hkeyword =>
    have := (operandOffset_le_of_keyword? hkeyword).2
    rwa [length_lower] at this
  · split <;> exact Nat.zero_le _

/-- A line that is a call on an object has an arrow. -/
theorem exists_arrow_of_classify {s : Bytes} (h : classify s = qualifiedCall) :
    ∃ q, Scan.qualifierStart s = some q := by
  rw [classify] at h
  split at h
  · next kind hkeyword =>
    rw [h] at hkeyword
    exact absurd (operandOffset_le_of_keyword? hkeyword).1 (by decide)
  · split at h
    · next harrow => exact Option.isSome_iff_exists.1 harrow
    · exact absurd h (by simp)

theorem operandOffset_le_of_isBegin {s : Bytes} (h : isBegin s = true) :
    Token.scriptBegin.operandOffset ≤ s.length := by
  have := length_lt_of_opens h
  rw [length_lower] at this
  exact this

end LineKind

end MorrowindScript
