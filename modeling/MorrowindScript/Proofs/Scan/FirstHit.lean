import MorrowindScript.Proofs.Bounds.Position
import MorrowindScript.Proofs.Bytes.Length
import MorrowindScript.Proofs.Scan.Word
import MorrowindScript.Proofs.Search
import Mathlib.Algebra.Group.Nat.Even
import Mathlib.Data.List.Induction

/-!
# First hits of the scanners

The scanners go through a text from left to right and keep track of quotes, brackets and the byte
before. Each of them reports the first position outside quotes at which there is what it looks for,
also in texts whose quotes or brackets are never closed. What a scanner remembers is told by the
text it has read, so that it may be started in the middle of a text wherever it would remember there
what it remembers at a start.

## Main definitions

* `Scan.IsUnquoted`: an even number of quotes precede a position.
* `Scan.StandsAt`, `Scan.ToStandsAt`, `Scan.IsLongestAt`, `Scan.IsOperatorPosition`: what is looked
  for stands at a position.
* `Scan.markScanner`, `Scan.relationScanner`, `Scan.operatorScanner`: the scanners by what they
  remember and what they look for.

## Main results

* `Scan.findUnquoted_eq_run`, `Scan.findRelation_eq_run`, `Scan.findOperator_eq_run`: the scanners
  are searches in one pass.
* `Scan.relationScanner_after`, `Scan.operatorScanner_after`: what they remember, by what they have
  read.
* `Scan.isFirst_nextOperator`: an operator is found also from a position behind closed brackets.
* `Scan.scanners_find_first`: the scanners report first positions, and agree with each other when
  they are resumed or when the text is cut.
-/

namespace MorrowindScript

open Bytes

namespace Scan

/-! ## Positions -/

/-- An even number of quotes precede the position. -/
def IsUnquoted (s : Bytes) (i : Nat) : Prop :=
  Even ((s.take i).count quote)

instance (s : Bytes) (i : Nat) : Decidable (IsUnquoted s i) :=
  inferInstanceAs (Decidable (Even ((s.take i).count quote)))

/-- The bytes of `word` stand at the position. -/
def StandsAt (word s : Bytes) (i : Nat) : Prop :=
  word <+: s.drop i

/-- A blank stands at the position, before the word `to` in any case and another blank. -/
def ToStandsAt (s : Bytes) (i : Nat) : Prop :=
  ∃ before t o behind, StandsAt [before, t, o, behind] s i ∧ isBlank before = true ∧
    t ∈ ascii "tT" ∧ o ∈ ascii "oO" ∧ isBlank behind = true

/-- The relation stands at the position. A single `>` after a minus sign is none. -/
def RelationStandsAt (r : Relation) (s : Bytes) (i : Nat) : Prop :=
  StandsAt r.bytes s i ∧ (r = .gt → (s.take i).getLast? ≠ some minus)

/-- The relation stands at the position, and no longer one does. -/
def IsLongestAt (r : Relation) (s : Bytes) (i : Nat) : Prop :=
  RelationStandsAt r s i ∧ ∀ r', RelationStandsAt r' s i → r'.bytes.length ≤ r.bytes.length

/-- The operator stands at the position. A minus sign before `>` is none. -/
def OperatorStandsAt (op : Arithmetic) (s : Bytes) (i : Nat) : Prop :=
  s[i]? = some op.byte ∧ (op = .sub → s[i + 1]? ≠ some greater)

/-- How often the byte stands in the text outside quotes. -/
def unquotedCount (c : UInt8) (s : Bytes) : Nat :=
  (List.range s.length).countP fun i => s[i]? = some c ∧ IsUnquoted s i

/-- An operator stands at the position, outside quotes and after as many opening as closing brackets
outside quotes. -/
def IsOperatorPosition (s : Bytes) (i : Nat) : Prop :=
  IsUnquoted s i ∧
    unquotedCount openBracket (s.take i) = unquotedCount closeBracket (s.take i) ∧
      ∃ op, OperatorStandsAt op s i

theorem isUnquoted_iff {s : Bytes} {i : Nat} : IsUnquoted s i ↔ isBalanced (s.take i) = true := by
  rw [IsUnquoted, Nat.even_iff, isBalanced, beq_iff_eq]

/-! ## The scanners as searches in one pass -/

/-- The side of the quotes after a byte. -/
def side (outside : Bool) (c : UInt8) : Bool :=
  if c = quote then !outside else outside

/-- The search for a mark outside quotes remembers the side of the quotes. -/
def markScanner (mark : Bytes → Bool) : Scanner Bool UInt8 Unit where
  next := side
  found? outside c rest := if outside && mark (c :: rest) then some () else none

/-- The search for a relation also remembers whether the last byte is a minus sign. -/
def relationScanner : Scanner (Bool × Bool) UInt8 Relation where
  next := fun (outside, _) c => (side outside c, c == minus)
  found? := fun (outside, afterMinus) c rest =>
    if outside then relationAt afterMinus c rest else none

/-- The search for an operator remembers how many brackets are open outside quotes. -/
def operatorScanner : Scanner (Bool × Int) UInt8 Arithmetic where
  next := fun (outside, depth) c =>
    (side outside c, if outside then depth + bracketDepth [c] else depth)
  found? := fun (outside, depth) c rest =>
    if outside = true ∧ depth = 0 then operatorAt c rest else none

/-- One step of the search for a mark. -/
theorem findUnquoted_cons {mark : Bytes → Bool} (hmark : ∀ rest, mark (quote :: rest) = false)
    (outside : Bool) (c : UInt8) (rest : Bytes) :
    findUnquoted mark outside (c :: rest) =
      if outside && mark (c :: rest) then some 0
      else (findUnquoted mark (side outside c) rest).map (· + 1) := by
  rw [findUnquoted]
  by_cases hquote : c = quote
  · simp [side, hquote, hmark]
  · simp [side, hquote]

/-- One step of the search for a relation. -/
theorem findRelation_cons (outside afterMinus : Bool) (c : UInt8) (rest : Bytes) :
    findRelation outside afterMinus (c :: rest) =
      (relationScanner.found? (outside, afterMinus) c rest).elim
        ((findRelation (side outside c) (c == minus) rest).map fun (i, r) => (i + 1, r))
        fun r => some (0, r) := by
  rw [findRelation]
  by_cases hquote : c = quote
  · -- a quote is no relation
    have hnone : relationScanner.found? (outside, afterMinus) quote rest = none := ite_self _
    simp [side, hquote, hnone]
  · cases outside with
    | false => simp [relationScanner, side, hquote]
    | true =>
      simp only [relationScanner, side, hquote, beq_iff_eq, if_false, if_true]
      cases relationAt afterMinus c rest with
      | none => rfl
      | some r => rfl

/-- One step of the search for an operator. -/
theorem findOperator_cons (outside : Bool) (depth : Int) (c : UInt8) (rest : Bytes) :
    findOperator outside depth (c :: rest) =
      (operatorScanner.found? (outside, depth) c rest).elim
        ((findOperator (side outside c) (if outside then depth + bracketDepth [c] else depth)
          rest).map fun (i, op) => (i + 1, op))
        fun op => some (0, op) := by
  -- quotes and brackets are no operators
  have hnone (hc : Arithmetic.ofByte? c = none) :
      operatorScanner.found? (outside, depth) c rest = none := by
    have hoperator : operatorAt c rest = none := by rw [operatorAt, hc, ite_self]
    show (if _ then operatorAt c rest else none) = none
    rw [hoperator, ite_self]
  rw [findOperator]
  by_cases hquote : c = quote
  · subst hquote
    have hzero : bracketDepth [quote] = 0 := rfl
    simp [side, hnone rfl, hzero]
  cases outside with
  | false => simp [operatorScanner, side, hquote]
  | true =>
    by_cases hopen : c = openBracket
    · subst hopen
      simp [side, hquote, hnone rfl]
    by_cases hclose : c = closeBracket
    · subst hclose
      simp [side, hquote, hopen, hnone rfl, Int.sub_eq_add_neg]
    have hzero : bracketDepth [c] = 0 := bracketDepth_cons_of_ne hopen hclose []
    by_cases hdepth : depth = 0
    · cases hoperator : operatorAt c rest with
      | none => simp [operatorScanner, side, hquote, hopen, hclose, hdepth, hzero, hoperator]
      | some op => simp [operatorScanner, side, hquote, hopen, hclose, hdepth, hoperator]
    · simp [operatorScanner, side, hquote, hopen, hclose, hdepth, hzero]

theorem findUnquoted_eq_run {mark : Bytes → Bool} (hmark : ∀ rest, mark (quote :: rest) = false)
    (outside : Bool) (s : Bytes) :
    findUnquoted mark outside s = ((markScanner mark).run outside s).map Prod.fst := by
  induction s generalizing outside with
  | nil => rfl
  | cons c rest ih =>
    rw [findUnquoted_cons hmark, ih]
    split
    · next hfound =>
      rw [Scanner.run_cons_of_some (b := ()) _ (if_pos hfound)]
      rfl
    · next hfound =>
      rw [Scanner.run_cons_of_none _ (if_neg hfound), Option.map_map, Option.map_map]
      rfl

theorem findRelation_eq_run (outside afterMinus : Bool) (s : Bytes) :
    findRelation outside afterMinus s = relationScanner.run (outside, afterMinus) s := by
  induction s generalizing outside afterMinus with
  | nil => rfl
  | cons c rest ih =>
    rw [findRelation_cons, ih, Scanner.run_cons]
    rfl

theorem findOperator_eq_run (outside : Bool) (depth : Int) (s : Bytes) :
    findOperator outside depth s = operatorScanner.run (outside, depth) s := by
  induction s generalizing outside depth with
  | nil => rfl
  | cons c rest ih =>
    rw [findOperator_cons, ih, Scanner.run_cons]
    rfl

/-! ## What the searches remember -/

/-- The side of the quotes goes by the number of quotes so far. -/
theorem isBalanced_concat (s : Bytes) (c : UInt8) :
    isBalanced (s ++ [c]) = side (isBalanced s) c := by
  rw [side, isBalanced, List.count_append]
  by_cases hquote : c = quote
  · rw [hquote, List.count_singleton_self, if_pos rfl]
    rcases Nat.mod_two_eq_zero_or_one (s.count quote) with h | h
    · simp [isBalanced, Nat.add_mod, h]
    · simp [isBalanced, Nat.add_mod, h]
  · rw [List.count_cons_of_ne hquote, List.count_nil, Nat.add_zero, if_neg hquote, isBalanced]

theorem markScanner_after (mark : Bytes → Bool) (s : Bytes) :
    (markScanner mark).after true s = isBalanced s := by
  induction s using List.reverseRecOn with
  | nil => rfl
  | append_singleton s c ih =>
    rw [Scanner.after_concat, ih, isBalanced_concat]
    rfl

theorem relationScanner_after (s : Bytes) :
    relationScanner.after (true, false) s = (isBalanced s, s.getLast? == some minus) := by
  induction s using List.reverseRecOn with
  | nil => rfl
  | append_singleton s c ih =>
    rw [Scanner.after_concat, ih, isBalanced_concat, List.getLast?_concat]
    rfl

/-- A byte at the end of a text is counted if it is outside quotes. -/
theorem unquotedCount_concat (c : UInt8) (s : Bytes) (d : UInt8) :
    unquotedCount c (s ++ [d]) =
      unquotedCount c s + if isBalanced s = true ∧ d = c then 1 else 0 := by
  -- the byte at the end has no say in what stands before it
  have hinit : (List.range s.length).countP
      (fun i => (s ++ [d])[i]? = some c ∧ IsUnquoted (s ++ [d]) i) = unquotedCount c s := by
    refine List.countP_congr fun i hi => ?_
    have hlt : i < s.length := List.mem_range.1 hi
    rw [decide_eq_true_iff, decide_eq_true_iff, List.getElem?_append_left hlt, IsUnquoted,
      IsUnquoted, List.take_append_of_le_length (Nat.le_of_lt hlt)]
  have hlast : (s ++ [d])[s.length]? = some c ∧ IsUnquoted (s ++ [d]) s.length ↔
      isBalanced s = true ∧ d = c := by
    rw [isUnquoted_iff, List.take_left, List.getElem?_concat_length, Option.some.injEq, and_comm]
  rw [unquotedCount, List.length_append, List.length_singleton, List.range_succ,
    List.countP_append, hinit, List.countP_singleton]
  simp only [hlast, decide_eq_true_eq]

/-- The depth is the number of brackets that are opened less that of those that are closed. -/
theorem operatorScanner_after (s : Bytes) :
    operatorScanner.after (true, 0) s =
      (isBalanced s, (unquotedCount openBracket s : Int) - unquotedCount closeBracket s) := by
  induction s using List.reverseRecOn with
  | nil => rfl
  | append_singleton s c ih =>
    have hdepth : bracketDepth [c] = ((if c = openBracket then 1 else 0 : Nat) : Int) -
        (if c = closeBracket then 1 else 0 : Nat) := by
      simp [bracketDepth, List.count_singleton]
    rw [Scanner.after_concat, ih, isBalanced_concat, unquotedCount_concat, unquotedCount_concat]
    refine Prod.ext rfl ?_
    -- outside quotes the byte counts on both sides, inside quotes on none
    cases hbalanced : isBalanced s with
    | false => simp [operatorScanner]
    | true =>
      simp only [operatorScanner, hdepth, true_and, if_true]
      omega

/-! ## Marks -/

theorem markScanner_hit?_iff {mark : Bytes → Bool} (hnil : mark [] = false) (s : Bytes) (i : Nat) :
    (∃ b, (markScanner mark).hit? true s i = some b) ↔
      IsUnquoted s i ∧ mark (s.drop i) = true := by
  cases hdrop : s.drop i with
  | nil => simp [Scanner.hit?, hdrop, hnil]
  | cons c rest =>
    rw [(markScanner mark).hit?_of_drop hdrop, markScanner_after, isUnquoted_iff]
    simp [markScanner]

/-- The search for a mark finds the first one outside quotes. -/
theorem isFirst_findUnquoted {mark : Bytes → Bool} (hnil : mark [] = false)
    (hquote : ∀ rest, mark (quote :: rest) = false) (s : Bytes) :
    IsFirst (fun i => IsUnquoted s i ∧ mark (s.drop i) = true) (findUnquoted mark true s) := by
  rw [findUnquoted_eq_run hquote]
  exact ((markScanner mark).isFirst_run true s).congr (markScanner_hit?_iff hnil s)

theorem pair_isPrefix_iff {a b c : UInt8} {rest : Bytes} :
    [a, b] <+: c :: rest ↔ c = a ∧ rest.head? = some b := by
  rw [List.cons_prefix_cons, eq_comm]
  cases rest with
  | nil => simp
  | cons d rest => simp [eq_comm]

theorem singleton_isPrefix_iff {a c : UInt8} {rest : Bytes} : [a] <+: c :: rest ↔ c = a := by
  rw [List.cons_prefix_cons, and_iff_left (List.nil_prefix), eq_comm]

theorem isArrow_iff {t : Bytes} : isArrow t = true ↔ [minus, greater] <+: t := by
  rcases t with - | ⟨a, - | ⟨b, t⟩⟩
  · simp [isArrow]
  · simp [isArrow]
  · rw [isArrow, Bool.and_eq_true, beq_iff_eq, beq_iff_eq, pair_isPrefix_iff, List.head?_cons,
      Option.some.injEq]

theorem isFirst_qualifierStart (s : Bytes) :
    IsFirst (fun i => IsUnquoted s i ∧ StandsAt (ascii "->") s i) (qualifierStart s) := by
  have hquote (rest : Bytes) : isArrow (quote :: rest) = false := by
    rw [← Bool.not_eq_true, isArrow_iff, pair_isPrefix_iff]
    exact fun h => absurd h.1 (by decide)
  exact (isFirst_findUnquoted rfl hquote s).congr fun _ => and_congr_right' isArrow_iff

theorem lowerByte_eq_t_iff (c : UInt8) : lowerByte c = 0x74 ↔ c ∈ ascii "tT" := by
  apply forall_byte _ c
  decide +kernel

theorem lowerByte_eq_o_iff (c : UInt8) : lowerByte c = 0x6F ↔ c ∈ ascii "oO" := by
  apply forall_byte _ c
  decide +kernel

theorem isTo_iff {s : Bytes} {i : Nat} : isTo (s.drop i) = true ↔ ToStandsAt s i := by
  rw [isTo.eq_def]
  split
  · next before t o behind rest hdrop =>
    have hword {a b c d : UInt8} : StandsAt [a, b, c, d] s i ↔
        a = before ∧ b = t ∧ c = o ∧ d = behind := by
      rw [StandsAt, hdrop]
      simp
    simp [ToStandsAt, hword, lowerByte_eq_t_iff, lowerByte_eq_o_iff, and_assoc]
  · next hshort =>
    refine iff_of_false Bool.false_ne_true ?_
    rintro ⟨before, t, o, behind, ⟨rest, hword⟩, -⟩
    exact hshort before t o behind rest hword.symm

theorem isFirst_toPosition (s : Bytes) :
    IsFirst (fun i => IsUnquoted s i ∧ ToStandsAt s i) (toPosition s) := by
  have hquote (rest : Bytes) : isTo (quote :: rest) = false :=
    isTo_cons_of_not_isBlank rfl rest
  exact (isFirst_findUnquoted rfl hquote s).congr fun _ => and_congr_right' isTo_iff

/-! ## Relations -/

/-- How a relation is spelled: one sign, or a sign with an equals sign behind it. -/
theorem bytes_isPrefix_iff (r : Relation) (c : UInt8) (rest : Bytes) :
    r.bytes <+: c :: rest ↔
      match r with
      | .eq => c = equals ∧ rest.head? = some equals
      | .ne => c = 0x21 ∧ rest.head? = some equals
      | .lt => c = 0x3C
      | .le => c = 0x3C ∧ rest.head? = some equals
      | .gt => c = greater
      | .ge => c = greater ∧ rest.head? = some equals := by
  cases r with
  | lt => exact singleton_isPrefix_iff
  | gt => exact singleton_isPrefix_iff
  | _ => exact pair_isPrefix_iff

/-- A relation that is found is spelled there. -/
theorem isPrefix_of_relationAt {afterMinus : Bool} {c : UInt8} {rest : Bytes} {r : Relation}
    (h : relationAt afterMinus c rest = some r) :
    r.bytes <+: c :: rest ∧ (r = .gt → afterMinus = false) := by
  rw [bytes_isPrefix_iff]
  simp only [relationAt, beq_iff_eq] at h
  split_ifs at h with hless hhead hequals hhead hgreater hhead hminus hbang hhead
  all_goals obtain rfl := Option.some.inj h
  -- the cases are in the order in which the signs are tried
  · exact ⟨⟨hless, hhead⟩, by simp⟩
  · exact ⟨hless, by simp⟩
  · exact ⟨⟨hequals, hhead⟩, by simp⟩
  · exact ⟨⟨hgreater, hhead⟩, by simp⟩
  · exact ⟨hgreater, fun _ => by simpa using hminus⟩
  · exact ⟨⟨hbang, hhead⟩, by simp⟩

/-- Where a relation is spelled one is found, and it is no shorter. -/
theorem exists_relationAt_of_isPrefix {afterMinus : Bool} {c : UInt8} {rest : Bytes} {r : Relation}
    (hspelled : r.bytes <+: c :: rest) (hminus : r = .gt → afterMinus = false) :
    ∃ r', relationAt afterMinus c rest = some r' ∧ r.bytes.length ≤ r'.bytes.length := by
  have hgreater : greater ≠ 0x3C ∧ greater ≠ equals := by decide
  rw [bytes_isPrefix_iff] at hspelled
  cases r with
  | eq =>
    obtain ⟨rfl, hhead⟩ := hspelled
    exact ⟨.eq, by simp [relationAt, hhead, equals], le_rfl⟩
  | ne =>
    obtain ⟨rfl, hhead⟩ := hspelled
    exact ⟨.ne, by simp [relationAt, hhead, equals, greater], le_rfl⟩
  | lt =>
    obtain rfl := hspelled
    refine ⟨if rest.head? == some equals then .le else .lt, by simp [relationAt], ?_⟩
    split <;> decide
  | le =>
    obtain ⟨rfl, hhead⟩ := hspelled
    exact ⟨.le, by simp [relationAt, hhead], le_rfl⟩
  | gt =>
    obtain rfl := hspelled
    by_cases hhead : rest.head? = some equals
    · exact ⟨.ge, by simp [relationAt, hhead, hgreater], by decide⟩
    · exact ⟨.gt, by simp [relationAt, hhead, hgreater, hminus rfl], le_rfl⟩
  | ge =>
    obtain ⟨rfl, hhead⟩ := hspelled
    exact ⟨.ge, by simp [relationAt, hhead, hgreater], le_rfl⟩

theorem relationStandsAt_iff_of_drop {s : Bytes} {i : Nat} {c : UInt8} {rest : Bytes}
    (hdrop : s.drop i = c :: rest) {r : Relation} :
    RelationStandsAt r s i ↔
      r.bytes <+: c :: rest ∧ (r = .gt → ((s.take i).getLast? == some minus) = false) := by
  rw [RelationStandsAt, StandsAt, hdrop, beq_eq_false_iff_ne]

theorem relationScanner_hit?_of_drop {s : Bytes} {i : Nat} {c : UInt8} {rest : Bytes}
    (hdrop : s.drop i = c :: rest) :
    relationScanner.hit? (true, false) s i =
      if isBalanced (s.take i) then relationAt ((s.take i).getLast? == some minus) c rest
      else none := by
  rw [relationScanner.hit?_of_drop hdrop, relationScanner_after]
  rfl

/-- What is found at a position is the longest relation there. -/
theorem isLongestAt_of_hit? {s : Bytes} {i : Nat} {r : Relation}
    (h : relationScanner.hit? (true, false) s i = some r) : IsUnquoted s i ∧ IsLongestAt r s i := by
  cases hdrop : s.drop i with
  | nil =>
    rw [Scanner.hit?, hdrop] at h
    exact absurd h.symm (Option.some_ne_none r)
  | cons c rest =>
    rw [relationScanner_hit?_of_drop hdrop, Option.ite_none_right_eq_some] at h
    obtain ⟨hbalanced, hrelation⟩ := h
    refine ⟨isUnquoted_iff.2 hbalanced, ?_, fun r' hr' => ?_⟩
    · exact (relationStandsAt_iff_of_drop hdrop).2 (isPrefix_of_relationAt hrelation)
    · -- another relation there would have been found or been too short
      obtain ⟨hspelled, hminus⟩ := (relationStandsAt_iff_of_drop hdrop).1 hr'
      obtain ⟨r'', hfound, hlength⟩ := exists_relationAt_of_isPrefix hspelled hminus
      obtain rfl : r'' = r := Option.some.inj (hfound.symm.trans hrelation)
      exact hlength

theorem relationScanner_hit?_iff (s : Bytes) (i : Nat) :
    (∃ r, relationScanner.hit? (true, false) s i = some r) ↔
      IsUnquoted s i ∧ ∃ r, RelationStandsAt r s i := by
  constructor
  · rintro ⟨r, h⟩
    obtain ⟨hunquoted, hlongest⟩ := isLongestAt_of_hit? h
    exact ⟨hunquoted, r, hlongest.1⟩
  · rintro ⟨hunquoted, r, hr⟩
    cases hdrop : s.drop i with
    | nil =>
      -- nothing is spelled by no bytes
      have hnil : r.bytes = [] := List.prefix_nil.1 (hdrop ▸ hr.1)
      exact absurd hnil (by cases r <;> decide)
    | cons c rest =>
      obtain ⟨hspelled, hminus⟩ := (relationStandsAt_iff_of_drop hdrop).1 hr
      obtain ⟨r', hfound, -⟩ := exists_relationAt_of_isPrefix hspelled hminus
      refine ⟨r', ?_⟩
      rw [relationScanner_hit?_of_drop hdrop, if_pos (isUnquoted_iff.1 hunquoted), hfound]

theorem isFirst_comparison (s : Bytes) :
    IsFirst (fun i => IsUnquoted s i ∧ ∃ r, RelationStandsAt r s i)
      ((comparison s).map Prod.fst) := by
  rw [comparison, findRelation_eq_run]
  exact (relationScanner.isFirst_run (true, false) s).congr (relationScanner_hit?_iff s)

/-! ## Operators -/

theorem operatorAt_eq_some_iff {c : UInt8} {rest : Bytes} {op : Arithmetic} :
    operatorAt c rest = some op ↔ c = op.byte ∧ (op = .sub → rest.head? ≠ some greater) := by
  have harrow : isArrow (c :: rest) = true ↔ c = minus ∧ rest.head? = some greater :=
    isArrow_iff.trans pair_isPrefix_iff
  rw [operatorAt, Option.ite_none_left_eq_some, harrow]
  constructor
  · rintro ⟨hnot, hop⟩
    have hbyte := eq_byte_of_ofByte? hop
    refine ⟨hbyte, ?_⟩
    rintro rfl hhead
    exact hnot ⟨hbyte, hhead⟩
  · rintro ⟨rfl, hsub⟩
    refine ⟨?_, by cases op <;> rfl⟩
    rintro ⟨hminus, hhead⟩
    -- the minus sign is the byte of no other operator
    have hop : op = .sub := by
      cases op with
      | sub => rfl
      | _ => exact absurd hminus (by decide)
    exact hsub hop hhead

theorem operatorScanner_hit?_iff {s : Bytes} {i : Nat} {op : Arithmetic} :
    operatorScanner.hit? (true, 0) s i = some op ↔
      IsUnquoted s i ∧
        unquotedCount openBracket (s.take i) = unquotedCount closeBracket (s.take i) ∧
          OperatorStandsAt op s i := by
  cases hdrop : s.drop i with
  | nil =>
    have hget : s[i]? = none := by rw [← List.head?_drop, hdrop, List.head?_nil]
    simp [Scanner.hit?, hdrop, OperatorStandsAt, hget]
  | cons c rest =>
    have hget : s[i]? = some c := by rw [← List.head?_drop, hdrop, List.head?_cons]
    have hnext : s[i + 1]? = rest.head? := by
      rw [← List.head?_drop, ← List.drop_drop, hdrop, List.drop_one, List.tail_cons]
    have hfound : operatorScanner.hit? (true, 0) s i =
        if isBalanced (s.take i) = true ∧ (unquotedCount openBracket (s.take i) : Int) -
          unquotedCount closeBracket (s.take i) = 0 then operatorAt c rest else none := by
      rw [operatorScanner.hit?_of_drop hdrop, operatorScanner_after]
      rfl
    rw [hfound, Option.ite_none_right_eq_some, operatorAt_eq_some_iff, isUnquoted_iff, and_assoc,
      OperatorStandsAt, hget, hnext, Option.some.injEq, Int.sub_eq_zero, Int.natCast_inj]

/-- A search that starts behind as many opening as closing brackets finds the first operator from
there on, as if it had started at the beginning. -/
theorem isFirst_nextOperator {s : Bytes} {n : Nat}
    (hclosed : unquotedCount openBracket (s.take n) = unquotedCount closeBracket (s.take n)) :
    IsFirst (fun i => n ≤ i ∧ IsOperatorPosition s i) ((nextOperator s n).map Prod.fst) := by
  -- the search is started with what it would remember, had it read the first `n` bytes
  have hstate : operatorScanner.after (true, 0) (s.take n) = (isBalanced (s.take n), 0) := by
    rw [operatorScanner_after, hclosed, Int.sub_self]
  have hrun := operatorScanner.isFirst_run (isBalanced (s.take n), 0) (s.drop n)
  have hfirst : IsFirst (fun i => IsOperatorPosition s (n + i))
      ((findOperator (isBalanced (s.take n)) 0 (s.drop n)).map Prod.fst) := by
    rw [findOperator_eq_run]
    refine hrun.congr fun i => ?_
    rw [← hstate]
    simp only [Scanner.hit?_drop, operatorScanner_hit?_iff, IsOperatorPosition, exists_and_left]
  have hmap : (nextOperator s n).map Prod.fst =
      ((findOperator (isBalanced (s.take n)) 0 (s.drop n)).map Prod.fst).map (n + ·) := by
    rw [nextOperator, Option.map_map, Option.map_map]
    refine congrArg (Option.map · _) (funext fun found => ?_)
    exact Nat.add_comm found.1 n
  rw [hmap]
  exact hfirst.add

theorem IsOperatorPosition.of_nextOperator {s : Bytes} {p : Nat} {op : Arithmetic}
    (h : nextOperator s 0 = some (p, op)) : IsOperatorPosition s p ∧ OperatorStandsAt op s p := by
  rw [nextOperator_zero, findOperator_eq_run] at h
  obtain ⟨hunquoted, hclosed, hop⟩ :=
    operatorScanner_hit?_iff.1 (operatorScanner.run_eq_some_iff.1 h).1
  exact ⟨⟨hunquoted, hclosed, op, hop⟩, hop⟩

/-- An operator is no bracket. -/
theorem IsOperatorPosition.unquotedCount_succ {s : Bytes} {p : Nat} (h : IsOperatorPosition s p) :
    unquotedCount openBracket (s.take (p + 1)) = unquotedCount closeBracket (s.take (p + 1)) := by
  obtain ⟨-, hclosed, op, hbyte, -⟩ := h
  have hopen : op.byte ≠ openBracket := by cases op <;> decide
  have hclose : op.byte ≠ closeBracket := by cases op <;> decide
  rw [List.take_add_one, hbyte, Option.toList_some, unquotedCount_concat, unquotedCount_concat,
    hclosed, if_neg fun h => hopen h.2, if_neg fun h => hclose h.2]

/-- After the arrow of a call the text is outside quotes and not behind a minus sign, as a text is
at its start. -/
theorem relationScanner_after_arrow {s : Bytes} {q : Nat} (hunquoted : IsUnquoted s q)
    (harrow : StandsAt (ascii "->") s q) :
    relationScanner.after (true, false) (s.take (q + 2)) = (true, false) := by
  obtain ⟨rest, hrest⟩ := harrow
  -- the last byte of the arrow is no minus sign
  have htake : s.take (q + 2) = s.take q ++ [minus] ++ [greater] := by
    rw [List.take_add, ← hrest, List.append_assoc]
    rfl
  have hstart := isUnquoted_iff.1 hunquoted
  rw [htake, relationScanner_after, isBalanced_concat, isBalanced_concat, hstart,
    List.getLast?_concat]
  rfl

/-- Each scanner reports the first position outside quotes at which there is what it looks for. If
the search for operators is resumed behind the first one, it reports the second one of the whole
text, and if the text is cut behind an arrow before its comparison, the comparison is found in the
rest. -/
theorem scanners_find_first (s : Bytes) :
    IsFirst (fun i => IsUnquoted s i ∧ StandsAt (ascii "->") s i) (qualifierStart s) ∧
      IsFirst (fun i => IsUnquoted s i ∧ ToStandsAt s i) (toPosition s) ∧
      IsFirst (fun i => IsUnquoted s i ∧ ∃ r, RelationStandsAt r s i)
        ((comparison s).map Prod.fst) ∧
      (∀ i r, comparison s = some (i, r) → IsLongestAt r s i) ∧
      IsFirst (IsOperatorPosition s) ((nextOperator s 0).map Prod.fst) ∧
      (∀ p op, nextOperator s 0 = some (p, op) →
        OperatorStandsAt op s p ∧
          IsFirst (fun i => p < i ∧ IsOperatorPosition s i)
            ((nextOperator s (p + 1)).map Prod.fst)) ∧
      ∀ q c r, qualifierStart s = some q → comparison s = some (c, r) → q + 2 < c →
        comparison (s.drop (q + 2)) = some (c - q - 2, r) := by
  refine ⟨isFirst_qualifierStart s, isFirst_toPosition s, isFirst_comparison s, ?_, ?_, ?_, ?_⟩
  · intro i r h
    rw [comparison, findRelation_eq_run] at h
    exact (isLongestAt_of_hit? (relationScanner.run_eq_some_iff.1 h).1).2
  · have hfirst : IsFirst (fun i => 0 ≤ i ∧ IsOperatorPosition s i)
        ((nextOperator s 0).map Prod.fst) := isFirst_nextOperator rfl
    exact hfirst.congr fun i => and_iff_right (Nat.zero_le i)
  · intro p op h
    obtain ⟨hposition, hop⟩ := IsOperatorPosition.of_nextOperator h
    exact ⟨hop, isFirst_nextOperator hposition.unquotedCount_succ⟩
  · intro q c r hq hc hlt
    have hfirst := isFirst_qualifierStart s
    rw [hq] at hfirst
    obtain ⟨hunquoted, harrow⟩ := hfirst.1
    rw [comparison, findRelation_eq_run] at hc ⊢
    have hrun := relationScanner.run_drop (Nat.le_of_lt hlt) hc
    rwa [relationScanner_after_arrow hunquoted harrow, ← Nat.sub_sub] at hrun

/-- A condition with an arrow in quotes before its own, and with a bracket between two operators. -/
def guardText : Bytes :=
  ascii "\"a->b\"->x + ( y - 2 ) * 3 >= 4"

/-- All of this at work in one condition. -/
theorem scanners_find_first_guard :
    qualifierStart guardText = some 6 ∧ comparison guardText = some (26, .ge) ∧
      comparison (guardText.drop 8) = some (18, .ge) ∧ nextOperator guardText 0 = some (10, .add) ∧
      IsFirst (fun i => 10 < i ∧ IsOperatorPosition guardText i) (some 22) := by
  obtain ⟨-, -, -, -, -, hresume, hcut⟩ := scanners_find_first guardText
  have hq : qualifierStart guardText = some 6 := by decide
  have hc : comparison guardText = some (26, .ge) := by decide
  have hp : nextOperator guardText 0 = some (10, .add) := by decide
  have hnext : nextOperator guardText 11 = some (22, .mul) := by decide
  have hsecond := (hresume 10 .add hp).2
  rw [hnext] at hsecond
  exact ⟨hq, hc, hcut 6 26 .ge hq hc (by decide), hp, hsecond⟩

end Scan

end MorrowindScript
