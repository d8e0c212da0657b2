import MorrowindScript.Proofs.SourceLine.Layout

/-!
# Blanks and brackets

An operator counts only outside brackets, and blanks and brackets around a whole text do not count
at all. The rules for brackets depend on how many of them are open at a place.

## Main definitions

* `Scan.bracketDepth`: how many more brackets a text opens than it closes.
* `Scan.IsOperatorFree`: no operator stands outside the brackets of a text.

## Main results

* `Scan.findOperator_append`: the search for an operator passes over a text without one.
* `Scan.exists_closingBracket`: a text that closes all open brackets has the bracket that closes
  the last of them.
* `Scan.eq_of_enclosed?`: what is taken off a text is a pair of brackets.
* `Scan.unwrap_trimLeft`, `Scan.unwrap_trimRight`: blanks around a text make no difference.
-/

namespace MorrowindScript

open Bytes

namespace Bytes

/-! ## Blanks -/

theorem exists_blanks_append_trimLeft (s : Bytes) :
    ∃ blanks, (∀ c ∈ blanks, isBlank c = true) ∧ s = blanks ++ s.trimLeft := by
  refine ⟨s.takeWhile isBlank, fun c hc => ?_, ?_⟩
  · exact List.all_eq_true.1 (List.all_takeWhile (l := s)) c hc
  · exact List.takeWhile_append_dropWhile.symm

theorem exists_trimRight_append_blanks (s : Bytes) :
    ∃ blanks, (∀ c ∈ blanks, isBlank c = true) ∧ s = s.trimRight ++ blanks := by
  obtain ⟨blanks, hblank, hs⟩ := exists_blanks_append_trimLeft s.reverse
  refine ⟨blanks.reverse, fun c hc => hblank c (List.mem_reverse.1 hc), ?_⟩
  have hreverse := congrArg List.reverse hs
  rwa [List.reverse_reverse, List.reverse_append] at hreverse

/-- A filter that takes blanks away does not see whether those on the left were trimmed. -/
theorem filter_trimLeft {p : UInt8 → Bool} (hp : ∀ c, isBlank c = true → p c = false) (s : Bytes) :
    s.trimLeft.filter p = s.filter p := by
  obtain ⟨blanks, hblank, hs⟩ := exists_blanks_append_trimLeft s
  have hnone : blanks.filter p = [] :=
    List.filter_eq_nil_iff.2 fun c hc => by simp [hp c (hblank c hc)]
  have hfilter : (blanks ++ s.trimLeft).filter p = s.trimLeft.filter p := by
    rw [List.filter_append, hnone, List.nil_append]
  rw [← hfilter, ← hs]

/-- Nor does it see it of those on the right. -/
theorem filter_trimRight {p : UInt8 → Bool} (hp : ∀ c, isBlank c = true → p c = false)
    (s : Bytes) : s.trimRight.filter p = s.filter p := by
  have hreverse := congrArg List.reverse (filter_trimLeft hp s.reverse)
  rw [← List.filter_reverse, ← List.filter_reverse, List.reverse_reverse] at hreverse
  exact hreverse

/-- A text that is not blank is not all taken off. -/
theorem trimLeft_ne_nil {s : Bytes} (h : ∃ c ∈ s, isBlank c = false) : s.trimLeft ≠ [] := by
  obtain ⟨c, hc, hblank⟩ := h
  obtain ⟨blanks, hblanks, hs⟩ := exists_blanks_append_trimLeft s
  intro hnil
  rw [hnil, List.append_nil] at hs
  exact absurd (hblanks c (hs ▸ hc)) (by simp [hblank])

theorem trimRight_ne_nil {s : Bytes} (h : ∃ c ∈ s, isBlank c = false) : s.trimRight ≠ [] := by
  obtain ⟨c, hc, hblank⟩ := h
  intro hnil
  exact trimLeft_ne_nil ⟨c, List.mem_reverse.2 hc, hblank⟩ (List.reverse_eq_nil_iff.1 hnil)

/-- Blanks are taken off up to the first byte that is not blank. -/
theorem trimLeft_append_cons {c : UInt8} (hc : isBlank c = false) (s t : Bytes) :
    trimLeft (s ++ c :: t) = s.trimLeft ++ c :: t := by
  rw [trimLeft, trimLeft, List.dropWhile_append]
  split
  · next hempty =>
    rw [List.isEmpty_iff.1 hempty, List.dropWhile_cons_of_neg (by simp [hc])]
    rfl
  · rfl

theorem trimRight_append_cons {c : UInt8} (hc : isBlank c = false) (s t : Bytes) :
    trimRight (s ++ c :: t) = s ++ c :: t.trimRight := by
  have hreverse : (s ++ c :: t).reverse = t.reverse ++ c :: s.reverse := by simp
  rw [trimRight, hreverse, ← trimLeft, trimLeft_append_cons hc, trimRight, trimLeft]
  simp

theorem trim_append_cons {c : UInt8} (hc : isBlank c = false) (s t : Bytes) :
    trim (s ++ c :: t) = s.trimLeft ++ c :: t.trimRight := by
  rw [trim, trimLeft_append_cons hc, trimRight_append_cons hc]

/-- Nothing is taken off a text without blanks. -/
theorem trim_eq_self {s : Bytes} (h : ∀ c ∈ s, isBlank c = false) : s.trim = s := by
  have htrimLeft (t : Bytes) (ht : ∀ c ∈ t, isBlank c = false) : t.trimLeft = t := by
    cases t with
    | nil => rfl
    | cons c t => exact List.dropWhile_cons_of_neg (by simp [ht c (by simp)])
  have hreverse : trimLeft s.reverse = s.reverse := htrimLeft s.reverse (by simpa using h)
  rw [trim, htrimLeft s h, trimRight, ← trimLeft, hreverse, List.reverse_reverse]

end Bytes

namespace Scan

/-! ## Depth -/

/-- How many more brackets a text opens than it closes. -/
def bracketDepth (s : Bytes) : Int :=
  s.count openBracket - s.count closeBracket

@[simp]
theorem bracketDepth_nil : bracketDepth [] = 0 := rfl

@[simp]
theorem bracketDepth_append (s t : Bytes) :
    bracketDepth (s ++ t) = bracketDepth s + bracketDepth t := by
  simp only [bracketDepth, List.count_append]
  omega

@[simp]
theorem bracketDepth_singleton_open : bracketDepth [openBracket] = 1 := by decide

@[simp]
theorem bracketDepth_singleton_close : bracketDepth [closeBracket] = -1 := by decide

/-- A text without brackets opens and closes nothing. -/
theorem bracketDepth_eq_zero {s : Bytes} (hopen : openBracket ∉ s) (hclose : closeBracket ∉ s) :
    bracketDepth s = 0 := by
  rw [bracketDepth, List.count_eq_zero_of_not_mem hopen, List.count_eq_zero_of_not_mem hclose]
  rfl

theorem bracketDepth_blanks {blanks : Bytes} (h : ∀ c ∈ blanks, isBlank c = true) :
    bracketDepth blanks = 0 := by
  refine bracketDepth_eq_zero (fun hopen => ?_) (fun hclose => ?_)
  · exact absurd (h openBracket hopen) (by decide)
  · exact absurd (h closeBracket hclose) (by decide)

@[simp]
theorem bracketDepth_trimLeft (s : Bytes) : bracketDepth s.trimLeft = bracketDepth s := by
  obtain ⟨blanks, hblank, hs⟩ := exists_blanks_append_trimLeft s
  have hdepth : bracketDepth (blanks ++ s.trimLeft) = bracketDepth s.trimLeft := by
    rw [bracketDepth_append, bracketDepth_blanks hblank, Int.zero_add]
  rw [← hdepth, ← hs]

@[simp]
theorem bracketDepth_trimRight (s : Bytes) : bracketDepth s.trimRight = bracketDepth s := by
  obtain ⟨blanks, hblank, hs⟩ := exists_trimRight_append_blanks s
  have hdepth : bracketDepth (s.trimRight ++ blanks) = bracketDepth s.trimRight := by
    rw [bracketDepth_append, bracketDepth_blanks hblank, Int.add_zero]
  rw [← hdepth, ← hs]

theorem bracketDepth_cons_of_ne {c : UInt8} (hopen : c ≠ openBracket) (hclose : c ≠ closeBracket)
    (s : Bytes) : bracketDepth (c :: s) = bracketDepth s := by
  rw [bracketDepth, List.count_cons_of_ne hopen, List.count_cons_of_ne hclose, bracketDepth]

/-! ## Operators outside brackets -/

/-- Every operator sign outside the brackets of the text is the minus sign of an arrow. -/
def IsOperatorFree (s : Bytes) : Prop :=
  ∀ i (hi : i < s.length), bracketDepth (s.take i) = 0 → (Arithmetic.ofByte? s[i]).isSome = true →
    s[i] = minus ∧ s[i + 1]? = some greater

instance (s : Bytes) : Decidable (IsOperatorFree s) :=
  inferInstanceAs (Decidable (∀ i (hi : i < s.length), bracketDepth (s.take i) = 0 →
    (Arithmetic.ofByte? s[i]).isSome = true → s[i] = minus ∧ s[i + 1]? = some greater))

namespace IsOperatorFree

/-- A text without operator signs has no operators. -/
theorem of_forall {s : Bytes} (h : ∀ c ∈ s, Arithmetic.ofByte? c = none) : IsOperatorFree s := by
  intro i hi _ hop
  rw [h _ (List.getElem_mem hi)] at hop
  exact absurd hop (by decide)

/-- Outside brackets there is no operator, whatever follows the text. -/
theorem operatorAt_eq_none {before after : Bytes} {c : UInt8}
    (h : IsOperatorFree (before ++ c :: after)) (hdepth : bracketDepth before = 0) (rest : Bytes) :
    operatorAt c (after ++ rest) = none := by
  cases hop : Arithmetic.ofByte? c with
  | none => rw [operatorAt, hop, ite_self]
  | some op =>
    obtain ⟨hminus, hnext⟩ := h before.length (by simp) (by simpa) (by simp [hop])
    -- the head of the arrow is in the text itself
    cases after with
    | nil => simp at hnext
    | cons d after =>
      obtain rfl : c = minus := by simpa using hminus
      obtain rfl : d = greater := by simpa using hnext
      rfl

/-- What follows a part of the text that closes its brackets has no operators either. -/
theorem of_append_right {before s : Bytes} (h : IsOperatorFree (before ++ s))
    (hdepth : bracketDepth before = 0) : IsOperatorFree s := by
  intro i hi htake hop
  have hi' : before.length + i < (before ++ s).length := by
    rw [List.length_append]
    omega
  have hget : (before ++ s)[before.length + i] = s[i] := by
    rw [List.getElem_append_right (by omega)]
    simp
  have htake' : bracketDepth ((before ++ s).take (before.length + i)) = 0 := by
    rw [List.take_length_add_append, bracketDepth_append, hdepth, htake]
    rfl
  obtain ⟨hminus, hnext⟩ := h (before.length + i) hi' htake' (by rwa [hget])
  rw [Nat.add_assoc, List.getElem?_append_right (by omega), Nat.add_sub_cancel_left] at hnext
  exact ⟨hget ▸ hminus, hnext⟩

/-- Without blanks at its end a text has no operators either. -/
theorem of_append_blank {s blanks : Bytes} (h : IsOperatorFree (s ++ blanks))
    (hblank : ∀ c ∈ blanks, isBlank c = true) : IsOperatorFree s := by
  intro i hi htake hop
  have hi' : i < (s ++ blanks).length := by
    rw [List.length_append]
    omega
  have hget : (s ++ blanks)[i] = s[i] := List.getElem_append_left hi
  have htake' : (s ++ blanks).take i = s.take i := List.take_append_of_le_length (Nat.le_of_lt hi)
  obtain ⟨hminus, hnext⟩ := h i hi' (by rwa [htake']) (by rwa [hget])
  refine ⟨hget ▸ hminus, ?_⟩
  -- the head of an arrow is not blank
  by_cases hlast : i + 1 < s.length
  · rwa [List.getElem?_append_left hlast] at hnext
  · rw [List.getElem?_append_right (by omega)] at hnext
    exact absurd (hblank greater (List.mem_of_getElem? hnext)) (by decide)

theorem trimLeft {s : Bytes} (h : IsOperatorFree s) : IsOperatorFree s.trimLeft := by
  obtain ⟨blanks, hblank, hs⟩ := exists_blanks_append_trimLeft s
  rw [hs] at h
  exact h.of_append_right (bracketDepth_blanks hblank)

theorem trimRight {s : Bytes} (h : IsOperatorFree s) : IsOperatorFree s.trimRight := by
  obtain ⟨blanks, hblank, hs⟩ := exists_trimRight_append_blanks s
  rw [hs] at h
  exact h.of_append_blank hblank

end IsOperatorFree

/-- The search for an operator passes over a text that closes its brackets and has no operator
outside them. -/
theorem findOperator_append {s : Bytes} (hquote : quote ∉ s) (hclosed : bracketDepth s = 0)
    (hfree : IsOperatorFree s) (rest : Bytes) :
    findOperator true 0 (s ++ rest) =
      (findOperator true 0 rest).map fun (i, op) => (i + s.length, op) := by
  -- after any part of the text, as many brackets are open as that part leaves open
  have hpass (before after : Bytes) (hs : s = before ++ after) :
      findOperator true (bracketDepth before) (after ++ rest) =
        (findOperator true (bracketDepth s) rest).map fun (i, op) => (i + after.length, op) := by
    induction after generalizing before with
    | nil => simp [hs]
    | cons c after ih =>
      have hc : c ≠ quote := by
        rintro rfl
        exact hquote (by simp [hs])
      have hlater : (findOperator true (bracketDepth (before ++ [c])) (after ++ rest)).map
          (fun (i, op) => (i + 1, op)) =
          (findOperator true (bracketDepth s) rest).map
            fun (i, op) => (i + (c :: after).length, op) := by
        rw [ih (before ++ [c]) (by simp [hs]), Option.map_map]
        rfl
      rw [bracketDepth_append] at hlater
      rw [List.cons_append, findOperator]
      simp only [beq_iff_eq, hc, if_false, Bool.not_true, Bool.false_eq_true]
      by_cases hopen : c = openBracket
      · simpa [hopen] using hlater
      by_cases hclose : c = closeBracket
      · rw [if_neg hopen, if_pos hclose, Int.sub_eq_add_neg]
        simpa [hclose] using hlater
      have hzero : bracketDepth [c] = 0 := bracketDepth_cons_of_ne hopen hclose []
      rw [hzero, Int.add_zero] at hlater
      rw [if_neg hopen, if_neg hclose]
      split
      · exact hlater
      · next hdepth =>
        have hnone : operatorAt c (after ++ rest) = none :=
          (hs ▸ hfree).operatorAt_eq_none (Classical.not_not.1 hdepth) rest
        rw [hnone]
        exact hlater
  have := hpass [] s rfl
  rwa [bracketDepth_nil, hclosed] at this

/-- An operator that is not the minus sign of an arrow is found at once. -/
theorem findOperator_byte_cons (op : Arithmetic) {rest : Bytes} (h : rest.head? ≠ some greater) :
    findOperator true 0 (op.byte :: rest) = some (0, op) := by
  have harrow : isArrow (op.byte :: rest) = false := by
    cases rest with
    | nil => rfl
    | cons c rest =>
      have hgreater : c ≠ greater := by simpa using h
      simp [isArrow, hgreater]
  have hop : operatorAt op.byte rest = some op := by
    rw [operatorAt, harrow]
    cases op <;> rfl
  have hquote : op.byte ≠ quote := by cases op <;> decide
  have hopen : op.byte ≠ openBracket := by cases op <;> decide
  have hclose : op.byte ≠ closeBracket := by cases op <;> decide
  rw [findOperator]
  simp [hquote, hopen, hclose, hop]

theorem isBalanced_of_notMem {s : Bytes} (h : quote ∉ s) : isBalanced s = true := by
  rw [isBalanced, List.count_eq_zero_of_not_mem h]
  rfl

/-- After a text that closes its quotes, a text closes its quotes as it does alone. -/
theorem isBalanced_append {s : Bytes} (h : isBalanced s = true) (t : Bytes) :
    isBalanced (s ++ t) = isBalanced t := by
  have heven : s.count quote % 2 = 0 := by simpa [isBalanced] using h
  rw [isBalanced, isBalanced, List.count_append, Nat.add_mod, heven, Nat.zero_add, Nat.mod_mod]

/-- The operators after a start without quotes are those of the rest. -/
theorem nextOperator_append {start : Bytes} (h : quote ∉ start) (s : Bytes) :
    nextOperator (start ++ s) start.length =
      (findOperator true 0 s).map fun (i, op) => (i + start.length, op) := by
  rw [nextOperator, List.take_left, List.drop_left, isBalanced_of_notMem h]

/-- The first operator is looked for from the start, outside quotes. -/
theorem nextOperator_zero (s : Bytes) : nextOperator s 0 = findOperator true 0 s := by
  simpa using nextOperator_append (List.not_mem_nil : quote ∉ []) s

/-- A text that closes its brackets and has no operator outside them has none to be found. -/
theorem nextOperator_eq_none {s : Bytes} (hquote : quote ∉ s) (hclosed : bracketDepth s = 0)
    (hfree : IsOperatorFree s) : nextOperator s 0 = none := by
  have hnone := findOperator_append hquote hclosed hfree []
  rw [List.append_nil] at hnone
  rw [nextOperator_zero, hnone]
  rfl

/-! ## Brackets around a text -/

/-- A text that closes all open brackets has the bracket that closes the last of them. -/
theorem exists_closingBracket {s : Bytes} {depth : Nat} (hdepth : 0 < depth)
    (h : depth + bracketDepth s ≤ 0) (rest : Bytes) :
    ∃ j < s.length, closingBracket depth (s ++ rest) = some j := by
  induction s generalizing depth with
  | nil =>
    rw [bracketDepth_nil] at h
    omega
  | cons c s ih =>
    -- a bracket that is found later is one place further on
    have hlater {later : Nat} (hlater : 0 < later) (hle : later + bracketDepth s ≤ 0) :
        ∃ j < (c :: s).length, (closingBracket later (s ++ rest)).map (· + 1) = some j := by
      obtain ⟨j, hj, hfound⟩ := ih hlater hle
      exact ⟨j + 1, Nat.succ_lt_succ hj, by rw [hfound, Option.map_some]⟩
    rw [← List.singleton_append, bracketDepth_append] at h
    rw [List.cons_append, closingBracket]
    by_cases hopen : c = openBracket
    · subst hopen
      rw [bracketDepth_singleton_open] at h
      exact hlater (Nat.succ_pos depth) (by omega)
    by_cases hclose : c = closeBracket
    · subst hclose
      rw [bracketDepth_singleton_close] at h
      rw [if_neg (by decide), if_pos (by decide)]
      split
      · exact ⟨0, Nat.succ_pos _, rfl⟩
      · exact hlater (by omega) (by omega)
    · rw [bracketDepth_cons_of_ne hopen hclose, bracketDepth_nil] at h
      rw [if_neg (by simpa using hopen), if_neg (by simpa using hclose)]
      exact hlater hdepth (by omega)

/-- The bracket that closes the last of the open ones is where it is found. -/
theorem getElem?_of_closingBracket {s : Bytes} {depth j : Nat}
    (h : closingBracket depth s = some j) : s[j]? = some closeBracket := by
  induction s generalizing depth j with
  | nil => simp [closingBracket] at h
  | cons c s ih =>
    have hlater {later : Nat} (h : (closingBracket later s).map (· + 1) = some j) :
        (c :: s)[j]? = some closeBracket := by
      obtain ⟨i, hi, rfl⟩ := Option.map_eq_some_iff.1 h
      exact ih hi
    rw [closingBracket] at h
    split at h
    · exact hlater h
    · split at h
      · next hclose =>
        split at h
        · obtain rfl := Option.some.inj h
          rw [eq_of_beq hclose]
          rfl
        · exact hlater h
      · exact hlater h

/-- What is taken off a text is a pair of brackets. -/
theorem eq_of_enclosed? {s inner : Bytes} (h : enclosed? s = some inner) :
    s = openBracket :: inner ++ [closeBracket] := by
  cases s with
  | nil => simp [enclosed?] at h
  | cons c rest =>
    rw [enclosed?] at h
    split at h
    · next hbrackets =>
      obtain ⟨hopen, hclose⟩ :
          c = openBracket ∧ closingBracket 1 rest = some (rest.length - 1) := by
        simpa using hbrackets
      -- the last bracket is the one that closes the first
      have hlast : rest.getLast? = some closeBracket := by
        rw [List.getLast?_eq_getElem?]
        exact getElem?_of_closingBracket hclose
      obtain ⟨init, rfl⟩ := List.getLast?_eq_some_iff.1 hlast
      obtain rfl := Option.some.inj h
      rw [List.dropLast_concat, hopen]
      rfl
    · simp at h

/-- Nothing is taken off a text that closes its first bracket before its end. -/
theorem enclosed?_append_cons {s : Bytes} (hclosed : bracketDepth s = 0) (hs : s ≠ []) (c : UInt8)
    (rest : Bytes) : enclosed? (s ++ c :: rest) = none := by
  cases s with
  | nil => exact absurd rfl hs
  | cons b s =>
    rw [List.cons_append, enclosed?]
    by_cases hopen : b = openBracket
    · subst hopen
      rw [← List.singleton_append, bracketDepth_append, bracketDepth_singleton_open] at hclosed
      obtain ⟨j, hj, hfound⟩ : ∃ j < s.length, closingBracket 1 (s ++ c :: rest) = some j :=
        exists_closingBracket Nat.one_pos (by omega) _
      have hlast : j ≠ s.length + rest.length := by omega
      simp [hfound, hlast]
    · simp [hopen]

/-- Nothing is taken off a text without blanks that does not start with a bracket. -/
theorem unwrap_eq_self {s : Bytes} (hblank : ∀ c ∈ s, isBlank c = false)
    (hopen : s.head? ≠ some openBracket) : unwrap s = s := by
  have hnone : enclosed? s = none := by
    cases s with
    | nil => rfl
    | cons c s =>
      have hc : c ≠ openBracket := by simpa using hopen
      simp [enclosed?, hc]
  rw [unwrap, trim_eq_self hblank, hnone]

theorem unwrap_trimLeft (s : Bytes) : unwrap s.trimLeft = unwrap s := by
  obtain ⟨blanks, hblank, hs⟩ := exists_blanks_append_trimLeft s
  have htrim : trim (blanks ++ s.trimLeft) = s.trimLeft.trim := trim_blank_append hblank _
  rw [← hs] at htrim
  rw [unwrap, unwrap, htrim]

theorem unwrap_trimRight (s : Bytes) : unwrap s.trimRight = unwrap s := by
  obtain ⟨blanks, hblank, hs⟩ := exists_trimRight_append_blanks s
  have htrim : trim (s.trimRight ++ blanks) = s.trimRight.trim := trim_append_blank hblank _
  rw [← hs] at htrim
  rw [unwrap, unwrap, htrim]

end Scan

end MorrowindScript
