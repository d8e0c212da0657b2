import Mathlib.Data.List.Basic
import Mathlib.Order.Bounds.Defs

/-!
# First hits of a search

A search in one pass goes through a list with a state that every item changes, and stops at the
first item at which it finds something. The module introduces:

* `IsFirst`: the answer of a search is the least position with a property.
* `Scanner`, `Scanner.run`: a search in one pass, by what it remembers and what it looks for.
* `Scanner.hit?`: what is found at a position, whatever is found before it.

Main results: a run stops at the first hit (`Scanner.run_eq_some_iff`, `Scanner.isFirst_run`), and a
run that is resumed with the state it has reached goes on with the hits of the whole list
(`Scanner.hit?_drop`, `Scanner.run_drop`).
-/

namespace MorrowindScript

/-! ## The least position -/

/-- The answer is the least position with the property, and there is no answer only if there is no
such position. -/
def IsFirst (P : Nat → Prop) : Option Nat → Prop
  | some i => IsLeast {j | P j} i
  | none => ∀ j, ¬P j

namespace IsFirst

variable {P Q : Nat → Prop} {answer : Option Nat}

theorem congr (hPQ : ∀ i, P i ↔ Q i) (h : IsFirst P answer) : IsFirst Q answer := by
  obtain rfl : P = Q := funext fun i => propext (hPQ i)
  exact h

/-- A larger property has the same first position, if the smaller one holds no later. -/
theorem mono (hPQ : ∀ i, P i → Q i) (hQP : ∀ j, Q j → ∃ i ≤ j, P i) (h : IsFirst P answer) :
    IsFirst Q answer := by
  cases answer with
  | none =>
    intro j hj
    obtain ⟨i, -, hi⟩ := hQP j hj
    exact h i hi
  | some k =>
    refine ⟨hPQ k h.1, fun j hj => ?_⟩
    obtain ⟨i, hij, hi⟩ := hQP j hj
    exact Nat.le_trans (h.2 hi) hij

/-- Positions that are counted from `n` on. -/
theorem add {n : Nat} (h : IsFirst (fun i => P (n + i)) answer) :
    IsFirst (fun j => n ≤ j ∧ P j) (answer.map (n + ·)) := by
  cases answer with
  | none =>
    rintro j ⟨hle, hj⟩
    obtain ⟨i, rfl⟩ := Nat.exists_eq_add_of_le hle
    exact h i hj
  | some i =>
    refine ⟨⟨Nat.le_add_right n i, h.1⟩, ?_⟩
    rintro j ⟨hle, hj⟩
    obtain ⟨k, rfl⟩ := Nat.exists_eq_add_of_le hle
    exact Nat.add_le_add_left (h.2 hj) n

end IsFirst

/-! ## Searches in one pass -/

/-- A search in one pass. It looks at an item with the state that the items before it have left and
with the items after it. -/
structure Scanner (σ α β : Type) where
  /-- What an item does to the state. -/
  next : σ → α → σ
  /-- What is found at an item. -/
  found? : σ → α → List α → Option β

namespace Scanner

variable {σ α β : Type} (scanner : Scanner σ α β) {state : σ} {items : List α} {i n : Nat} {b : β}

/-- The first hit, with its position. -/
def run : σ → List α → Option (Nat × β)
  | _, [] => none
  | state, item :: rest =>
    match scanner.found? state item rest with
    | some b => some (0, b)
    | none => (run (scanner.next state item) rest).map fun (i, b) => (i + 1, b)

/-- One step of a run: it stops at the first item, or goes on behind it. -/
theorem run_cons (item : α) (rest : List α) :
    scanner.run state (item :: rest) =
      (scanner.found? state item rest).elim
        ((scanner.run (scanner.next state item) rest).map fun (i, b) => (i + 1, b))
        fun b => some (0, b) := by
  rw [run]
  cases scanner.found? state item rest with
  | none => rfl
  | some b => rfl

theorem run_cons_of_some {item : α} {rest : List α}
    (h : scanner.found? state item rest = some b) :
    scanner.run state (item :: rest) = some (0, b) := by
  rw [run_cons, h]
  rfl

theorem run_cons_of_none {item : α} {rest : List α} (h : scanner.found? state item rest = none) :
    scanner.run state (item :: rest) =
      (scanner.run (scanner.next state item) rest).map fun (i, b) => (i + 1, b) := by
  rw [run_cons, h]
  rfl

/-- The state after the items. -/
def after (state : σ) (items : List α) : σ :=
  items.foldl scanner.next state

theorem after_concat (items : List α) (item : α) :
    scanner.after state (items ++ [item]) = scanner.next (scanner.after state items) item := by
  rw [after, after, List.foldl_append, List.foldl_cons, List.foldl_nil]

/-- What is found at position `i`, if the search gets there. -/
def hit? (state : σ) (items : List α) (i : Nat) : Option β :=
  match items.drop i with
  | [] => none
  | item :: rest => scanner.found? (scanner.after state (items.take i)) item rest

theorem hit?_nil : scanner.hit? state [] i = none := by
  rw [hit?, List.drop_nil]

theorem hit?_cons_zero {item : α} {rest : List α} :
    scanner.hit? state (item :: rest) 0 = scanner.found? state item rest := rfl

theorem hit?_cons_succ {item : α} {rest : List α} :
    scanner.hit? state (item :: rest) (i + 1) = scanner.hit? (scanner.next state item) rest i := rfl

theorem hit?_of_drop {item : α} {rest : List α} (h : items.drop i = item :: rest) :
    scanner.hit? state items i =
      scanner.found? (scanner.after state (items.take i)) item rest := by
  rw [hit?, h]

/-- A run stops at the first hit. -/
theorem run_eq_some_iff :
    scanner.run state items = some (i, b) ↔
      scanner.hit? state items i = some b ∧ ∀ j < i, scanner.hit? state items j = none := by
  induction items generalizing state i with
  | nil => simp [run, hit?_nil]
  | cons item rest ih =>
    cases hfound : scanner.found? state item rest with
    | some b' =>
      rw [scanner.run_cons_of_some hfound]
      constructor
      · intro h
        obtain ⟨rfl, rfl⟩ := Prod.mk.inj (Option.some.inj h)
        exact ⟨hfound, fun j hj => absurd hj (Nat.not_lt_zero j)⟩
      · rintro ⟨hhit, hbefore⟩
        cases i with
        | zero =>
          rw [hit?_cons_zero, hfound] at hhit
          rw [Option.some.inj hhit]
        | succ i =>
          -- the hit at the first item would be an earlier one
          have hnone := hbefore 0 (Nat.succ_pos i)
          rw [hit?_cons_zero, hfound] at hnone
          exact absurd hnone (Option.some_ne_none b')
    | none =>
      rw [scanner.run_cons_of_none hfound]
      cases i with
      | zero => simp [hit?_cons_zero, hfound]
      | succ i =>
        have hlater : (scanner.run (scanner.next state item) rest).map
            (fun (i, b) => (i + 1, b)) = some (i + 1, b) ↔
              scanner.run (scanner.next state item) rest = some (i, b) := by
          simp
        rw [hlater, ih, Nat.forall_lt_succ_left, hit?_cons_zero, hfound]
        simp only [hit?_cons_succ, true_and]

/-- A run goes through the whole list if there are no hits. -/
theorem run_eq_none_iff :
    scanner.run state items = none ↔ ∀ j, scanner.hit? state items j = none := by
  induction items generalizing state with
  | nil => simp [run, hit?_nil]
  | cons item rest ih =>
    cases hfound : scanner.found? state item rest with
    | some b =>
      rw [scanner.run_cons_of_some hfound]
      refine iff_of_false (Option.some_ne_none _) fun h => ?_
      exact absurd (hfound.symm.trans (h 0)) (Option.some_ne_none b)
    | none =>
      rw [scanner.run_cons_of_none hfound, Option.map_eq_none_iff, ih]
      constructor
      · intro h j
        cases j with
        | zero => exact hfound
        | succ j => exact h j
      · intro h j
        exact h (j + 1)

/-- The position that a run reports is the least one with a hit. -/
theorem isFirst_run (state : σ) (items : List α) :
    IsFirst (fun i => ∃ b, scanner.hit? state items i = some b)
      ((scanner.run state items).map Prod.fst) := by
  cases hrun : scanner.run state items with
  | none =>
    rintro j ⟨b, hb⟩
    rw [scanner.run_eq_none_iff.1 hrun j] at hb
    exact absurd hb.symm (Option.some_ne_none b)
  | some found =>
    obtain ⟨hhit, hbefore⟩ := scanner.run_eq_some_iff.1 hrun
    refine ⟨⟨found.2, hhit⟩, ?_⟩
    rintro j ⟨b, hb⟩
    by_contra hlt
    rw [hbefore j (Nat.lt_of_not_le hlt)] at hb
    exact absurd hb.symm (Option.some_ne_none b)

/-- After the first `n` items the search finds what it finds there in the whole list. -/
theorem hit?_drop (n i : Nat) :
    scanner.hit? (scanner.after state (items.take n)) (items.drop n) i =
      scanner.hit? state items (n + i) := by
  rw [hit?, hit?, List.drop_drop, after, after, after, ← List.foldl_append, ← List.take_add]

/-- A run that is resumed before its first hit gets there. -/
theorem run_drop (hn : n ≤ i) (h : scanner.run state items = some (i, b)) :
    scanner.run (scanner.after state (items.take n)) (items.drop n) = some (i - n, b) := by
  obtain ⟨hhit, hbefore⟩ := scanner.run_eq_some_iff.1 h
  refine scanner.run_eq_some_iff.2 ⟨?_, fun j hj => ?_⟩
  · rw [hit?_drop, Nat.add_sub_cancel' hn]
    exact hhit
  · rw [hit?_drop]
    exact hbefore (n + j) (by omega)

end Scanner

end MorrowindScript
