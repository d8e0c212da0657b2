import MorrowindScript.Proofs.Block.Nesting
import MorrowindScript.Proofs.Program.Skip
import MorrowindScript.Proofs.Search
import Mathlib.Data.List.Induction

/-!
# The end of a body by a single counter

The end of a body is found by recursion: a block inside the body is passed over by a search of its
own, and the body has no end if that search fails. A counter of the open blocks that goes once
through the lines finds the same end, also where blocks are closed that were never opened or left
open.

## Main definitions

* `Block.counter`: the search in one pass.
* `Block.ClosesAt`: up to a line, one block more is closed than opened.
* `Block.Seek`: the recursion on line numbers, with the line before the body as the answer of a
  search that fails.
* `Block.FindsEnd`: what it means for a measure of bodies to find the line that the counter finds.

## Main results

* `Block.run_counter_add_one`: the counter inside a block is two searches, one after the other.
* `Block.bodyLength?_eq_run`, `Block.isFirst_bodyLength?`: the recursion finds what the counter
  finds.
* `Block.not_endsAt_of_unclosed`: a block that is left open takes the end of the body away.
* `Block.seek_answerFrom`, `Block.Seek.eq_answerFrom`: the recursion on line numbers comes to an end
  with one answer.
* `Block.recursion_finds_counted_ends`: all of this for conditionals, loops and branches.
-/

namespace MorrowindScript

/-! ## Depth -/

namespace BlockFamily

variable {family : BlockFamily} {kind : LineKind} {kinds : List LineKind} {n : Nat}

theorem neg_one_le_depth_singleton (family : BlockFamily) (kind : LineKind) :
    -1 ≤ family.depth [kind] := by
  have hcount : [kind].count family.closer ≤ 1 := List.count_le_length
  rw [depth]
  omega

theorem depth_singleton_nonneg (h : kind ≠ family.closer) : 0 ≤ family.depth [kind] := by
  have hcount : [kind].count family.closer = 0 := by
    rw [List.count_cons_of_ne h, List.count_nil]
  rw [depth]
  omega

/-- Before a block is closed that was not opened, there is a closing line where no block is open. -/
theorem exists_closer_of_depth_neg (h : family.depth (kinds.take n) < 0) :
    ∃ k < n, kinds[k]? = some family.closer ∧ family.depth (kinds.take k) = 0 := by
  induction n with
  | zero =>
    rw [List.take_zero, depth_nil] at h
    omega
  | succ n ih =>
    by_cases hneg : family.depth (kinds.take n) < 0
    · obtain ⟨k, hk, hcloser⟩ := ih hneg
      exact ⟨k, by omega, hcloser⟩
    · -- the last line takes away more than there is
      rw [List.take_add_one, depth_append] at h
      refine ⟨n, Nat.lt_succ_self n, ?_⟩
      cases hkind : kinds[n]? with
      | none =>
        rw [hkind, Option.toList_none, depth_nil] at h
        omega
      | some kind =>
        rw [hkind, Option.toList_some] at h
        have hbound := neg_one_le_depth_singleton family kind
        refine ⟨?_, by omega⟩
        by_contra hne
        have hnonneg : 0 ≤ family.depth [kind] :=
          depth_singleton_nonneg fun hcloser => hne (by rw [hcloser])
        omega

end BlockFamily

namespace Block

variable {family : BlockFamily} {isEnd : LineKind → Bool} {kinds : List LineKind} {depth : Int}
  {start i j : Nat}

/-! ## The counter -/

/-- A single counter of the blocks that are open, which stops at a line that ends the body if no
block is open there. -/
def counter (family : BlockFamily) (isEnd : LineKind → Bool) : Scanner Int LineKind Unit where
  next depth kind := depth + family.depth [kind]
  found? depth kind _ := if depth = 0 ∧ isEnd kind = true then some () else none

theorem counter_after (kinds : List LineKind) :
    (counter family isEnd).after 0 kinds = family.depth kinds := by
  induction kinds using List.reverseRecOn with
  | nil => rfl
  | append_singleton kinds kind ih =>
    rw [Scanner.after_concat, ih, BlockFamily.depth_append]
    rfl

theorem counter_hit?_iff :
    (∃ b, (counter family isEnd).hit? 0 kinds i = some b) ↔
      (∃ kind, kinds[i]? = some kind ∧ isEnd kind = true) ∧ family.depth (kinds.take i) = 0 := by
  cases hdrop : kinds.drop i with
  | nil =>
    have hget : kinds[i]? = none := by rw [← List.head?_drop, hdrop, List.head?_nil]
    simp [Scanner.hit?, hdrop, hget]
  | cons kind rest =>
    have hget : kinds[i]? = some kind := by rw [← List.head?_drop, hdrop, List.head?_cons]
    rw [(counter family isEnd).hit?_of_drop hdrop, counter_after, hget]
    simp [counter, and_comm]

/-- Inside a block the counter waits for the line that closes it, and goes on behind that line with
no block open. -/
theorem run_counter_add_one (hfamily : family.opener ≠ family.closer) (hdepth : 0 ≤ depth) :
    (counter family isEnd).run (depth + 1) kinds =
      ((counter family (· = family.closer)).run depth kinds).bind fun (n, _) =>
        ((counter family isEnd).run 0 (kinds.drop (n + 1))).map fun (i, b) => (i + (n + 1), b) := by
  induction kinds generalizing depth with
  | nil => rfl
  | cons kind rest ih =>
    have hinside : (counter family isEnd).found? (depth + 1) kind rest = none :=
      if_neg fun h => by omega
    rw [Scanner.run_cons_of_none _ hinside]
    by_cases hcloses : depth = 0 ∧ kind = family.closer
    · -- the line closes the block
      obtain ⟨rfl, rfl⟩ := hcloses
      have hzero : (counter family isEnd).next (0 + 1) family.closer = 0 := by
        show 0 + 1 + family.depth [family.closer] = 0
        rw [BlockFamily.depth_singleton_closer hfamily]
        rfl
      rw [Scanner.run_cons_of_some (b := ()) _ (if_pos ⟨rfl, by simp⟩), hzero]
      rfl
    · -- otherwise both counters go on, the one a block deeper than the other
      have hnext : 0 ≤ depth + family.depth [kind] := by
        have hbound := BlockFamily.neg_one_le_depth_singleton family kind
        by_cases hkind : kind = family.closer
        · have hne : depth ≠ 0 := fun h => hcloses ⟨h, hkind⟩
          omega
        · have hnonneg := BlockFamily.depth_singleton_nonneg hkind
          omega
      have hdeeper : (counter family isEnd).next (depth + 1) kind =
          depth + family.depth [kind] + 1 := by
        show depth + 1 + family.depth [kind] = _
        omega
      have hsame : (counter family (· = family.closer)).next depth kind =
          depth + family.depth [kind] := rfl
      rw [Scanner.run_cons_of_none _ (if_neg (by simpa using hcloses)), hdeeper, hsame, ih hnext]
      cases (counter family (· = family.closer)).run (depth + family.depth [kind]) rest with
      | none => rfl
      | some found =>
        simp only [Option.bind_some, Option.map_some, Option.map_map, List.drop_succ_cons]
        rfl

/-- A block inside the body is passed over up to the line that closes it. -/
theorem run_counter_opener (hfamily : family.opener ≠ family.closer)
    (hopener : isEnd family.opener = false) (rest : List LineKind) :
    (counter family isEnd).run 0 (family.opener :: rest) =
      ((counter family (· = family.closer)).run 0 rest).bind fun (n, _) =>
        ((counter family isEnd).run 0 (rest.drop (n + 1))).map fun (i, b) => (i + (n + 2), b) := by
  have hnone : (counter family isEnd).found? 0 family.opener rest = none :=
    if_neg (by simp [hopener])
  have hone : (counter family isEnd).next 0 family.opener = 0 + 1 := by
    show 0 + family.depth [family.opener] = 0 + 1
    rw [BlockFamily.depth_cons_opener hfamily, BlockFamily.depth_nil, zero_add]
  rw [Scanner.run_cons_of_none _ hnone, hone, run_counter_add_one hfamily le_rfl]
  cases (counter family (· = family.closer)).run 0 rest with
  | none => rfl
  | some found =>
    simp only [Option.bind_some, Option.map_map]
    rfl

/-- The recursion finds what the counter finds. -/
theorem bodyLength?_eq_run (hfamily : family.opener ≠ family.closer)
    (hcloser : isEnd family.closer = true) (hopener : isEnd family.opener = false) :
    bodyLength? family isEnd kinds = ((counter family isEnd).run 0 kinds).map Prod.fst := by
  fun_induction bodyLength? family isEnd kinds with
  | case1 => rfl
  | case2 isEnd kind rest hend =>
    rw [Scanner.run_cons_of_some (b := ()) _ (if_pos ⟨rfl, hend⟩)]
    rfl
  | case3 isEnd rest n hblock hend ihBlock ih =>
    rw [ihBlock (by simp) (by simpa using hfamily)] at hblock
    obtain ⟨⟨n', ⟨⟩⟩, hrun, rfl⟩ := Option.map_eq_some_iff.1 hblock
    rw [ih hcloser hopener, run_counter_opener hfamily hopener, hrun, Option.bind_some,
      Option.map_map, Option.map_map]
    rfl
  | case4 isEnd rest hblock hend ihBlock =>
    rw [ihBlock (by simp) (by simpa using hfamily), Option.map_eq_none_iff] at hblock
    rw [run_counter_opener hfamily hopener, hblock]
    rfl
  | case5 isEnd kind rest hend hkind ih =>
    have hnone : (counter family isEnd).found? 0 kind rest = none := if_neg fun h => hend h.2
    -- a closing line would have ended the body
    have hne : kind ≠ family.closer := by
      rintro rfl
      exact hend hcloser
    have hzero : (counter family isEnd).next 0 kind = 0 := by
      show 0 + family.depth [kind] = 0
      rw [BlockFamily.depth_cons_of_ne hkind hne, BlockFamily.depth_nil, zero_add]
    rw [ih hcloser hopener, Scanner.run_cons_of_none _ hnone, hzero, Option.map_map,
      Option.map_map]
    rfl

/-- A body ends at the first line that may end it and that finds no block open. -/
theorem isFirst_bodyLength? (hfamily : family.opener ≠ family.closer)
    (hcloser : isEnd family.closer = true) (hopener : isEnd family.opener = false) :
    IsFirst (fun i => (∃ kind, kinds[i]? = some kind ∧ isEnd kind = true) ∧
      family.depth (kinds.take i) = 0) (bodyLength? family isEnd kinds) := by
  rw [bodyLength?_eq_run hfamily hcloser hopener]
  exact ((counter family isEnd).isFirst_run 0 kinds).congr fun _ => counter_hit?_iff

/-! ## Ends of bodies by line number -/

/-- Among the lines after line `start` up to line `j`, one block more is closed than opened. -/
def ClosesAt (family : BlockFamily) (kinds : List LineKind) (start j : Nat) : Prop :=
  start < j ∧ j < kinds.length ∧
    (((kinds.take (j + 1)).drop (start + 1)).count family.closer : Int) -
      ((kinds.take (j + 1)).drop (start + 1)).count family.opener = 1

/-- The lines after a line, counted from the first of them. -/
theorem closesAt_iff (m : Nat) :
    ClosesAt family kinds start (start + 1 + m) ↔
      m < (kinds.drop (start + 1)).length ∧
        family.depth ((kinds.drop (start + 1)).take (m + 1)) = -1 := by
  have hlines : (kinds.take (start + 1 + m + 1)).drop (start + 1) =
      (kinds.drop (start + 1)).take (m + 1) := by
    rw [List.drop_take]
    congr 1
    omega
  rw [ClosesAt, hlines, List.length_drop, BlockFamily.depth]
  omega

variable {ends : List LineKind}

theorem isFirst_endsAt (hfamily : family.opener ≠ family.closer) (hcloser : family.closer ∈ ends)
    (hopener : family.opener ∉ ends) :
    IsFirst (EndsAt family ends kinds start)
      ((bodyLength? family (· ∈ ends) (kinds.drop (start + 1))).map (start + 1 + ·)) := by
  have hfirst : IsFirst (fun m => EndsAt family ends kinds start (start + 1 + m))
      (bodyLength? family (· ∈ ends) (kinds.drop (start + 1))) := by
    refine (isFirst_bodyLength? hfamily (by simpa using hcloser) (by simpa using hopener)).congr
      fun m => ?_
    rw [endsAt_iff]
    simp only [decide_eq_true_eq, and_comm]
  refine hfirst.add.congr fun j => and_iff_right_of_imp fun hj => hj.1

/-- A line that ends the body of a block by closing it closes one block more than are opened. -/
theorem EndsAt.closesAt (hfamily : family.opener ≠ family.closer)
    (h : EndsAt family [family.closer] kinds start j) : ClosesAt family kinds start j := by
  obtain ⟨m, rfl⟩ := Nat.exists_eq_add_of_le h.1
  obtain ⟨⟨kind, hkind, hget⟩, hdepth⟩ := (endsAt_iff m).1 h
  obtain rfl := List.mem_singleton.1 hkind
  refine (closesAt_iff m).2 ⟨(List.getElem?_eq_some_iff.1 hget).1, ?_⟩
  rw [List.take_add_one, hget, Option.toList_some, BlockFamily.depth_append, hdepth,
    BlockFamily.depth_singleton_closer hfamily, zero_add]

/-- Before a block is closed that was not opened, the body ends. -/
theorem exists_endsAt_of_depth_neg (hcloser : family.closer ∈ ends) {n : Nat}
    (h : family.depth ((kinds.drop (start + 1)).take n) < 0) :
    ∃ j < start + 1 + n, EndsAt family ends kinds start j := by
  obtain ⟨k, hk, hget, hdepth⟩ := BlockFamily.exists_closer_of_depth_neg h
  exact ⟨start + 1 + k, by omega, (endsAt_iff k).2 ⟨⟨_, hcloser, hget⟩, hdepth⟩⟩

theorem ClosesAt.exists_endsAt (h : ClosesAt family kinds start j) :
    ∃ i ≤ j, EndsAt family [family.closer] kinds start i := by
  obtain ⟨m, rfl⟩ := Nat.exists_eq_add_of_le h.1
  have hdepth := ((closesAt_iff m).1 h).2
  have hneg : family.depth ((kinds.drop (start + 1)).take (m + 1)) < 0 := by omega
  obtain ⟨i, hi, hends⟩ :=
    exists_endsAt_of_depth_neg (List.mem_singleton_self family.closer) hneg
  exact ⟨i, by omega, hends⟩

theorem isFirst_closesAt (hfamily : family.opener ≠ family.closer) :
    IsFirst (ClosesAt family kinds start)
      ((bodyLength? family (· = family.closer) (kinds.drop (start + 1))).map (start + 1 + ·)) := by
  have hfirst : IsFirst (EndsAt family [family.closer] kinds start)
      ((bodyLength? family (· ∈ [family.closer]) (kinds.drop (start + 1))).map
        (start + 1 + ·)) := isFirst_endsAt hfamily (by simp) (by simpa using hfamily)
  simp only [List.mem_singleton] at hfirst
  exact hfirst.mono (fun _ hj => hj.closesAt hfamily) fun _ hj => hj.exists_endsAt

/-- If a block inside a body is never closed, the body never ends. -/
theorem not_endsAt_of_unclosed (hfamily : family.opener ≠ family.closer)
    (hcloser : family.closer ∈ ends) (hopener : family.opener ∉ ends) (hlt : start < i)
    (hkind : kinds[i]? = some family.opener) (hinner : ∀ j, ¬ClosesAt family kinds i j)
    (hbefore : ∀ j < i, ¬EndsAt family ends kinds start j) (j : Nat) :
    ¬EndsAt family ends kinds start j := by
  intro hends
  rcases Nat.lt_trichotomy j i with hji | rfl | hij
  · exact hbefore j hji hends
  · -- the line that opens the block ends no body
    obtain ⟨-, ⟨kind, hmem, hget⟩, -⟩ := hends
    obtain rfl := Option.some.inj (hkind.symm.trans hget)
    exact hopener hmem
  · obtain ⟨k, rfl⟩ := Nat.exists_eq_add_of_le hlt
    obtain ⟨m, rfl⟩ := Nat.exists_eq_add_of_le hij
    -- neither up to that line nor behind it is a block closed that was not opened there
    have hstart : 0 ≤ family.depth ((kinds.drop (start + 1)).take k) := by
      by_contra hneg
      obtain ⟨j, hj, hends⟩ := exists_endsAt_of_depth_neg hcloser (Int.not_le.1 hneg)
      exact hbefore j hj hends
    have hinside : 0 ≤ family.depth ((kinds.drop (start + 1 + k + 1)).take m) := by
      by_contra hneg
      obtain ⟨j, -, hends⟩ := exists_endsAt_of_depth_neg (List.mem_singleton_self family.closer)
        (Int.not_le.1 hneg)
      exact hinner j (hends.closesAt hfamily)
    have hopened : (kinds.drop (start + 1))[k]? = some family.opener := by
      rw [List.getElem?_drop]
      exact hkind
    -- behind the line that opens the block, at least that block is open
    have hpos : 0 < family.depth ((kinds.drop (start + 1)).take (k + 1 + m)) := by
      rw [List.take_add, List.take_add_one, hopened, Option.toList_some, List.drop_drop,
        BlockFamily.depth_append, BlockFamily.depth_append, BlockFamily.depth_cons_opener hfamily,
        BlockFamily.depth_nil, ← Nat.add_assoc]
      omega
    have hline : start.succ + k + 1 + m = start + 1 + (k + 1 + m) := by omega
    rw [hline] at hends
    exact absurd ((endsAt_iff (k + 1 + m)).1 hends).2 hpos.ne'

/-! ## The recursion on line numbers -/

/-- How the end of a body is sought on line numbers. The line `start` is the one before the body and
line `i` the next one to be looked at. At a line that ends the body, the answer is that line. At a
line that opens a block, the end of that block is sought first, and the search goes on behind it.
Where there is no end the answer is `start`, which is also how a search inside tells that it has
failed. -/
inductive Seek (family : BlockFamily) (kinds : List LineKind) :
    (isEnd : LineKind → Bool) → (start i answer : Nat) → Prop
  | missing {isEnd : LineKind → Bool} {start i : Nat} (h : kinds.length ≤ i) :
      Seek family kinds isEnd start i start
  | found {isEnd : LineKind → Bool} {start i : Nat} {kind : LineKind} (h : kinds[i]? = some kind)
      (hend : isEnd kind = true) : Seek family kinds isEnd start i i
  | block {isEnd : LineKind → Bool} {start i close answer : Nat}
      (h : kinds[i]? = some family.opener) (hend : isEnd family.opener = false)
      (hblock : Seek family kinds (· = family.closer) i (i + 1) close) (hclose : close ≠ i)
      (hrest : Seek family kinds isEnd start (close + 1) answer) :
      Seek family kinds isEnd start i answer
  | unclosed {isEnd : LineKind → Bool} {start i : Nat}
      (h : kinds[i]? = some family.opener) (hend : isEnd family.opener = false)
      (hblock : Seek family kinds (· = family.closer) i (i + 1) i) :
      Seek family kinds isEnd start i start
  | line {isEnd : LineKind → Bool} {start i answer : Nat} {kind : LineKind}
      (h : kinds[i]? = some kind) (hend : isEnd kind = false) (hkind : kind ≠ family.opener)
      (hrest : Seek family kinds isEnd start (i + 1) answer) :
      Seek family kinds isEnd start i answer

/-- The answer of the search that looks at line `i` next. -/
def answerFrom (family : BlockFamily) (isEnd : LineKind → Bool) (kinds : List LineKind)
    (start i : Nat) : Nat :=
  ((bodyLength? family isEnd (kinds.drop i)).map (i + ·)).getD start

theorem drop_of_getElem? {kind : LineKind} (h : kinds[i]? = some kind) :
    kinds.drop i = kind :: kinds.drop (i + 1) := by
  obtain ⟨hlt, rfl⟩ := List.getElem?_eq_some_iff.1 h
  exact List.drop_eq_getElem_cons hlt

theorem answerFrom_of_length_le (h : kinds.length ≤ i) :
    answerFrom family isEnd kinds start i = start := by
  rw [answerFrom, List.drop_eq_nil_of_le h, bodyLength?]
  rfl

theorem answerFrom_of_isEnd {kind : LineKind} (h : kinds[i]? = some kind)
    (hend : isEnd kind = true) : answerFrom family isEnd kinds start i = i := by
  rw [answerFrom, drop_of_getElem? h, bodyLength?, if_pos hend]
  rfl

theorem answerFrom_of_line {kind : LineKind} (h : kinds[i]? = some kind) (hend : isEnd kind = false)
    (hkind : kind ≠ family.opener) :
    answerFrom family isEnd kinds start i = answerFrom family isEnd kinds start (i + 1) := by
  rw [answerFrom, drop_of_getElem? h, bodyLength?, if_neg (by simp [hend]), if_neg hkind,
    Option.map_map, answerFrom]
  refine congrArg (fun f => Option.getD (Option.map f _) start) (funext fun n => ?_)
  show i + (n + 1) = i + 1 + n
  omega

/-- At a line that opens a block, the answer is that behind the block, or that there is none. -/
theorem answerFrom_of_opener (h : kinds[i]? = some family.opener)
    (hend : isEnd family.opener = false) :
    answerFrom family isEnd kinds start i =
      if answerFrom family (· = family.closer) kinds i (i + 1) = i then start
      else answerFrom family isEnd kinds start
        (answerFrom family (· = family.closer) kinds i (i + 1) + 1) := by
  rw [answerFrom, drop_of_getElem? h, bodyLength?, if_neg (by simp [hend]), if_pos rfl]
  cases hblock : bodyLength? family (· = family.closer) (kinds.drop (i + 1)) with
  | none =>
    -- a search that fails answers with the line it started from
    have hfailed : answerFrom family (· = family.closer) kinds i (i + 1) = i := by
      rw [answerFrom, hblock]
      rfl
    rw [if_pos hfailed]
    rfl
  | some n =>
    have hclosed : answerFrom family (· = family.closer) kinds i (i + 1) = i + 1 + n := by
      rw [answerFrom, hblock]
      rfl
    rw [hclosed, if_neg (by omega), answerFrom]
    simp only [List.drop_drop, Option.map_map]
    refine congrArg (fun f => Option.getD (Option.map f _) start) (funext fun m => ?_)
    show i + (m + (n + 2)) = i + 1 + n + 1 + m
    omega

theorem le_answerFrom (family : BlockFamily) (isEnd : LineKind → Bool) (kinds : List LineKind)
    (i : Nat) : i ≤ answerFrom family isEnd kinds i (i + 1) := by
  rw [answerFrom]
  cases bodyLength? family isEnd (kinds.drop (i + 1)) with
  | none => exact le_rfl
  | some n =>
    show i ≤ i + 1 + n
    omega

/-- The search comes to an end from every line, with the answer that is looked up. -/
theorem seek_answerFrom (family : BlockFamily) (isEnd : LineKind → Bool) (kinds : List LineKind)
    (start i : Nat) : Seek family kinds isEnd start i (answerFrom family isEnd kinds start i) := by
  -- every further search looks at a later line first
  induction hleft : kinds.length - i using Nat.strong_induction_on generalizing isEnd start i with
  | _ left ih =>
    subst hleft
    cases hget : kinds[i]? with
    | none =>
      have hle := List.getElem?_eq_none_iff.1 hget
      rw [answerFrom_of_length_le hle]
      exact .missing hle
    | some kind =>
      have hlt : i < kinds.length := (List.getElem?_eq_some_iff.1 hget).1
      cases hend : isEnd kind with
      | true =>
        rw [answerFrom_of_isEnd hget hend]
        exact .found hget hend
      | false =>
        by_cases hkind : kind = family.opener
        · subst hkind
          have hblock := ih (kinds.length - (i + 1)) (by omega) (· = family.closer) i (i + 1) rfl
          rw [answerFrom_of_opener hget hend]
          split
          · next hfailed =>
            rw [hfailed] at hblock
            exact .unclosed hget hend hblock
          · next hclosed =>
            have hle := le_answerFrom family (· = family.closer) kinds i
            exact .block hget hend hblock hclosed (ih _ (by omega) isEnd start _ rfl)
        · rw [answerFrom_of_line hget hend hkind]
          exact .line hget hend hkind (ih _ (by omega) isEnd start (i + 1) rfl)

/-- The search has no other answer. -/
theorem Seek.eq_answerFrom {answer : Nat} (h : Seek family kinds isEnd start i answer) :
    answer = answerFrom family isEnd kinds start i := by
  induction h with
  | missing h => rw [answerFrom_of_length_le h]
  | found h hend => rw [answerFrom_of_isEnd h hend]
  | block h hend hblock hclose hrest ihBlock ih =>
    rw [answerFrom_of_opener h hend, ← ihBlock, if_neg hclose, ← ih]
  | unclosed h hend hblock ihBlock =>
    rw [answerFrom_of_opener h hend, ← ihBlock, if_pos rfl]
  | line h hend hkind hrest ih => rw [answerFrom_of_line h hend hkind, ← ih]

/-! ## The three searches -/

/-- The line that ends the body after line `start`, as `length?` measures it, and line `start`
itself if there is none. -/
def endLine (length? : List LineKind → Option Nat) (kinds : List LineKind) (start : Nat) : Nat :=
  ((length? (kinds.drop (start + 1))).map (start + 1 + ·)).getD start

/-- A measure of bodies finds the line that a single counter finds: the first line at which the body
after line `start` ends. -/
structure FindsEnd (family : BlockFamily) (isEnd : LineKind → Bool)
    (length? : List LineKind → Option Nat) (EndsBody : List LineKind → Nat → Nat → Prop) :
    Prop where
  /-- The recursion on line numbers comes to an end, with the line that is found and no other. -/
  seek_iff : ∀ kinds start answer, Seek family kinds isEnd start (start + 1) answer ↔
    answer = endLine length? kinds start
  /-- It is the least line at which the body ends, and `start` if there is none. -/
  first : ∀ kinds start,
    IsLeast {j | EndsBody kinds start j} (endLine length? kinds start) ∨
      (∀ j, ¬EndsBody kinds start j) ∧ endLine length? kinds start = start
  /-- If a block is opened inside the body and never closed, there is none. -/
  unclosed : ∀ kinds start i, start < i → (∀ j < i, ¬EndsBody kinds start j) →
    kinds[i]? = some family.opener → (∀ j, ¬ClosesAt family kinds i j) →
      endLine length? kinds start = start

theorem isLeast_endLine {length? : List LineKind → Option Nat} {P : Nat → Prop}
    (h : IsFirst P ((length? (kinds.drop (start + 1))).map (start + 1 + ·))) :
    IsLeast {j | P j} (endLine length? kinds start) ∨
      (∀ j, ¬P j) ∧ endLine length? kinds start = start := by
  rw [endLine]
  cases hlength : length? (kinds.drop (start + 1)) with
  | none =>
    rw [hlength] at h
    exact .inr ⟨h, rfl⟩
  | some n =>
    rw [hlength] at h
    exact .inl h

/-- What is left to show of a measure of bodies that looks up their length. -/
theorem findsEnd_bodyLength? {EndsBody : List LineKind → Nat → Nat → Prop}
    (hfirst : ∀ kinds start, IsFirst (EndsBody kinds start)
      ((bodyLength? family isEnd (kinds.drop (start + 1))).map (start + 1 + ·)))
    (hunclosed : ∀ kinds start i, start < i → (∀ j < i, ¬EndsBody kinds start j) →
      kinds[i]? = some family.opener → (∀ j, ¬ClosesAt family kinds i j) →
        ∀ j, ¬EndsBody kinds start j) :
    FindsEnd family isEnd (bodyLength? family isEnd) EndsBody where
  seek_iff kinds start answer := by
    constructor
    · exact Seek.eq_answerFrom
    · rintro rfl
      exact seek_answerFrom family isEnd kinds start (start + 1)
  first kinds start := isLeast_endLine (hfirst kinds start)
  unclosed kinds start i hlt hbefore hopener hinner := by
    have hnone := hunclosed kinds start i hlt hbefore hopener hinner
    rcases isLeast_endLine (hfirst kinds start) with hleast | hmissing
    · exact absurd hleast.1 (hnone _)
    · exact hmissing.2

theorem findsEnd_endsAt (hfamily : family.opener ≠ family.closer) (hcloser : family.closer ∈ ends)
    (hopener : family.opener ∉ ends) :
    FindsEnd family (· ∈ ends) (bodyLength? family (· ∈ ends)) (EndsAt family ends) :=
  findsEnd_bodyLength? (fun _ _ => isFirst_endsAt hfamily hcloser hopener)
    fun _ _ _ hlt hbefore hkind hinner =>
      not_endsAt_of_unclosed hfamily hcloser hopener hlt hkind hinner hbefore

theorem findsEnd_closesAt (hfamily : family.opener ≠ family.closer) :
    FindsEnd family (· = family.closer) (bodyLength? family (· = family.closer))
      (ClosesAt family) := by
  refine findsEnd_bodyLength? (fun _ _ => isFirst_closesAt hfamily) ?_
  intro kinds start i hlt hbefore hkind hinner j hj
  -- where the counts differ by one, the body has ended there or before
  obtain ⟨k, -, hends⟩ := hj.exists_endsAt
  refine not_endsAt_of_unclosed hfamily (List.mem_singleton_self _) (by simpa using hfamily) hlt
    hkind hinner (fun k hk hends => ?_) k hends
  exact hbefore k hk (hends.closesAt hfamily)

/-- The recursive searches for the end of a conditional, of a loop and of a branch come to an end
for every line of every script and find what a single counter finds. -/
theorem recursion_finds_counted_ends :
    FindsEnd .conditional (· = .ifEnd) elseLength? (ClosesAt .conditional) ∧
      FindsEnd .loop (· = .whileEnd) loopLength? (ClosesAt .loop) ∧
      FindsEnd .conditional endsBranch branchLength?
        (EndsAt .conditional [.elseIfBranch, .elseBranch, .ifEnd]) := by
  refine ⟨findsEnd_closesAt (by decide), findsEnd_closesAt (by decide), ?_⟩
  have hbranch : FindsEnd .conditional (· ∈ [LineKind.elseIfBranch, .elseBranch, .ifEnd])
      (bodyLength? .conditional (· ∈ [LineKind.elseIfBranch, .elseBranch, .ifEnd]))
      (EndsAt .conditional [.elseIfBranch, .elseBranch, .ifEnd]) :=
    findsEnd_endsAt (by decide) (by decide) (by decide)
  rwa [← endsBranch_eq] at hbranch

/-- The inner conditional is left open, and its `else` does not end the outer branch. -/
theorem recursion_finds_counted_ends_unclosed :
    endLine branchLength? [.ifBranch, .returning, .ifBranch, .elseBranch] 0 = 0 := by
  refine recursion_finds_counted_ends.2.2.unclosed _ 0 2 (by omega) ?_ rfl ?_
  · rintro j hj ⟨hlt, ⟨kind, hkind, hget⟩, -⟩
    obtain rfl : j = 1 := by omega
    obtain rfl := Option.some.inj hget
    exact absurd hkind (by decide)
  · rintro j ⟨hlt, hlength, hcount⟩
    obtain rfl : j = 3 := by
      rw [List.length_cons, List.length_cons, List.length_cons, List.length_singleton] at hlength
      omega
    exact absurd hcount (by decide)

end Block

end MorrowindScript
