import MorrowindScript.Proofs.Block.Nesting
import MorrowindScript.Proofs.Program.Skip

/-!
# How far the blocks of a script are nested

The compiler looks ahead from every line that starts a body, to the line that ends it, and blocks of
the other family in between are not looked at. Lines that close a block are not checked against the
lines before them. A script that compiles need therefore not be nested: it may close a block that
was never opened, let a conditional and a loop overlap, or go on after the last branch of a
conditional.

Main result, `Program.isNested_iff_of_compile`: after every line that starts a body the script
closes more blocks of the family than it opens; and the script is nested iff it is balanced, every
body that is skipped is balanced, and no body is skipped beyond a further branch.
-/

namespace MorrowindScript

open Bytes

/-! ## Bodies by line number -/

namespace Block

theorem rule?_eq_map_startedBy? (kind : LineKind) :
    rule? kind = (OpenBlock.startedBy? kind).map fun block => (block.family, block.ends) := by
  cases kind <;> rfl

variable {kinds : List LineKind} {i n : Nat} {block : OpenBlock}

theorem EndsAt.mono {family : BlockFamily} {ends ends' : List LineKind} {j : Nat}
    (hsub : ends ⊆ ends') (h : EndsAt family ends kinds i j) : EndsAt family ends' kinds i j := by
  obtain ⟨hlt, ⟨kind, hkind, hget⟩, hcount⟩ := h
  exact ⟨hlt, ⟨kind, hsub hkind, hget⟩, hcount⟩

/-- The body after line `i` ends after `n` lines, with all blocks inside it closed. -/
theorem endsAfter_nil_iff :
    OpenBlock.EndsAfter [] block (kinds.drop (i + 1)) n ↔
      EndsAt block.family block.ends kinds i (i + 1 + n) ∧
        IsBalanced ((kinds.drop (i + 1)).take n) ∧
        IsLeast {j | EndsAt block.family block.family.ends kinds i j} (i + 1 + n) := by
  constructor
  · intro h
    have hdepth : ∀ family ∈ BlockFamily.all,
        family.depth ((kinds.drop (i + 1)).take n) = 0 := h.depth
    have hends : EndsAt block.family block.ends kinds i (i + 1 + n) :=
      (endsAt_iff n).2 ⟨h.ends, hdepth _ block.family_mem_all⟩
    refine ⟨hends, isBalanced_iff.2 hdepth, hends.mono block.ends_subset, ?_⟩
    intro j hj
    obtain ⟨m, rfl⟩ : ∃ m, j = i + 1 + m := ⟨j - (i + 1), by have := hj.1; omega⟩
    obtain ⟨⟨kind, hkind, hget⟩, hzero⟩ := (endsAt_iff m).1 hj
    by_contra hless
    exact h.first m (by omega) kind hkind hget hzero
  · rintro ⟨hends, hbalanced, hleast⟩
    refine ⟨((endsAt_iff n).1 hends).1, isBalanced_iff.1 hbalanced, ?_⟩
    intro m hm kind hkind hget hzero
    have hle := hleast.2 ((endsAt_iff m).2 ⟨⟨kind, hkind, hget⟩, hzero⟩)
    omega

/-- If the body after line `i` may end at line `i + n + 1` first, then it ends with all blocks
inside it closed iff it is balanced up to there and no line before could end it. -/
theorem pending_iff_of_isLeast
    (h : IsLeast {j | EndsAt block.family block.ends kinds i j} (i + n + 1)) :
    OpenBlock.Pending [] block (kinds.drop (i + 1)) ↔
      IsBalanced ((kinds.take (i + n + 1)).drop (i + 1)) ∧
        IsLeast {j | EndsAt block.family block.family.ends kinds i j} (i + n + 1) := by
  have hbody : (kinds.take (i + n + 1)).drop (i + 1) = (kinds.drop (i + 1)).take n := by
    rw [List.drop_take, show i + n + 1 - (i + 1) = n by omega]
  rw [show i + n + 1 = i + 1 + n by omega] at h ⊢ hbody
  rw [hbody]
  constructor
  · rintro ⟨m, hm⟩
    obtain ⟨hends, hbalanced, hleast⟩ := endsAfter_nil_iff.1 hm
    -- each of the two lines is the first of its sort, and both may end the body
    have hle := h.2 hends
    have hge := hleast.2 (h.1.mono block.ends_subset)
    obtain rfl : m = n := by omega
    exact ⟨hbalanced, hleast⟩
  · rintro ⟨hbalanced, hleast⟩
    exact ⟨n, endsAfter_nil_iff.2 ⟨h.1, hbalanced, hleast⟩⟩

end Block

/-! ## Scripts -/

namespace Program

/-- In a script that compiles, after every line that starts a body more blocks of its family are
closed than opened. The script is nested iff it is balanced, and the number of every line that
starts a body leads over a balanced body to the first line that may end any body of the family. -/
theorem isNested_iff_of_compile {tables : Tables} {source : Bytes} {p : Program}
    (h : (compile tables source).result = .ok p) :
    (∀ i kind family ends, (lineKinds source)[i]? = some kind →
      Block.rule? kind = some (family, ends) →
        ((lineKinds source).drop (i + 1)).count family.opener <
          ((lineKinds source).drop (i + 1)).count family.closer) ∧
    (Block.IsNested (lineKinds source) ↔
      Block.IsBalanced (lineKinds source) ∧
        ∀ i kind family ends c, (lineKinds source)[i]? = some kind →
          Block.rule? kind = some (family, ends) → p.countByte? (lineKinds source) i = some c →
            Block.IsBalanced (((lineKinds source).take (i + c.toNat + 1)).drop (i + 1)) ∧
              IsLeast {j | Block.EndsAt family family.ends (lineKinds source) i j}
                (i + c.toNat + 1)) := by
  -- what is known of the number of each line that starts a body
  have hcount {i : Nat} {kind : LineKind} {block : OpenBlock}
      (hkind : (lineKinds source)[i]? = some kind)
      (hstarted : OpenBlock.startedBy? kind = some block) :
      ∃ c, p.countByte? (lineKinds source) i = some c ∧
        IsLeast {j | Block.EndsAt block.family block.ends (lineKinds source) i j}
          (i + c.toNat + 1) := by
    have hrule : Block.rule? kind = some (block.family, block.ends) := by
      rw [Block.rule?_eq_map_startedBy?, hstarted]
      rfl
    obtain ⟨-, c, -, -, hc, hleast⟩ := exists_countByte?_of_compile h hkind hrule
    exact ⟨c, hc, hleast⟩
  constructor
  · intro i kind family ends hkind hrule
    rw [Block.rule?_eq_map_startedBy?] at hrule
    obtain ⟨block, hstarted, hblock⟩ := Option.map_eq_some_iff.1 hrule
    obtain ⟨rfl, rfl⟩ := Prod.mk.inj hblock
    have hdepth : block.family.depth ((lineKinds source).drop (i + 1)) < 0 := by
      refine Block.depth_drop_lt_zero ?_ hkind hstarted
      intro j kind' block' hkind' hstarted'
      obtain ⟨c, -, hleast⟩ := hcount hkind' hstarted'
      have hends : Block.EndsAt _ _ _ j (j + c.toNat + 1) := hleast.1
      rw [show j + c.toNat + 1 = j + 1 + c.toNat by omega] at hends
      exact ⟨c.toNat, (Block.endsAt_iff c.toNat).1 hends⟩
    rw [BlockFamily.depth] at hdepth
    omega
  · rw [Block.isNested_iff]
    refine and_congr_right fun _ => ?_
    constructor
    · intro hbodies i kind family ends c hkind hrule hc
      rw [Block.rule?_eq_map_startedBy?] at hrule
      obtain ⟨block, hstarted, hblock⟩ := Option.map_eq_some_iff.1 hrule
      obtain ⟨rfl, rfl⟩ := Prod.mk.inj hblock
      obtain ⟨c', hc', hleast⟩ := hcount hkind hstarted
      obtain rfl : c' = c := Option.some.inj (hc'.symm.trans hc)
      exact (Block.pending_iff_of_isLeast hleast).1 (hbodies i kind block hkind hstarted)
    · intro hbodies i kind block hkind hstarted
      obtain ⟨c, hc, hleast⟩ := hcount hkind hstarted
      refine (Block.pending_iff_of_isLeast hleast).2 (hbodies i kind _ block.ends c hkind ?_ hc)
      rw [Block.rule?_eq_map_startedBy?, hstarted]
      rfl

/-- A script in which a loop and a conditional of three branches are nested. -/
def patrol : Bytes :=
  joinWith [lineFeed] (List.map ascii
    ["begin patrol", "short x", "while ( x < 3 )", "if ( x == 1 )", "set x to 2",
      "elseif ( x == 2 )", "return", "else", "set x to 3", "endif", "endwhile", "end"])

theorem isNested_iff_of_compile_patrol :
    ∃ p, (compile .empty patrol).result = .ok p ∧ Block.IsNested (lineKinds patrol) ∧
      Block.IsBalanced (lineKinds patrol) ∧
      ∃ c, p.countByte? (lineKinds patrol) 5 = some c ∧
        IsLeast {j | Block.EndsAt .conditional BlockFamily.conditional.ends (lineKinds patrol) 5 j}
          (5 + c.toNat + 1) := by
  obtain ⟨p, hp⟩ : ∃ p, (compile .empty patrol).result = .ok p :=
    Outcome.exists_result_eq_ok (by decide +kernel)
  have hnested : Block.IsNested (lineKinds patrol) := by decide +kernel
  have hbranch : (lineKinds patrol)[5]? = some .elseIfBranch := by decide +kernel
  obtain ⟨hbalanced, hbodies⟩ := (isNested_iff_of_compile hp).2.1 hnested
  obtain ⟨-, c, -, -, hc, -⟩ := exists_countByte?_of_compile hp hbranch rfl
  exact ⟨p, hp, hnested, hbalanced, c, hc, (hbodies 5 _ _ _ c hbranch rfl hc).2⟩

/-- A script with a block that is closed but was not opened. -/
def stray : Bytes :=
  joinWith [lineFeed] (List.map ascii ["begin T", "endif", "end"])

/-- A script with a conditional and a loop that overlap. -/
def overlapping : Bytes :=
  joinWith [lineFeed] (List.map ascii
    ["begin T", "if ( 1 == 1 )", "while ( 1 == 1 )", "endif", "endwhile", "end"])

/-- A script with a branch after the last branch. -/
def lateBranch : Bytes :=
  joinWith [lineFeed] (List.map ascii
    ["begin T", "if ( 1 == 1 )", "else", "elseif ( 1 == 1 )", "endif", "end"])

/-- Scripts that are not nested are compiled all the same. -/
theorem exists_compile_not_isNested :
    (∃ p, (compile .empty stray).result = .ok p ∧ ¬ Block.IsNested (lineKinds stray)) ∧
      (∃ p, (compile .empty overlapping).result = .ok p ∧
        ¬ Block.IsNested (lineKinds overlapping)) ∧
      ∃ p, (compile .empty lateBranch).result = .ok p ∧
        ¬ Block.IsNested (lineKinds lateBranch) := by
  have hcheck {source : Bytes} (h : (compile .empty source).result.isOk = true ∧
      ¬ Block.IsNested (lineKinds source)) :
      ∃ p, (compile .empty source).result = .ok p ∧ ¬ Block.IsNested (lineKinds source) := by
    obtain ⟨p, hp⟩ := Outcome.exists_result_eq_ok h.1
    exact ⟨p, hp, h.2⟩
  refine ⟨hcheck ?_, hcheck ?_, hcheck ?_⟩
  · decide +kernel
  · decide +kernel
  · decide +kernel

end Program

end MorrowindScript
