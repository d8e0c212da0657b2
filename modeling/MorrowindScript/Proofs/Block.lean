import MorrowindScript.Block
import Mathlib.Algebra.Order.Ring.Int
import Mathlib.Data.List.Count

/-!
# Bodies of blocks

The body of a block ends at the first line that may end it and before which as many blocks of the
family are closed as are opened. The module introduces:

* `BlockFamily.depth`: how many more blocks of a family are opened than closed.
* `Block.IsBody`: the first lines are the body of a block.
* `Block.isBody_of_bodyLength?`: the number of lines that is looked up is the length of the body.
-/

namespace MorrowindScript

/-! ## Depth -/

namespace BlockFamily

/-- How many more blocks of the family are opened than closed. -/
def depth (family : BlockFamily) (kinds : List LineKind) : Int :=
  kinds.count family.opener - kinds.count family.closer

variable {family : BlockFamily}

@[simp]
theorem depth_nil : family.depth [] = 0 := rfl

@[simp]
theorem depth_append (kinds kinds' : List LineKind) :
    family.depth (kinds ++ kinds') = family.depth kinds + family.depth kinds' := by
  simp only [depth, List.count_append]
  omega

/-- A line that opens a block adds one. -/
theorem depth_cons_opener (hfamily : family.opener ≠ family.closer) (kinds : List LineKind) :
    family.depth (family.opener :: kinds) = family.depth kinds + 1 := by
  rw [depth, depth, List.count_cons_self, List.count_cons_of_ne hfamily]
  omega

/-- A line that closes a block takes one away. -/
theorem depth_singleton_closer (hfamily : family.opener ≠ family.closer) :
    family.depth [family.closer] = -1 := by
  rw [depth, List.count_singleton_self, List.count_cons_of_ne hfamily.symm]
  rfl

/-- Any other line changes nothing. -/
theorem depth_cons_of_ne {kind : LineKind} (hopener : kind ≠ family.opener)
    (hcloser : kind ≠ family.closer) (kinds : List LineKind) :
    family.depth (kind :: kinds) = family.depth kinds := by
  rw [depth, depth, List.count_cons_of_ne hopener, List.count_cons_of_ne hcloser]

/-- There is no depth exactly if as many blocks are opened as closed. -/
theorem depth_eq_zero_iff {kinds : List LineKind} :
    family.depth kinds = 0 ↔ kinds.count family.opener = kinds.count family.closer := by
  rw [depth]
  omega

end BlockFamily

/-! ## Bodies -/

namespace Block

/-- The first `n` lines are the body of a block: the line after them ends it, they leave no block of
the family open, and no shorter body does. -/
structure IsBody (family : BlockFamily) (isEnd : LineKind → Bool) (kinds : List LineKind)
    (n : Nat) : Prop where
  ends : ∃ kind, kinds[n]? = some kind ∧ isEnd kind = true
  closed : family.depth (kinds.take n) = 0
  nonneg : ∀ m ≤ n, 0 ≤ family.depth (kinds.take m)
  first : ∀ m < n, ∀ kind, kinds[m]? = some kind → isEnd kind = true →
    family.depth (kinds.take m) ≠ 0

variable {family : BlockFamily} {isEnd : LineKind → Bool} {kind : LineKind}
  {rest : List LineKind} {n m : Nat}

/-- Before a line that ends it, a body is empty. -/
theorem isBody_zero (h : isEnd kind = true) : IsBody family isEnd (kind :: rest) 0 where
  ends := ⟨kind, rfl, h⟩
  closed := rfl
  nonneg m hm := by
    obtain rfl := Nat.le_zero.1 hm
    exact le_rfl
  first m hm := absurd hm (Nat.not_lt_zero m)

/-- A line that neither ends the body nor delimits a block of the family belongs to the body. -/
theorem IsBody.cons (hend : isEnd kind = false) (hopener : kind ≠ family.opener)
    (hcloser : kind ≠ family.closer) (h : IsBody family isEnd rest n) :
    IsBody family isEnd (kind :: rest) (n + 1) where
  ends := h.ends
  closed := by
    rw [List.take_succ_cons, BlockFamily.depth_cons_of_ne hopener hcloser]
    exact h.closed
  nonneg m hm := by
    -- prefixes of the longer list are empty, or a prefix of the shorter one after the line
    cases m with
    | zero => exact le_rfl
    | succ m =>
      rw [List.take_succ_cons, BlockFamily.depth_cons_of_ne hopener hcloser]
      exact h.nonneg m (by omega)
  first m hm kind' hkind hend' := by
    cases m with
    | zero =>
      obtain rfl := Option.some.inj hkind
      exact absurd hend' (by simp [hend])
    | succ m =>
      rw [List.take_succ_cons, BlockFamily.depth_cons_of_ne hopener hcloser]
      exact h.first m (by omega) kind' hkind hend'

/-- Inside a block there is depth. -/
theorem IsBody.depth_take_opener_pos (hfamily : family.opener ≠ family.closer)
    (h : IsBody family isEnd rest n) (hm : m ≤ n) :
    0 < family.depth ((family.opener :: rest).take (m + 1)) := by
  have hnonneg := h.nonneg m hm
  rw [List.take_succ_cons, BlockFamily.depth_cons_opener hfamily]
  omega

/-- Behind a block the depth is what it was before. -/
theorem IsBody.depth_take_block (hfamily : family.opener ≠ family.closer)
    (h : IsBody family (· = family.closer) rest n) (m : Nat) :
    family.depth ((family.opener :: rest).take (m + (n + 2))) =
      family.depth ((rest.drop (n + 1)).take m) := by
  obtain ⟨kind, hkind, hcloser⟩ := h.ends
  obtain rfl : kind = family.closer := by simpa using hcloser
  have htake : rest.take (n + 1) = rest.take n ++ [family.closer] := by
    rw [List.take_add_one, hkind]
    rfl
  -- one for the line that opens the block, nothing for its body, and one back for its end
  rw [show m + (n + 2) = n + 1 + m + 1 by omega, List.take_succ_cons, List.take_add, htake,
    BlockFamily.depth_cons_opener hfamily, BlockFamily.depth_append, BlockFamily.depth_append,
    h.closed, BlockFamily.depth_singleton_closer hfamily]
  omega

/-- A whole block belongs to the body. -/
theorem IsBody.block (hfamily : family.opener ≠ family.closer)
    (hopener : isEnd family.opener = false) (hblock : IsBody family (· = family.closer) rest n)
    (h : IsBody family isEnd (rest.drop (n + 1)) m) :
    IsBody family isEnd (family.opener :: rest) (m + (n + 2)) where
  ends := by
    obtain ⟨kind, hkind, hend⟩ := h.ends
    refine ⟨kind, ?_, hend⟩
    rw [← hkind, List.getElem?_drop, show m + (n + 2) = n + 1 + m + 1 by omega,
      List.getElem?_cons_succ]
  closed := by
    rw [hblock.depth_take_block hfamily]
    exact h.closed
  nonneg k hk := by
    -- a prefix stops before the block, behind it or inside it
    rcases k with - | k
    · exact le_rfl
    · rcases Nat.lt_or_ge n k with hbehind | hinside
      · obtain ⟨j, rfl⟩ : ∃ j, k = j + (n + 1) := ⟨k - (n + 1), by omega⟩
        rw [show j + (n + 1) + 1 = j + (n + 2) by omega, hblock.depth_take_block hfamily]
        exact h.nonneg j (by omega)
      · exact (hblock.depth_take_opener_pos hfamily hinside).le
  first k hk kind hkind hend := by
    -- the opening line ends nothing, inside the block there is depth, and behind it as before
    rcases k with - | k
    · obtain rfl := Option.some.inj hkind
      exact absurd hend (by simp [hopener])
    · rcases Nat.lt_or_ge n k with hbehind | hinside
      · obtain ⟨j, rfl⟩ : ∃ j, k = j + (n + 1) := ⟨k - (n + 1), by omega⟩
        rw [show j + (n + 1) + 1 = j + (n + 2) by omega, hblock.depth_take_block hfamily]
        refine h.first j (by omega) kind ?_ hend
        rw [← hkind, List.getElem?_drop, List.getElem?_cons_succ, Nat.add_comm]
      · exact (hblock.depth_take_opener_pos hfamily hinside).ne'

/-- The number of lines that is looked up is the length of the body. -/
theorem isBody_of_bodyLength? (hfamily : family.opener ≠ family.closer) {kinds : List LineKind}
    (hcloser : isEnd family.closer = true) (hopener : isEnd family.opener = false)
    (h : bodyLength? family isEnd kinds = some n) : IsBody family isEnd kinds n := by
  fun_induction bodyLength? family isEnd kinds generalizing n with
  | case1 => simp at h
  | case2 isEnd kind rest hend =>
    obtain rfl := Option.some.inj h
    exact isBody_zero hend
  | case3 isEnd rest n' hblock _ ihBlock ih =>
    -- the block is measured by the line that closes it, the body behind it by `isEnd`
    obtain ⟨m, hm, rfl⟩ := Option.map_eq_some_iff.1 h
    exact (ihBlock (by simp) (by simpa using hfamily) hblock).block hfamily hopener
      (ih hcloser hopener hm)
  | case4 => simp at h
  | case5 isEnd kind rest hend hkind ih =>
    obtain ⟨m, hm, rfl⟩ := Option.map_eq_some_iff.1 h
    refine (ih hcloser hopener hm).cons (by simpa using hend) hkind ?_
    -- a closing line would have ended the body
    rintro rfl
    exact hend hcloser

end Block

end MorrowindScript
