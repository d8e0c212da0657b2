import MorrowindScript.Expression.Basic
import Mathlib.Data.List.Induction

/-!
# The arithmetic grammar and the single look-ahead

A chain is an operand followed by operators with an operand each. The usual grammar gives it one
tree: products bind tighter than sums, and operators of equal precedence group from left to right.
Reading with a look-ahead of one operator gives it a tree too, and the two trees are not always the
same. The module introduces:

* `IsProduct`, `IsSum`: the usual grammar; `existsUnique_isSum` says that it gives every chain
  exactly one tree.
* `lookAheadTree`: the tree of a reader that divides a chain at its second operator if that one
  binds no tighter than the first, and at the first otherwise.
* `IsShallow`: the chains of operators on which the two agree, by `isSum_lookAheadTree_iff`.
-/

namespace MorrowindScript

namespace Arithmetic

/-- The byte of an operator spells the operator. -/
@[simp]
theorem ofByte?_byte (op : Arithmetic) : ofByte? op.byte = some op := by
  cases op <;> rfl

/-- An operator is multiplicative exactly when it is not additive. -/
theorem isMultiplicative_iff (op : Arithmetic) : op.isMultiplicative ↔ ¬op.isAdditive := by
  simp [isMultiplicative]

/-- An additive operator never binds tighter than an earlier one. -/
@[simp]
theorem bindsNoTighter_of_isAdditive {op : Arithmetic} (h : op.isAdditive) (earlier : Arithmetic) :
    op.bindsNoTighter earlier := by
  simp [bindsNoTighter, h]

/-- A multiplicative operator binds no tighter than an earlier one exactly if that is
multiplicative too. -/
theorem bindsNoTighter_of_isMultiplicative {op : Arithmetic} (h : op.isMultiplicative)
    (earlier : Arithmetic) : op.bindsNoTighter earlier = earlier.isMultiplicative := by
  have hadd : op.isAdditive = false := by simpa [isMultiplicative] using h
  simp [bindsNoTighter, hadd]

end Arithmetic

/-- The operands of an expression from left to right. -/
def Expression.leaves : Expression → List Atom
  | .atom a => [a]
  | .binary _ left right => left.leaves ++ right.leaves

/-- The operators and operands of a chain after its first operand. -/
abbrev ChainTail := List (Arithmetic × Atom)

/-! ## The usual grammar -/

/-- A product: operands with multiplicative operators, grouped from left to right. -/
inductive IsProduct (a : Atom) : ChainTail → Expression → Prop
  | single : IsProduct a [] (.atom a)
  | times {b : Atom} {rest : ChainTail} {t : Expression} {op : Arithmetic} :
      IsProduct a rest t → op.isMultiplicative →
        IsProduct a (rest ++ [(op, b)]) (.binary op t (.atom b))

/-- A sum: products with additive operators, grouped from left to right. -/
inductive IsSum (a : Atom) : ChainTail → Expression → Prop
  | product {rest : ChainTail} {t : Expression} : IsProduct a rest t → IsSum a rest t
  | plus {b : Atom} {rest rest' : ChainTail} {t t' : Expression} {op : Arithmetic} :
      IsSum a rest t → op.isAdditive → IsProduct b rest' t' →
        IsSum a (rest ++ (op, b) :: rest') (.binary op t t')

/-- A tree of the grammar has the operands of its chain, in order. -/
theorem IsProduct.leaves_eq {a : Atom} {rest : ChainTail} {t : Expression}
    (h : IsProduct a rest t) : t.leaves = a :: rest.map (·.2) := by
  induction h with
  | single => rfl
  | times _ _ ih => simp [Expression.leaves, ih]

/-- All operators of a product are multiplicative. -/
theorem IsProduct.isMultiplicative {a : Atom} {rest : ChainTail} {t : Expression}
    (h : IsProduct a rest t) : ∀ p ∈ rest, p.1.isMultiplicative := by
  induction h with
  | single => simp
  | times _ hop ih =>
    intro p hp
    rcases List.mem_append.1 hp with hp | hp
    · exact ih p hp
    · rw [List.mem_singleton.1 hp]
      exact hop

/-- A tree of the grammar has the operands of its chain, in order. -/
theorem IsSum.leaves_eq {a : Atom} {rest : ChainTail} {t : Expression}
    (h : IsSum a rest t) : t.leaves = a :: rest.map (·.2) := by
  induction h with
  | product h => exact h.leaves_eq
  | plus _ _ h ih => simp [Expression.leaves, ih, h.leaves_eq]

/-- Adds an operator and an operand at the end of a tree: a multiplicative operator after a sum
takes only the last product of the sum as its left side. -/
def Expression.extend (t : Expression) (p : Arithmetic × Atom) : Expression :=
  match t with
  | .binary earlier left right =>
    if p.1.bindsNoTighter earlier then .binary p.1 t (.atom p.2)
    else .binary earlier left (.binary p.1 right (.atom p.2))
  | .atom _ => .binary p.1 t (.atom p.2)

/-- The tree of a chain, built from left to right. -/
def grammarTree (a : Atom) (rest : ChainTail) : Expression :=
  rest.foldl Expression.extend (.atom a)

/-- An additive operator takes everything before it as its left side. -/
theorem Expression.extend_of_isAdditive (t : Expression) {op : Arithmetic} (h : op.isAdditive)
    (b : Atom) : t.extend (op, b) = .binary op t (.atom b) := by
  cases t <;> simp [extend, h]

/-- A multiplicative operator takes a whole product as its left side. -/
theorem IsProduct.extend_eq {a : Atom} {rest : ChainTail} {t : Expression}
    (h : IsProduct a rest t) {op : Arithmetic} (hop : op.isMultiplicative) (b : Atom) :
    t.extend (op, b) = .binary op t (.atom b) := by
  cases h with
  | single => rfl
  | times _ hearlier =>
    rw [Expression.extend, Arithmetic.bindsNoTighter_of_isMultiplicative hop, if_pos hearlier]

/-- A multiplicative operator after a sum extends the last product of the sum. -/
theorem Expression.extend_sum {earlier op : Arithmetic} (hearlier : earlier.isAdditive)
    (hop : op.isMultiplicative) (left right : Expression) (b : Atom) :
    (Expression.binary earlier left right).extend (op, b) =
      .binary earlier left (.binary op right (.atom b)) := by
  have hnot : ¬earlier.isMultiplicative := by simpa [Arithmetic.isMultiplicative] using hearlier
  rw [extend, Arithmetic.bindsNoTighter_of_isMultiplicative hop, if_neg hnot]

/-- The tree of a product is the one built from left to right. -/
theorem IsProduct.eq_grammarTree {a : Atom} {rest : ChainTail} {t : Expression}
    (h : IsProduct a rest t) : t = grammarTree a rest := by
  induction h with
  | single => rfl
  | times h hop ih =>
    rw [grammarTree, List.foldl_append, ← grammarTree, ← ih, List.foldl_cons, List.foldl_nil,
      h.extend_eq hop]

/-- Reading a product after an additive operator leaves the sum before it alone. -/
theorem IsProduct.foldl_extend {b : Atom} {rest : ChainTail} {t' : Expression}
    (h : IsProduct b rest t') {op : Arithmetic} (hop : op.isAdditive) (t : Expression) :
    rest.foldl Expression.extend (.binary op t (.atom b)) = .binary op t t' := by
  induction h with
  | single => rfl
  | times _ hmul ih =>
    rw [List.foldl_append, ih, List.foldl_cons, List.foldl_nil, Expression.extend_sum hop hmul]

/-- The grammar gives a chain at most one tree: the one built from left to right. -/
theorem IsSum.eq_grammarTree {a : Atom} {rest : ChainTail} {t : Expression}
    (h : IsSum a rest t) : t = grammarTree a rest := by
  induction h with
  | product h => exact h.eq_grammarTree
  | plus _ hop hproduct ih =>
    rw [grammarTree, List.foldl_append, ← grammarTree, ← ih, List.foldl_cons,
      Expression.extend_of_isAdditive _ hop, hproduct.foldl_extend hop]

/-- The tree built from left to right is one of the grammar. -/
theorem isSum_grammarTree (a : Atom) (rest : ChainTail) : IsSum a rest (grammarTree a rest) := by
  -- the grammar groups to the left, so the chain is taken apart from its end
  induction rest using List.reverseRecOn with
  | nil => exact .product .single
  | append_singleton rest p ih =>
    obtain ⟨op, b⟩ := p
    rw [grammarTree, List.foldl_append, ← grammarTree, List.foldl_cons, List.foldl_nil]
    by_cases hop : op.isAdditive
    · rw [Expression.extend_of_isAdditive _ hop]
      exact .plus ih hop .single
    · have hmul : op.isMultiplicative := (op.isMultiplicative_iff).2 hop
      -- a multiplicative operator goes on with the last product
      generalize grammarTree a rest = t at ih ⊢
      cases ih with
      | product h =>
        rw [h.extend_eq hmul]
        exact .product (h.times hmul)
      | plus h hearlier hproduct =>
        rw [Expression.extend_sum hearlier hmul, List.append_assoc, List.cons_append]
        exact .plus h hearlier (hproduct.times hmul)

/-- The grammar gives every chain exactly one tree. -/
theorem existsUnique_isSum (a : Atom) (rest : ChainTail) : ∃! t, IsSum a rest t :=
  ⟨grammarTree a rest, isSum_grammarTree a rest, fun _ h => h.eq_grammarTree⟩

/-! ## The look-ahead of one operator -/

/-- The tree of a chain that is divided at its second operator if that one binds no tighter than
the first, and at its first operator otherwise. -/
def lookAheadTree : Atom → ChainTail → Expression
  | a, [] => .atom a
  | a, [(op, b)] => .binary op (.atom a) (.atom b)
  | a, (op, b) :: (next, c) :: rest =>
    if next.bindsNoTighter op then
      .binary next (.binary op (.atom a) (.atom b)) (lookAheadTree c rest)
    else .binary op (.atom a) (lookAheadTree b ((next, c) :: rest))

/-- At most two operators, or an additive one among the first two with at most two operators after
it, all of them multiplicative. -/
def IsShallow (ops : List Arithmetic) : Prop :=
  ops.length ≤ 2 ∨ ∃ before op after, ops = before ++ op :: after ∧ before.length ≤ 1 ∧
    op.isAdditive ∧ after.length ≤ 2 ∧ ∀ o ∈ after, o.isMultiplicative

/-- A chain divided with one operator of look-ahead has a left side of at most two operands, and
its right side is divided the same way. -/
theorem exists_lookAheadTree_eq (a : Atom) {rest : ChainTail} (h : rest ≠ []) :
    ∃ before op b after, rest = before ++ (op, b) :: after ∧ before.length ≤ 1 ∧
      lookAheadTree a rest = .binary op (lookAheadTree a before) (lookAheadTree b after) := by
  match rest with
  | [(op, b)] => exact ⟨[], op, b, [], rfl, by simp, rfl⟩
  | (op, b) :: (next, c) :: rest =>
    by_cases hnext : next.bindsNoTighter op
    · exact ⟨[(op, b)], next, c, rest, rfl, by simp, by simp [lookAheadTree, hnext]⟩
    · exact ⟨[], op, b, (next, c) :: rest, rfl, by simp, by simp [lookAheadTree, hnext]⟩

/-- The look-ahead keeps the operands in order. -/
theorem leaves_lookAheadTree (a : Atom) (rest : ChainTail) :
    (lookAheadTree a rest).leaves = a :: rest.map (·.2) := by
  fun_induction lookAheadTree a rest with
  | case1 a => rfl
  | case2 a op b => rfl
  | case3 a op b next c rest _ ih => simp [Expression.leaves, ih]
  | case4 a op b next c rest _ ih => simp [Expression.leaves, ih]

/-- Two chains with a divided tree in common are divided at the same place: the operands of the
left side say how far it reaches. -/
theorem append_cons_inj_of_leaves {a : Atom} {t : Expression} {xs ys xs' ys' : ChainTail}
    {p p' : Arithmetic × Atom} (h : xs ++ p :: ys = xs' ++ p' :: ys')
    (ht : t.leaves = a :: xs.map (·.2)) (ht' : t.leaves = a :: xs'.map (·.2)) :
    xs = xs' ∧ p = p' ∧ ys = ys' := by
  -- both left sides have as many operands as the tree has leaves
  have hlen : xs.length = xs'.length := by
    have := congrArg List.length (ht.symm.trans ht')
    simpa using this
  obtain ⟨hxs, hrest⟩ := List.append_inj h hlen
  simpa [hxs] using hrest

/-- A product that the look-ahead reads as the grammar does has at most two operators. -/
theorem IsProduct.length_le_two {a : Atom} {rest : ChainTail}
    (h : IsProduct a rest (lookAheadTree a rest)) : rest.length ≤ 2 := by
  rcases eq_or_ne rest [] with rfl | hne
  · simp
  · obtain ⟨before, op, b, after, hrest, hbefore, htree⟩ := exists_lookAheadTree_eq a hne
    generalize ht : lookAheadTree a rest = t at h htree
    cases h with
    | single => exact absurd rfl hne
    | times h hop =>
      -- the grammar divides before the last operand, the look-ahead after at most two
      injection htree with hop' hleft hright
      have hleaves := leaves_lookAheadTree a before
      rw [← hleft] at hleaves
      obtain ⟨rfl, -, hafter⟩ := append_cons_inj_of_leaves hrest h.leaves_eq hleaves
      simpa using hbefore

/-- A short product is read as the grammar does. -/
theorem isProduct_lookAheadTree (a : Atom) {rest : ChainTail} (hlen : rest.length ≤ 2)
    (hmul : ∀ p ∈ rest, p.1.isMultiplicative) : IsProduct a rest (lookAheadTree a rest) := by
  match rest with
  | [] => exact .single
  | [(op, b)] => exact IsProduct.single.times (hmul (op, b) (by simp))
  | [(op, b), (next, c)] =>
    have hop : op.isMultiplicative := hmul (op, b) (by simp)
    have hnext : next.isMultiplicative := hmul (next, c) (by simp)
    -- of two multiplicative operators the second is where the chain is divided
    have htight : next.bindsNoTighter op :=
      (Arithmetic.bindsNoTighter_of_isMultiplicative hnext op).trans hop
    rw [lookAheadTree, if_pos htight]
    exact (IsProduct.single.times hop).times hnext

/-- At most two operators are read as the grammar does. -/
theorem isSum_lookAheadTree_of_length_le_two (a : Atom) (rest : ChainTail)
    (hlen : rest.length ≤ 2) : IsSum a rest (lookAheadTree a rest) := by
  match rest with
  | [] => exact .product .single
  | [(op, b)] =>
    by_cases hop : op.isAdditive
    · exact .plus (.product .single) hop .single
    · exact .product (IsProduct.single.times (op.isMultiplicative_iff.2 hop))
  | [(op, b), (next, c)] =>
    by_cases hnext : next.isAdditive
    -- a sum of what comes before it
    · rw [lookAheadTree, if_pos (Arithmetic.bindsNoTighter_of_isAdditive hnext op)]
      exact .plus (isSum_lookAheadTree_of_length_le_two a [(op, b)] (by simp)) hnext .single
    · have hmul : next.isMultiplicative := next.isMultiplicative_iff.2 hnext
      by_cases hop : op.isAdditive
      -- a sum with a product on its right
      · have hloose : ¬next.bindsNoTighter op := by
          rw [Arithmetic.bindsNoTighter_of_isMultiplicative hmul]
          simpa [Arithmetic.isMultiplicative] using hop
        rw [lookAheadTree, if_neg hloose]
        exact .plus (.product .single) hop (IsProduct.single.times hmul)
      -- a product
      · refine .product (isProduct_lookAheadTree a (by simp) ?_)
        simpa using ⟨op.isMultiplicative_iff.2 hop, hmul⟩

/-- A chain is divided at an additive operator among its first two if only multiplicative ones
follow. -/
theorem lookAheadTree_append (a : Atom) {before after : ChainTail} {op : Arithmetic} (b : Atom)
    (hbefore : before.length ≤ 1) (hop : op.isAdditive)
    (hafter : ∀ p ∈ after, p.1.isMultiplicative) :
    lookAheadTree a (before ++ (op, b) :: after) =
      .binary op (lookAheadTree a before) (lookAheadTree b after) := by
  match before, after with
  | [], [] => rfl
  | [], (next, c) :: after =>
    have hloose : ¬next.bindsNoTighter op := by
      rw [Arithmetic.bindsNoTighter_of_isMultiplicative (hafter (next, c) (by simp))]
      simpa [Arithmetic.isMultiplicative] using hop
    simp [lookAheadTree, hloose]
  | [(first, c)], after =>
    simp [lookAheadTree, Arithmetic.bindsNoTighter_of_isAdditive hop first]

/-- A chain is read as the grammar does exactly if its operators are shallow. -/
theorem isSum_lookAheadTree_iff (a : Atom) (rest : ChainTail) :
    IsSum a rest (lookAheadTree a rest) ↔ IsShallow (rest.map (·.1)) := by
  constructor
  · intro h
    rcases eq_or_ne rest [] with rfl | hne
    · exact .inl (by simp)
    · obtain ⟨before, op, b, after, hrest, hbefore, htree⟩ := exists_lookAheadTree_eq a hne
      generalize ht : lookAheadTree a rest = t at h htree
      cases h with
      | product h =>
        rw [← ht] at h
        exact .inl (by simpa using h.length_le_two)
      | @plus c xs ys left right sign h hop hproduct =>
        -- both trees are divided at the same operator, so its right side is a product
        injection htree with hop' hleft hright
        have hleaves := leaves_lookAheadTree a before
        rw [← hleft] at hleaves
        obtain ⟨rfl, hpair, rfl⟩ := append_cons_inj_of_leaves hrest h.leaves_eq hleaves
        obtain ⟨rfl, rfl⟩ := Prod.mk.inj hpair
        rw [hright] at hproduct
        refine .inr ⟨xs.map (·.1), sign, ys.map (·.1), by simp, by simpa using hbefore, hop,
          by simpa using hproduct.length_le_two, ?_⟩
        intro o ho
        obtain ⟨p, hp, rfl⟩ := List.mem_map.1 ho
        exact hproduct.isMultiplicative p hp
  · rintro (hlen | ⟨before, op, after, hops, hbefore, hop, hafter, hmul⟩)
    · exact isSum_lookAheadTree_of_length_le_two a _ (by simpa using hlen)
    -- the additive operator is where the chain is divided, and both sides are short
    · obtain ⟨xs, ys, rfl, rfl, hys⟩ := List.map_eq_append_iff.1 hops
      obtain ⟨⟨_, b⟩, zs, rfl, rfl, rfl⟩ := List.map_eq_cons_iff.1 hys
      have hzs : ∀ p ∈ zs, p.1.isMultiplicative := fun p hp =>
        hmul p.1 (List.mem_map_of_mem hp)
      rw [List.length_map] at hbefore hafter
      rw [lookAheadTree_append a b hbefore hop hzs]
      exact .plus (isSum_lookAheadTree_of_length_le_two a _ (by omega)) hop
        (isProduct_lookAheadTree b hafter hzs)

end MorrowindScript
