import MorrowindScript.Proofs.Block

/-!
# Nesting of blocks

Lines are read in order with a stack of the blocks that are open. Blocks are nested if every line
that continues or closes a block does so with the innermost open one, and no block is left open.

The module introduces:

* `OpenBlock`, `OpenBlock.read?` — the open blocks and what a line does to the stack of them.
* `Block.IsNested` — the stack can be read through and is empty in the end.
* `Block.IsBalanced` — as many blocks of each family are opened as are closed.
* `OpenBlock.EndsAfter` — where the body of an open block ends, the blocks above it on the stack
  being closed before.

Main result: lines are nested iff they are balanced and the body that each of them starts is
balanced up to the first line that may end it (`Block.isNested_iff`).
-/

namespace MorrowindScript

/-! ## Families -/

namespace BlockFamily

/-- The two families. -/
def all : List BlockFamily := [conditional, loop]

/-- The lines that end a body in a block of the family. -/
def ends (family : BlockFamily) : List LineKind :=
  if family = conditional then [.elseIfBranch, .elseBranch, .ifEnd] else [family.closer]

@[simp]
theorem ends_conditional : conditional.ends = [.elseIfBranch, .elseBranch, .ifEnd] := rfl

@[simp]
theorem ends_loop : loop.ends = [.whileEnd] := rfl

theorem mem_all {family : BlockFamily} :
    family ∈ all ↔ family = conditional ∨ family = loop := by
  simp [all]

theorem depth_cons (family : BlockFamily) (kind : LineKind) (kinds : List LineKind) :
    family.depth (kind :: kinds) = family.depth [kind] + family.depth kinds := by
  rw [← depth_append, List.singleton_append]

end BlockFamily

/-! ## The stack -/

/-- A block that is open, by the body that is being read. -/
inductive OpenBlock where
  /-- A conditional that may go on with a further branch. -/
  | branch
  /-- A conditional in its last branch. -/
  | lastBranch
  /-- A loop. -/
  | loop
  deriving DecidableEq, Repr

namespace OpenBlock

def family : OpenBlock → BlockFamily
  | branch | lastBranch => .conditional
  | loop => .loop

/-- The lines that may end the body. -/
def ends : OpenBlock → List LineKind
  | branch => [.elseIfBranch, .elseBranch, .ifEnd]
  | lastBranch => [.ifEnd]
  | loop => [.whileEnd]

/-- The body that starts after a line. -/
def startedBy? : LineKind → Option OpenBlock
  | .ifBranch | .elseIfBranch => some branch
  | .elseBranch => some lastBranch
  | .whileLoop => some loop
  | _ => none

/-- Reads a line with a stack of open blocks, the innermost first. There is no stack after a line
that does not fit the innermost block. -/
def read? (stack : List OpenBlock) : LineKind → Option (List OpenBlock)
  | .ifBranch => some (branch :: stack)
  | .whileLoop => some (loop :: stack)
  | .elseIfBranch =>
    match stack with
    | branch :: outer => some (branch :: outer)
    | _ => none
  | .elseBranch =>
    match stack with
    | branch :: outer => some (lastBranch :: outer)
    | _ => none
  | .ifEnd =>
    match stack with
    | branch :: outer | lastBranch :: outer => some outer
    | _ => none
  | .whileEnd =>
    match stack with
    | loop :: outer => some outer
    | _ => none
  | _ => some stack

/-- How many blocks of a family are on the stack. -/
def height (family : BlockFamily) (stack : List OpenBlock) : Int :=
  stack.countP (·.family = family)

variable {family : BlockFamily} {stack above outer : List OpenBlock} {block : OpenBlock}
  {kind : LineKind} {rest : List LineKind}

@[simp]
theorem height_nil : height family [] = 0 := rfl

@[simp]
theorem height_append (stack stack' : List OpenBlock) :
    height family (stack ++ stack') = height family stack + height family stack' := by
  simp only [height, List.countP_append]
  omega

theorem height_cons (block : OpenBlock) (stack : List OpenBlock) :
    height family (block :: stack) = height family [block] + height family stack := by
  rw [← height_append, List.singleton_append]

theorem height_nonneg (family : BlockFamily) (stack : List OpenBlock) : 0 ≤ height family stack :=
  Int.natCast_nonneg _

theorem height_singleton_self (block : OpenBlock) : height block.family [block] = 1 := by
  cases block <;> rfl

theorem family_mem_all (block : OpenBlock) : block.family ∈ BlockFamily.all := by
  cases block <;> decide

/-- A stack without blocks of either family is empty. -/
theorem eq_nil_of_height_eq_zero (h : ∀ family ∈ BlockFamily.all, height family stack = 0) :
    stack = [] := by
  cases stack with
  | nil => rfl
  | cons block stack =>
    have hzero := h block.family block.family_mem_all
    have hnonneg := height_nonneg block.family stack
    rw [height_cons, height_singleton_self] at hzero
    omega

/-- The innermost block of a family, if there is one at all. -/
theorem exists_innermost (h : height family stack ≠ 0) :
    ∃ above block outer, stack = above ++ block :: outer ∧ block.family = family ∧
      height family above = 0 := by
  induction stack with
  | nil => exact absurd rfl h
  | cons top stack ih =>
    by_cases htop : top.family = family
    · exact ⟨[], top, stack, rfl, htop, rfl⟩
    · have hnone : height family [top] = 0 := by simp [height, htop]
      rw [height_cons, hnone, zero_add] at h
      obtain ⟨above, block, outer, rfl, hfamily, habove⟩ := ih h
      refine ⟨top :: above, block, outer, rfl, hfamily, ?_⟩
      rw [height_cons, hnone, habove, zero_add]

/-! ## One line -/

theorem ends_subset (block : OpenBlock) : block.ends ⊆ block.family.ends := by
  cases block <;> decide

/-- No line may end bodies of both families. -/
theorem family_eq_of_mem_ends (hfamily : family ∈ BlockFamily.all)
    (hblock : kind ∈ block.family.ends) (h : kind ∈ family.ends) : block.family = family := by
  have hcases : block.family = .conditional ∨ block.family = .loop :=
    BlockFamily.mem_all.1 block.family_mem_all
  rcases BlockFamily.mem_all.1 hfamily with rfl | rfl
  · rcases hcases with hcases | hcases
    · exact hcases
    · rw [hcases] at hblock
      obtain rfl : kind = .whileEnd := by simpa using hblock
      exact absurd h (by decide)
  · rcases hcases with hcases | hcases
    · obtain rfl : kind = .whileEnd := by simpa using h
      rw [hcases] at hblock
      exact absurd hblock (by decide)
    · exact hcases

/-- The line may end a body. -/
def EndsBody (kind : LineKind) : Prop :=
  ∃ family ∈ BlockFamily.all, kind ∈ family.ends

theorem endsBody_iff : EndsBody kind ↔ kind ∈ [.elseIfBranch, .elseBranch, .ifEnd, .whileEnd] := by
  simp [EndsBody, BlockFamily.all, or_assoc]

/-- A line that may end a body must end that of the innermost block; then it may start another. Any
other line leaves the open blocks as they are, and may start one. -/
theorem read?_eq_some_iff {stack' : List OpenBlock} :
    read? stack kind = some stack' ↔
      ∃ outer, stack' = (startedBy? kind).toList ++ outer ∧
        (EndsBody kind ∧ (∃ block, stack = block :: outer ∧ kind ∈ block.ends) ∨
          ¬ EndsBody kind ∧ stack = outer) := by
  simp only [endsBody_iff]
  rcases stack with - | ⟨block, stack⟩
  · cases kind <;> simp [read?, startedBy?, eq_comm]
  · cases kind <;> cases block <;> simp [read?, startedBy?, ends, eq_comm]

/-- A line that ends no body opens as many blocks as it adds to the depth. -/
theorem height_startedBy?_of_not_endsBody (hkind : ¬ EndsBody kind)
    (hfamily : family ∈ BlockFamily.all) :
    height family (startedBy? kind).toList = family.depth [kind] := by
  rw [endsBody_iff] at hkind
  rcases BlockFamily.mem_all.1 hfamily with rfl | rfl
  all_goals
    cases kind with
    | elseIfBranch => simp at hkind
    | elseBranch => simp at hkind
    | ifEnd => simp at hkind
    | whileEnd => simp at hkind
    | _ => rfl

/-- A line that ends a body puts another one in its place or closes the block. -/
theorem height_startedBy?_of_mem_ends (hkind : kind ∈ block.ends)
    (hfamily : family ∈ BlockFamily.all) :
    height family (startedBy? kind).toList = height family [block] + family.depth [kind] := by
  rcases BlockFamily.mem_all.1 hfamily with rfl | rfl
  all_goals
    cases block with
    | branch =>
      obtain rfl | rfl | rfl : kind = .elseIfBranch ∨ kind = .elseBranch ∨ kind = .ifEnd := by
        simpa [ends] using hkind
      all_goals rfl
    | lastBranch =>
      obtain rfl : kind = .ifEnd := by simpa [ends] using hkind
      rfl
    | loop =>
      obtain rfl : kind = .whileEnd := by simpa [ends] using hkind
      rfl

/-! ## Where a body ends -/

/-- The body of an open block ends after `n` lines: the line there may end it, until then the blocks
above it on the stack are closed and all others are balanced, and no earlier line that may end a
body of the family finds the blocks of the family above it closed. -/
structure EndsAfter (above : List OpenBlock) (block : OpenBlock) (kinds : List LineKind)
    (n : Nat) : Prop where
  ends : ∃ kind ∈ block.ends, kinds[n]? = some kind
  depth : ∀ family ∈ BlockFamily.all, family.depth (kinds.take n) = -height family above
  first : ∀ m < n, ∀ kind ∈ block.family.ends, kinds[m]? = some kind →
    block.family.depth (kinds.take m) ≠ -height block.family above

/-- Where a body ends is the same one line earlier, with the stack as it was before that line. -/
theorem endsAfter_succ_iff {above' : List OpenBlock} {n : Nat}
    (hheight : ∀ family ∈ BlockFamily.all,
      height family above' = height family above + family.depth [kind])
    (hfirst : kind ∈ block.family.ends → height block.family above ≠ 0) :
    EndsAfter above block (kind :: rest) (n + 1) ↔ EndsAfter above' block rest n := by
  have hdepth (m : Nat) (family : BlockFamily) (hfamily : family ∈ BlockFamily.all) :
      family.depth ((kind :: rest).take (m + 1)) = -height family above ↔
        family.depth (rest.take m) = -height family above' := by
    have hstep := hheight family hfamily
    rw [List.take_succ_cons, BlockFamily.depth_cons]
    omega
  constructor
  · intro h
    refine ⟨h.ends, fun family hfamily => (hdepth n family hfamily).1 (h.depth family hfamily), ?_⟩
    intro m hm kind' hkind' hget
    rw [Ne, ← hdepth m _ block.family_mem_all]
    exact h.first (m + 1) (by omega) kind' hkind' hget
  · intro h
    refine ⟨h.ends, fun family hfamily => (hdepth n family hfamily).2 (h.depth family hfamily), ?_⟩
    intro m hm kind' hkind' hget
    cases m with
    | zero =>
      -- the line itself ends no body of the family, or there is a block of the family above
      obtain rfl : kind = kind' := Option.some.inj hget
      rw [List.take_zero, BlockFamily.depth_nil]
      exact fun hzero => hfirst hkind' (by omega)
    | succ m =>
      rw [Ne, hdepth m _ block.family_mem_all]
      exact h.first m (by omega) kind' hkind' hget

/-- The body of an open block ends somewhere. -/
def Pending (above : List OpenBlock) (block : OpenBlock) (kinds : List LineKind) : Prop :=
  ∃ n, EndsAfter above block kinds n

theorem pending_cons_iff {above' : List OpenBlock}
    (hheight : ∀ family ∈ BlockFamily.all,
      height family above' = height family above + family.depth [kind])
    (hfirst : kind ∈ block.family.ends → height block.family above ≠ 0) :
    Pending above block (kind :: rest) ↔ Pending above' block rest := by
  constructor
  · rintro ⟨n, h⟩
    cases n with
    | zero =>
      -- a line that ends the body at once would find blocks of the family above it
      obtain ⟨kind', hkind', hget⟩ := h.ends
      obtain rfl : kind = kind' := Option.some.inj hget
      have hzero := h.depth _ block.family_mem_all
      rw [List.take_zero, BlockFamily.depth_nil] at hzero
      exact absurd (by omega) (hfirst (block.ends_subset hkind'))
    | succ n => exact ⟨n, (endsAfter_succ_iff hheight hfirst).1 h⟩
  · rintro ⟨n, h⟩
    exact ⟨n + 1, (endsAfter_succ_iff hheight hfirst).2 h⟩

/-- At a line that ends the body of the innermost block, the body ends. -/
theorem pending_of_mem_ends (h : kind ∈ block.ends) : Pending [] block (kind :: rest) :=
  ⟨0, ⟨kind, h, rfl⟩, fun _ _ => rfl, fun m hm => absurd hm (Nat.not_lt_zero m)⟩

/-- A line that ends a body of a family ends that of the innermost block of the family at once, and
this is the innermost block of all. -/
theorem Pending.eq_nil_of_mem_ends (h : Pending above block (kind :: rest))
    (hkind : kind ∈ block.family.ends) (habove : height block.family above = 0) :
    above = [] ∧ kind ∈ block.ends := by
  obtain ⟨n, h⟩ := h
  obtain rfl : n = 0 := by
    by_contra hn
    refine h.first 0 (by omega) kind hkind rfl ?_
    rw [List.take_zero, BlockFamily.depth_nil, habove, neg_zero]
  obtain ⟨kind', hkind', hget⟩ := h.ends
  obtain rfl : kind = kind' := Option.some.inj hget
  refine ⟨eq_nil_of_height_eq_zero fun family hfamily => ?_, hkind'⟩
  have hzero := h.depth family hfamily
  rw [List.take_zero, BlockFamily.depth_nil] at hzero
  omega

/-- The bodies of all blocks of the stack below `top` end somewhere. -/
def AllPending (top : List OpenBlock) : List OpenBlock → List LineKind → Prop
  | [], _ => True
  | block :: stack, kinds => Pending top block kinds ∧ AllPending (top ++ [block]) stack kinds

theorem AllPending.pending {top : List OpenBlock} {kinds : List LineKind}
    (h : AllPending top (above ++ block :: outer) kinds) : Pending (top ++ above) block kinds := by
  induction above generalizing top with
  | nil =>
    rw [List.append_nil]
    exact h.1
  | cons block' above ih => simpa using ih h.2

/-- The stack below `top` has the same bodies to end one line later, if the blocks of `top` have
changed by what the line does. -/
theorem allPending_cons_iff {top top' : List OpenBlock}
    (hheight : ∀ family ∈ BlockFamily.all,
      height family top' = height family top + family.depth [kind])
    (hfirst : ∀ family ∈ BlockFamily.all, kind ∈ family.ends → height family top ≠ 0) :
    AllPending top stack (kind :: rest) ↔ AllPending top' stack rest := by
  induction stack generalizing top top' with
  | nil => rfl
  | cons block stack ih =>
    have hfirst' : ∀ family ∈ BlockFamily.all, kind ∈ family.ends →
        height family (top ++ [block]) ≠ 0 := by
      intro family hfamily hkind
      have hne := hfirst family hfamily hkind
      have htop := height_nonneg family top
      have hblock := height_nonneg family [block]
      rw [height_append]
      omega
    have hheight' : ∀ family ∈ BlockFamily.all, height family (top' ++ [block]) =
        height family (top ++ [block]) + family.depth [kind] := by
      intro family hfamily
      rw [height_append, height_append, hheight family hfamily]
      omega
    rw [AllPending, AllPending, pending_cons_iff hheight (hfirst _ block.family_mem_all),
      ih hheight' hfirst']

/-- What reading a line preserves: the bodies of all open blocks end somewhere afterwards iff they
do before and the body that the line starts does. -/
theorem allPending_read?_iff {stack' : List OpenBlock} (hread : read? stack kind = some stack') :
    AllPending [] stack' rest ↔
      AllPending [] stack (kind :: rest) ∧
        ∀ block, startedBy? kind = some block → Pending [] block rest := by
  obtain ⟨outer, rfl, hcases⟩ := read?_eq_some_iff.1 hread
  -- the blocks that were open before have the body of the line above them
  have hbefore : AllPending [] stack (kind :: rest) ↔
      AllPending (startedBy? kind).toList outer rest := by
    rcases hcases with ⟨-, block, rfl, hends⟩ | ⟨hnot, rfl⟩
    · rw [AllPending, and_iff_right (pending_of_mem_ends hends), List.nil_append]
      refine allPending_cons_iff (fun family => height_startedBy?_of_mem_ends hends) ?_
      intro family hfamily hkind
      rw [← family_eq_of_mem_ends hfamily (block.ends_subset hends) hkind, height_singleton_self]
      exact one_ne_zero
    · refine allPending_cons_iff (fun family hfamily => ?_) fun family hfamily hkind =>
        absurd ⟨family, hfamily, hkind⟩ hnot
      rw [height_nil, zero_add, height_startedBy?_of_not_endsBody hnot hfamily]
  rw [hbefore]
  cases hstarted : startedBy? kind with
  | none => simp
  | some block => simp [AllPending, and_comm]

theorem height_of_read? {stack' : List OpenBlock} (hread : read? stack kind = some stack')
    (hfamily : family ∈ BlockFamily.all) :
    height family stack' = height family stack + family.depth [kind] := by
  obtain ⟨outer, rfl, ⟨-, block, rfl, hends⟩ | ⟨hnot, rfl⟩⟩ := read?_eq_some_iff.1 hread
  · rw [height_append, height_startedBy?_of_mem_ends hends hfamily, height_cons block outer]
    omega
  · rw [height_append, height_startedBy?_of_not_endsBody hnot hfamily]
    omega

end OpenBlock

/-! ## Whole scripts -/

namespace Block

open OpenBlock

/-- The lines can be read with a stack of open blocks, and no block is open in the end. -/
def IsNested (kinds : List LineKind) : Prop :=
  kinds.foldlM read? [] = some []

instance (kinds : List LineKind) : Decidable (IsNested kinds) :=
  inferInstanceAs (Decidable (kinds.foldlM read? [] = some []))

/-- As many blocks of each family are opened as are closed. -/
def IsBalanced (kinds : List LineKind) : Prop :=
  ∀ family ∈ BlockFamily.all, kinds.count family.opener = kinds.count family.closer

instance (kinds : List LineKind) : Decidable (IsBalanced kinds) :=
  inferInstanceAs (Decidable (∀ family ∈ BlockFamily.all, _ = _))

theorem isBalanced_iff {kinds : List LineKind} :
    IsBalanced kinds ↔ ∀ family ∈ BlockFamily.all, family.depth kinds = 0 := by
  simp only [IsBalanced, BlockFamily.depth_eq_zero_iff]

variable {kinds : List LineKind}

/-- A line that may end a body closes the block or starts another body of it. -/
theorem cases_of_mem_openBlock_ends {block : OpenBlock} {kind : LineKind}
    (h : kind ∈ block.ends) :
    block.family.depth [kind] = -1 ∨ block.family.depth [kind] = 0 ∧
      ∃ block', startedBy? kind = some block' ∧ block'.family = block.family := by
  cases block with
  | branch =>
    obtain rfl | rfl | rfl : kind = .elseIfBranch ∨ kind = .elseBranch ∨ kind = .ifEnd := by
      simpa [OpenBlock.ends] using h
    · exact .inr ⟨rfl, _, rfl, rfl⟩
    · exact .inr ⟨rfl, _, rfl, rfl⟩
    · exact .inl rfl
  | lastBranch =>
    obtain rfl : kind = .ifEnd := by simpa [OpenBlock.ends] using h
    exact .inl rfl
  | loop =>
    obtain rfl : kind = .whileEnd := by simpa [OpenBlock.ends] using h
    exact .inl rfl

/-- A line that adds to the depth of a family starts a body in a block of the family. -/
theorem exists_startedBy?_of_depth_pos {family : BlockFamily} (hfamily : family ∈ BlockFamily.all)
    {kind : LineKind} (h : 0 < family.depth [kind]) :
    family.depth [kind] = 1 ∧ ∃ block, startedBy? kind = some block ∧ block.family = family := by
  obtain rfl : kind = family.opener := by
    by_contra hne
    rw [BlockFamily.depth, List.count_cons_of_ne hne, List.count_nil] at h
    omega
  rcases BlockFamily.mem_all.1 hfamily with rfl | rfl
  · exact ⟨rfl, .branch, rfl, rfl⟩
  · exact ⟨rfl, .loop, rfl, rfl⟩

/-- Where every started body leaves more blocks closed than opened, so does every rest. -/
theorem depth_drop_nonpos {family : BlockFamily} (hfamily : family ∈ BlockFamily.all) {k : Nat}
    (h : ∀ i ≥ k, ∀ kind block, kinds[i]? = some kind → startedBy? kind = some block →
      block.family.depth (kinds.drop (i + 1)) < 0) :
    family.depth (kinds.drop k) ≤ 0 := by
  induction hn : kinds.length - k generalizing k with
  | zero =>
    rw [List.drop_of_length_le (by omega)]
    exact le_rfl
  | succ n ih =>
    have hk : k < kinds.length := by omega
    have hrest := ih (k := k + 1) (fun i hi => h i (by omega)) (by omega)
    rw [List.drop_eq_getElem_cons hk, BlockFamily.depth_cons]
    by_cases hopens : 0 < family.depth [kinds[k]]
    · -- a line that opens a block is followed by more lines that close one
      obtain ⟨hone, block, hstarted, rfl⟩ := exists_startedBy?_of_depth_pos hfamily hopens
      have hafter := h k le_rfl _ block (List.getElem?_eq_getElem hk) hstarted
      omega
    · omega

/-- After every line that starts a body more blocks of the family are closed than opened, if every
body ends somewhere with its family balanced. -/
theorem depth_drop_lt_zero
    (hends : ∀ i kind block, kinds[i]? = some kind → startedBy? kind = some block →
      ∃ n, (∃ kind ∈ block.ends, (kinds.drop (i + 1))[n]? = some kind) ∧
        block.family.depth ((kinds.drop (i + 1)).take n) = 0)
    {i : Nat} {kind : LineKind} {block : OpenBlock} (hkind : kinds[i]? = some kind)
    (hstarted : startedBy? kind = some block) :
    block.family.depth (kinds.drop (i + 1)) < 0 := by
  -- from the back: the body ends at a line after which the same is known already
  induction hm : kinds.length - i using Nat.strongRecOn generalizing i kind block with
  | _ m ih =>
    obtain ⟨n, ⟨next, hmem, hnext⟩, hbody⟩ := hends i kind block hkind hstarted
    rw [List.getElem?_drop] at hnext
    have hinside : i + 1 + n < kinds.length := (List.getElem?_eq_some_iff.1 hnext).1
    have hlater : ∀ j ≥ i + 1 + n + 1, ∀ kind block, kinds[j]? = some kind →
        startedBy? kind = some block → block.family.depth (kinds.drop (j + 1)) < 0 := by
      intro j hj kind block hkind hstarted
      have hjlt : j < kinds.length := (List.getElem?_eq_some_iff.1 hkind).1
      exact ih _ (by omega) hkind hstarted rfl
    have hsplit : kinds.drop (i + 1) =
        (kinds.drop (i + 1)).take n ++ next :: kinds.drop (i + 1 + n + 1) := by
      conv_lhs => rw [← List.take_append_drop n (kinds.drop (i + 1))]
      rw [List.drop_drop, List.drop_eq_getElem_cons hinside,
        (List.getElem?_eq_some_iff.1 hnext).2]
    rw [hsplit, BlockFamily.depth_append, hbody, BlockFamily.depth_cons, zero_add]
    rcases cases_of_mem_openBlock_ends hmem with hcloses | ⟨hzero, block', hstarted', hfamily⟩
    · have hrest := depth_drop_nonpos block.family_mem_all hlater
      omega
    · have hrest := ih _ (by omega) hnext hstarted' rfl
      rw [hfamily] at hrest
      omega

/-- The body that each line starts ends somewhere, with all blocks inside it closed. -/
def BodiesEnd (kinds : List LineKind) : Prop :=
  ∀ i kind block, kinds[i]? = some kind → startedBy? kind = some block →
    Pending [] block (kinds.drop (i + 1))

theorem bodiesEnd_cons {kind : LineKind} :
    BodiesEnd (kind :: kinds) ↔
      (∀ block, startedBy? kind = some block → Pending [] block kinds) ∧ BodiesEnd kinds := by
  constructor
  · intro h
    exact ⟨fun block => h 0 kind block rfl, fun i => h (i + 1)⟩
  · rintro ⟨hkind, hkinds⟩ i kind' block hget
    cases i with
    | zero =>
      obtain rfl : kind = kind' := Option.some.inj hget
      exact hkind block
    | succ i => exact hkinds i kind' block hget

/-- A line that ends a body of a family needs an open block of the family. -/
theorem height_ne_zero_of_mem_ends {family : BlockFamily} (hfamily : family ∈ BlockFamily.all)
    {kind : LineKind} {stack : List OpenBlock} (hkind : kind ∈ family.ends)
    (hbodies : BodiesEnd (kind :: kinds))
    (hdepth : family.depth (kind :: kinds) = -height family stack) : height family stack ≠ 0 := by
  have hends (ks : List LineKind) (hks : BodiesEnd ks) (i : Nat) (kind : LineKind)
      (block : OpenBlock) (hget : ks[i]? = some kind) (hstarted : startedBy? kind = some block) :
      ∃ n, (∃ kind ∈ block.ends, (ks.drop (i + 1))[n]? = some kind) ∧
        block.family.depth ((ks.drop (i + 1)).take n) = 0 := by
    obtain ⟨n, hn⟩ := hks i kind block hget hstarted
    exact ⟨n, hn.ends, hn.depth _ block.family_mem_all⟩
  intro hzero
  rw [hzero, neg_zero, BlockFamily.depth_cons] at hdepth
  -- the line is among those that end a body that some block may have
  obtain ⟨block, hblock, rfl⟩ : ∃ block : OpenBlock, kind ∈ block.ends ∧ block.family = family := by
    rcases BlockFamily.mem_all.1 hfamily with rfl | rfl
    · exact ⟨.branch, hkind, rfl⟩
    · exact ⟨.loop, hkind, rfl⟩
  rcases cases_of_mem_openBlock_ends hblock with hcloses | ⟨hnone, block', hstarted, hblock'⟩
  · have hrest : block.family.depth (kinds.drop 0) ≤ 0 :=
      depth_drop_nonpos hfamily fun i _ kind block =>
        depth_drop_lt_zero (hends kinds (bodiesEnd_cons.1 hbodies).2)
    rw [List.drop_zero] at hrest
    omega
  · have hrest := depth_drop_lt_zero (hends _ hbodies) (i := 0) rfl hstarted
    rw [hblock', List.drop_succ_cons, List.drop_zero] at hrest
    omega

/-- Reading lines with a stack leaves no block open iff the bodies of the open blocks and those that
the lines start all end, and the lines close what is open. -/
theorem foldlM_read?_eq_some_nil_iff {stack : List OpenBlock} :
    kinds.foldlM read? stack = some [] ↔
      AllPending [] stack kinds ∧
        (∀ family ∈ BlockFamily.all, family.depth kinds = -height family stack) ∧
        BodiesEnd kinds := by
  induction kinds generalizing stack with
  | nil =>
    constructor
    · intro h
      obtain rfl : stack = [] := Option.some.inj h
      exact ⟨trivial, fun _ _ => rfl, fun i kind block hget => absurd hget (by simp)⟩
    · rintro ⟨-, hdepth, -⟩
      have hempty : stack = [] := eq_nil_of_height_eq_zero fun family hfamily => by
        have hzero := hdepth family hfamily
        rw [BlockFamily.depth_nil] at hzero
        omega
      rw [hempty]
      rfl
  | cons kind kinds ih =>
    rw [List.foldlM_cons, bodiesEnd_cons]
    -- once a line is read, the three conditions move on to the rest
    have hstep {stack' : List OpenBlock} (hread : read? stack kind = some stack') :
        (read? stack kind >>= fun s => kinds.foldlM read? s) = some [] ↔
          AllPending [] stack (kind :: kinds) ∧
            (∀ family ∈ BlockFamily.all,
              family.depth (kind :: kinds) = -height family stack) ∧
            (∀ block, startedBy? kind = some block → Pending [] block kinds) ∧
            BodiesEnd kinds := by
      have hdepth : (∀ family ∈ BlockFamily.all,
            family.depth kinds = -height family stack') ↔
          ∀ family ∈ BlockFamily.all, family.depth (kind :: kinds) = -height family stack := by
        refine forall₂_congr fun family hfamily => ?_
        rw [height_of_read? hread hfamily, BlockFamily.depth_cons family kind kinds]
        omega
      rw [hread, Option.bind_eq_bind, Option.bind_some, ih, allPending_read?_iff hread, hdepth]
      tauto
    constructor
    · intro h
      obtain ⟨stack', hread, -⟩ := Option.bind_eq_some_iff.1 h
      exact (hstep hread).1 h
    · intro h
      obtain ⟨stack', hread⟩ : ∃ stack', read? stack kind = some stack' := by
        obtain ⟨hpending, hdepth, hbodies⟩ := h
        by_cases hends : EndsBody kind
        · -- the innermost block of the family of the line is the innermost of all
          obtain ⟨family, hfamily, hkind⟩ := hends
          have hne := height_ne_zero_of_mem_ends hfamily hkind (bodiesEnd_cons.2 hbodies)
            (hdepth family hfamily)
          obtain ⟨above, block, outer, rfl, rfl, habove⟩ := exists_innermost hne
          obtain ⟨rfl, hblock⟩ := hpending.pending.eq_nil_of_mem_ends hkind habove
          exact ⟨_, read?_eq_some_iff.2
            ⟨outer, rfl, .inl ⟨⟨_, hfamily, hkind⟩, block, rfl, hblock⟩⟩⟩
        · exact ⟨_, read?_eq_some_iff.2 ⟨stack, rfl, .inr ⟨hends, rfl⟩⟩⟩
      exact (hstep hread).2 h

/-- Lines are nested iff they are balanced and the body that each of them starts ends with all
blocks inside it closed. -/
theorem isNested_iff : IsNested kinds ↔ IsBalanced kinds ∧ BodiesEnd kinds := by
  rw [IsNested, foldlM_read?_eq_some_nil_iff, isBalanced_iff]
  simp [AllPending]

end Block

end MorrowindScript
