import MorrowindScript.Proofs.Block
import MorrowindScript.Proofs.Program.Derivation
import Mathlib.Order.Bounds.Defs

/-!
# Where blocks are skipped to

A line that starts a body is compiled with the number of lines to skip. In a script that compiles
the number leads to the line that ends the body, and following the numbers from branch to branch
leads to the end of the conditional. The module introduces:

* `Block.rule?`: for each kind of line that starts a body, the blocks that are counted inside it and
  the lines that end it.
* `Block.EndsAt`: a body may end at a line, as far as blocks inside it are concerned.
* `Program.countByte?`: the number in the bytecode of a line.
* `Program.Lands`: where the numbers lead to.
* `Program.isLeast_endsAt_of_compile`: the numbers are right.
-/

namespace MorrowindScript

open Bytes

/-! ## Bodies by line number -/

namespace Block

/-- What counts as a block inside a body and which lines end the body, by the kind of the line that
starts it. -/
def rule? : LineKind → Option (BlockFamily × List LineKind)
  | .ifBranch | .elseIfBranch => some (.conditional, [.elseIfBranch, .elseBranch, .ifEnd])
  | .elseBranch => some (.conditional, [.ifEnd])
  | .whileLoop => some (.loop, [.whileEnd])
  | _ => none

/-- The body of a branch ends at a further branch or at the end of the conditional. -/
theorem cases_of_mem_ends {kind next : LineKind} {ends : List LineKind}
    (hrule : rule? kind = some (.conditional, ends)) (hnext : next ∈ ends) :
    next = .elseIfBranch ∨ next = .elseBranch ∨ next = .ifEnd := by
  cases kind with
  | ifBranch =>
    obtain ⟨-, rfl⟩ := Prod.mk.inj (Option.some.inj hrule)
    simpa using hnext
  | elseIfBranch =>
    obtain ⟨-, rfl⟩ := Prod.mk.inj (Option.some.inj hrule)
    simpa using hnext
  | elseBranch =>
    obtain ⟨-, rfl⟩ := Prod.mk.inj (Option.some.inj hrule)
    exact .inr (.inr (List.mem_singleton.1 hnext))
  | whileLoop =>
    have hfamily : BlockFamily.loop = .conditional := (Prod.mk.inj (Option.some.inj hrule)).1
    exact absurd hfamily (by decide)
  | _ => exact absurd hrule (by simp [rule?])

/-- The body that starts after line `i` may end at line `j`: that line is after it and of a kind that
ends the body, and the lines between open as many blocks as they close. -/
def EndsAt (family : BlockFamily) (ends : List LineKind) (kinds : List LineKind) (i j : Nat) :
    Prop :=
  i < j ∧ (∃ kind ∈ ends, kinds[j]? = some kind) ∧
    ((kinds.take j).drop (i + 1)).count family.opener =
      ((kinds.take j).drop (i + 1)).count family.closer

variable {family : BlockFamily} {ends kinds : List LineKind} {i n : Nat}

/-- The lines between two lines, counted from the first of them. -/
theorem endsAt_iff (m : Nat) :
    EndsAt family ends kinds i (i + 1 + m) ↔
      (∃ kind ∈ ends, (kinds.drop (i + 1))[m]? = some kind) ∧
        family.depth ((kinds.drop (i + 1)).take m) = 0 := by
  have hbetween : (kinds.take (i + 1 + m)).drop (i + 1) = (kinds.drop (i + 1)).take m := by
    rw [List.drop_take, Nat.add_sub_cancel_left]
  have hlt : i < i + 1 + m := by omega
  rw [EndsAt, hbetween, List.getElem?_drop, BlockFamily.depth_eq_zero_iff]
  simp only [hlt, true_and]

/-- A body after line `i` ends at the first line at which it may end. -/
theorem IsBody.isLeast_endsAt (h : IsBody family (· ∈ ends) (kinds.drop (i + 1)) n) :
    IsLeast {j | EndsAt family ends kinds i j} (i + 1 + n) := by
  constructor
  · obtain ⟨kind, hkind, hend⟩ := h.ends
    exact (endsAt_iff n).2 ⟨⟨kind, by simpa using hend, hkind⟩, h.closed⟩
  · -- an earlier end would be an earlier balanced end of the body
    intro j hj
    obtain ⟨m, rfl⟩ : ∃ m, j = i + 1 + m := ⟨j - (i + 1), by have := hj.1; omega⟩
    obtain ⟨⟨kind, hend, hkind⟩, hclosed⟩ := (endsAt_iff m).1 hj
    by_contra hless
    exact h.first m (by omega) kind hkind (by simpa using hend) hclosed

/-- The two ways to say which lines end a branch agree on every kind. -/
theorem endsBranch_eq :
    endsBranch = fun kind => decide (kind ∈ [LineKind.elseIfBranch, .elseBranch, .ifEnd]) := by
  funext kind
  cases kind <;> rfl

/-- The body of a branch with a condition. -/
theorem isBody_of_branchLength? (h : branchLength? kinds = some n) :
    IsBody .conditional (· ∈ [LineKind.elseIfBranch, .elseBranch, .ifEnd]) kinds n := by
  rw [branchLength?, endsBranch_eq] at h
  exact isBody_of_bodyLength? (by decide) (by decide) (by decide) h

/-- The body of the last branch of a conditional. -/
theorem isBody_of_elseLength? (h : elseLength? kinds = some n) :
    IsBody .conditional (· ∈ [LineKind.ifEnd]) kinds n := by
  simp only [List.mem_singleton]
  exact isBody_of_bodyLength? (by decide) (by decide) (by decide) h

/-- The body of a loop. -/
theorem isBody_of_loopLength? (h : loopLength? kinds = some n) :
    IsBody .loop (· ∈ [LineKind.whileEnd]) kinds n := by
  simp only [List.mem_singleton]
  exact isBody_of_bodyLength? (by decide) (by decide) (by decide) h

end Block

/-! ## The number in the instruction of a line -/

/-- The body that a conditional measures is the one after a line of its kind. -/
theorem ConditionalKind.isBody_of_bodyLength? {conditional : ConditionalKind}
    {following : List LineKind} {n : Nat} {family : BlockFamily} {ends : List LineKind}
    (hrule : Block.rule? conditional.lineKind = some (family, ends))
    (h : conditional.bodyLength? following = some n) :
    Block.IsBody family (· ∈ ends) following n := by
  cases conditional with
  | ifBranch =>
    obtain ⟨rfl, rfl⟩ := Prod.mk.inj (Option.some.inj hrule)
    exact Block.isBody_of_branchLength? h
  | elseIfBranch =>
    obtain ⟨rfl, rfl⟩ := Prod.mk.inj (Option.some.inj hrule)
    exact Block.isBody_of_branchLength? h
  | whileLoop =>
    obtain ⟨rfl, rfl⟩ := Prod.mk.inj (Option.some.inj hrule)
    exact Block.isBody_of_loopLength? h

/-- A conditional has the length of its body after its code. -/
theorem Conditional.exists_body_of_compile (conditional : ConditionalKind) {scope : Scope}
    {text : Bytes} {following : List LineKind} {family : BlockFamily} {ends : List LineKind}
    {object : Option Bytes} {instruction : Instruction}
    (hrule : Block.rule? conditional.lineKind = some (family, ends))
    (h : (compile scope conditional following text).result = .ok (object, instruction)) :
    ∃ n ≤ Block.maxLength, instruction.encode[2]? = some (UInt8.ofNat n) ∧
      Block.IsBody family (· ∈ ends) following n := by
  obtain ⟨n, condition, hn, hmax, -, -, hq⟩ := result_compile_eq_ok_iff.1 h
  obtain ⟨-, rfl⟩ := Prod.mk.inj hq
  exact ⟨n, hmax, rfl, conditional.isBody_of_bodyLength? hrule hn⟩

/-- What a line that starts a body compiles to has the length of the body after its code, and the
length fits the byte. -/
theorem SourceLine.exists_body_of_compile {scope : Scope} {text : Bytes} {kind : LineKind}
    {following : List LineKind} {family : BlockFamily} {ends : List LineKind}
    {object : Option Bytes} {instruction : Instruction}
    (hrule : Block.rule? kind = some (family, ends))
    (h : (SourceLine.compile scope text kind following).result = .ok (object, instruction)) :
    ∃ n ≤ Block.maxLength, instruction.encode[2]? = some (UInt8.ofNat n) ∧
      Block.IsBody family (· ∈ ends) following n := by
  cases kind with
  | ifBranch => exact Conditional.exists_body_of_compile .ifBranch hrule h
  | elseIfBranch => exact Conditional.exists_body_of_compile .elseIfBranch hrule h
  | whileLoop => exact Conditional.exists_body_of_compile .whileLoop hrule h
  | elseBranch =>
    obtain ⟨rfl, rfl⟩ := Prod.mk.inj (Option.some.inj hrule)
    obtain ⟨instruction', hinstruction, hq⟩ := Outcome.result_bind_eq_ok.1 h
    obtain ⟨n, hn, hlines⟩ := Outcome.result_bind_eq_ok.1 hinstruction
    obtain ⟨hlength, hmax⟩ := result_checkedLength_eq_ok_iff.1 hn
    obtain rfl := Except.ok.inj hlines
    obtain ⟨-, rfl⟩ := Prod.mk.inj (Except.ok.inj hq)
    exact ⟨n, hmax, rfl, Block.isBody_of_elseLength? hlength⟩
  | _ => exact absurd hrule (by simp [Block.rule?])

/-- The line that opens a script has none of the other keywords. -/
theorem LineKind.keyword?_of_opens_begin {s : Bytes} (h : opens "begin" isBlank s = true) :
    keyword? s = none := by
  have hprefix : (ascii "begin").isPrefixOf s = true := (Bool.and_eq_true _ _ ▸ h).1
  obtain ⟨rest, rfl⟩ := List.isPrefixOf_iff_prefix.1 hprefix
  -- no other keyword starts with the same letter
  rfl

/-- The line that opens a script would be read as a call. -/
theorem SourceLine.kind_of_isBegin {line : SourceLine} (h : LineKind.isBegin line.text = true) :
    line.kind = .qualifiedCall ∨ line.kind = .call := by
  rw [kind, LineKind.classify, LineKind.keyword?_of_opens_begin h]
  split
  · next hnone => exact absurd hnone (by simp)
  · split
    · exact .inl rfl
    · exact .inr rfl

/-- The line that opens a script starts no body. -/
theorem SourceLine.rule?_of_isBegin {line : SourceLine} (h : LineKind.isBegin line.text = true) :
    Block.rule? line.kind = none := by
  rcases kind_of_isBegin h with hkind | hkind
  · rw [hkind]
    rfl
  · rw [hkind]
    rfl

/-! ## Scripts -/

namespace Program

/-- The kinds of the lines of a source, the line that opens the script included. -/
def lineKinds (source : Bytes) : List LineKind :=
  (SourceLine.split source).map SourceLine.kind

/-- The number of statements before line `i` of a script, the line that opens it being line zero. -/
def statementIndex (kinds : List LineKind) (i : Nat) : Nat :=
  ((kinds.take i).drop 1).countP (!·.isDeclaration)

/-- The byte after the code of the instruction that line `i` compiles to. -/
def countByte? (p : Program) (kinds : List LineKind) (i : Nat) : Option UInt8 := do
  let s ← p.statements[statementIndex kinds i]?
  s.instruction.encode[2]?

/-- From line `i` the numbers lead to line `j`: the number of a line leads behind its body, and is
followed by the number of the line there if that is a further branch. -/
inductive Lands (p : Program) (kinds : List LineKind) : Nat → Nat → Prop where
  /-- The line behind the body is no further branch. -/
  | stop {i : Nat} {c : UInt8} (hcount : p.countByte? kinds i = some c)
      (helseIf : kinds[i + c.toNat + 1]? ≠ some .elseIfBranch)
      (helse : kinds[i + c.toNat + 1]? ≠ some .elseBranch) : Lands p kinds i (i + c.toNat + 1)
  /-- The line behind the body is a further branch. -/
  | jump {i j : Nat} {c : UInt8} (hcount : p.countByte? kinds i = some c)
      (hbranch : kinds[i + c.toNat + 1]? = some .elseIfBranch ∨
        kinds[i + c.toNat + 1]? = some .elseBranch)
      (hrest : Lands p kinds (i + c.toNat + 1) j) : Lands p kinds i j

/-- The kind and the name of the local that a line with the given text declares. -/
def declaration? (text : Bytes) : Option (LocalKind × Bytes) :=
  (LineKind.classify text).declared? text

/-- The locals declared before line `i` of a script, the line that opens it being line zero. -/
def declarationsBefore (source : Bytes) (i : Nat) : List (LocalKind × Bytes) :=
  (((SourceLine.split source).take i).drop 1).filterMap fun line => declaration? line.text

/-- The statement of a line after the one that opens the script, and what the line is compiled
with. -/
theorem exists_statement_of_compile {tables : Tables} {source : Bytes} {p : Program}
    (h : (compile tables source).result = .ok p) {i : Nat} {line : SourceLine} (hi : 0 < i)
    (hline : (SourceLine.split source)[i]? = some line)
    (hkind : line.kind.isDeclaration = false) :
    ∃ object instruction,
      p.statements[statementIndex (lineKinds source) i]? = some ⟨line, object, instruction⟩ ∧
      (SourceLine.compile (Scope.declareEach { tables := tables } (declarationsBefore source i))
        line.text line.kind ((lineKinds source).drop (i + 1))).result =
          .ok (object, instruction) := by
  obtain ⟨first, rest, hsplit, -, -, -, -, hcompiles⟩ := result_compile_eq_ok_iff.1 h
  obtain ⟨i, rfl⟩ : ∃ j, i = j + 1 := ⟨i - 1, by omega⟩
  rw [hsplit, List.getElem?_cons_succ] at hline
  have hpair : (rest.map fun line => (line, line.kind))[i]? = some (line, line.kind) := by
    rw [List.getElem?_map, hline]
    rfl
  obtain ⟨object, instruction, hstatement, hcompile⟩ := hcompiles.exists_statement hpair hkind
  -- statements, declarations and following kinds, counted in all lines
  have hindex : ((rest.map fun line => (line, line.kind)).take i).countP
      (fun l => !l.2.isDeclaration) = statementIndex (lineKinds source) (i + 1) := by
    rw [statementIndex, lineKinds, hsplit, List.map_cons, List.take_succ_cons, List.drop_one,
      List.tail_cons, ← List.map_take, ← List.map_take, List.countP_map, List.countP_map]
    rfl
  have hdeclarations : ((rest.map fun line => (line, line.kind)).take i).filterMap
      (fun l => l.2.declared? l.1.text) = declarationsBefore source (i + 1) := by
    rw [declarationsBefore, hsplit, List.take_succ_cons, List.drop_one, List.tail_cons,
      ← List.map_take, List.filterMap_map]
    rfl
  have hfollowing : ((rest.map fun line => (line, line.kind)).drop (i + 1)).map (·.2) =
      (lineKinds source).drop (i + 1 + 1) := by
    rw [lineKinds, hsplit, List.map_cons, List.drop_succ_cons, ← List.map_drop, ← List.map_drop,
      List.map_map]
    rfl
  rw [hindex] at hstatement
  rw [hdeclarations, hfollowing] at hcompile
  exact ⟨object, instruction, hstatement, hcompile⟩

/-- The number of a line that starts a body leads to the first line at which the body may end. -/
theorem exists_countByte?_of_compile {tables : Tables} {source : Bytes} {p : Program}
    (h : (compile tables source).result = .ok p) {i : Nat} {kind : LineKind}
    {family : BlockFamily} {ends : List LineKind} (hkind : (lineKinds source)[i]? = some kind)
    (hrule : Block.rule? kind = some (family, ends)) :
    ∃ s c, p.statements[statementIndex (lineKinds source) i]? = some s ∧
      (SourceLine.split source)[i]? = some s.line ∧ p.countByte? (lineKinds source) i = some c ∧
      IsLeast {j | Block.EndsAt family ends (lineKinds source) i j} (i + c.toNat + 1) := by
  obtain ⟨line, hline, rfl⟩ : ∃ line, (SourceLine.split source)[i]? = some line ∧
      line.kind = kind := by
    rw [lineKinds, List.getElem?_map] at hkind
    exact Option.map_eq_some_iff.1 hkind
  have hdeclaration : line.kind.isDeclaration = false := by
    cases hk : line.kind with
    | declaration k => exact absurd hrule (by simp [hk, Block.rule?])
    | _ => rfl
  cases i with
  | zero =>
    -- the line that opens the script starts no body
    obtain ⟨first, rest, hsplit, hbegin, -⟩ := result_compile_eq_ok_iff.1 h
    rw [hsplit] at hline
    obtain rfl := Option.some.inj hline
    exact absurd hrule (by simp [SourceLine.rule?_of_isBegin hbegin])
  | succ i =>
    obtain ⟨object, instruction, hstatement, hcompile⟩ :=
      exists_statement_of_compile h (Nat.succ_pos i) hline hdeclaration
    obtain ⟨n, hmax, hbyte, hbody⟩ := SourceLine.exists_body_of_compile hrule hcompile
    -- the limit on bodies keeps the byte from wrapping
    have hcount : (UInt8.ofNat n).toNat = n := by
      rw [Block.maxLength] at hmax
      rw [UInt8.toNat_ofNat']
      exact Nat.mod_eq_of_lt (by omega)
    refine ⟨_, UInt8.ofNat n, hstatement, hline, ?_, ?_⟩
    · rw [countByte?, hstatement]
      exact hbyte
    · rw [hcount, show i + 1 + n + 1 = i + 1 + 1 + n by omega]
      exact hbody.isLeast_endsAt

/-- From every branch of a conditional the numbers lead to the end of the conditional, if each of them
leads to a line at which the body may end. -/
theorem exists_lands {p : Program} {kinds : List LineKind}
    (hcounts : ∀ i kind family ends, kinds[i]? = some kind →
      Block.rule? kind = some (family, ends) →
        ∃ c, p.countByte? kinds i = some c ∧
          Block.EndsAt family ends kinds i (i + c.toNat + 1))
    {i : Nat} {kind : LineKind} {ends : List LineKind} (hkind : kinds[i]? = some kind)
    (hrule : Block.rule? kind = some (.conditional, ends)) :
    ∃ j, Lands p kinds i j ∧ kinds[j]? = some .ifEnd := by
  -- each number leads further down, so there are fewer and fewer lines left
  induction hn : kinds.length - i using Nat.strongRecOn generalizing i kind ends with
  | _ n ih =>
    obtain ⟨c, hcount, hlater, ⟨next, hmem, hnext⟩, -⟩ := hcounts i kind _ ends hkind hrule
    have hinside : i + c.toNat + 1 < kinds.length := (List.getElem?_eq_some_iff.1 hnext).1
    rcases Block.cases_of_mem_ends hrule hmem with rfl | rfl | rfl
    · obtain ⟨j, hlands, hend⟩ := ih _ (by omega) hnext rfl rfl
      exact ⟨j, .jump hcount (.inl hnext) hlands, hend⟩
    · obtain ⟨j, hlands, hend⟩ := ih _ (by omega) hnext rfl rfl
      exact ⟨j, .jump hcount (.inr hnext) hlands, hend⟩
    · exact ⟨_, .stop hcount (by simp [hnext]) (by simp [hnext]), hnext⟩

/-- In a script that compiles, the number in the bytecode of each line that starts a body leads to
the first line after it that can end the body and before which as many blocks of the family are
closed as are opened. From the first branch of a conditional, the numbers lead from branch to branch
and to the end of the conditional. -/
theorem isLeast_endsAt_of_compile {tables : Tables} {source : Bytes} {p : Program}
    (h : (compile tables source).result = .ok p) :
    (∀ i kind family ends, (lineKinds source)[i]? = some kind →
      Block.rule? kind = some (family, ends) →
        ∃ s c, p.statements[statementIndex (lineKinds source) i]? = some s ∧
          (SourceLine.split source)[i]? = some s.line ∧
          p.countByte? (lineKinds source) i = some c ∧
          IsLeast {j | Block.EndsAt family ends (lineKinds source) i j} (i + c.toNat + 1)) ∧
    ∀ i, (lineKinds source)[i]? = some .ifBranch →
      ∃ j, p.Lands (lineKinds source) i j ∧ (lineKinds source)[j]? = some .ifEnd := by
  have hcounts : ∀ i kind family ends, (lineKinds source)[i]? = some kind →
      Block.rule? kind = some (family, ends) → _ := fun i kind family ends hkind hrule =>
    exists_countByte?_of_compile h hkind hrule
  refine ⟨hcounts, fun i hi => exists_lands ?_ hi rfl⟩
  intro j kind family ends hkind hrule
  obtain ⟨-, c, -, -, hcount, hleast⟩ := hcounts j kind family ends hkind hrule
  exact ⟨c, hcount, hleast.1⟩

/-- A script with a conditional of three branches inside a loop, and another inside a branch. -/
def nested : Bytes :=
  joinWith [lineFeed] (List.map ascii
    ["begin nested", "short x", "while ( x < 3 )", "if ( x == 1 )", "set x to 2",
      "elseif ( x == 2 )", "if ( x > 0 )", "endif", "else return", "endif", "endwhile", "end"])

theorem isLeast_endsAt_of_compile_nested :
    ∃ p, (compile .empty nested).result = .ok p ∧
      (∃ c, p.countByte? (lineKinds nested) 5 = some c ∧
        IsLeast {j | Block.EndsAt .conditional [.elseIfBranch, .elseBranch, .ifEnd]
          (lineKinds nested) 5 j} (5 + c.toNat + 1)) ∧
      ∃ j, p.Lands (lineKinds nested) 3 j ∧ (lineKinds nested)[j]? = some .ifEnd := by
  obtain ⟨p, hp⟩ : ∃ p, (compile .empty nested).result = .ok p :=
    Outcome.exists_result_eq_ok (by decide +kernel)
  have hbranch : (lineKinds nested)[5]? = some .elseIfBranch := by decide +kernel
  have hif : (lineKinds nested)[3]? = some .ifBranch := by decide +kernel
  obtain ⟨-, c, -, -, hcount, hleast⟩ :=
    (isLeast_endsAt_of_compile hp).1 5 .elseIfBranch _ _ hbranch rfl
  exact ⟨p, hp, ⟨c, hcount, hleast⟩, (isLeast_endsAt_of_compile hp).2 3 hif⟩

end Program

end MorrowindScript
