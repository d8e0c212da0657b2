import MorrowindScript.Proofs.Scan.Bracket
import MorrowindScript.Proofs.SourceLine.Tidy
import Mathlib.Algebra.Order.Ring.Nat
import Mathlib.Logic.Relation

/-!
# Lines in normal form

The lines of a source are cut out of its physical lines in two passes. The first one drops comments,
carriage returns, blanks and empty lines. The second one walks through the list that is left and
takes a line apart after a leading `else`; what follows the `else` is put into the list as a line of
its own, which the walk comes to next. The module shows that this walk ends with the lines of the
source, and that these are in a normal form, in which nothing but layout is lost.

## Main definitions

* `SourceLine.Walk`, `SourceLine.Walk.step`: the walk through a list of lines.
* `Bytes.IsNormal`: a text that is left as it is when a source is cut into lines.
* `Bytes.IsCode`: what stands before the comment of a physical line.
* `Bytes.unspaced`: a text without its blanks.

## Main results

* `SourceLine.Walk.work_lt_of_step`, `SourceLine.Walk.outcome_of_step`: a step leaves less to do,
  and does not change what comes out in the end.
* `SourceLine.Walk.exists_end`: every walk ends.
* `SourceLine.isNormal_of_mem_texts`: the texts of a source are in normal form.
* `SourceLine.filter_number_numbered`: the lines of one physical line.
* `SourceLine.texts_joinWith_of_isNormal`: texts in normal form are cut into themselves.
* `SourceLine.split_normal_form`: the normal form of a source.
-/

namespace MorrowindScript

open Bytes

/-! ## Texts -/

namespace Bytes

/-- The text without its blanks. -/
def unspaced (s : Bytes) : Bytes :=
  s.filter (!isBlank ·)

/-- The text is tidy, has no unquoted byte that starts a comment, and does not go on after a leading
`else` and a blank. -/
structure IsNormal (s : Bytes) : Prop where
  isTidy : s.IsTidy
  not_hasComment : ¬HasComment s
  not_elseSpace : ¬ascii "else" ++ [space] <+: s
  not_elseTab : ¬ascii "else" ++ [tab] <+: s

/-- The text `code` is the physical line up to its first unquoted byte that starts a comment, or all
of it if there is none. -/
def IsCode (raw code : Bytes) : Prop :=
  ¬HasComment code ∧
    (raw = code ∨
      ∃ comment, raw = code ++ commentByte :: comment ∧ Scan.isBalanced code = true)

@[simp]
theorem unspaced_append (s t : Bytes) : unspaced (s ++ t) = s.unspaced ++ t.unspaced :=
  List.filter_append s t

@[simp]
theorem unspaced_trimLeft (s : Bytes) : s.trimLeft.unspaced = s.unspaced :=
  filter_trimLeft (fun c hc => by simp [hc]) s

@[simp]
theorem unspaced_trim (s : Bytes) : s.trim.unspaced = s.unspaced := by
  rw [trim, unspaced, filter_trimRight (fun c hc => by simp [hc]), ← unspaced, unspaced_trimLeft]

theorem unspaced_cons_of_isBlank {c : UInt8} (hc : isBlank c = true) (s : Bytes) :
    unspaced (c :: s) = s.unspaced :=
  List.filter_cons_of_neg (by simp [hc])

/-- There is nothing to trim on a tidy text. -/
theorem IsTidy.trim_eq {s : Bytes} (h : s.IsTidy) : s.trim = s := by
  obtain ⟨c, rest, rfl⟩ := List.exists_cons_of_ne_nil h.ne_nil
  have hleft : trimLeft (c :: rest) = c :: rest :=
    List.dropWhile_cons_of_neg (by simp [h.head c rfl])
  rw [trim, hleft, h.trimRight_eq]

end Bytes

/-! ## Comments -/

/-- A text that goes on after one with a comment has the comment. -/
theorem HasComment.of_prefix {s t : Bytes} (h : HasComment s) (hst : s <+: t) : HasComment t := by
  obtain ⟨before, after, rfl, hbalanced⟩ := h
  obtain ⟨rest, rfl⟩ := hst
  exact ⟨before, after ++ rest, by simp, hbalanced⟩

/-- A text that ends with one with a comment has the comment, if all quotes are closed before. -/
theorem HasComment.append_left {s t : Bytes} (hs : Scan.isBalanced s = true) (h : HasComment t) :
    HasComment (s ++ t) := by
  obtain ⟨before, after, rfl, hbalanced⟩ := h
  refine ⟨s ++ before, after, by simp, ?_⟩
  rw [Scan.isBalanced_append hs, hbalanced]

theorem HasComment.of_trimLeft {s : Bytes} (h : HasComment s.trimLeft) : HasComment s := by
  obtain ⟨blanks, hblank, hs⟩ := exists_blanks_append_trimLeft s
  rw [hs]
  exact h.append_left (Scan.isInert_of_blank hblank).isBalanced_eq

namespace Scan

/-- What stands before a comment, and the comment. -/
theorem exists_comment_of_codeFrom_ne {outside : Bool} {s : Bytes} (h : codeFrom outside s ≠ s) :
    ∃ comment, s = codeFrom outside s ++ commentByte :: comment ∧
      isBalanced (codeFrom outside s) = outside := by
  -- the side is generalized, because every quote changes it
  induction s generalizing outside with
  | nil => exact absurd rfl h
  | cons c s ih =>
    rw [codeFrom_cons] at h ⊢
    by_cases hquote : c = quote
    · rw [if_pos hquote] at h ⊢
      obtain ⟨comment, hs, hbalanced⟩ := ih fun heq => h (by rw [heq])
      refine ⟨comment, by rw [List.cons_append, ← hs], ?_⟩
      rw [hquote, isBalanced_quote_cons, hbalanced, Bool.not_not]
    · rw [if_neg hquote] at h ⊢
      by_cases hmark : outside = true ∧ c = commentByte
      · rw [if_pos hmark]
        exact ⟨s, by rw [hmark.2]; rfl, hmark.1.symm⟩
      · rw [if_neg hmark] at h ⊢
        obtain ⟨comment, hs, hbalanced⟩ := ih fun heq => h (by rw [heq])
        refine ⟨comment, by rw [List.cons_append, ← hs], ?_⟩
        rw [isBalanced_cons_of_ne hquote, hbalanced]

/-- Code has no comment. -/
theorem codeFrom_codeFrom (outside : Bool) (s : Bytes) :
    codeFrom outside (codeFrom outside s) = codeFrom outside s := by
  induction s generalizing outside with
  | nil => rfl
  | cons c s ih =>
    rw [codeFrom_cons]
    by_cases hquote : c = quote
    · rw [if_pos hquote, codeFrom_cons, if_pos hquote, ih]
    · rw [if_neg hquote]
      by_cases hmark : outside = true ∧ c = commentByte
      · rw [if_pos hmark]
        rfl
      · rw [if_neg hmark, codeFrom_cons, if_neg hquote, if_neg hmark, ih]

/-- A text without comment is all code. -/
theorem codeFrom_eq_self_iff {s : Bytes} : codeFrom true s = s ↔ ¬HasComment s := by
  constructor
  · rintro hcode ⟨before, after, rfl, hbalanced⟩
    rw [codeFrom_append_comment hbalanced] at hcode
    -- the comment itself is not among the code
    have hle : (codeFrom true before).length ≤ before.length := by
      rw [codeFrom]
      split
      · exact List.length_take_le' _ _
      · exact le_rfl
    rw [hcode, List.length_append, List.length_cons] at hle
    omega
  · intro hnone
    by_contra hcode
    obtain ⟨comment, hs, hbalanced⟩ := exists_comment_of_codeFrom_ne hcode
    exact hnone ⟨codeFrom true s, comment, hs, hbalanced⟩

theorem isCode_codeFrom (raw : Bytes) : IsCode raw (codeFrom true raw) := by
  refine ⟨codeFrom_eq_self_iff.1 (codeFrom_codeFrom true raw), ?_⟩
  by_cases hcode : codeFrom true raw = raw
  · exact .inl hcode.symm
  · exact .inr (exists_comment_of_codeFrom_ne hcode)

end Scan

namespace SourceLine

/-! ## The walk -/

/-- The pieces of a line that was not taken apart yet. -/
def splitLine (line : SourceLine) : List SourceLine :=
  (splitElse line.text).map fun piece => ⟨piece, line.number⟩

theorem splitElse_of_afterElse? {s rest : Bytes} (h : afterElse? s = some rest) :
    splitElse s = ascii "else" :: splitElse rest := by
  rw [splitElse]
  split
  · next other hother =>
    rw [h] at hother
    rw [Option.some.inj hother]
  · next hnone => exact absurd (h.symm.trans hnone) (by simp)

theorem splitElse_of_afterElse?_eq_none {s : Bytes} (h : afterElse? s = none) :
    splitElse s = [s] := by
  rw [splitElse]
  split
  · next other hother => exact absurd (h.symm.trans hother) (by simp)
  · rfl

/-- A list of lines and the place of the line that is looked at next. -/
structure Walk where
  /-- The lines. -/
  lines : List SourceLine
  /-- The place in the list. -/
  index : Nat

namespace Walk

/-- Looks at one line. If it goes on after `else`, only the `else` is left of it, and what follows
is put into the list behind it. At the end of the list there is nothing to do. -/
def step (w : Walk) : Option Walk :=
  match w.lines[w.index]? with
  | none => none
  | some line =>
    match afterElse? line.text with
    | none => some ⟨w.lines, w.index + 1⟩
    | some rest =>
      some ⟨(w.lines.set w.index ⟨ascii "else", line.number⟩).insertIdx (w.index + 1)
        ⟨rest, line.number⟩, w.index + 1⟩

/-- How much there is left to do: the lines ahead and their bytes. -/
def work (w : Walk) : Nat :=
  ((w.lines.drop w.index).map fun line => line.text.length + 1).sum

/-- What comes out in the end: the lines that were passed, and the pieces of those ahead. -/
def outcome (w : Walk) : List SourceLine :=
  w.lines.take w.index ++ (w.lines.drop w.index).flatMap splitLine

/-- The walk between two parts of a list. -/
def between (passed ahead : List SourceLine) : Walk :=
  ⟨passed ++ ahead, passed.length⟩

theorem work_between (passed ahead : List SourceLine) :
    (between passed ahead).work = (ahead.map fun line => line.text.length + 1).sum := by
  rw [work, between, List.drop_left]

theorem outcome_between (passed ahead : List SourceLine) :
    (between passed ahead).outcome = passed ++ ahead.flatMap splitLine := by
  rw [outcome, between, List.take_left, List.drop_left]

/-- A line in the middle of a list is replaced by two. -/
theorem insertIdx_set_append (passed ahead : List SourceLine) (line first second : SourceLine) :
    ((passed ++ line :: ahead).set passed.length first).insertIdx (passed.length + 1) second =
      passed ++ first :: second :: ahead := by
  induction passed with
  | nil => rfl
  | cons other passed ih =>
    rw [List.cons_append, List.length_cons, List.set_cons_succ, List.insertIdx_succ_cons, ih,
      List.cons_append]

/-- What a step can do: it passes a line, or the `else` that a line starts with. -/
theorem cases_of_step {w w' : Walk} (h : w.step = some w') :
    ∃ passed line ahead, w = between passed (line :: ahead) ∧
      (afterElse? line.text = none ∧ w' = between (passed ++ [line]) ahead ∨
        ∃ rest, afterElse? line.text = some rest ∧
          w' = between (passed ++ [⟨ascii "else", line.number⟩])
            (⟨rest, line.number⟩ :: ahead)) := by
  obtain ⟨lines, index⟩ := w
  rw [step] at h
  cases hline : lines[index]? with
  | none =>
    simp only [hline] at h
    nomatch h
  | some line =>
    obtain ⟨hlt, rfl⟩ := List.getElem?_eq_some_iff.1 hline
    -- the list is divided at the line
    have hlines : lines = lines.take index ++ lines[index] :: lines.drop (index + 1) := by
      rw [← List.drop_eq_getElem_cons hlt, List.take_append_drop]
    have hindex : index = (lines.take index).length := by
      rw [List.length_take]
      omega
    refine ⟨lines.take index, lines[index], lines.drop (index + 1), ?_, ?_⟩
    · rw [between, ← hlines, ← hindex]
    · cases hafter : afterElse? lines[index].text with
      | none =>
        simp only [hline, hafter, Option.some.injEq] at h
        refine .inl ⟨rfl, ?_⟩
        rw [← h, between, List.append_assoc, List.singleton_append, ← hlines, List.length_append,
          ← hindex, List.length_singleton]
      | some rest =>
        simp only [hline, hafter, Option.some.injEq] at h
        refine .inr ⟨rest, rfl, ?_⟩
        have hinsert := insertIdx_set_append (lines.take index) (lines.drop (index + 1))
          lines[index] ⟨ascii "else", lines[index].number⟩ ⟨rest, lines[index].number⟩
        rw [← hlines, ← hindex] at hinsert
        rw [← h, hinsert, between, List.append_assoc, List.singleton_append, List.length_append,
          ← hindex, List.length_singleton]

/-- Every step leaves less to do, although the list may have grown. -/
theorem work_lt_of_step {w w' : Walk} (h : w.step = some w') : w'.work < w.work := by
  obtain ⟨passed, line, ahead, rfl, ⟨-, rfl⟩ | ⟨rest, hrest, rfl⟩⟩ := cases_of_step h
  · rw [work_between, work_between, List.map_cons, List.sum_cons]
    omega
  · have hlt := length_afterElse_lt hrest
    rw [work_between, work_between]
    simp only [List.map_cons, List.sum_cons]
    omega

/-- No step changes what comes out in the end. -/
theorem outcome_of_step {w w' : Walk} (h : w.step = some w') : w'.outcome = w.outcome := by
  obtain ⟨passed, line, ahead, rfl, ⟨hnone, rfl⟩ | ⟨rest, hrest, rfl⟩⟩ := cases_of_step h
  · rw [outcome_between, outcome_between, List.flatMap_cons, splitLine,
      splitElse_of_afterElse?_eq_none hnone, List.append_assoc]
    rfl
  · rw [outcome_between, outcome_between, List.flatMap_cons, List.flatMap_cons, splitLine,
      splitLine, splitElse_of_afterElse? hrest, List.append_assoc]
    rfl

/-- At the end of the list all lines are passed. -/
theorem outcome_of_step_eq_none {w : Walk} (h : w.step = none) : w.outcome = w.lines := by
  have hend : w.lines.length ≤ w.index := by
    by_contra hlt
    rw [step, List.getElem?_eq_getElem (not_le.1 hlt)] at h
    dsimp only at h
    split at h <;> nomatch h
  rw [outcome, List.take_of_length_le hend, List.drop_eq_nil_of_le hend, List.flatMap_nil,
    List.append_nil]

/-- Every walk ends, and what comes out are the pieces of all lines ahead. -/
theorem exists_end (w : Walk) :
    ∃ last : Walk, Relation.ReflTransGen (fun v v' : Walk => v.step = some v') w last ∧
      last.step = none ∧ last.lines = w.outcome := by
  -- the induction is on what is left to do
  induction hwork : w.work using Nat.strong_induction_on generalizing w with
  | _ n ih =>
    cases hstep : w.step with
    | none => exact ⟨w, .refl, hstep, (outcome_of_step_eq_none hstep).symm⟩
    | some w' =>
      obtain ⟨last, hrun, hend, hlines⟩ := ih _ (hwork ▸ work_lt_of_step hstep) w' rfl
      exact ⟨last, .head hstep hrun, hend, hlines.trans (outcome_of_step hstep)⟩

end Walk

/-- What is left of the physical lines, without those of which nothing is left. -/
def codeLines (source : Bytes) : List SourceLine :=
  ((source.lines.zipIdx 1).map fun (raw, number) => ⟨clean raw, number⟩).filter (!·.text.isEmpty)

/-- The walk through what is left of the physical lines gives the lines of the source. -/
theorem outcome_codeLines (source : Bytes) :
    (Walk.mk (codeLines source) 0).outcome = split source := by
  change (codeLines source).flatMap splitLine = _
  rw [codeLines, split]
  induction source.lines.zipIdx 1 with
  | nil => rfl
  | cons numbered rest ih =>
    obtain ⟨raw, number⟩ := numbered
    rw [List.map_cons, List.flatMap_cons, ← ih]
    simp only [ofRaw]
    by_cases hempty : (clean raw).isEmpty = true
    · rw [List.filter_cons_of_neg (by simpa using hempty), if_pos hempty, List.nil_append]
    · rw [List.filter_cons_of_pos (by simpa using hempty), if_neg hempty, List.flatMap_cons,
        splitLine]

/-! ## Normal forms -/

/-- A text in which `else` is followed by a blank is taken apart. -/
theorem afterElse?_of_prefix {s : Bytes} {c : UInt8} (hc : isBlank c = true)
    (h : ascii "else" ++ [c] <+: s) : afterElse? s ≠ none := by
  obtain ⟨tail, rfl⟩ := h
  have hsome := afterElse?_eq_some_iff.2 ⟨c, tail, rfl, hc, rfl⟩
  rw [List.append_assoc, List.singleton_append, hsome]
  exact Option.some_ne_none _

/-- Nothing follows an `else` in a text in normal form. -/
theorem afterElse?_eq_none_of_isNormal {s : Bytes} (h : s.IsNormal) : afterElse? s = none := by
  by_contra hafter
  obtain ⟨rest, hrest⟩ := Option.ne_none_iff_exists'.1 hafter
  obtain ⟨c, tail, rfl, hblank, -⟩ := afterElse?_eq_some_iff.1 hrest
  rcases (by simpa [isBlank] using hblank : c = space ∨ c = tab) with rfl | rfl
  · exact h.not_elseSpace ⟨tail, by simp⟩
  · exact h.not_elseTab ⟨tail, by simp⟩

theorem not_hasComment_clean (raw : Bytes) : ¬HasComment (clean raw) := by
  intro h
  rw [clean_eq, trim] at h
  have hleft := h.of_prefix (List.rdropWhile_prefix isBlank _)
  have hcode := hleft.of_trimLeft.of_prefix (isPrefix_dropCarriageReturn _)
  exact (Scan.isCode_codeFrom raw).1 hcode

/-- What follows `else` in a line without comment has none. -/
theorem not_hasComment_of_afterElse? {s rest : Bytes} (h : afterElse? s = some rest)
    (hs : ¬HasComment s) : ¬HasComment rest := by
  obtain ⟨c, tail, rfl, hblank, rfl⟩ := afterElse?_eq_some_iff.1 h
  intro hrest
  have hbalanced : Scan.isBalanced (ascii "else" ++ [c]) = true := by
    refine Scan.isBalanced_of_notMem ?_
    rcases (by simpa [isBlank] using hblank : c = space ∨ c = tab) with rfl | rfl <;> decide
  refine hs ?_
  rw [← List.singleton_append, ← List.append_assoc]
  exact hrest.of_trimLeft.append_left hbalanced

theorem not_hasComment_else : ¬HasComment (ascii "else") :=
  Scan.codeFrom_eq_self_iff.1 (by decide)

/-- The pieces of what is left of a physical line are in normal form. -/
theorem isNormal_of_mem_pieces {raw piece : Bytes} (hraw : lineFeed ∉ raw)
    (h : piece ∈ pieces (clean raw)) : piece.IsNormal := by
  rw [pieces] at h
  split at h
  · exact absurd h List.not_mem_nil
  · next hne =>
    have htidy := isTidy_clean hraw (by simpa using hne)
    obtain ⟨hcomment, hnone⟩ := of_mem_splitElse not_hasComment_else
      (fun _ _ => not_hasComment_of_afterElse?) (not_hasComment_clean raw) h
    refine ⟨isTidy_of_mem_splitElse htidy h, hcomment, fun helse => ?_, fun helse => ?_⟩
    · exact afterElse?_of_prefix rfl helse hnone
    · exact afterElse?_of_prefix rfl helse hnone

/-- The texts of a source are in normal form. -/
theorem isNormal_of_mem_texts {source text : Bytes} (h : text ∈ texts source) : text.IsNormal := by
  obtain ⟨raw, hraw, hpiece⟩ := exists_mem_pieces_of_mem_texts h
  exact isNormal_of_mem_pieces (lineFeed_notMem_of_mem_lines hraw) hpiece

/-! ## Numbers -/

theorem number_of_mem_ofRaw {number : Nat} {raw : Bytes} {line : SourceLine}
    (h : line ∈ ofRaw number raw) : line.number = number := by
  simp only [ofRaw] at h
  split at h
  · exact absurd h List.not_mem_nil
  · obtain ⟨piece, -, rfl⟩ := List.mem_map.1 h
    rfl

/-- The lines of a source, when its physical lines are counted from `start`. -/
def numbered (start : Nat) (raws : List Bytes) : List SourceLine :=
  (raws.zipIdx start).flatMap fun (raw, number) => ofRaw number raw

theorem split_eq_numbered (source : Bytes) : split source = numbered 1 source.lines := rfl

theorem numbered_cons (start : Nat) (raw : Bytes) (raws : List Bytes) :
    numbered start (raw :: raws) = ofRaw start raw ++ numbered (start + 1) raws := by
  rw [numbered, List.zipIdx_cons, List.flatMap_cons, numbered]

theorem number_of_mem_numbered {start : Nat} {raws : List Bytes} {line : SourceLine}
    (h : line ∈ numbered start raws) : start ≤ line.number ∧ line.number < start + raws.length := by
  obtain ⟨⟨raw, number⟩, hmem, hline⟩ := List.mem_flatMap.1 h
  obtain ⟨hle, hlt, -⟩ := List.mem_zipIdx hmem
  rw [number_of_mem_ofRaw hline]
  exact ⟨hle, hlt⟩

/-- The numbers of the lines do not go down. -/
theorem pairwise_number_numbered (start : Nat) (raws : List Bytes) :
    (numbered start raws).Pairwise (·.number ≤ ·.number) := by
  induction raws generalizing start with
  | nil => exact .nil
  | cons raw raws ih =>
    rw [numbered_cons, List.pairwise_append]
    refine ⟨?_, ih (start + 1), fun line hline later hlater => ?_⟩
    · refine List.pairwise_of_forall_mem_list fun line hline later hlater => ?_
      rw [number_of_mem_ofRaw hline, number_of_mem_ofRaw hlater]
    · have hle := (number_of_mem_numbered hlater).1
      rw [number_of_mem_ofRaw hline]
      omega

/-- The lines with one number are those of the physical line with that number. -/
theorem filter_number_numbered {raws : List Bytes} {i : Nat} {raw : Bytes} (h : raws[i]? = some raw)
    (start : Nat) :
    (numbered start raws).filter (·.number == start + i) = ofRaw (start + i) raw := by
  induction raws generalizing i start with
  | nil => nomatch h
  | cons first raws ih =>
    rw [numbered_cons, List.filter_append]
    cases i with
    | zero =>
      obtain rfl : first = raw := by simpa using h
      have hfirst : (ofRaw start first).filter (·.number == start + 0) = ofRaw start first :=
        List.filter_eq_self.2 fun line hline => by simp [number_of_mem_ofRaw hline]
      have hlater : (numbered (start + 1) raws).filter (·.number == start + 0) = [] := by
        refine List.filter_eq_nil_iff.2 fun line hline => ?_
        have hle := (number_of_mem_numbered hline).1
        simp only [beq_iff_eq]
        omega
      rw [hfirst, hlater, List.append_nil, Nat.add_zero]
    | succ i =>
      have hfirst : (ofRaw start first).filter (·.number == start + (i + 1)) = [] := by
        refine List.filter_eq_nil_iff.2 fun line hline => ?_
        rw [number_of_mem_ofRaw hline]
        simp
      rw [hfirst, List.nil_append, show start + (i + 1) = start + 1 + i by omega]
      exact ih (by simpa using h) (start + 1)

/-! ## Nothing but layout is lost -/

/-- The pieces of a line have all its bytes but blanks. -/
theorem unspaced_flatten_splitElse (s : Bytes) : unspaced (splitElse s).flatten = s.unspaced := by
  fun_induction splitElse s with
  | case1 s rest hrest _ ih =>
    obtain ⟨c, tail, rfl, hblank, rfl⟩ := afterElse?_eq_some_iff.1 hrest
    rw [List.flatten_cons, unspaced_append, ih, unspaced_trimLeft, unspaced_append,
      unspaced_cons_of_isBlank hblank]
  | case2 s => rw [List.flatten_singleton]

/-- The lines of a physical line have all bytes of its code but blanks and a carriage return. -/
theorem unspaced_flatten_ofRaw (number : Nat) (raw : Bytes) :
    unspaced ((ofRaw number raw).map text).flatten =
      unspaced (dropCarriageReturn (Scan.codeFrom true raw)) := by
  have hclean : unspaced (clean raw) = unspaced (dropCarriageReturn (Scan.codeFrom true raw)) := by
    rw [clean_eq, unspaced_trim]
  rw [map_text_ofRaw, pieces, ← hclean]
  split
  · next hempty =>
    rw [List.isEmpty_iff.1 hempty]
    rfl
  · exact unspaced_flatten_splitElse (clean raw)

/-! ## A second cut -/

/-- A text in normal form without carriage return is left as it is. -/
theorem clean_of_isNormal {s : Bytes} (h : s.IsNormal) (hreturn : carriageReturn ∉ s) :
    clean s = s := by
  rw [clean_eq_trim hreturn, Scan.codeFrom_eq_self_iff.2 h.not_hasComment, h.isTidy.trim_eq]

theorem pieces_of_isNormal {s : Bytes} (h : s.IsNormal) : pieces s = [s] := by
  rw [pieces, if_neg (by simpa using h.isTidy.ne_nil),
    splitElse_of_afterElse?_eq_none (afterElse?_eq_none_of_isNormal h)]

theorem mem_of_mem_clean {raw : Bytes} {c : UInt8} (h : c ∈ clean raw) : c ∈ raw := by
  rw [clean_eq] at h
  exact Scan.mem_of_mem_codeFrom ((isPrefix_dropCarriageReturn _).subset (mem_of_mem_trim h))

theorem carriageReturn_notMem_of_mem_texts {source text : Bytes} (hsource : carriageReturn ∉ source)
    (h : text ∈ texts source) : carriageReturn ∉ text := by
  obtain ⟨raw, hraw, hpiece⟩ := exists_mem_pieces_of_mem_texts h
  have hclean : carriageReturn ∉ clean raw := fun hmem =>
    hsource (mem_of_mem_lines hraw (mem_of_mem_clean hmem)).1
  rw [pieces] at hpiece
  split at hpiece
  · exact absurd hpiece List.not_mem_nil
  · refine (of_mem_splitElse (P := (carriageReturn ∉ ·)) (by decide) ?_ hclean hpiece).1
    intro s rest hrest hs hmem
    obtain ⟨c, tail, rfl, -, rfl⟩ := afterElse?_eq_some_iff.1 hrest
    have htail := (List.dropWhile_sublist isBlank).subset hmem
    exact hs (List.mem_append_right _ (List.mem_cons_of_mem c htail))

/-- Texts in normal form, one a line, are cut into themselves. -/
theorem texts_joinWith_of_isNormal {lines : List Bytes} (h : ∀ s ∈ lines, s.IsNormal)
    (hreturn : ∀ s ∈ lines, carriageReturn ∉ s) : texts (joinWith [lineFeed] lines) = lines := by
  by_cases hnil : lines = []
  · rw [hnil]
    rfl
  · have hfeed : ∀ s ∈ lines, lineFeed ∉ s := fun s hs => (h s hs).isTidy.lineFeed_notMem
    have hpieces : ∀ s ∈ lines, pieces (clean s) = [s] := by
      intro s hs
      rw [clean_of_isNormal (h s hs) (hreturn s hs), pieces_of_isNormal (h s hs)]
    rw [texts_eq, lines_joinWith hnil hfeed, List.flatMap_map, List.flatMap_congr hpieces]
    exact List.flatMap_pure_eq_map id lines |>.trans (List.map_id lines)

/-! ## The normal form -/

/-- The walk through what is left of the physical lines ends, with the lines of the source. These
are in normal form, and their numbers are those of physical lines and do not go down. The lines of
one physical line have all bytes of its code but blanks and one carriage return at its end. Without
carriage returns, a second cut gives the same texts. -/
theorem split_normal_form (source : Bytes) :
    (∃ last : Walk, Relation.ReflTransGen (fun w w' : Walk => w.step = some w')
        ⟨codeLines source, 0⟩ last ∧ last.step = none ∧ last.lines = split source) ∧
      (∀ line ∈ split source,
        line.text.IsNormal ∧ 1 ≤ line.number ∧ line.number ≤ source.lines.length) ∧
      (split source).Pairwise (·.number ≤ ·.number) ∧
      (∀ i raw, source.lines[i]? = some raw → ∃ code, IsCode raw code ∧
        unspaced (((split source).filter (·.number == i + 1)).map text).flatten =
          unspaced (dropCarriageReturn code)) ∧
      (carriageReturn ∉ source → texts (joinWith [lineFeed] (texts source)) = texts source) := by
  refine ⟨?_, fun line hline => ⟨?_, ?_⟩, ?_, fun i raw hraw => ?_, fun hreturn => ?_⟩
  · rw [← outcome_codeLines]
    exact Walk.exists_end ⟨codeLines source, 0⟩
  · exact isNormal_of_mem_texts (List.mem_map_of_mem hline)
  · rw [split_eq_numbered] at hline
    obtain ⟨hle, hlt⟩ := number_of_mem_numbered hline
    exact ⟨hle, by omega⟩
  · exact pairwise_number_numbered 1 source.lines
  · have hfilter : (split source).filter (·.number == i + 1) = ofRaw (1 + i) raw := by
      rw [split_eq_numbered, Nat.add_comm i 1, filter_number_numbered hraw]
    refine ⟨Scan.codeFrom true raw, Scan.isCode_codeFrom raw, ?_⟩
    rw [hfilter, unspaced_flatten_ofRaw]
  · exact texts_joinWith_of_isNormal (fun _ => isNormal_of_mem_texts)
      fun _ => carriageReturn_notMem_of_mem_texts hreturn

/-- A physical line that goes on twice after `else`, with a quoted and an unquoted semicolon. -/
theorem split_normal_form_else :
    let raw := ascii "else \telse say \"a;b\" ; c"
    let source := raw ++ ascii "\n\nend"
    let said : SourceLine := ⟨ascii "say \"a;b\"", 1⟩
    split source = [⟨ascii "else", 1⟩, ⟨ascii "else", 1⟩, said, ⟨ascii "end", 3⟩] ∧
      said.text.IsNormal ∧ source.lines[0]? = some raw ∧
      (∃ code, IsCode raw code ∧
        ascii "elseelsesay\"a;b\"" = unspaced (dropCarriageReturn code)) ∧
      carriageReturn ∉ source ∧ texts (joinWith [lineFeed] (texts source)) = texts source := by
  intro raw source said
  have hcode : codeLines source = [⟨ascii "else \telse say \"a;b\"", 1⟩, ⟨ascii "end", 3⟩] := by
    decide +kernel
  have htwice : afterElse? (ascii "else \telse say \"a;b\"") =
      some (ascii "else say \"a;b\"") := by
    decide +kernel
  have honce : afterElse? (ascii "else say \"a;b\"") = some (ascii "say \"a;b\"") := by
    decide +kernel
  have hsaid : afterElse? (ascii "say \"a;b\"") = none := by decide +kernel
  have hend : afterElse? (ascii "end") = none := by decide +kernel
  have hsplit : split source = [⟨ascii "else", 1⟩, ⟨ascii "else", 1⟩, said, ⟨ascii "end", 3⟩] := by
    rw [← outcome_codeLines, Walk.outcome, hcode]
    simp only [List.take_zero, List.drop_zero, List.nil_append, List.flatMap_cons, List.flatMap_nil,
      splitLine, splitElse_of_afterElse? htwice, splitElse_of_afterElse? honce,
      splitElse_of_afterElse?_eq_none hsaid, splitElse_of_afterElse?_eq_none hend, List.map_cons,
      List.map_nil, List.cons_append, said]
  have hraw : source.lines[0]? = some raw := by decide +kernel
  have hreturn : carriageReturn ∉ source := by decide +kernel
  obtain ⟨-, hnormal, -, hbytes, hagain⟩ := split_normal_form source
  refine ⟨hsplit, (hnormal said (by simp [hsplit])).1, hraw, ?_, hreturn, hagain hreturn⟩
  obtain ⟨code, hcode, heq⟩ := hbytes 0 raw hraw
  rw [hsplit] at heq
  exact ⟨code, hcode, heq⟩

end SourceLine

end MorrowindScript
