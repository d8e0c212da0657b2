import MorrowindScript.SourceLine
import Mathlib.Data.List.Forall2

/-!
# Edits of the layout of a source

The way a source is laid out in physical lines does not show in the texts of its lines. Comments are
cut off first, then a carriage return, then blanks, and lines of which nothing is left are dropped.

The module introduces:

* `SourceLine.texts` — the texts of the lines of a source.
* `LayoutEdit` — the edits: carriage returns at the ends of lines, lines without code, blanks around
  a line and comments after it.
* `SourceLine.texts_eq_of_layoutEdit` — a source without carriage returns has the same texts after
  each of these edits.
-/

namespace MorrowindScript

open Bytes

/-! ## Physical lines -/

namespace Bytes

theorem splitOn_eq (separator : UInt8) (s : Bytes) :
    s.splitOn separator = List.splitOn separator s := by
  induction s with
  | nil => rfl
  | cons c rest ih =>
    rw [splitOn, List.splitOn, List.splitOnP_cons_eq_if_modifyHead]
    rw [List.splitOn] at ih
    split
    · rw [ih]
    · rw [ih]
      obtain ⟨piece, pieces, hpieces⟩ :=
        List.exists_cons_of_ne_nil (List.splitOnP_ne_nil (· == separator) rest)
      rw [hpieces]
      rfl

/-- Lines that are joined by line feeds are the physical lines of the result. -/
theorem lines_joinWith {pieces : List Bytes} (hpieces : pieces ≠ [])
    (h : ∀ piece ∈ pieces, lineFeed ∉ piece) : (joinWith [lineFeed] pieces).lines = pieces := by
  rw [lines, splitOn_eq]
  exact List.splitOn_intercalate lineFeed h hpieces

theorem lines_ne_nil (s : Bytes) : s.lines ≠ [] := by
  rw [lines, splitOn_eq]
  exact List.splitOnP_ne_nil _ s

theorem lines_cons_of_ne {c : UInt8} (h : c ≠ lineFeed) (s : Bytes) :
    lines (c :: s) = s.lines.modifyHead (c :: ·) := by
  obtain ⟨piece, pieces, hpieces⟩ := List.exists_cons_of_ne_nil s.lines_ne_nil
  rw [hpieces]
  rw [lines] at hpieces ⊢
  rw [splitOn, if_neg (by simpa using h), hpieces]
  rfl

/-- A physical line consists of bytes of the source, and no line feed is among them. -/
theorem mem_of_mem_lines {s line : Bytes} {c : UInt8} (hline : line ∈ s.lines) (hc : c ∈ line) :
    c ∈ s ∧ c ≠ lineFeed := by
  induction s generalizing line with
  | nil =>
    obtain rfl := List.mem_singleton.1 hline
    exact absurd hc List.not_mem_nil
  | cons b rest ih =>
    by_cases hb : b = lineFeed
    · rw [hb] at hline
      rcases List.mem_cons.1 hline with rfl | hline
      · exact absurd hc List.not_mem_nil
      · obtain ⟨hmem, hne⟩ := ih hline hc
        exact ⟨List.mem_cons_of_mem b hmem, hne⟩
    · obtain ⟨piece, pieces, hpieces⟩ := List.exists_cons_of_ne_nil (lines_ne_nil rest)
      rw [lines_cons_of_ne hb, hpieces, List.modifyHead_cons] at hline
      rw [hpieces] at ih
      -- the first piece has one more byte, the others are pieces of the rest
      rcases List.mem_cons.1 hline with rfl | hline
      · rcases List.mem_cons.1 hc with rfl | hc
        · exact ⟨List.mem_cons_self, hb⟩
        · obtain ⟨hmem, hne⟩ := ih List.mem_cons_self hc
          exact ⟨List.mem_cons_of_mem b hmem, hne⟩
      · obtain ⟨hmem, hne⟩ := ih (List.mem_cons_of_mem piece hline) hc
        exact ⟨List.mem_cons_of_mem b hmem, hne⟩

theorem lineFeed_notMem_of_mem_lines {s line : Bytes} (h : line ∈ s.lines) : lineFeed ∉ line :=
  fun hmem => (mem_of_mem_lines h hmem).2 rfl

/-! ## Blanks at the ends -/

theorem trim_blank_append {blanks : Bytes} (h : ∀ c ∈ blanks, isBlank c = true) (s : Bytes) :
    trim (blanks ++ s) = trim s := by
  rw [trim, trim, trimLeft, trimLeft, List.dropWhile_append_of_pos h]

theorem trimRight_append_blank {blanks : Bytes} (h : ∀ c ∈ blanks, isBlank c = true)
    (s : Bytes) : trimRight (s ++ blanks) = trimRight s := by
  rw [trimRight, trimRight, List.reverse_append, List.dropWhile_append_of_pos]
  intro c hc
  exact h c (List.mem_reverse.1 hc)

theorem trim_append_blank {blanks : Bytes} (h : ∀ c ∈ blanks, isBlank c = true) (s : Bytes) :
    trim (s ++ blanks) = trim s := by
  rw [trim, trim, trimLeft, trimLeft, List.dropWhile_append]
  split
  · -- a text of blanks only: nothing is left of it with or without more blanks
    next hempty =>
    have hblanks : (blanks ++ []).dropWhile isBlank = [] := List.dropWhile_append_of_pos h
    rw [List.append_nil] at hblanks
    rw [List.isEmpty_iff.1 hempty, hblanks]
  · exact trimRight_append_blank h _

theorem carriageReturn_notMem_of_blank {blanks : Bytes} (h : ∀ c ∈ blanks, isBlank c = true) :
    carriageReturn ∉ blanks := by
  intro hmem
  exact absurd (h carriageReturn hmem) (by decide)

theorem lineFeed_notMem_of_blank {blanks : Bytes} (h : ∀ c ∈ blanks, isBlank c = true) :
    lineFeed ∉ blanks := by
  intro hmem
  exact absurd (h lineFeed hmem) (by decide)

theorem isPrefix_dropCarriageReturn (s : Bytes) : dropCarriageReturn s <+: s := by
  rw [dropCarriageReturn]
  split
  · exact List.dropLast_prefix s
  · exact List.prefix_rfl

theorem dropCarriageReturn_eq_self {s : Bytes} (h : carriageReturn ∉ s) :
    dropCarriageReturn s = s := by
  rw [dropCarriageReturn, if_neg]
  intro hlast
  exact h (List.mem_of_getLast? (eq_of_beq hlast))

end Bytes

/-! ## Comments -/

/-- The byte that starts a comment. -/
def commentByte : UInt8 := 0x3B

namespace Scan

/-- What stands before the comment of a text that starts outside quotes or not. -/
def codeFrom (outside : Bool) (s : Bytes) : Bytes :=
  match findUnquoted isCommentMark outside s with
  | some i => s.take i
  | none => s

/-- The recursion of `codeFrom`: a quote goes over to the other side, and outside quotes the code
ends where a comment starts. -/
theorem codeFrom_cons (outside : Bool) (c : UInt8) (s : Bytes) :
    codeFrom outside (c :: s) =
      if c = quote then c :: codeFrom (!outside) s
      else if outside = true ∧ c = commentByte then []
      else c :: codeFrom outside s := by
  -- what is found in the rest is one place further in the text
  have later (o : Bool) :
      (match (findUnquoted isCommentMark o s).map (· + 1) with
        | some i => (c :: s).take i
        | none => c :: s) = c :: codeFrom o s := by
    rw [codeFrom]
    cases findUnquoted isCommentMark o s <;> rfl
  rw [codeFrom, findUnquoted]
  by_cases hquote : c = quote
  · rw [if_pos (beq_iff_eq.2 hquote), if_pos hquote]
    exact later (!outside)
  · rw [if_neg (by simpa using hquote), if_neg hquote]
    by_cases hmark : outside = true ∧ c = commentByte
    · have hfound : (outside && isCommentMark (c :: s)) = true := by
        rw [hmark.1, hmark.2]
        rfl
      rw [if_pos hfound, if_pos hmark]
      rfl
    · have hfound : ¬ (outside && isCommentMark (c :: s)) = true := by
        simpa [isCommentMark, commentByte] using hmark
      rw [if_neg hfound, if_neg hmark]
      exact later outside

@[simp]
theorem isBalanced_quote_cons (s : Bytes) : isBalanced (quote :: s) = !isBalanced s := by
  rw [isBalanced, isBalanced, List.count_cons_self]
  rcases Nat.mod_two_eq_zero_or_one (s.count quote) with h | h
  · rw [Nat.add_mod, h]
    rfl
  · rw [Nat.add_mod, h]
    rfl

theorem isBalanced_cons_of_ne {c : UInt8} (h : c ≠ quote) (s : Bytes) :
    isBalanced (c :: s) = isBalanced s := by
  rw [isBalanced, isBalanced, List.count_cons_of_ne h]

/-- The code of two parts: the code of the first, and after a first part without comment the code of
the second, which starts as the first part ends. -/
theorem codeFrom_append (outside : Bool) (s t : Bytes) :
    codeFrom outside (s ++ t) =
      if codeFrom outside s = s then s ++ codeFrom (outside == isBalanced s) t
      else codeFrom outside s := by
  -- the side is generalized, because every quote changes it
  induction s generalizing outside with
  | nil => cases outside <;> rfl
  | cons c s ih =>
    rw [List.cons_append, codeFrom_cons, codeFrom_cons]
    by_cases hquote : c = quote
    · have hparity : (outside == isBalanced (c :: s)) = ((!outside) == isBalanced s) := by
        rw [hquote, isBalanced_quote_cons]
        cases outside <;> cases isBalanced s <;> rfl
      rw [if_pos hquote, if_pos hquote, ih, hparity]
      split <;> simp_all
    · rw [if_neg hquote, if_neg hquote, isBalanced_cons_of_ne hquote]
      by_cases hmark : outside = true ∧ c = commentByte
      · rw [if_pos hmark, if_pos hmark, if_neg (by simp)]
      · rw [if_neg hmark, if_neg hmark, ih]
        split <;> simp_all

/-- A comment after a text that closes its quotes does not count as code. -/
theorem codeFrom_append_comment {s : Bytes} (h : isBalanced s = true) (comment : Bytes) :
    codeFrom true (s ++ commentByte :: comment) = codeFrom true s := by
  have hcomment : codeFrom true (commentByte :: comment) = [] := by
    rw [codeFrom_cons, if_neg (by decide), if_pos ⟨rfl, rfl⟩]
  rw [codeFrom_append, h]
  split
  · next hcode => rw [hcode, beq_self_eq_true, hcomment, List.append_nil]
  · rfl

theorem mem_of_mem_codeFrom {outside : Bool} {s : Bytes} {c : UInt8}
    (h : c ∈ codeFrom outside s) : c ∈ s := by
  rw [codeFrom] at h
  split at h
  · exact List.mem_of_mem_take h
  · exact h

/-- The bytes neither quote nor start a comment. -/
def IsInert (s : Bytes) : Prop :=
  ∀ c ∈ s, c ≠ quote ∧ c ≠ commentByte

theorem IsInert.codeFrom_eq {s : Bytes} (h : IsInert s) (outside : Bool) :
    codeFrom outside s = s := by
  induction s with
  | nil => rfl
  | cons c s ih =>
    obtain ⟨⟨hquote, hcomment⟩, hs⟩ := List.forall_mem_cons.1 h
    rw [codeFrom_cons, if_neg hquote, if_neg fun hmark => hcomment hmark.2, ih hs]

theorem IsInert.isBalanced_eq {s : Bytes} (h : IsInert s) : isBalanced s = true := by
  rw [isBalanced, List.count_eq_zero.2 fun hquote => (h quote hquote).1 rfl]
  rfl

theorem isInert_of_blank {blanks : Bytes} (h : ∀ c ∈ blanks, isBlank c = true) :
    IsInert blanks := by
  intro c hc
  have hblank := h c hc
  refine ⟨?_, ?_⟩
  · rintro rfl
    exact absurd hblank (by decide)
  · rintro rfl
    exact absurd hblank (by decide)

end Scan

/-! ## Physical lines without their layout -/

namespace SourceLine

open Scan

theorem clean_eq (raw : Bytes) : clean raw = trim (dropCarriageReturn (codeFrom true raw)) := rfl

/-- Without carriage returns, only the comment and the blanks around a line are dropped. -/
theorem clean_eq_trim {raw : Bytes} (h : carriageReturn ∉ raw) :
    clean raw = trim (codeFrom true raw) := by
  rw [clean_eq, dropCarriageReturn_eq_self]
  intro hmem
  exact h (mem_of_mem_codeFrom hmem)

theorem clean_blank_append {raw blanks : Bytes} (hraw : carriageReturn ∉ raw)
    (h : ∀ c ∈ blanks, isBlank c = true) : clean (blanks ++ raw) = clean raw := by
  have hinert := isInert_of_blank h
  have hcode : codeFrom true (blanks ++ raw) = blanks ++ codeFrom true raw := by
    rw [codeFrom_append, if_pos (hinert.codeFrom_eq true), hinert.isBalanced_eq]
    rfl
  have hreturn : carriageReturn ∉ blanks ++ raw := by
    rw [List.mem_append]
    exact not_or.2 ⟨carriageReturn_notMem_of_blank h, hraw⟩
  rw [clean_eq_trim hreturn, clean_eq_trim hraw, hcode, trim_blank_append h]

theorem clean_append_blank {raw blanks : Bytes} (hraw : carriageReturn ∉ raw)
    (h : ∀ c ∈ blanks, isBlank c = true) : clean (raw ++ blanks) = clean raw := by
  have hreturn : carriageReturn ∉ raw ++ blanks := by
    rw [List.mem_append]
    exact not_or.2 ⟨hraw, carriageReturn_notMem_of_blank h⟩
  rw [clean_eq_trim hreturn, clean_eq_trim hraw, codeFrom_append]
  split
  · next hcode =>
    rw [hcode, (isInert_of_blank h).codeFrom_eq, trim_append_blank h]
  · rfl

/-- A carriage return after a line is dropped with its comment or after it. -/
theorem clean_append_carriageReturn {raw : Bytes} (hraw : carriageReturn ∉ raw) :
    clean (raw ++ [carriageReturn]) = clean raw := by
  have hinert : IsInert [carriageReturn] := by
    intro c hc
    obtain rfl := List.mem_singleton.1 hc
    decide
  rw [clean_eq_trim hraw, clean_eq, codeFrom_append]
  split
  · next hcode =>
    rw [hcode, hinert.codeFrom_eq, dropCarriageReturn, if_pos (by simp), List.dropLast_concat]
  · rw [dropCarriageReturn_eq_self fun hmem => hraw (mem_of_mem_codeFrom hmem)]

theorem clean_append_comment {raw : Bytes} (h : isBalanced raw = true) (comment : Bytes) :
    clean (raw ++ commentByte :: comment) = clean raw := by
  rw [clean_eq, codeFrom_append_comment h, clean_eq]

end SourceLine

/-! ## Edits -/

/-- The line is made only of blanks, and of a comment that may be missing. -/
def IsCodeless (line : Bytes) : Prop :=
  ∃ blanks, (∀ c ∈ blanks, isBlank c = true) ∧
    (line = blanks ∨ ∃ comment, lineFeed ∉ comment ∧ line = blanks ++ commentByte :: comment)

/-- The line has an unquoted byte that starts a comment: an even number of quotes is before it. -/
def HasComment (line : Bytes) : Prop :=
  ∃ before after, line = before ++ commentByte :: after ∧ Scan.isBalanced before = true

/-- An edit of the layout of a source. -/
inductive LayoutEdit (source : Bytes) : Bytes → Prop where
  /-- Every line feed gets a carriage return before it. -/
  | carriageReturns : LayoutEdit source
      (source.flatMap fun c => if c = lineFeed then [carriageReturn, lineFeed] else [c])
  /-- A line without code is put in between two lines, or before or after all lines. -/
  | insertLine {before after : List Bytes} {line : Bytes} (hlines : source.lines = before ++ after)
      (hline : IsCodeless line) :
      LayoutEdit source (joinWith [lineFeed] (before ++ line :: after))
  /-- Blanks are put before a line. -/
  | blanksBefore {before after : List Bytes} {line blanks : Bytes}
      (hlines : source.lines = before ++ line :: after) (hblanks : ∀ c ∈ blanks, isBlank c = true) :
      LayoutEdit source (joinWith [lineFeed] (before ++ (blanks ++ line) :: after))
  /-- Blanks are put after a line. -/
  | blanksAfter {before after : List Bytes} {line blanks : Bytes}
      (hlines : source.lines = before ++ line :: after) (hblanks : ∀ c ∈ blanks, isBlank c = true) :
      LayoutEdit source (joinWith [lineFeed] (before ++ (line ++ blanks) :: after))
  /-- A comment is put after a line that closes its quotes or has a comment. -/
  | commentAfter {before after : List Bytes} {line comment : Bytes}
      (hlines : source.lines = before ++ line :: after) (hcomment : lineFeed ∉ comment)
      (hline : Scan.isBalanced line = true ∨ HasComment line) :
      LayoutEdit source (joinWith [lineFeed] (before ++ (line ++ commentByte :: comment) :: after))

/-- Nothing is left of a line without code. -/
theorem IsCodeless.clean_eq_nil {line : Bytes} (h : IsCodeless line) :
    SourceLine.clean line = [] := by
  obtain ⟨blanks, hblanks, hline⟩ := h
  have hclean : SourceLine.clean ([] ++ blanks) = [] :=
    SourceLine.clean_append_blank List.not_mem_nil hblanks
  rw [List.nil_append] at hclean
  rcases hline with rfl | ⟨comment, -, rfl⟩
  · exact hclean
  · have hbalanced := (Scan.isInert_of_blank hblanks).isBalanced_eq
    rw [SourceLine.clean_append_comment hbalanced, hclean]

theorem IsCodeless.lineFeed_notMem {line : Bytes} (h : IsCodeless line) : lineFeed ∉ line := by
  obtain ⟨blanks, hblanks, rfl | ⟨comment, hcomment, rfl⟩⟩ := h
  · exact lineFeed_notMem_of_blank hblanks
  · rw [List.mem_append, List.mem_cons]
    exact not_or.2 ⟨lineFeed_notMem_of_blank hblanks, not_or.2 ⟨by decide, hcomment⟩⟩

namespace SourceLine

/-- The texts of the lines of a source. -/
def texts (source : Bytes) : List Bytes :=
  (split source).map text

/-- The texts that a physical line is taken apart into, given what is left of it. -/
def pieces (code : Bytes) : List Bytes :=
  if code.isEmpty then [] else splitElse code

theorem map_text_ofRaw (number : Nat) (raw : Bytes) :
    (ofRaw number raw).map text = pieces (clean raw) := by
  simp only [ofRaw, pieces]
  split
  · rfl
  · rw [List.map_map]
    exact List.map_id _

theorem texts_eq (source : Bytes) :
    texts source = (source.lines.map clean).flatMap pieces := by
  calc texts source
      = (source.lines.zipIdx 1).flatMap fun line => (ofRaw line.2 line.1).map text :=
        List.map_flatMap ..
    _ = (source.lines.zipIdx 1).flatMap fun line => pieces (clean line.1) := by
        simp only [map_text_ofRaw]
    _ = ((source.lines.zipIdx 1).map Prod.fst).flatMap fun line => pieces (clean line) := by
        rw [List.flatMap_map]
    _ = (source.lines.map clean).flatMap pieces := by
        rw [List.zipIdx_map_fst, List.flatMap_map]

/-- Every text of a source is a piece of what is left of a physical line. -/
theorem exists_mem_pieces_of_mem_texts {source text : Bytes} (h : text ∈ texts source) :
    ∃ raw ∈ source.lines, text ∈ pieces (clean raw) := by
  rw [texts_eq, List.mem_flatMap] at h
  obtain ⟨code, hcode, hpiece⟩ := h
  obtain ⟨raw, hraw, rfl⟩ := List.mem_map.1 hcode
  exact ⟨raw, hraw, hpiece⟩

/-- The texts after one physical line was put in between or in place of others. -/
theorem texts_joinWith {source : Bytes} {before after : List Bytes} {line : Bytes}
    (hlines : ∀ other ∈ before ++ after, other ∈ source.lines) (hfeed : lineFeed ∉ line) :
    texts (joinWith [lineFeed] (before ++ line :: after)) =
      ((before ++ line :: after).map clean).flatMap pieces := by
  rw [texts_eq, lines_joinWith (by simp)]
  intro other hother
  rcases List.mem_append.1 hother with hbefore | hafter
  · exact lineFeed_notMem_of_mem_lines (hlines other (List.mem_append_left _ hbefore))
  · rcases List.mem_cons.1 hafter with rfl | hafter
    · exact hfeed
    · exact lineFeed_notMem_of_mem_lines (hlines other (List.mem_append_right _ hafter))

/-- A line may be replaced by another of which the same is left. -/
theorem texts_eq_of_clean_eq {source : Bytes} {before after : List Bytes} {line line' : Bytes}
    (hlines : source.lines = before ++ line :: after) (hfeed : lineFeed ∉ line')
    (hclean : clean line' = clean line) :
    texts (joinWith [lineFeed] (before ++ line' :: after)) = texts source := by
  have hothers : ∀ other ∈ before ++ after, other ∈ source.lines := by
    intro other hother
    rw [hlines]
    rcases List.mem_append.1 hother with hbefore | hafter
    · exact List.mem_append_left _ hbefore
    · exact List.mem_append_right _ (List.mem_cons_of_mem line hafter)
  rw [texts_joinWith hothers hfeed, texts_eq, hlines]
  simp only [List.map_append, List.map_cons, hclean]

/-- With carriage returns before the line feeds, the physical lines but the last have one at their
end. -/
theorem forall₂_lines_carriageReturns (source : Bytes) :
    List.Forall₂ (fun raw raw' => raw' = raw ∨ raw' = raw ++ [carriageReturn]) source.lines
      (Bytes.lines (source.flatMap fun c =>
        if c = lineFeed then [carriageReturn, lineFeed] else [c])) := by
  induction source with
  | nil => exact .cons (.inl rfl) .nil
  | cons c source ih =>
    rw [List.flatMap_cons]
    by_cases hfeed : c = lineFeed
    · rw [if_pos hfeed, hfeed]
      -- the physical line before the line feed is empty, or has the carriage return only
      exact .cons (.inr rfl) ih
    · rw [if_neg hfeed, List.singleton_append, lines_cons_of_ne hfeed, lines_cons_of_ne hfeed]
      generalize Bytes.lines source = raws, Bytes.lines (source.flatMap _) = raws' at ih ⊢
      cases ih with
      | nil => exact .nil
      | cons hfirst hrest =>
        refine .cons ?_ hrest
        rcases hfirst with rfl | rfl
        · exact .inl rfl
        · exact .inr rfl

/-- The edits leave the texts of a source without carriage returns as they are. -/
theorem texts_eq_of_layoutEdit {source source' : Bytes} (hsource : carriageReturn ∉ source)
    (h : LayoutEdit source source') : texts source' = texts source := by
  have hraw {line : Bytes} (hline : line ∈ source.lines) : carriageReturn ∉ line :=
    fun hmem => hsource (mem_of_mem_lines hline hmem).1
  cases h with
  | carriageReturns =>
    have hlines := (List.forall₂_and_left _ _).2
      ⟨fun line => hraw, forall₂_lines_carriageReturns source⟩
    rw [texts_eq, texts_eq]
    refine congrArg (List.flatMap pieces) (Eq.symm ?_)
    rw [← List.forall₂_eq_eq_eq, List.forall₂_map_left_iff, List.forall₂_map_right_iff]
    refine hlines.imp ?_
    rintro raw raw' ⟨hreturn, rfl | rfl⟩
    · rfl
    · exact (clean_append_carriageReturn hreturn).symm
  | @insertLine before after line hlines hline =>
    have hothers : ∀ other ∈ before ++ after, other ∈ source.lines := by
      rw [hlines]
      exact fun other hother => hother
    rw [texts_joinWith hothers hline.lineFeed_notMem, texts_eq, hlines]
    simp only [List.map_append, List.map_cons, List.flatMap_append, List.flatMap_cons,
      hline.clean_eq_nil]
    rfl
  | @blanksBefore before after line blanks hlines hblanks =>
    have hmem : line ∈ source.lines := by simp [hlines]
    refine texts_eq_of_clean_eq hlines ?_ (clean_blank_append (hraw hmem) hblanks)
    rw [List.mem_append]
    exact not_or.2 ⟨lineFeed_notMem_of_blank hblanks, lineFeed_notMem_of_mem_lines hmem⟩
  | @blanksAfter before after line blanks hlines hblanks =>
    have hmem : line ∈ source.lines := by simp [hlines]
    refine texts_eq_of_clean_eq hlines ?_ (clean_append_blank (hraw hmem) hblanks)
    rw [List.mem_append]
    exact not_or.2 ⟨lineFeed_notMem_of_mem_lines hmem, lineFeed_notMem_of_blank hblanks⟩
  | @commentAfter before after line comment hlines hcomment hline =>
    have hmem : line ∈ source.lines := by simp [hlines]
    refine texts_eq_of_clean_eq hlines ?_ ?_
    · rw [List.mem_append, List.mem_cons]
      exact not_or.2 ⟨lineFeed_notMem_of_mem_lines hmem, not_or.2 ⟨by decide, hcomment⟩⟩
    · rcases hline with hbalanced | ⟨code, comment', rfl, hbalanced⟩
      · exact clean_append_comment hbalanced comment
      · -- both comments start at the same byte
        rw [List.append_assoc, List.cons_append, clean_append_comment hbalanced,
          clean_append_comment hbalanced]

end SourceLine

end MorrowindScript
