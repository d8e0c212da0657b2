import MorrowindScript.Proofs.Bytes.Length
import MorrowindScript.Proofs.SourceLine.Layout
import Mathlib.Data.List.DropRight

/-!
# Lines are tidy

The lines of a source are never empty, have no blanks around them and no line feed in them, also
where a physical line was taken apart after `else`. So a keyword with a blank after it is always
followed by something else, and what follows is tidy as well.

## Main definitions

* `Bytes.IsTidy`: a text is not empty, neither starts nor ends with a blank, and has no line feed.
* `Bytes.Introduces`: a text consists of a keyword in any case, blanks and a tidy name.

## Main results

* `SourceLine.isTidy_of_mem_split`: the lines of a source are tidy.
* `LineKind.introduces_of_opens`: a tidy line that opens with a keyword and a blank has a name after
  it.
-/

namespace MorrowindScript

open Bytes

namespace Bytes

/-- The text is not empty, neither starts nor ends with a blank, and has no line feed. -/
structure IsTidy (s : Bytes) : Prop where
  ne_nil : s ≠ []
  head : ∀ c, s.head? = some c → isBlank c = false
  last : ∀ c, s.getLast? = some c → isBlank c = false
  lineFeed_notMem : lineFeed ∉ s

/-- The text consists of a keyword in any case, at least one blank, and a tidy name. -/
def Introduces (keyword : String) (text name : Bytes) : Prop :=
  ∃ word blanks, text = word ++ blanks ++ name ∧ word.lower = ascii keyword ∧ blanks ≠ [] ∧
    (∀ c ∈ blanks, isBlank c = true) ∧ name.IsTidy

theorem Introduces.isTidy {keyword : String} {text name : Bytes}
    (h : Introduces keyword text name) : name.IsTidy := by
  obtain ⟨-, -, -, -, -, -, htidy⟩ := h
  exact htidy

/-! ## Trimming -/

theorem trimRight_eq_rdropWhile (s : Bytes) : s.trimRight = s.rdropWhile isBlank := rfl

theorem isBlank_head_trimLeft {s : Bytes} {c : UInt8} (h : s.trimLeft.head? = some c) :
    isBlank c = false := by
  have hhead := List.head?_dropWhile_not isBlank s
  rw [trimLeft] at h
  rw [h] at hhead
  exact hhead

theorem isBlank_last_trimRight {s : Bytes} {c : UInt8} (h : s.trimRight.getLast? = some c) :
    isBlank c = false := by
  rw [trimRight, List.getLast?_reverse] at h
  exact isBlank_head_trimLeft h

/-- Without the blanks on its right a text starts as before. -/
theorem head?_of_head?_trimRight {s : Bytes} {c : UInt8} (h : s.trimRight.head? = some c) :
    s.head? = some c := by
  obtain ⟨rest, hrest⟩ : s.trimRight <+: s := List.rdropWhile_prefix isBlank s
  rw [← hrest, List.head?_append, h]
  rfl

theorem mem_of_mem_trim {s : Bytes} {c : UInt8} (h : c ∈ s.trim) : c ∈ s := by
  have hleft : c ∈ s.trimLeft := (List.rdropWhile_prefix isBlank s.trimLeft).subset h
  exact (List.dropWhile_sublist isBlank).subset hleft

/-- A text is tidy without the blanks around it, if anything is left. -/
theorem isTidy_trim {s : Bytes} (hs : s.trim ≠ []) (hfeed : lineFeed ∉ s) : s.trim.IsTidy where
  ne_nil := hs
  head _ hc := isBlank_head_trimLeft (head?_of_head?_trimRight hc)
  last _ hc := isBlank_last_trimRight hc
  lineFeed_notMem hmem := hfeed (mem_of_mem_trim hmem)

namespace IsTidy

variable {s : Bytes}

/-- A tidy text goes on after a blank. -/
theorem add_one_lt_length (h : s.IsTidy) {i : Nat} {c : UInt8} (hi : s[i]? = some c)
    (hc : isBlank c = true) : i + 1 < s.length := by
  have hlt : i < s.length := (List.getElem?_eq_some_iff.1 hi).1
  -- otherwise the blank would be the last byte
  by_contra hend
  have hlast : s.getLast? = some c := by
    rw [List.getLast?_eq_getElem?, show s.length - 1 = i by omega, hi]
  exact absurd (h.last c hlast) (by simp [hc])

/-- What follows a place in a tidy text is tidy without the blanks in front of it. -/
theorem trimLeft_drop (h : s.IsTidy) {n : Nat} (hn : n < s.length) :
    (trimLeft (s.drop n)).IsTidy := by
  obtain ⟨c, hc⟩ : ∃ c, s.getLast? = some c := ⟨_, List.getLast?_eq_some_getLast h.ne_nil⟩
  have hdrop : (s.drop n).getLast? = some c := by
    rw [List.getLast?_drop, if_neg (by omega), hc]
  -- the last byte is no blank, so it stays where it is
  have hsuffix : trimLeft (s.drop n) <:+ s.drop n := List.dropWhile_suffix isBlank
  have hne : trimLeft (s.drop n) ≠ [] := by
    intro hnil
    have hblank := List.dropWhile_eq_nil_iff.1 hnil c (List.mem_of_getLast? hdrop)
    exact absurd hblank (by simp [h.last c hc])
  obtain ⟨blanks, hblanks⟩ := hsuffix
  refine ⟨hne, fun d hd => isBlank_head_trimLeft hd, fun d hd => ?_, fun hmem => ?_⟩
  · rw [← hblanks, List.getLast?_append, hd] at hdrop
    obtain rfl : d = c := Option.some.inj hdrop
    exact h.last d hc
  · exact h.lineFeed_notMem (List.mem_of_mem_drop (hblanks ▸ List.mem_append_right blanks hmem))

/-- There is nothing to trim on the right of a tidy text. -/
theorem trimRight_eq (h : s.IsTidy) : s.trimRight = s := by
  rw [trimRight_eq_rdropWhile, List.rdropWhile_eq_self_iff]
  intro hne hblank
  exact absurd (h.last _ (List.getLast?_eq_some_getLast hne)) (by simp [hblank])

end IsTidy

/-- No blank is a letter. -/
theorem isBlank_lowerByte (c : UInt8) : isBlank (lowerByte c) = isBlank c := by
  apply forall_byte _ c
  decide +kernel

end Bytes

/-! ## Keywords -/

namespace LineKind

/-- What a line opens with, as it is spelled in the line. -/
theorem lower_take_of_opens {word : String} {follows : UInt8 → Bool} {s : Bytes}
    (h : opens word follows s.lower = true) :
    lower (s.take (ascii word).length) = ascii word ∧
      ∃ c, s[(ascii word).length]? = some c ∧ follows (lowerByte c) = true := by
  rw [opens, Bool.and_eq_true, List.isPrefixOf_iff_prefix] at h
  obtain ⟨hstarts, hfollows⟩ := h
  refine ⟨?_, ?_⟩
  · rw [lower, List.map_take]
    exact (List.prefix_iff_eq_take.1 hstarts).symm
  · rw [List.head?_drop, lower, List.getElem?_map, Option.any_map, Option.any_eq_true] at hfollows
    obtain ⟨c, hc, hblank⟩ := hfollows
    exact ⟨c, hc, hblank⟩

/-- A tidy line that opens with a keyword and a blank introduces a name. -/
theorem introduces_of_opens {word : String} {s : Bytes} (hs : s.IsTidy)
    (h : opens word isBlank s.lower = true) :
    Introduces word s (trimLeft (s.drop ((ascii word).length + 1))) := by
  obtain ⟨hword, c, hc, hblank⟩ := lower_take_of_opens h
  rw [isBlank_lowerByte] at hblank
  have hlength := hs.add_one_lt_length hc hblank
  -- the blank after the keyword is one of those that are dropped
  have hdrop : s.drop (ascii word).length = c :: s.drop ((ascii word).length + 1) := by
    obtain ⟨hlt, rfl⟩ := List.getElem?_eq_some_iff.1 hc
    exact List.drop_eq_getElem_cons hlt
  refine ⟨s.take (ascii word).length, c :: (s.drop ((ascii word).length + 1)).takeWhile isBlank,
    ?_, hword, List.cons_ne_nil _ _, ?_, hs.trimLeft_drop hlength⟩
  · calc s
        = s.take (ascii word).length ++ c :: s.drop ((ascii word).length + 1) := by
          rw [← hdrop, List.take_append_drop]
      _ = _ := by
          rw [trimLeft, List.append_assoc, List.cons_append, List.takeWhile_append_dropWhile]
  · intro d hd
    rcases List.mem_cons.1 hd with rfl | hd
    · exact hblank
    · exact List.mem_takeWhile_imp hd

/-- A line that declares a local opens with the keyword of its kind. -/
theorem opens_of_keyword?_declaration {s : Bytes} {kind : LocalKind}
    (h : keyword? s = some (.declaration kind)) : opens kind.name isBlank s = true := by
  rw [keyword?] at h
  obtain ⟨hword, hkind⟩ | ⟨-, h⟩ := ite_eq_iff.1 h
  · obtain rfl : LocalKind.short = kind := by simpa using hkind
    exact hword
  obtain ⟨hword, hkind⟩ | ⟨-, h⟩ := ite_eq_iff.1 h
  · obtain rfl : LocalKind.long = kind := by simpa using hkind
    exact hword
  obtain ⟨hword, hkind⟩ | ⟨-, h⟩ := ite_eq_iff.1 h
  · obtain rfl : LocalKind.float = kind := by simpa using hkind
    exact hword
  -- no other keyword declares
  · simp [ite_eq_iff] at h

end LineKind

/-! ## Lines -/

namespace SourceLine

theorem isTidy_else : (ascii "else").IsTidy where
  ne_nil := by decide
  head c hc := by
    obtain rfl := Option.some.inj hc
    rfl
  last c hc := by
    obtain rfl := Option.some.inj hc
    rfl
  lineFeed_notMem := by decide

/-- A line goes on after `else` exactly if a blank comes next. -/
theorem afterElse?_eq_some_iff {s rest : Bytes} :
    afterElse? s = some rest ↔
      ∃ c tail, s = ascii "else" ++ c :: tail ∧ isBlank c = true ∧ trimLeft tail = rest := by
  constructor
  · intro h
    unfold afterElse? at h
    split at h
    · next hword =>
      split at h
      · next c tail htail =>
        split at h
        · next hblank =>
          refine ⟨c, tail, ?_, hblank, Option.some.inj h⟩
          rw [← eq_of_beq hword, ← htail, List.take_append_drop]
        · nomatch h
      · nomatch h
    · nomatch h
  · rintro ⟨c, tail, rfl, hblank, rfl⟩
    have htake : (ascii "else" ++ c :: tail).take 4 = ascii "else" := rfl
    have hdrop : (ascii "else" ++ c :: tail).drop 4 = c :: tail := rfl
    rw [afterElse?, htake, hdrop]
    simp [hblank]

/-- What is true of `else`, and of what follows it in a line of which it is true, is true of all
pieces of the line. No piece goes on after an `else`. -/
theorem of_mem_splitElse {P : Bytes → Prop} (helse : P (ascii "else"))
    (hafter : ∀ s rest, afterElse? s = some rest → P s → P rest) {s piece : Bytes} (hs : P s)
    (h : piece ∈ splitElse s) : P piece ∧ afterElse? piece = none := by
  fun_induction splitElse s with
  | case1 s rest hrest _ ih =>
    rcases List.mem_cons.1 h with rfl | h
    · exact ⟨helse, rfl⟩
    · exact ih (hafter s rest hrest hs) h
  | case2 s hnone =>
    obtain rfl := List.mem_singleton.1 h
    exact ⟨hs, hnone⟩

/-- What follows `else` in a tidy line is tidy, since the blank after `else` is not the end of the
line. -/
theorem isTidy_of_afterElse? {s rest : Bytes} (h : afterElse? s = some rest) (hs : s.IsTidy) :
    rest.IsTidy := by
  obtain ⟨c, tail, rfl, hblank, rfl⟩ := afterElse?_eq_some_iff.1 h
  exact hs.trimLeft_drop (n := 5) (hs.add_one_lt_length (i := 4) rfl hblank)

/-- The pieces of a tidy line are tidy. -/
theorem isTidy_of_mem_splitElse {s piece : Bytes} (hs : s.IsTidy) (h : piece ∈ splitElse s) :
    piece.IsTidy :=
  (of_mem_splitElse isTidy_else (fun _ _ => isTidy_of_afterElse?) hs h).1

/-- What is left of a physical line, if anything is, is tidy. -/
theorem isTidy_clean {raw : Bytes} (hfeed : lineFeed ∉ raw) (h : clean raw ≠ []) :
    (clean raw).IsTidy := by
  rw [clean_eq] at h ⊢
  refine isTidy_trim h fun hmem => hfeed ?_
  exact Scan.mem_of_mem_codeFrom ((isPrefix_dropCarriageReturn _).subset hmem)

/-- The lines of a source are tidy. -/
theorem isTidy_of_mem_split {source : Bytes} {line : SourceLine} (h : line ∈ split source) :
    line.text.IsTidy := by
  obtain ⟨raw, hraw, hpiece⟩ := exists_mem_pieces_of_mem_texts (List.mem_map_of_mem h)
  rw [pieces] at hpiece
  split at hpiece
  · exact absurd hpiece List.not_mem_nil
  · next hne =>
    have htidy := isTidy_clean (lineFeed_notMem_of_mem_lines hraw) (by simpa using hne)
    exact isTidy_of_mem_splitElse htidy hpiece

end SourceLine

end MorrowindScript
