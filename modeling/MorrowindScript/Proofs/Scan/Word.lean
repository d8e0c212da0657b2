import MorrowindScript.Proofs.Scan.Bracket

/-!
# Words in a line

A word is a text without separators, quotes and blanks. Wherever it stands in a call it is one
field, as it is written, and wherever it stands before the `to` of an assignment it is all that is
assigned to.

## Main definitions

* `Scan.IsSpacing`: a text is made only of separators.
* `Scan.Gap`: a call with a gap for one more parameter.

## Main results

* `Scan.dotPosition_append`: the first full stop is found.
* `Scan.fields_append_cons`: the fields around a separator outside quotes are independent.
* `Scan.Gap.fields_fill`: a word in a gap is a field.
* `Scan.toPosition_append`: the `to` after a word and blanks is found.
-/

namespace MorrowindScript

open Bytes

/-- Without quotes there are none to be taken off. -/
theorem Bytes.stripQuotes_eq_self {s : Bytes} (h : quote ∉ s) : s.stripQuotes = s := by
  cases s with
  | nil => rfl
  | cons c s =>
    have hc : c ≠ quote := fun hc => h (hc ▸ List.mem_cons_self)
    simp [stripQuotes, hc]

namespace Scan

/-! ## Marks -/

/-- A text without quotes in which no mark starts is passed over. -/
theorem findUnquoted_append {mark : Bytes → Bool} {s rest : Bytes} (hquote : quote ∉ s)
    (hmark : ∀ before after, s = before ++ after → after ≠ [] → mark (after ++ rest) = false) :
    findUnquoted mark true (s ++ rest) = (findUnquoted mark true rest).map (· + s.length) := by
  induction s with
  | nil => simp
  | cons c s ih =>
    rw [List.mem_cons, not_or] at hquote
    have hc : c ≠ quote := fun hc => hquote.1 hc.symm
    have hhead : mark (c :: (s ++ rest)) = false := hmark [] (c :: s) rfl (by simp)
    have htail := ih hquote.2 fun before after hs => hmark (c :: before) after (by rw [hs]; rfl)
    rw [List.cons_append, findUnquoted, if_neg (by simpa using hc), hhead, htail]
    simp [Function.comp_def, Nat.add_assoc]

theorem isDot_of_notMem {s after rest : Bytes} (hdot : dot ∉ s) (hsub : after ⊆ s)
    (hne : after ≠ []) : isDot (after ++ rest) = false := by
  obtain ⟨c, after, rfl⟩ := List.exists_cons_of_ne_nil hne
  have hc : c ≠ dot := fun hc => hdot (hc ▸ hsub List.mem_cons_self)
  simpa [isDot] using hc

/-- The first full stop outside quotes is found. -/
theorem dotPosition_append {s : Bytes} (hquote : quote ∉ s) (hdot : dot ∉ s) (rest : Bytes) :
    dotPosition (s ++ dot :: rest) = some s.length := by
  have hpass := @findUnquoted_append isDot s (dot :: rest) hquote
    fun before after hs => isDot_of_notMem hdot (hs ▸ List.subset_append_right before after)
  rw [dotPosition, hpass, findUnquoted, if_neg (by decide)]
  simp [isDot]

/-- Without full stop there is none to be found. -/
theorem dotPosition_eq_none {s : Bytes} (hquote : quote ∉ s) (hdot : dot ∉ s) :
    dotPosition s = none := by
  have hpass := @findUnquoted_append isDot s [] hquote
    fun before after hs => isDot_of_notMem hdot (hs ▸ List.subset_append_right before after)
  rw [List.append_nil] at hpass
  rw [dotPosition, hpass]
  rfl

theorem isTo_cons_of_not_isBlank {c : UInt8} (hc : isBlank c = false) (s : Bytes) :
    isTo (c :: s) = false := by
  rw [isTo.eq_def]
  split
  · next heq =>
    obtain ⟨rfl, -⟩ := List.cons.inj heq
    simp [hc]
  · rfl

theorem isTo_cons_of_isBlank_head (c : UInt8) {s : Bytes} (hs : ∀ d ∈ s.head?, isBlank d = true) :
    isTo (c :: s) = false := by
  rw [isTo.eq_def]
  split
  · next t o b rest heq =>
    obtain ⟨-, rfl⟩ := List.cons.inj heq
    have ht : lowerByte t ≠ 0x74 := by
      rcases (by simpa [isBlank] using hs t rfl : t = space ∨ t = tab) with rfl | rfl <;> decide
    simp [ht]
  · rfl

theorem isBlank_head_of_isTo {s : Bytes} (h : isTo s = true) : ∀ d ∈ s.head?, isBlank d = true := by
  rw [isTo.eq_def] at h
  split at h
  · intro d hd
    obtain rfl := Option.some.inj hd
    simp only [Bool.and_eq_true] at h
    exact h.1.1.1
  · exact absurd h (by simp)

/-- The `to` after a word and blanks is found. -/
theorem toPosition_append {word blanks tail : Bytes} (hquote : quote ∉ word)
    (hword : ∀ c ∈ word, isBlank c = false) (hblanks : ∀ c ∈ blanks, isBlank c = true)
    (htail : isTo tail = true) :
    toPosition (word ++ (blanks ++ tail)) = some (word ++ blanks).length := by
  -- a `to` starts with a blank, so none starts in the word
  have hpassWord : findUnquoted isTo true (word ++ (blanks ++ tail)) =
      (findUnquoted isTo true (blanks ++ tail)).map (· + word.length) := by
    refine findUnquoted_append hquote fun before after hs hafter => ?_
    obtain ⟨c, after, rfl⟩ := List.exists_cons_of_ne_nil hafter
    have hc : isBlank c = false := hword c (by simp [hs])
    exact isTo_cons_of_not_isBlank hc _
  -- nor does one start with two blanks
  have hpassBlanks : findUnquoted isTo true (blanks ++ tail) =
      (findUnquoted isTo true tail).map (· + blanks.length) := by
    refine findUnquoted_append (fun h => absurd (hblanks quote h) (by decide)) ?_
    intro before after hs hafter
    obtain ⟨c, after, rfl⟩ := List.exists_cons_of_ne_nil hafter
    have hnext : ∀ d ∈ (after ++ tail).head?, isBlank d = true := by
      cases after with
      | nil => exact isBlank_head_of_isTo htail
      | cons d after =>
        intro e he
        obtain rfl : d = e := by simpa using he
        exact hblanks d (by simp [hs])
    exact isTo_cons_of_isBlank_head c hnext
  have hfound : findUnquoted isTo true tail = some 0 := by
    cases tail with
    | nil => exact absurd htail (by simp [isTo])
    | cons b tail =>
      have hb : b ≠ quote := by
        rintro rfl
        exact absurd (isBlank_head_of_isTo htail quote rfl) (by decide)
      rw [findUnquoted, if_neg (by simpa using hb), htail]
      rfl
  rw [toPosition, hpassWord, hpassBlanks, hfound, List.length_append]
  simp [Nat.add_comm]

/-! ## Fields -/

/-- A separator outside quotes ends the piece in progress. -/
theorem cut_append_cons {start : Bytes} {inside : Bool} (hinside : inside = !isBalanced start)
    {c : UInt8} (hc : isSeparator c = true) (s : Bytes) :
    cut inside (start ++ c :: s) =
      ((cut inside start).1, (cut inside start).2 ++ (cut false s).1 :: (cut false s).2) := by
  induction start generalizing inside with
  | nil =>
    have hquote : c ≠ quote := by
      rintro rfl
      exact absurd hc (by decide)
    obtain rfl : inside = false := hinside
    simp [cut, hquote, hc]
  | cons d start ih =>
    rw [List.cons_append]
    by_cases hquote : d = quote
    · rw [hquote, isBalanced_quote_cons, Bool.not_not] at hinside
      simp [cut, hquote, ih (congrArg (!·) hinside)]
    · rw [isBalanced_cons_of_ne hquote] at hinside
      simp only [cut, beq_iff_eq, hquote, if_false, ih hinside]
      split
      · rfl
      · rfl

/-- The fields around a separator outside quotes are independent. -/
theorem fields_append_cons {start : Bytes} (hstart : isBalanced start = true) {c : UInt8}
    (hc : isSeparator c = true) (s : Bytes) :
    fields (start ++ c :: s) = fields start ++ fields s := by
  have hinside : false = !isBalanced start := by rw [hstart]; rfl
  rw [fields, fields, fields, cut_append_cons hinside hc]
  simp only
  rw [← List.cons_append, List.filter_append, List.map_append]

/-- The text is made only of separators. -/
def IsSpacing (s : Bytes) : Prop :=
  ∀ c ∈ s, isSeparator c = true

instance (s : Bytes) : Decidable (IsSpacing s) :=
  inferInstanceAs (Decidable (∀ c ∈ s, isSeparator c = true))

theorem isSpacing_nil : IsSpacing [] :=
  List.forall_mem_nil _

theorem IsSpacing.isBalanced_eq {spacing : Bytes} (h : IsSpacing spacing) :
    isBalanced spacing = true :=
  isBalanced_of_notMem fun hmem => absurd (h quote hmem) (by decide)

/-- Separators before a text have no fields. -/
theorem fields_spacing_append {spacing : Bytes} (h : IsSpacing spacing) (s : Bytes) :
    fields (spacing ++ s) = fields s := by
  induction spacing with
  | nil => rfl
  | cons c spacing ih =>
    obtain ⟨hc, hspacing⟩ := List.forall_mem_cons.1 h
    have hempty := fields_append_cons (rfl : isBalanced [] = true) hc (spacing ++ s)
    exact hempty.trans (ih hspacing)

theorem IsSpacing.fields_eq_nil {spacing : Bytes} (h : IsSpacing spacing) : fields spacing = [] := by
  have hempty := fields_spacing_append h []
  rw [List.append_nil] at hempty
  rw [hempty]
  rfl

/-- A word is one piece. -/
theorem cut_word {word : Bytes} (hquote : quote ∉ word)
    (hword : ∀ c ∈ word, isSeparator c = false) : cut false word = (word, []) := by
  induction word with
  | nil => rfl
  | cons c word ih =>
    rw [List.mem_cons, not_or] at hquote
    obtain ⟨hc, hword⟩ := List.forall_mem_cons.1 hword
    have hne : c ≠ quote := fun hc => hquote.1 hc.symm
    rw [cut, if_neg (by simpa using hne), hc, ih hquote.2 hword]
    rfl

/-- A word is one field, as it is written. -/
theorem fields_eq_singleton {word : Bytes} (hne : word ≠ []) (hquote : quote ∉ word)
    (hword : ∀ c ∈ word, isSeparator c = false) : fields word = [word] := by
  rw [fields, cut_word hquote hword]
  simp [hne, stripQuotes_eq_self hquote]

/-- A call with a gap for one more parameter. -/
structure Gap where
  /-- The call up to the gap. -/
  start : Bytes
  /-- The quotes before the gap are closed. -/
  isBalanced_start : isBalanced start = true
  /-- What separates the start from the gap. -/
  separator : UInt8
  /-- It is a separator. -/
  isSeparator_separator : isSeparator separator = true
  /-- What follows the gap. -/
  rest : Bytes
  /-- The gap ends with a separator or with the line. -/
  isSeparator_head : ∀ c ∈ rest.head?, isSeparator c = true

namespace Gap

/-- The call with the parameter in the gap. -/
def fill (gap : Gap) (word : Bytes) : Bytes :=
  gap.start ++ gap.separator :: (word ++ gap.rest)

/-- A word in a gap is a field, after those before the gap. -/
theorem fields_fill (gap : Gap) {word : Bytes} (hne : word ≠ []) (hquote : quote ∉ word)
    (hword : ∀ c ∈ word, isSeparator c = false) :
    fields (gap.fill word) = fields gap.start ++ word :: fields gap.rest := by
  have hstart := fields_append_cons gap.isBalanced_start gap.isSeparator_separator
    (word ++ gap.rest)
  have hsingle := fields_eq_singleton hne hquote hword
  rw [fill, hstart]
  -- what follows the word is nothing, or starts with a separator
  cases hrest : gap.rest with
  | nil =>
    rw [List.append_nil, hsingle]
    rfl
  | cons d rest =>
    have hd : isSeparator d = true := gap.isSeparator_head d (by rw [hrest]; rfl)
    have hempty := fields_append_cons (rfl : isBalanced [] = true) hd rest
    rw [fields_append_cons (isBalanced_of_notMem hquote) hd, hsingle]
    exact congrArg (fun later => fields gap.start ++ word :: later) hempty.symm

end Gap

end Scan

end MorrowindScript
