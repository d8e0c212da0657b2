import MorrowindScript.Proofs.Command.Message
import Mathlib.Algebra.Group.Nat.Even

/-!
# Spellings of a call

A call can be written in many ways: a parameter may stand in quotes or, if it is a word, without
them, and between parameters there may be any spaces, tabs and commas. The fields of a call are
found in one pass, which remembers the piece in progress and whether it is inside quotes. The module
shows that this pass recovers the parameters from every spelling, so that a call is encoded alike
however it is spelled.

## Main definitions

* `Scan.Pass`, `Scan.explode`: the pass over a call.
* `Command.Written`: a parameter as it is written.
* `Command.Spelling`: a call as it is written.

## Main results

* `Scan.explode_eq`: the pass finds the fields, and ends outside quotes if these are closed.
* `Command.Spelling.fields_text`, `Command.Spelling.isBalanced_text`: the fields of a spelling are
  its values, and its quotes are closed.
* `Command.invoke_eq_of_fields_eq`: a call is told by its fields.
* `Command.fields_invert_spelling`: the fields are what was spelled.
-/

namespace MorrowindScript

open Bytes

/-! ## One pass -/

namespace Scan

/-- What the pass over a call remembers. -/
structure Pass where
  /-- It is inside quotes. -/
  inside : Bool
  /-- The piece in progress. -/
  piece : Bytes
  /-- The fields that were found. -/
  found : List Bytes

namespace Pass

/-- The fields that were found, and the piece in progress if there is any. -/
def fields (pass : Pass) : List Bytes :=
  if pass.piece.isEmpty then pass.found else pass.found ++ [stripQuotes pass.piece]

/-- Reads one byte. A quote changes the side, a separator outside quotes ends the piece, and all
other bytes are part of it, as quotes are. -/
def step (pass : Pass) (c : UInt8) : Pass :=
  if c = quote then ⟨!pass.inside, pass.piece ++ [c], pass.found⟩
  else if pass.inside = false ∧ isSeparator c = true then ⟨false, [], pass.fields⟩
  else ⟨pass.inside, pass.piece ++ [c], pass.found⟩

end Pass

/-- The fields of a call, and whether the last quote is closed. -/
def explode (s : Bytes) : List Bytes × Bool :=
  let last := s.foldl Pass.step ⟨false, [], []⟩
  (last.fields, !last.inside)

/-- A byte at the start of a text belongs to the first piece, unless it is a separator outside
quotes. -/
theorem cut_cons (inside : Bool) (c : UInt8) (s : Bytes) :
    cut inside (c :: s) =
      if c = quote then (c :: (cut (!inside) s).1, (cut (!inside) s).2)
      else if inside = false ∧ isSeparator c = true then ([], (cut inside s).1 :: (cut inside s).2)
      else (c :: (cut inside s).1, (cut inside s).2) := by
  rw [cut]
  simp only [beq_iff_eq, Bool.and_eq_true, Bool.not_eq_true']

namespace Pass

/-- What the pass finds in the rest of a text: the rest belongs to the piece in progress up to where
it is cut first. -/
theorem fields_foldl_step (pass : Pass) (s : Bytes) :
    (s.foldl step pass).fields = pass.found ++
      (((pass.piece ++ (cut pass.inside s).1) :: (cut pass.inside s).2).filter (!·.isEmpty)).map
        stripQuotes := by
  -- the state is generalized, because every byte changes it
  induction s generalizing pass with
  | nil =>
    rw [List.foldl_nil, fields, cut, List.append_nil]
    cases hpiece : pass.piece with
    | nil => simp
    | cons c piece => simp
  | cons c s ih =>
    rw [List.foldl_cons, ih, step, cut_cons]
    by_cases hquote : c = quote
    · -- a quote is part of the piece, on both sides
      simp only [if_pos hquote, List.append_assoc, List.singleton_append]
    by_cases hcut : pass.inside = false ∧ isSeparator c = true
    · -- the piece in progress ends here
      simp only [if_neg hquote, if_pos hcut]
      rw [fields, hcut.1, List.nil_append, List.append_nil]
      cases hpiece : pass.piece with
      | nil => rfl
      | cons d piece => exact List.append_assoc _ _ _
    · simp only [if_neg hquote, if_neg hcut, List.append_assoc, List.singleton_append]

/-- Every quote changes the side, and nothing else does. -/
theorem inside_foldl_step (pass : Pass) (s : Bytes) :
    (s.foldl step pass).inside = (pass.inside == isBalanced s) := by
  induction s generalizing pass with
  | nil => cases hinside : pass.inside <;> simp [hinside, isBalanced]
  | cons c s ih =>
    rw [List.foldl_cons, ih, step]
    by_cases hquote : c = quote
    · rw [if_pos hquote, hquote, isBalanced_quote_cons]
      cases pass.inside <;> cases isBalanced s <;> rfl
    · rw [if_neg hquote, isBalanced_cons_of_ne hquote]
      split
      · next hcut => rw [hcut.1]
      · rfl

end Pass

/-- The pass finds the fields, and ends outside quotes if these are closed. -/
theorem explode_eq (s : Bytes) : explode s = (fields s, isBalanced s) := by
  have hfields := Pass.fields_foldl_step ⟨false, [], []⟩ s
  have hinside := Pass.inside_foldl_step ⟨false, [], []⟩ s
  rw [explode]
  simp only [hfields, hinside, List.nil_append]
  cases isBalanced s <;> rfl

/-- All quotes are closed if their number is even. -/
theorem isBalanced_iff_even (s : Bytes) : isBalanced s = true ↔ Even (s.count quote) := by
  rw [isBalanced, beq_iff_eq, Nat.even_iff]

/-! ## Quotes -/

/-- What stands in quotes is one piece, whatever separators it has. -/
theorem cut_quoted {value : Bytes} (h : quote ∉ value) :
    cut true (value ++ [quote]) = (value ++ [quote], []) := by
  induction value with
  | nil => rfl
  | cons c value ih =>
    rw [List.mem_cons, not_or] at h
    have hc : c ≠ quote := fun hc => h.1 hc.symm
    rw [List.cons_append, cut, if_neg (by simpa using hc), ih h.2]
    rfl

/-- What stands in quotes is one field, without the quotes. -/
theorem fields_quoted {value : Bytes} (h : quote ∉ value) :
    fields (quote :: (value ++ [quote])) = [value] := by
  have hcut : cut false (quote :: (value ++ [quote])) = (quote :: (value ++ [quote]), []) := by
    rw [cut, if_pos (by decide), Bool.not_false, cut_quoted h]
  rw [fields, hcut]
  simp [stripQuotes]

theorem isBalanced_quoted {value : Bytes} (h : quote ∉ value) :
    isBalanced (quote :: (value ++ [quote])) = true := by
  rw [isBalanced_quote_cons, isBalanced_append (isBalanced_of_notMem h)]
  rfl

end Scan

/-! ## Spellings -/

namespace Command

open Scan

/-- A parameter as it is written: anything without quotes in quotes, or a word without them. -/
inductive Written where
  /-- It is in quotes. -/
  | quoted (value : Bytes) (quote_notMem : quote ∉ value)
  /-- It is not. -/
  | bare (value : Bytes) (quote_notMem : quote ∉ value) (ne_nil : value ≠ [])
    (isSeparator_eq_false : ∀ c ∈ value, isSeparator c = false)

namespace Written

/-- The parameter. -/
def value : Written → Bytes
  | quoted value _ => value
  | bare value _ _ _ => value

/-- The text. -/
def text : Written → Bytes
  | quoted value _ => quote :: (value ++ [quote])
  | bare value _ _ _ => value

theorem quote_notMem_value (written : Written) : quote ∉ written.value := by
  cases written with
  | quoted _ hquote => exact hquote
  | bare _ hquote => exact hquote

theorem fields_text (written : Written) : fields written.text = [written.value] := by
  cases written with
  | quoted _ hquote => exact fields_quoted hquote
  | bare _ hquote hne hword => exact fields_eq_singleton hne hquote hword

theorem isBalanced_text (written : Written) : isBalanced written.text = true := by
  cases written with
  | quoted _ hquote => exact isBalanced_quoted hquote
  | bare _ hquote => exact isBalanced_of_notMem hquote

end Written

/-- A call as it is written. -/
structure Spelling where
  /-- What stands before the first parameter. -/
  lead : Bytes
  /-- It is made of separators. -/
  isSpacing_lead : IsSpacing lead
  /-- The name and the parameters, each with what stands after it. -/
  parts : List (Written × Bytes)
  /-- What stands after a parameter is made of separators. -/
  isSpacing_of_mem : ∀ part ∈ parts, IsSpacing part.2
  /-- It may be missing only after the last one. -/
  ne_nil_of_mem : ∀ part ∈ parts.dropLast, part.2 ≠ []

namespace Spelling

/-- The text of the call. -/
def text (spelling : Spelling) : Bytes :=
  spelling.lead ++ spelling.parts.flatMap fun part => part.1.text ++ part.2

/-- The name and the parameters. -/
def values (spelling : Spelling) : List Bytes :=
  spelling.parts.map (·.1.value)

/-- The spelling with every parameter in quotes and a space after each. -/
def inQuotes (values : List Bytes) (h : ∀ value ∈ values, quote ∉ value) : Spelling where
  lead := []
  isSpacing_lead := isSpacing_nil
  parts := values.attach.map fun value => (.quoted value.1 (h value.1 value.2), [space])
  isSpacing_of_mem part hpart := by
    obtain ⟨value, -, rfl⟩ := List.mem_map.1 hpart
    exact List.forall_mem_singleton.2 rfl
  ne_nil_of_mem part hpart := by
    obtain ⟨value, -, rfl⟩ := List.mem_map.1 (List.dropLast_subset _ hpart)
    exact List.cons_ne_nil _ _

theorem values_inQuotes (values : List Bytes) (h : ∀ value ∈ values, quote ∉ value) :
    (inQuotes values h).values = values := by
  rw [Spelling.values, inQuotes, List.map_map]
  exact List.attach_map_subtype_val values

/-- Every list of parameters without quotes can be written, and no other. -/
theorem exists_values_eq_iff {values : List Bytes} :
    (∃ spelling : Spelling, spelling.values = values) ↔ ∀ value ∈ values, quote ∉ value := by
  constructor
  · rintro ⟨spelling, rfl⟩ value hvalue
    obtain ⟨part, -, rfl⟩ := List.mem_map.1 hvalue
    exact part.1.quote_notMem_value
  · exact fun h => ⟨inQuotes values h, values_inQuotes values h⟩

/-- The fields of a list of parameters, each with separators after it. -/
theorem fields_flatMap {parts : List (Written × Bytes)}
    (hspacing : ∀ part ∈ parts, IsSpacing part.2) (hgap : ∀ part ∈ parts.dropLast, part.2 ≠ []) :
    fields (parts.flatMap fun part => part.1.text ++ part.2) = parts.map (·.1.value) := by
  induction parts with
  | nil => rfl
  | cons part parts ih =>
    obtain ⟨written, gap⟩ := part
    obtain ⟨hfirst, hothers⟩ := List.forall_mem_cons.1 hspacing
    rw [List.flatMap_cons, List.map_cons, List.append_assoc]
    cases gap with
    | nil =>
      -- only the last parameter has nothing after it
      obtain rfl : parts = [] := by
        by_contra hne
        exact hgap (written, []) (by simp [List.dropLast_cons_of_ne_nil hne]) rfl
      rw [List.flatMap_nil, List.append_nil, List.append_nil, written.fields_text, List.map_nil]
    | cons c gap =>
      obtain ⟨hc, hspace⟩ := List.forall_mem_cons.1 hfirst
      have hlater : ∀ part ∈ parts.dropLast, part.2 ≠ [] := by
        intro part hpart
        have hne : parts ≠ [] := by
          rintro rfl
          exact absurd hpart List.not_mem_nil
        exact hgap part (by simp [List.dropLast_cons_of_ne_nil hne, hpart])
      rw [List.cons_append, fields_append_cons written.isBalanced_text hc, written.fields_text,
        fields_spacing_append hspace, ih hothers hlater, List.singleton_append]

/-- The fields of a spelling are its values. -/
theorem fields_text (spelling : Spelling) : fields spelling.text = spelling.values := by
  rw [text, fields_spacing_append spelling.isSpacing_lead,
    fields_flatMap spelling.isSpacing_of_mem spelling.ne_nil_of_mem, values]

theorem isBalanced_flatMap {parts : List (Written × Bytes)}
    (hspacing : ∀ part ∈ parts, IsSpacing part.2) :
    isBalanced (parts.flatMap fun part => part.1.text ++ part.2) = true := by
  induction parts with
  | nil => rfl
  | cons part parts ih =>
    obtain ⟨hfirst, hothers⟩ := List.forall_mem_cons.1 hspacing
    rw [List.flatMap_cons, List.append_assoc, isBalanced_append part.1.isBalanced_text,
      isBalanced_append hfirst.isBalanced_eq, ih hothers]

/-- The quotes of a spelling are closed. -/
theorem isBalanced_text (spelling : Spelling) : isBalanced spelling.text = true := by
  rw [text, isBalanced_append spelling.isSpacing_lead.isBalanced_eq,
    isBalanced_flatMap spelling.isSpacing_of_mem]

end Spelling

/-! ## Calls -/

section

variable {scope : Scope} {inExpression : Bool} {line : Bytes}

/-- A call that closes its quotes is encoded from its fields, without a warning of quotes. -/
theorem invoke_of_fields {command : Bytes} {values : List Bytes} (hline : isBalanced line = true)
    (h : fields line = command :: values) :
    invoke scope inExpression line = invokeFields scope inExpression command values := by
  rw [invoke, trim_isEmpty_of_fields (by simp [h]), hline, h]
  rfl

/-- Without fields there is no command, whether the call is blank or not. -/
theorem invoke_of_fields_eq_nil (hline : isBalanced line = true) (h : fields line = []) :
    invoke scope inExpression line = Outcome.fail .noMatch := by
  rw [invoke, hline, h]
  split
  · rfl
  · rfl

/-- A call that closes its quotes is told by its fields. -/
theorem invoke_eq_of_fields_eq {line' : Bytes} (hline : isBalanced line = true)
    (hline' : isBalanced line' = true) (h : fields line = fields line') :
    invoke scope inExpression line = invoke scope inExpression line' := by
  cases hfields : fields line with
  | nil => rw [invoke_of_fields_eq_nil hline hfields, invoke_of_fields_eq_nil hline' (h ▸ hfields)]
  | cons command values =>
    rw [invoke_of_fields hline hfields, invoke_of_fields hline' (h ▸ hfields)]

end

/-- The pass finds the fields of every text, and ends outside quotes just if their number is even.
The parameters that can be written are the lists without quotes, and they are the fields of every
spelling, with all quotes closed. So all spellings of a call are encoded alike, with the same
warnings. -/
theorem fields_invert_spelling :
    (∀ s, explode s = (fields s, isBalanced s) ∧
        (isBalanced s = true ↔ Even (s.count quote))) ∧
      (∀ values : List Bytes, (∃ spelling : Spelling, spelling.values = values) ↔
        ∀ value ∈ values, quote ∉ value) ∧
      (∀ spelling : Spelling,
        fields spelling.text = spelling.values ∧ isBalanced spelling.text = true) ∧
      ∀ (scope : Scope) (inExpression : Bool) (first second : Spelling),
        first.values = second.values →
          invoke scope inExpression first.text = invoke scope inExpression second.text := by
  refine ⟨fun s => ⟨explode_eq s, isBalanced_iff_even s⟩, fun _ => Spelling.exists_values_eq_iff,
    fun spelling => ⟨spelling.fields_text, spelling.isBalanced_text⟩, ?_⟩
  intro scope inExpression first second hvalues
  refine invoke_eq_of_fields_eq first.isBalanced_text second.isBalanced_text ?_
  rw [first.fields_text, second.fields_text, hvalues]

/-- A message with a comma in its text, all in quotes and otherwise. -/
theorem fields_invert_spelling_message :
    let values := [ascii "MessageBox", ascii "Well, well", ascii "Go"]
    let line := ascii ",\tMessageBox,\"Well, well\" ,Go"
    let line' := ascii "\"MessageBox\" \"Well, well\" \"Go\" "
    (∀ value ∈ values, quote ∉ value) ∧ (∃ spelling : Spelling, spelling.values = values) ∧
      explode line = (values, true) ∧ explode line' = (values, true) ∧
      invoke {} false line = invoke {} false line' := by
  intro values line line'
  obtain ⟨hpass, hwritten, hfields, hcalls⟩ := fields_invert_spelling
  have hvalues : ∀ value ∈ values, quote ∉ value := by decide +kernel
  let first : Spelling :=
    { lead := ascii ",\t"
      isSpacing_lead := by decide +kernel
      parts := [
        (.bare (ascii "MessageBox") (by decide +kernel) (by decide) (by decide +kernel), ascii ","),
        (.quoted (ascii "Well, well") (by decide +kernel), ascii " ,"),
        (.bare (ascii "Go") (by decide +kernel) (by decide) (by decide +kernel), [])]
      isSpacing_of_mem := by decide +kernel
      ne_nil_of_mem := by decide +kernel }
  have hfirst : first.text = line := rfl
  have hsecond : (Spelling.inQuotes values hvalues).text = line' := rfl
  refine ⟨hvalues, (hwritten values).2 hvalues, ?_, ?_, ?_⟩
  · rw [(hpass line).1, ← hfirst, (hfields first).1, (hfields first).2]
    rfl
  · rw [(hpass line').1, ← hsecond, (hfields _).1, (hfields _).2, Spelling.values_inQuotes]
  · rw [← hfirst, ← hsecond]
    exact hcalls {} false first _ (Spelling.values_inQuotes values hvalues).symm

end Command

end MorrowindScript
