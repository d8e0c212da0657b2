import MorrowindScript.Proofs.Bytes.Length
import MorrowindScript.Proofs.Expression.Derivation
import MorrowindScript.Proofs.Expression.Step
import MorrowindScript.Proofs.GameData.Search
import MorrowindScript.Proofs.Scan.Bracket

/-!
# What is left of an expression

An expression is cut at operators, and blanks and brackets are taken off the pieces. This module
shows that nothing else gets lost on the way: written from left to right, the operands and
operators of the tree make up the text again. The text may be anything, with quotes and brackets
that do not match.

## Main definitions

* `Bytes.visible`: a text without blanks and brackets.
* `Expression.inOrder`: the operands and operators of an expression from left to right.
* `Tables.KeepsGlobalNames`: the spellings of globals differ from their names in case only.

## Main results

* `Scan.visible_unwrap`: only blanks and brackets are taken off a text.
* `Expression.Parses.lower_visible_inOrder`: a tree that was read has all of its text, in order.
* `Expression.parse_keeps_text`: so has every tree, and only strictly shorter texts are read on the
  way.
-/

namespace MorrowindScript

open Bytes

/-! ## Texts without blanks and brackets -/

namespace Bytes

/-- Bytes other than blanks and brackets. -/
def isVisible (c : UInt8) : Bool :=
  !(isBlank c || c == openBracket || c == closeBracket)

/-- The text without blanks and brackets. -/
def visible (s : Bytes) : Bytes :=
  s.filter isVisible

@[simp]
theorem visible_append (s t : Bytes) : visible (s ++ t) = s.visible ++ t.visible :=
  List.filter_append s t

theorem isVisible_of_isBlank {c : UInt8} (h : isBlank c = true) : isVisible c = false := by
  simp [isVisible, h]

@[simp]
theorem visible_trimLeft (s : Bytes) : s.trimLeft.visible = s.visible :=
  filter_trimLeft (fun _ => isVisible_of_isBlank) s

@[simp]
theorem visible_trimRight (s : Bytes) : s.trimRight.visible = s.visible :=
  filter_trimRight (fun _ => isVisible_of_isBlank) s

@[simp]
theorem visible_trim (s : Bytes) : s.trim.visible = s.visible := by
  rw [trim, visible_trimRight, visible_trimLeft]

/-- No letter is a blank or a bracket. -/
theorem isVisible_lowerByte (c : UInt8) : isVisible (lowerByte c) = isVisible c :=
  forall_byte (P := fun c => isVisible (lowerByte c) = isVisible c) (by decide +kernel) c

/-- Case and what is visible are independent. -/
theorem lower_visible (s : Bytes) : s.visible.lower = s.lower.visible := by
  have hcomp : isVisible ∘ lowerByte = isVisible := funext isVisible_lowerByte
  rw [visible, visible, lower, lower, List.filter_map, hcomp]

end Bytes

/-- Only blanks and brackets are taken off a text. -/
theorem Scan.visible_unwrap (s : Bytes) : (Scan.unwrap s).visible = s.visible := by
  rw [Scan.unwrap]
  cases hinner : Scan.enclosed? s.trim with
  | none => exact visible_trim s
  | some inner =>
    -- the two brackets are not visible
    have hbrackets : s.trim.visible = inner.visible := by
      rw [Scan.eq_of_enclosed? hinner, List.cons_append, ← List.singleton_append, visible_append,
        visible_append]
      exact List.append_nil inner.visible
    rw [← visible_trim s, hbrackets]
    exact visible_trim inner

/-! ## Spellings of globals -/

/-- The registered spellings of globals differ from their names in case only. -/
def Tables.KeepsGlobalNames (tables : Tables) : Prop :=
  ∀ name spelling, tables.globalSpelling name = some spelling → equalFold spelling name = true

/-- The tables of a data set do so. -/
theorem GameData.keepsGlobalNames_tables {file : DataFile} {data : GameData}
    (h : GameData.ofFile file = .ok data) : data.tables.KeepsGlobalNames := by
  obtain ⟨-, rfl⟩ := GameData.ofFile_eq_ok_iff.1 h
  intro name spelling hspelling
  have hlast : lastNamed? id name file.globals = some spelling :=
    (GameData.global?_index file name).symm.trans hspelling
  exact equalFold_of_lastNamed? hlast

namespace Expression

/-! ## The text of a tree -/

/-- The operands and operators of an expression from left to right. -/
def inOrder : Expression → Bytes
  | atom a => a.content
  | binary op left right => left.inOrder ++ op.byte :: right.inOrder

theorem visible_byte_cons (op : Arithmetic) (s : Bytes) :
    visible (op.byte :: s) = op.byte :: s.visible :=
  List.filter_cons_of_pos (by cases op <;> decide)

variable {scope : Scope}

/-- An operand is listed as it was written, up to the spelling of a global. -/
theorem lower_content_of_parses (htables : scope.tables.KeepsGlobalNames) {text : Bytes} {a : Atom}
    (h : a.Parses scope text) : a.content.lower = text.lower := by
  cases h with
  | globalVariable hliteral hslot hglobal => exact eq_of_beq (htables text _ hglobal)
  | literal | localVariable | foreignVariable | call => rfl

/-- A number with a sign is listed as it was written. -/
theorem content_of_negativeLiteral? {text : Bytes} {a : Atom} (h : negativeLiteral? text = some a) :
    a.content = text := by
  rw [negativeLiteral?] at h
  split at h
  · obtain ⟨value, -, rfl⟩ := Option.map_eq_some_iff.1 h
    rfl
  · simp at h

/-- A tree that was read has all of its text, in order. -/
theorem Parses.lower_visible_inOrder (htables : scope.tables.KeepsGlobalNames) {text : Bytes}
    {e : Expression} (h : Parses scope text e) : e.inOrder.visible.lower = text.visible.lower := by
  induction h with
  | @operand source a hnone ha =>
    -- a global may be listed in another spelling, which is the same in lower case
    rw [inOrder, lower_visible, lower_content_of_parses htables ha, ← lower_visible,
      Scan.visible_unwrap]
  | @negative source first a hfirst ha =>
    rw [inOrder, content_of_negativeLiteral? ha, Scan.visible_unwrap]
  | @binary source first left right hfirst hnegative hstart hend hleft hright ihleft ihright =>
    -- the two sides and the operator between them are the whole text
    have htext := congrArg visible (eq_append_division hfirst)
    rw [Scan.visible_unwrap, visible_append, visible_byte_cons] at htext
    rw [htext, inOrder, visible_append, visible_byte_cons]
    simp only [lower, List.map_append, List.map_cons] at ihleft ihright ⊢
    rw [ihleft, ihright]

/-- A tree that was read has the operands and operators of its text, all of them, each once and in
order: what may get lost are blanks, brackets and the case of letters. And the reader goes step by
step, each of which reads strictly shorter texts only. -/
theorem parse_keeps_text (scope : Scope) (text : Bytes) :
    (scope.tables.KeepsGlobalNames → ∀ e, (parse scope text).result = .ok e →
      equalFold e.inOrder.visible text.visible = true) ∧
    parse scope text = step scope (parse scope) text ∧
    ∀ recur recur' : Bytes → ParseOutcome Expression,
      (∀ part, part.length < text.length → recur part = recur' part) →
        step scope recur text = step scope recur' text := by
  refine ⟨fun htables e he => ?_, parse_eq_step scope text, fun recur recur' => step_congr⟩
  exact beq_iff_eq.2 ((result_parse_eq_ok_iff.1 he).lower_visible_inOrder htables)

/-- The global is listed in its registered spelling, and the blanks and brackets are gone. -/
theorem parse_keeps_text_bazaar :
    ∃ data e, GameData.ofFile GameData.bazaar = .ok data ∧
      (parse { tables := data.tables } (ascii " (GameHour + (-2)) * chest.open")).result = .ok e ∧
      e.inOrder = ascii "GAMEHOUR+-2*chest.open" ∧
      equalFold e.inOrder.visible (ascii "GameHour+-2*chest.open") = true := by
  have hdata : GameData.ofFile GameData.bazaar = .ok GameData.bazaar.index :=
    GameData.ofFile_eq_ok_iff.2 ⟨GameData.bazaar.isNamed_iff.2 (by decide), rfl⟩
  let e : Expression := .binary .mul
    (.binary .add (.atom (.globalVariable (ascii "GAMEHOUR")))
      (.atom (.literal (ascii "-2") 0xC0000000)))
    (.atom (.foreignVariable (ascii "chest.open") (ascii "chest") ⟨.short, 1⟩))
  have he : (parse { tables := GameData.bazaar.index.tables }
      (ascii " (GameHour + (-2)) * chest.open")).result = .ok e := by
    decide +kernel
  refine ⟨GameData.bazaar.index, e, hdata, he, by decide, ?_⟩
  exact (parse_keeps_text _ _).1 (GameData.keepsGlobalNames_tables hdata) e he

end Expression

end MorrowindScript
