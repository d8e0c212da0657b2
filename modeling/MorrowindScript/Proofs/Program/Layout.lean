import MorrowindScript.Proofs.Program.Tiling
import MorrowindScript.Proofs.SourceLine.Layout

/-!
# Layout does not matter

A script is compiled from the texts of its lines. The numbers of the lines only say where a warning
or a fault is reported, so scripts with the same texts have the same outcome up to line numbers,
whether they compile or not.

The module introduces:

* `SameButNumbers` — two outcomes agree up to line numbers.
* `Program.SameCode` — two compiled scripts agree up to their sources and line numbers.
* `Program.sameButNumbers_of_texts_eq` — the outcome depends on the texts of the lines.
* `Program.sameButNumbers_of_layoutEdit` — so the layout of a source has no influence on it.
-/

namespace MorrowindScript

open Bytes

/-! ## Outcomes up to line numbers -/

/-- Two outcomes agree up to line numbers: they have the same warnings, and either both have a
result, with `related` results, or both fail with the same fault. -/
structure SameButNumbers {α β : Type} (related : α → β → Prop) (x : ScriptOutcome α)
    (y : ScriptOutcome β) : Prop where
  warnings : x.warnings.map LineWarning.warning = y.warnings.map LineWarning.warning
  ok : ∀ a, x.result = .ok a → ∃ b, y.result = .ok b ∧ related a b
  error : ∀ e, x.result = .error e → ∃ f, y.result = .error f ∧ e.fault = f.fault

namespace SameButNumbers

variable {α α' β β' : Type} {R : α → β → Prop} {S : α' → β' → Prop}

theorem pure {a : α} {b : β} (h : R a b) :
    SameButNumbers R (Pure.pure a) (Pure.pure b) where
  warnings := rfl
  ok := by
    rintro _ ⟨⟩
    exact ⟨b, rfl, h⟩
  error := by
    rintro _ ⟨⟩

theorem fail (n m : Nat) (fault : Fault) :
    SameButNumbers R (Outcome.fail ⟨n, fault⟩) (Outcome.fail ⟨m, fault⟩) where
  warnings := rfl
  ok := by
    rintro _ ⟨⟩
  error := by
    rintro _ ⟨⟩
    exact ⟨⟨m, fault⟩, rfl, rfl⟩

/-- What happens on a line does not depend on its number. -/
theorem onLine (n m : Nat) (x : LineOutcome α) :
    SameButNumbers Eq (LineOutcome.onLine n x) (LineOutcome.onLine m x) := by
  obtain ⟨warnings, result⟩ := x
  refine ⟨?_, ?_, ?_⟩
  · simp only [LineOutcome.onLine, Outcome.mapError, Outcome.mapWarnings, List.map_map]
    rfl
  · intro a ha
    refine ⟨a, ?_, rfl⟩
    simpa [LineOutcome.onLine] using ha
  · intro e he
    cases result with
    | ok a => exact absurd he (by simp [LineOutcome.onLine, Outcome.mapError, Except.mapError])
    | error fault =>
      obtain rfl : CompileError.mk n fault = e := Except.error.inj he
      exact ⟨⟨m, fault⟩, rfl, rfl⟩

/-- Computations that agree up to line numbers may be followed by others that do. -/
theorem bind {x : ScriptOutcome α} {y : ScriptOutcome β} (h : SameButNumbers R x y)
    {f : α → ScriptOutcome α'} {g : β → ScriptOutcome β'}
    (hfg : ∀ a b, R a b → SameButNumbers S (f a) (g b)) :
    SameButNumbers S (x >>= f) (y >>= g) := by
  obtain ⟨warnings, result⟩ := x
  obtain ⟨warnings', result'⟩ := y
  have hwarnings : warnings.map LineWarning.warning = warnings'.map LineWarning.warning :=
    h.warnings
  cases result with
  | ok a =>
    obtain ⟨b, rfl, hab⟩ : ∃ b, result' = .ok b ∧ R a b := h.ok a rfl
    obtain ⟨hrest, hok, herror⟩ := hfg a b hab
    refine ⟨?_, hok, herror⟩
    rw [Outcome.mk_ok_bind, Outcome.mk_ok_bind, List.map_append, List.map_append, hwarnings, hrest]
  | error e =>
    obtain ⟨e', rfl, hfault⟩ : ∃ e', result' = .error e' ∧ e.fault = e'.fault := h.error e rfl
    refine ⟨hwarnings, ?_, ?_⟩
    · rintro a ⟨⟩
    · rintro _ ⟨⟩
      exact ⟨e', rfl, hfault⟩

end SameButNumbers

/-! ## Lines -/

/-- What a statement says apart from the number of its line. -/
def Statement.content (s : Statement) : Bytes × Option Bytes × Instruction :=
  (s.line.text, s.object, s.instruction)

/-- The bytes of a statement do not depend on the number of its line. -/
theorem Statement.encode_of_content_eq {s t : Statement} (h : s.content = t.content) :
    s.encode = t.encode := by
  have hrest : (s.object, s.instruction) = (t.object, t.instruction) := congrArg Prod.snd h
  obtain ⟨hobject, hinstruction⟩ := Prod.mk.inj hrest
  rw [encode, encode, hobject, hinstruction]

namespace Program

/-- A line that neither declares nor ends is compiled, and then the lines after it. -/
theorem compileLines_cons {kind : LineKind} (hdeclaration : ∀ k, kind ≠ .declaration k)
    (hend : kind ≠ .scriptEnd) (id : Bytes) (scope : Scope) (last : Nat) (line : SourceLine)
    (rest : List (SourceLine × LineKind)) :
    compileLines id scope last ((line, kind) :: rest) =
      LineOutcome.onLine line.number
        (SourceLine.compile scope line.text kind (rest.map (·.2))) >>= fun q =>
      compileLines id scope line.number rest >>= fun r =>
      pure (r.1, ⟨line, q.1, q.2⟩ :: r.2) := by
  cases kind with
  | declaration k => exact absurd rfl (hdeclaration k)
  | scriptEnd => exact absurd rfl hend
  | _ => rfl

/-- Lines with the same texts and kinds have the same outcome up to line numbers. -/
theorem sameButNumbers_compileLines {id : Bytes} {scope : Scope} {last last' : Nat}
    {lines lines' : List (SourceLine × LineKind)}
    (h : lines.map (fun l => (l.1.text, l.2)) = lines'.map (fun l => (l.1.text, l.2))) :
    SameButNumbers (fun a b => a.1 = b.1 ∧ a.2.map Statement.content = b.2.map Statement.content)
      (compileLines id scope last lines) (compileLines id scope last' lines') := by
  -- the scope grows with the declarations, and the last line is reported if there is no end
  induction lines generalizing scope last last' lines' with
  | nil =>
    obtain rfl := List.map_eq_nil_iff.1 h.symm
    exact .fail last last' _
  | cons first rest ih =>
    obtain ⟨⟨line', kind⟩, rest', rfl, hfirst, hrest⟩ := List.map_eq_cons_iff.1 h.symm
    obtain ⟨line, kind'⟩ := first
    obtain ⟨htext, rfl⟩ : line'.text = line.text ∧ kind = kind' := Prod.mk.inj hfirst
    -- the cases of `compileLines`: declarations, the end, and all other lines
    by_cases hdeclaration : ∃ k, kind = .declaration k
    · obtain ⟨k, rfl⟩ := hdeclaration
      simp only [compileLines, htext]
      split
      · exact .fail _ _ _
      · exact ih hrest.symm
    · by_cases hend : kind = .scriptEnd
      · subst hend
        cases rest with
        | nil =>
          obtain rfl := List.map_eq_nil_iff.1 hrest
          refine .pure ⟨rfl, ?_⟩
          simp [Statement.content, htext]
        | cons next rest =>
          obtain ⟨next', rest', rfl, hnext, -⟩ := List.map_eq_cons_iff.1 hrest
          have hnext : next'.1.text = next.1.text := (Prod.mk.inj hnext).1
          simp only [compileLines, hnext]
          exact .fail _ _ _
      · have hfollowing : rest'.map (·.2) = rest.map (·.2) := by
          have hkinds := congrArg (List.map Prod.snd) hrest
          rwa [List.map_map, List.map_map] at hkinds
        rw [compileLines_cons (not_exists.1 hdeclaration) hend,
          compileLines_cons (not_exists.1 hdeclaration) hend, htext, hfollowing]
        refine SameButNumbers.bind (.onLine _ _ _) ?_
        rintro ⟨object, instruction⟩ _ rfl
        refine SameButNumbers.bind (ih hrest.symm) ?_
        rintro ⟨locals, statements⟩ ⟨locals', statements'⟩ ⟨rfl, hstatements⟩
        refine .pure ⟨rfl, ?_⟩
        simpa [Statement.content, htext] using hstatements

/-! ## Scripts -/

/-- Two compiled scripts agree up to their sources and line numbers: they have the same name, the
same locals and the same bytecode, and their statements come from the same texts and are at the same
places. -/
structure SameCode (p q : Program) : Prop where
  id : p.id = q.id
  locals : p.locals = q.locals
  data : p.data = q.data
  placed : p.placed.map (fun s => (s.statement.line.text, s.offset, s.bytes)) =
    q.placed.map fun s => (s.statement.line.text, s.offset, s.bytes)

/-- Statements that say the same are at the same places. -/
theorem map_placeFrom_of_content_eq {statements statements' : List Statement}
    (h : statements.map Statement.content = statements'.map Statement.content) (offset : Nat) :
    (placeFrom offset statements).map (fun s => (s.statement.line.text, s.offset, s.bytes)) =
      (placeFrom offset statements').map fun s => (s.statement.line.text, s.offset, s.bytes) := by
  induction statements generalizing statements' offset with
  | nil => rw [List.map_eq_nil_iff.1 h.symm]
  | cons s statements ih =>
    obtain ⟨s', statements', rfl, hs, hrest⟩ := List.map_eq_cons_iff.1 h.symm
    have htext : s'.line.text = s.line.text := congrArg Prod.fst hs
    rw [placeFrom, placeFrom, List.map_cons, List.map_cons, Statement.encode_of_content_eq hs,
      ih hrest.symm, htext]

/-- Statements that say the same make up the same code. -/
theorem sameCode_of_content_eq {p q : Program} (hid : p.id = q.id) (hlocals : p.locals = q.locals)
    (h : p.statements.map Statement.content = q.statements.map Statement.content) :
    p.SameCode q := by
  have hplaced := map_placeFrom_of_content_eq h 0
  refine ⟨hid, hlocals, ?_, hplaced⟩
  have hbytes := congrArg (List.map fun s => s.2.2) hplaced
  rw [List.map_map, List.map_map] at hbytes
  rw [data, data, ← flatten_placeFrom 0, ← flatten_placeFrom 0]
  exact congrArg List.flatten hbytes

/-- What a script compiles to depends on the texts of its lines. -/
theorem sameButNumbers_of_texts_eq {tables : Tables} {source source' : Bytes}
    (h : SourceLine.texts source = SourceLine.texts source') :
    SameButNumbers SameCode (compile tables source) (compile tables source') := by
  rw [SourceLine.texts, SourceLine.texts] at h
  rw [compile, compile]
  generalize SourceLine.split source = lines, SourceLine.split source' = lines' at h
  cases lines with
  | nil =>
    rw [List.map_eq_nil_iff.1 h.symm]
    exact .fail _ _ _
  | cons first rest =>
    obtain ⟨first', rest', rfl, hfirst, hrest⟩ := List.map_eq_cons_iff.1 h.symm
    simp only [hfirst]
    split
    · exact .fail _ _ _
    · split
      · exact .fail _ _ _
      · -- the kinds are read off the texts as well
        have hlines : (rest.map fun line => (line, line.kind)).map (fun l => (l.1.text, l.2)) =
            (rest'.map fun line => (line, line.kind)).map fun l => (l.1.text, l.2) := by
          have hpairs := congrArg (List.map fun text => (text, LineKind.classify text)) hrest
          rw [List.map_map, List.map_map] at hpairs ⊢
          exact hpairs.symm
        refine SameButNumbers.bind (sameButNumbers_compileLines hlines) ?_
        rintro ⟨locals, statements⟩ ⟨locals', statements'⟩ ⟨hlocals, hstatements⟩
        exact .pure (sameCode_of_content_eq rfl hlocals hstatements)

/-- The layout of a source without carriage returns does not matter: after an edit of the layout the
script compiles to the same code, with the same warnings, or fails with the same fault. -/
theorem sameButNumbers_of_layoutEdit {tables : Tables} {source source' : Bytes}
    (hsource : carriageReturn ∉ source) (h : LayoutEdit source source') :
    SameButNumbers SameCode (compile tables source) (compile tables source') :=
  sameButNumbers_of_texts_eq (SourceLine.texts_eq_of_layoutEdit hsource h).symm

/-- A script with a mark of a comment inside quotes. -/
def warning : Bytes :=
  joinWith [lineFeed] (List.map ascii
    ["begin warning", "short done", "MessageBox \"Halt; go back\"", "set done to 1", "end"])

/-- The same script with a comment, and a quote that is left open in it. -/
def commented : Bytes :=
  joinWith [lineFeed] (List.map ascii
    ["begin warning", "short done", "MessageBox \"Halt; go back\"; once \"only", "set done to 1",
      "end"])

theorem sameButNumbers_of_layoutEdit_commented :
    ∃ p q, (compile .empty warning).result = .ok p ∧ (compile .empty commented).result = .ok q ∧
      p.SameCode q := by
  obtain ⟨p, hp⟩ : ∃ p, (compile .empty warning).result = .ok p :=
    Outcome.exists_result_eq_ok (by decide +kernel)
  have hlines : warning.lines = List.map ascii ["begin warning", "short done"] ++
      ascii "MessageBox \"Halt; go back\"" :: List.map ascii ["set done to 1", "end"] := by
    decide +kernel
  have hcomment : lineFeed ∉ ascii " once \"only" := by decide +kernel
  have hedit : LayoutEdit warning commented :=
    .commentAfter hlines hcomment (.inl (by decide +kernel))
  obtain ⟨q, hq, hcode⟩ := (sameButNumbers_of_layoutEdit (by decide +kernel) hedit).ok p hp
  exact ⟨p, q, hp, hq, hcode⟩

end Program

end MorrowindScript
