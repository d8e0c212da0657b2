import MorrowindScript.Proofs.Program.Skip
import MorrowindScript.Proofs.SourceLine.Tidy
import MorrowindScript.Proofs.Variable
import MorrowindScript.Script.Basic

/-!
# Names of scripts and locals

The locals on record are those that the lines of a source declare, wherever in the script they do so:
all shorts in the order of their lines, then all longs, then all floats. Since lines are tidy, a
keyword that needs a name always has one, so names are never missing and never have blanks around
them.

## Main definitions

* `Program.Declares`: the lines of a source that declare locals of a kind give them names.
* `Fault.isNameless`: the faults about missing names.

## Main results

* `SourceLine.introduces_of_kind`: a line that declares a local names it.
* `Program.failsOnly_compile`: no script fails for want of a name.
* `Program.declares_of_compile`: the names on record.
-/

namespace MorrowindScript

open Bytes

/-! ## Declarations -/

theorem LineKind.operandOffset_declaration (kind : LocalKind) :
    (declaration kind).operandOffset = (ascii kind.name).length + 1 := by
  cases kind <;> decide

/-- A line that declares a local consists of the keyword of its kind, blanks and its name. -/
theorem SourceLine.introduces_of_kind {line : SourceLine} {kind : LocalKind}
    (hline : line.text.IsTidy) (hkind : line.kind = .declaration kind) :
    Introduces kind.name line.text
      (trim (line.text.drop (LineKind.declaration kind).operandOffset)) := by
  have hopens : LineKind.opens kind.name isBlank line.text.lower = true := by
    apply LineKind.opens_of_keyword?_declaration
    rw [SourceLine.kind, LineKind.classify] at hkind
    split at hkind
    · next hkeyword => rw [hkeyword, hkind]
    · split at hkind
      · exact absurd hkind (by simp)
      · exact absurd hkind (by simp)
  have hname := LineKind.introduces_of_opens hline hopens
  -- the line has no blanks at its end, so there are none to trim after the name
  rwa [LineKind.operandOffset_declaration, trim, hname.isTidy.trimRight_eq]

/-! ## Faults -/

/-- The fault is that a name is missing: that of the script or that of a local. -/
def Fault.isNameless : Fault → Bool
  | noName | namelessDeclaration _ => true
  | _ => false

section Faults

variable (scope : Scope) (kind : LineKind) (text : Bytes) (following : List LineKind)

theorem failsOnly_checkedLength (length? : Option Nat) :
    (checkedLength kind length?).FailsOnly (·.isNameless = false) := by
  unfold checkedLength
  split
  · exact Outcome.failsOnly_error (by rfl) []
  · split
    · exact Outcome.failsOnly_error (by rfl) []
    · exact Outcome.failsOnly_ok [] _

theorem Conditional.failsOnly_compile (conditional : ConditionalKind) :
    (compile scope conditional following text).FailsOnly (·.isNameless = false) := by
  refine (failsOnly_checkedLength _ _).bind fun lines => ?_
  -- whatever is wrong with the condition, the fault is that of a condition
  refine Outcome.FailsOnly.bind (.mapError fun _ _ => rfl) fun condition => ?_
  split
  · exact Outcome.failsOnly_error (by rfl) []
  · exact Outcome.failsOnly_ok [] _

theorem Assignment.failsOnly_splitObject (value : Bytes) :
    (Outcome.ofExcept (splitObject text value) : LineOutcome _).FailsOnly
      (·.isNameless = false) := by
  rw [splitObject]
  split
  · exact Outcome.failsOnly_ok [] _
  · dsimp only
    split
    · exact Outcome.failsOnly_error (by rfl) []
    · exact Outcome.failsOnly_ok [] _

theorem Target.failsOnly_parse :
    (Outcome.ofExcept (Target.parse scope text) : LineOutcome _).FailsOnly
      (·.isNameless = false) := by
  rw [Target.parse]
  split
  · exact Outcome.failsOnly_ok [] _
  · split
    · exact Outcome.failsOnly_ok [] _
    · split
      · split
        · exact Outcome.failsOnly_ok [] _
        · exact Outcome.failsOnly_error (by rfl) []
      · exact Outcome.failsOnly_error (by rfl) []

theorem Value.failsOnly_parse : (Value.parse scope text).FailsOnly (·.isNameless = false) := by
  rw [Value.parse]
  split
  · split
    · exact Outcome.failsOnly_error (by rfl) _
    · exact Outcome.failsOnly_ok _ _
  · exact Outcome.failsOnly_ok _ _

theorem Assignment.failsOnly_compile :
    (compile scope text).FailsOnly (·.isNameless = false) := by
  refine (Outcome.failsOnly_ofOption (by rfl) _).bind fun separator => ?_
  refine (failsOnly_splitObject _ _).bind fun split => ?_
  refine (Target.failsOnly_parse _ _).bind fun target => ?_
  dsimp only
  split
  · exact Outcome.failsOnly_error (by rfl) []
  · refine (Value.failsOnly_parse _ _).bind fun value => ?_
    exact Outcome.failsOnly_ok [] _

theorem Call.failsOnly_compile (line : Bytes) :
    (compile scope line text).FailsOnly (·.isNameless = false) := by
  refine Outcome.FailsOnly.bind (.mapError fun e _ => ?_) fun call => Outcome.failsOnly_ok [] _
  cases e <;> rfl

theorem Call.failsOnly_compileQualified :
    (compileQualified scope text).FailsOnly (·.isNameless = false) := by
  rw [compileQualified]
  split
  · exact Outcome.failsOnly_error (by rfl) []
  · dsimp only
    split
    · exact Outcome.failsOnly_error (by rfl) []
    · refine (Call.failsOnly_compile _ _ _).bind fun instruction => ?_
      exact Outcome.failsOnly_ok [] _

/-- A line that is compiled never lacks a name: only declarations and the first line need one. -/
theorem SourceLine.failsOnly_compile :
    (SourceLine.compile scope text kind following).FailsOnly (·.isNameless = false) := by
  have hcall : (unqualified (Call.compile scope text text)).FailsOnly (·.isNameless = false) :=
    (Call.failsOnly_compile _ _ _).bind fun _ => Outcome.failsOnly_ok [] _
  cases kind with
  | assignment => exact Assignment.failsOnly_compile _ _
  | ifBranch | elseIfBranch | whileLoop => exact Conditional.failsOnly_compile _ _ _ _
  | elseBranch =>
    refine Outcome.FailsOnly.bind ?_ fun _ => Outcome.failsOnly_ok [] _
    exact (failsOnly_checkedLength _ _).bind fun _ => Outcome.failsOnly_ok [] _
  | qualifiedCall => exact Call.failsOnly_compileQualified _ _
  | declaration _ | call => exact hcall
  | choice | returning | ifEnd | whileEnd | scriptEnd => exact Outcome.failsOnly_ok [] _

end Faults

namespace Program

/-- Tidy lines never lack a name. -/
theorem failsOnly_compileLines (id : Bytes) (scope : Scope) (last : Nat)
    {lines : List (SourceLine × LineKind)}
    (h : ∀ l ∈ lines, l.1.text.IsTidy ∧ l.2 = l.1.kind) :
    (compileLines id scope last lines).FailsOnly (·.fault.isNameless = false) := by
  fun_induction compileLines id scope last lines with
  | case1 =>
    -- no line is left, so what is missing is the end
    exact Outcome.failsOnly_error (by rfl) []
  | case2 scope last line kind rest name hname =>
    -- the name is empty, which it cannot be
    obtain ⟨htidy, hkind⟩ := h _ List.mem_cons_self
    have hnamed := SourceLine.introduces_of_kind htidy hkind.symm
    exact absurd (List.isEmpty_iff.1 hname) hnamed.isTidy.ne_nil
  | case3 scope last line kind rest name hname ih =>
    exact ih fun l hl => h l (List.mem_cons_of_mem _ hl)
  | case4 => exact Outcome.failsOnly_ok [] _
  | case5 =>
    -- a line follows the end
    exact Outcome.failsOnly_error (by rfl) []
  | case6 scope last line kind rest _ _ _ ih =>
    have hline : (LineOutcome.onLine line.number
        (SourceLine.compile scope line.text kind (rest.map (·.2)))).FailsOnly
          (·.fault.isNameless = false) :=
      .mapError (SourceLine.failsOnly_compile scope kind line.text _)
    refine hline.bind fun q => ?_
    refine (ih fun l hl => h l (List.mem_cons_of_mem _ hl)).bind fun r => ?_
    exact Outcome.failsOnly_ok [] _

/-- The lines after the first are tidy and come with their kinds. -/
theorem isTidy_of_mem_rest {source : Bytes} {first : SourceLine} {rest : List SourceLine}
    (h : SourceLine.split source = first :: rest) :
    ∀ l ∈ rest.map (fun line => (line, line.kind)), l.1.text.IsTidy ∧ l.2 = l.1.kind := by
  intro l hl
  obtain ⟨line, hline, rfl⟩ := List.mem_map.1 hl
  have hmem : line ∈ SourceLine.split source := by
    rw [h]
    exact List.mem_cons_of_mem first hline
  exact ⟨SourceLine.isTidy_of_mem_split hmem, rfl⟩

/-- The first line of a script names it. -/
theorem introduces_of_isBegin {source : Bytes} {first : SourceLine} {rest : List SourceLine}
    (h : SourceLine.split source = first :: rest) (hbegin : LineKind.isBegin first.text = true) :
    Introduces "begin" first.text
      (trimLeft (first.text.drop Token.scriptBegin.operandOffset)) := by
  have hfirst : first ∈ SourceLine.split source := by
    rw [h]
    exact List.mem_cons_self
  exact LineKind.introduces_of_opens (SourceLine.isTidy_of_mem_split hfirst) hbegin

/-- No script fails for want of a name. -/
theorem failsOnly_compile (tables : Tables) (source : Bytes) :
    (compile tables source).FailsOnly (·.fault.isNameless = false) := by
  rw [compile]
  split
  · exact Outcome.failsOnly_error (by rfl) []
  · next first rest hsplit =>
    split
    · exact Outcome.failsOnly_error (by rfl) []
    · next hbegin =>
      dsimp only
      split
      · next hid =>
        have hnamed := introduces_of_isBegin hsplit (by simpa using hbegin)
        exact absurd (List.isEmpty_iff.1 hid) hnamed.isTidy.ne_nil
      · refine (failsOnly_compileLines _ _ _ (isTidy_of_mem_rest hsplit)).bind fun r => ?_
        exact Outcome.failsOnly_ok [] _

/-! ## Names on record -/

/-- The lines of a source that declare locals of a kind give them these names, one line after
another. -/
def Declares (source : Bytes) (kind : LocalKind) (names : List Bytes) : Prop :=
  List.Forall₂ (fun line name => Introduces kind.name line.text name)
    ((SourceLine.split source).filter (·.kind = .declaration kind)) names

/-- The locals of a script are those that its lines declare, in order. -/
theorem Compiles.locals_eq {scope : Scope} {lines : List (SourceLine × LineKind)} {locals : Locals}
    {statements : List Statement} (h : Compiles scope lines locals statements) :
    locals = (scope.declareEach (lines.filterMap fun l => l.2.declared? l.1.text)).locals := by
  induction h with
  | declaration _ _ ih => exact ih
  | scriptEnd => rfl
  | @statement _ _ kind _ _ _ _ _ hdeclaration _ _ _ ih =>
    have hkind : kind.isDeclaration = false := by
      cases kind with
      | declaration k => exact absurd rfl (hdeclaration k)
      | _ => rfl
    rwa [List.filterMap_cons, LineKind.declared?_eq_none hkind]

/-- The names of a kind are those on the lines of that kind. -/
theorem namesOf_declared (kind : LocalKind) (lines : List SourceLine) :
    namesOf kind (lines.filterMap fun line => line.kind.declared? line.text) =
      (lines.filter (·.kind = .declaration kind)).map fun line =>
        trim (line.text.drop (LineKind.declaration kind).operandOffset) := by
  induction lines with
  | nil => rfl
  | cons line lines ih =>
    rw [List.filterMap_cons, List.filter_cons]
    cases hline : line.kind with
    | declaration other =>
      by_cases hkind : other = kind
      · subst hkind
        simp [LineKind.declared?, namesOf, ← ih]
      · simp [LineKind.declared?, namesOf, hkind, ← ih]
    | _ =>
      -- a line that declares nothing is left out on both sides
      exact ih

/-- The lines of a source declare the locals of the script that it compiles to. -/
theorem declares_ofKind {tables : Tables} {source : Bytes} {p : Program}
    (h : (compile tables source).result = .ok p) (kind : LocalKind) :
    Declares source kind (p.locals.ofKind kind) := by
  obtain ⟨first, rest, hsplit, hbegin, -, -, -, hcompiles⟩ := result_compile_eq_ok_iff.1 h
  have hlocals : p.locals.ofKind kind =
      ((SourceLine.split source).filter (·.kind = .declaration kind)).map fun line =>
        trim (line.text.drop (LineKind.declaration kind).operandOffset) := by
    -- the line that names the script declares no local
    have hfirst : first.kind ≠ .declaration kind := by
      rcases SourceLine.kind_of_isBegin hbegin with hkind | hkind
      · simp [hkind]
      · simp [hkind]
    rw [hcompiles.locals_eq, Scope.ofKind_declareEach, List.filterMap_map, hsplit,
      List.filter_cons_of_neg (by simpa using hfirst), ← namesOf_declared]
    cases kind <;> rfl
  rw [Declares, hlocals, List.forall₂_map_right_iff, List.forall₂_same]
  intro line hline
  obtain ⟨hmem, hkind⟩ := List.mem_filter.1 hline
  exact SourceLine.introduces_of_kind (SourceLine.isTidy_of_mem_split hmem) (by simpa using hkind)

/-- Declared names are tidy. -/
theorem Declares.isTidy_of_mem {source : Bytes} {kind : LocalKind} {names : List Bytes}
    (h : Declares source kind names) {name : Bytes} (hname : name ∈ names) : name.IsTidy := by
  unfold Declares at h
  -- the induction is on the lines that declare, whichever these are
  generalize (SourceLine.split source).filter (·.kind = .declaration kind) = lines at h
  induction h with
  | nil => exact absurd hname List.not_mem_nil
  | cons hfirst _ ih =>
    rcases List.mem_cons.1 hname with rfl | hname
    · exact hfirst.isTidy
    · exact ih hname

/-- The record of a script lists the names that its source declares: all shorts in the order of
their lines, then all longs, then all floats, each as it is spelled and as often as it is declared.
The three numbers are those of the parts of the list. The name of the script is that on the first
line, and all names are tidy, so that no source fails for want of a name. -/
theorem declares_of_compile (tables : Tables) (source : Bytes) :
    (∀ p, (compile tables source).result = .ok p →
      (∃ shorts longs floats, p.script.locals = shorts ++ longs ++ floats ∧
        Declares source .short shorts ∧ Declares source .long longs ∧
        Declares source .float floats ∧
        p.script.shorts = shorts.length ∧ p.script.longs = longs.length ∧
        p.script.floats = floats.length) ∧
      p.script.shorts + p.script.longs + p.script.floats = p.script.locals.length ∧
      (∃ first, (SourceLine.split source).head? = some first ∧
        Introduces "begin" first.text p.script.id) ∧
      p.script.id.IsTidy ∧ ∀ name ∈ p.script.locals, name.IsTidy) ∧
    ∀ e, (compile tables source).result = .error e →
      e.fault ≠ .noName ∧ ∀ kind, e.fault ≠ .namelessDeclaration kind := by
  constructor
  · intro p hp
    have hdeclares := declares_ofKind hp
    obtain ⟨first, rest, hsplit, hbegin, hid, -⟩ := result_compile_eq_ok_iff.1 hp
    have hname : Introduces "begin" first.text p.script.id := by
      show Introduces _ _ p.id
      rw [hid]
      exact introduces_of_isBegin hsplit hbegin
    refine ⟨⟨_, _, _, rfl, hdeclares .short, hdeclares .long, hdeclares .float, rfl, rfl, rfl⟩,
      ?_, ⟨first, by rw [hsplit]; rfl, hname⟩, hname.isTidy, fun name hmem => ?_⟩
    · have hlength : (p.locals.names.length : Int) = _ := congrArg Nat.cast p.locals.length_names
      rw [Nat.cast_add, Nat.cast_add] at hlength
      exact hlength.symm
    · rcases List.mem_append.1 hmem with hmem | hfloat
      · rcases List.mem_append.1 hmem with hshort | hlong
        · exact (hdeclares .short).isTidy_of_mem hshort
        · exact (hdeclares .long).isTidy_of_mem hlong
      · exact (hdeclares .float).isTidy_of_mem hfloat
  · intro e he
    have hfault : e.fault.isNameless = false := failsOnly_compile tables source e he
    constructor
    · intro hnone
      rw [hnone] at hfault
      nomatch hfault
    · intro kind hnone
      rw [hnone] at hfault
      nomatch hfault

/-- A script that declares locals between its statements, in a branch and right after `else`, some
of them twice. -/
def sentry : Bytes :=
  joinWith [lineFeed] (List.map ascii
    ["begin Sentry", "float timer", "if ( timer > 5 )", "\tShort step ; first", "else long Step",
      "endif", "short\t step", "end Sentry"])

/-- A source with no name after the keyword: the blank at the end of the line does not count, so the
line opens no script. -/
def bareKeyword : Bytes :=
  joinWith [lineFeed] (List.map ascii ["begin ", "end"])

theorem declares_of_compile_sentry :
    ∃ p e, (compile .empty sentry).result = .ok p ∧
      p.script.locals = List.map ascii ["step", "step", "Step", "timer"] ∧
      Declares sentry .short (List.map ascii ["step", "step"]) ∧ p.script.id.IsTidy ∧
      (compile .empty bareKeyword).result = .error e ∧ e.fault ≠ .noName := by
  obtain ⟨p, hp, hfacts⟩ : ∃ p, (compile .empty sentry).result = .ok p ∧
      (p.script.locals, p.script.shorts) =
        (List.map ascii ["step", "step", "Step", "timer"], 2) :=
    Outcome.exists_result_eq_ok_of_map (by decide +kernel)
  obtain ⟨hlocals, htwo⟩ := Prod.mk.inj hfacts
  obtain ⟨e, he⟩ : ∃ e, (compile .empty bareKeyword).result = .error e :=
    ⟨⟨1, .noBegin (ascii "begin")⟩, by decide +kernel⟩
  obtain ⟨⟨shorts, longs, floats, hnames, hshorts, -, -, hlength, -⟩, -, -, hid, -⟩ :=
    (declares_of_compile .empty sentry).1 p hp
  have hsteps : shorts = List.map ascii ["step", "step"] := by
    have hlength : shorts.length = 2 := by
      rw [htwo] at hlength
      omega
    calc shorts = (shorts ++ (longs ++ floats)).take 2 := (List.take_left' hlength).symm
      _ = p.script.locals.take 2 := by rw [hnames, List.append_assoc]
      _ = List.map ascii ["step", "step"] := by rw [hlocals]; rfl
  refine ⟨p, e, hp, hlocals, hsteps ▸ hshorts, hid, he, ?_⟩
  exact ((declares_of_compile .empty bareKeyword).2 e he).1

end Program

end MorrowindScript
