import MorrowindScript.Literal.Single

/-!
# The bytes of floating point literals

A floating point literal is written with digits and full stops only, after an optional minus sign.
So it holds no separator, quote, bracket or operator besides the sign at its start.
-/

namespace MorrowindScript.Literal

open Bytes

/-- The bytes of a literal after its sign. -/
def isNumeral (c : UInt8) : Bool :=
  isDigit c || c == dot

/-- A fraction is written with digits. -/
theorem isDigit_of_fraction? {s : Bytes} {value : Float32} (h : fraction? s = some value) :
    ∀ c ∈ s, isDigit c := by
  induction s generalizing value with
  | nil => simp
  | cons c rest ih =>
    rw [fraction?] at h
    split at h
    · exact absurd h (by simp)
    · next hrest =>
      split at h
      · next hdigit => exact List.forall_mem_cons.2 ⟨hdigit, ih hrest⟩
      · exact absurd h (by simp)

/-- A literal without sign is written with digits and full stops. -/
theorem isNumeral_of_whole? {s : Bytes} {start value : Float32}
    (h : whole? start s = some value) : ∀ c ∈ s, isNumeral c := by
  induction s generalizing start with
  | nil => simp
  | cons c rest ih =>
    rw [whole?] at h
    split at h
    · next hdigit =>
      split at h
      · exact absurd h (by simp)
      · exact List.forall_mem_cons.2 ⟨by simp [isNumeral, hdigit], ih h⟩
    · split at h
      · next hdot =>
        obtain ⟨fraction, hfraction, -⟩ := Option.map_eq_some_iff.1 h
        refine List.forall_mem_cons.2 ⟨by simp [isNumeral, hdot], fun d hd => ?_⟩
        simp [isNumeral, isDigit_of_fraction? hfraction d hd]
      · exact absurd h (by simp)

/-- A literal is an optional minus sign and at least one digit or full stop. -/
theorem exists_numeral_of_single? {s : Bytes} {value : Float32} (h : single? s = some value) :
    ∃ body, body ≠ [] ∧ (∀ c ∈ body, isNumeral c) ∧ (s = body ∨ s = minus :: body) := by
  cases s with
  | nil => exact absurd h (by simp [single?])
  | cons c rest =>
    rw [single?] at h
    split at h
    · next hminus =>
      split at h
      · exact absurd h (by simp)
      · next hrest =>
        obtain ⟨magnitude, hwhole, -⟩ := Option.map_eq_some_iff.1 h
        exact ⟨rest, by simpa using hrest, isNumeral_of_whole? hwhole,
          .inr (by rw [eq_of_beq hminus])⟩
    · exact ⟨c :: rest, by simp, isNumeral_of_whole? h, .inl rfl⟩

end MorrowindScript.Literal
