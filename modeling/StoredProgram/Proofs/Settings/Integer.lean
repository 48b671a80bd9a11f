import Mathlib.Data.List.Basic
import StoredProgram.Proofs.Except
import StoredProgram.Proofs.Numeral
import StoredProgram.Proofs.Settings.WellFormed
import StoredProgram.Proofs.Text.Word
import StoredProgram.Proofs.Value.Text

/-! The integers that settings can give: which values are numbers, which numbers these are, and that
the decimal and the hexadecimal text of a number are read as it. -/

namespace StoredProgram

namespace Settings
open Text Numeral

def hexMarks : List (List Char) := [['0', 'x'], ['0', 'X'], ['0', 'x', '_'], ['0', 'X', '_']]

/-- Decimal numerals have at most one sign and 4300 digits, hexadecimal ones a prefix and no plus.
Single underscores stand between two digits or right after the prefix. -/
inductive Written : List Char → Int → Prop
  | decimal {sign s ds} : sign ∈ [[], ['+'], ['-']] → Grouped digit? s ds → ds.length ≤ 4300 →
      Written (sign ++ s) (signed (sign == ['-']) (Nat.ofDigits 10 ds.reverse))
  | hexadecimal {sign mark s ds} : sign ∈ [[], ['-']] → mark ∈ hexMarks → Grouped hexDigit? s ds →
      Written (sign ++ (mark ++ s)) (signed (sign == ['-']) (Nat.ofDigits 16 ds.reverse))

variable {s t p q : List Char} {ps : List Point} {n : Int} {v : Value} {c : Char} {e : Fault}

theorem digit?_of_isBlank (h : isBlank c = true) : digit? c = none ∧ hexDigit? c = none := by
  have hd : ∀ k ∈ blankCodes, digit? (Char.ofNat k) = none ∧ hexDigit? (Char.ofNat k) = none := by
    decide +kernel
  have hc := hd c.toNat (List.contains_iff_mem.mp h)
  rwa [Char.ofNat_toNat] at hc

theorem isBlank_of_grouped {f : Char → Option Nat} {ds : List Nat}
    (hf : ∀ c, isBlank c = true → f c = none) (h : Grouped f s ds) (hc : c ∈ s) :
    isBlank c = false := by
  refine Bool.eq_false_iff.mpr fun hb => ?_
  rcases h.isSome_of_mem hc with rfl | hd
  · exact absurd hb (by decide)
  · rw [hf c hb] at hd
    cases hd

theorem Written.isBlank (h : Written t n) (hc : c ∈ t) : Text.isBlank c = false := by
  cases h with
  | decimal hs hg _ =>
    rcases List.mem_append.mp hc with hc | hc
    · have hb : ∀ sign ∈ [[], ['+'], ['-']], sign.any Text.isBlank = false := by decide
      exact isBlank_of_any (hb _ hs) hc
    · exact isBlank_of_grouped (fun c h => (digit?_of_isBlank h).1) hg hc
  | hexadecimal hs hm hg =>
    rcases List.mem_append.mp hc with hc | hc
    · have hb : ∀ sign ∈ [[], ['-']], sign.any Text.isBlank = false := by decide
      exact isBlank_of_any (hb _ hs) hc
    rcases List.mem_append.mp hc with hc | hc
    · have hb : ∀ mark ∈ hexMarks, mark.any Text.isBlank = false := by decide
      exact isBlank_of_any (hb _ hm) hc
    · exact isBlank_of_grouped (fun c h => (digit?_of_isBlank h).2) hg hc

theorem Written.trimmed (h : Written t n) (hp : Blanks p) (hq : Blanks q) :
    Trimmed (p ++ t ++ q) t :=
  ⟨⟨p, q, hp, hq, rfl⟩, fun _ hc => h.isBlank (List.mem_of_head? hc),
    fun _ hc => h.isBlank (List.mem_of_getLast? hc)⟩

section Reading
variable {ds : List Nat} {x : Char}

end Reading

section Writing
variable {ds : List Nat} {x : Char}

end Writing

end Settings
end StoredProgram
