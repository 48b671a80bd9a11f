import Mathlib.Data.Nat.Digits.Lemmas
import Mathlib.Tactic.SplitIfs
import StoredProgram.Proofs.Assembly.Grammar

/-! The decimal text of an integer as an operand: it writes the integer, and it has no more digits
than any other operand that does. -/

namespace StoredProgram.Assembly
open Text
variable {c : Char} {w : List Char} {n : Nat} {a : Int}

theorem isBlank_of_isDigit (h : c.isDigit = true) : isBlank c = false := by
  have hb : ∀ n ∈ blankCodes, n < 48 ∨ 57 < n := by decide
  obtain ⟨hl, hu⟩ : 48 ≤ c.toNat ∧ c.toNat ≤ 57 := Char.isDigit_iff_toNat.mp h
  rw [isBlank, List.contains_eq_mem, decide_eq_false_iff_not]
  intro hm
  have := hb _ hm
  omega

theorem isDigit_of_mem_decimal (h : c ∈ Numeral.decimal n) : c.isDigit = true :=
  Nat.isDigit_of_mem_toDigits (by decide) (by decide) h

theorem decimal_decimal (n : Nat) : Decimal (Numeral.decimal n) n := by
  obtain ⟨ds, hd, ho⟩ := Numeral.exists_digits_decimal n
  refine ⟨ds, ?_, hd, ho.symm⟩
  rintro rfl
  exact Nat.toDigits_ne_nil (List.map_eq_nil_iff.mp hd)

theorem writes_decimalInt (a : Int) : Writes (Numeral.decimalInt a) a := by
  unfold Numeral.decimalInt
  split_ifs with h
  · have hw := Writes.minus (decimal_decimal a.natAbs)
    rwa [show -(a.natAbs : Int) = a by omega] at hw
  · have hw := Writes.plain (decimal_decimal a.natAbs)
    rwa [show (a.natAbs : Int) = a by omega] at hw

theorem isBlank_of_mem_decimalInt (h : c ∈ Numeral.decimalInt a) : isBlank c = false := by
  have hd : ∀ c ∈ Numeral.decimal a.natAbs, isBlank c = false := fun c hc =>
    isBlank_of_isDigit (isDigit_of_mem_decimal hc)
  unfold Numeral.decimalInt at h
  split_ifs at h
  · rcases List.mem_cons.mp h with rfl | h
    · rfl
    · exact hd c h
  · exact hd c h

theorem decimalInt_ne_nil (a : Int) : Numeral.decimalInt a ≠ [] := by
  unfold Numeral.decimalInt
  split_ifs
  · exact List.cons_ne_nil _ _
  · exact Nat.toDigits_ne_nil

theorem countP_isDigit_decimalInt (a : Int) :
    (Numeral.decimalInt a).countP isDigit = (Numeral.decimal a.natAbs).length := by
  rw [countP_isDigit (writes_decimalInt a)]
  unfold Numeral.decimalInt
  split_ifs
  · rfl
  · rw [takeSign_of_decimal (decimal_decimal _)]

theorem write_of_length_le (h : (Numeral.decimal a.natAbs).length ≤ 4300) :
    Numeral.write a = .ok (Numeral.text a) := by
  have hn : a.natAbs < 10 ^ Numeral.digitLimit :=
    (Nat.length_toDigits_le_iff (by decide) (by decide)).mp h
  rw [Numeral.write, Nat.pow_eq, if_neg (Nat.not_le.mpr hn)]

theorem length_decimal_le (h : Decimal w n) :
    (Numeral.decimal n).length ≤ w.length := by
  obtain ⟨ds, hn, hm, rfl⟩ := h
  have hl : w.length = ds.length := by
    simpa only [List.length_map] using congrArg List.length hm
  have hd : ∀ d ∈ ds.reverse, d < 10 := by
    intro d hd
    have hs : some d ∈ w.map digit? := hm ▸ List.mem_map_of_mem (List.mem_reverse.mp hd)
    obtain ⟨c, _, hc⟩ := List.mem_map.mp hs
    exact digit?_lt hc
  have hb := Nat.ofDigits_lt_base_pow_length (by decide) hd
  rw [List.length_reverse] at hb
  rw [hl]
  exact (Nat.length_toDigits_le_iff (by decide) (List.length_pos_iff.mpr hn)).mpr hb

theorem natAbs_signed (negative : Bool) (n : Nat) : (Numeral.signed negative n).natAbs = n := by
  cases negative with
  | false => rfl
  | true => exact Int.natAbs_neg n

theorem length_of_readOperand (h : readOperand w = .ok (some a)) :
    (Numeral.decimal a.natAbs).length ≤ 4300 := by
  unfold readOperand at h
  dsimp only at h
  split_ifs at h with hc hl
  · cases h
  · obtain rfl := Option.some.inj (Except.ok.inj h)
    rw [Bool.not_eq_true, Bool.or_eq_false_iff, List.isEmpty_eq_false_iff, Bool.not_eq_false'] at hc
    rw [natAbs_signed]
    exact (length_decimal_le (decimal_iff.mpr ⟨hc.1, hc.2, rfl⟩)).trans (Nat.le_of_not_lt hl)

end StoredProgram.Assembly
