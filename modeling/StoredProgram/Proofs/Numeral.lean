import Mathlib.Data.List.TakeDrop
import Mathlib.Data.List.TakeWhile
import Mathlib.Data.Nat.Digits.Defs
import Mathlib.Tactic.SplitIfs
import StoredProgram.Numeral

/-! Numerals by their parts: at most one sign, and digits that single underscores may stand between.
What is read of them, and the digits of a number as it is written. -/

namespace StoredProgram.Numeral
open Text
variable {f : Char → Option Nat} {c : Char} {s t sign : List Char} {ds : List Nat} {b n : Nat}

def Unwritable (n : Int) : Prop := Nat.pow 10 digitLimit ≤ n.natAbs

instance (n : Int) : Decidable (Unwritable n) :=
  inferInstanceAs (Decidable (Nat.pow 10 digitLimit ≤ n.natAbs))

theorem write_eq (n : Int) :
    write n = if Unwritable n then .error .unwritable else .ok (Numeral.text n) := rfl

theorem ofDigits_eq (b : Nat) (ds : List Nat) : ofDigits b ds = Nat.ofDigits b ds.reverse := by
  rw [Nat.ofDigits_eq_foldr, List.foldr_reverse, ofDigits]
  refine congrFun (congrFun (congrArg List.foldl ?_) 0) ds
  funext m d
  exact Nat.add_comm _ _

theorem takeSign_of_head? (h : ∀ c, s.head? = some c → c ≠ '+' ∧ c ≠ '-') :
    takeSign s = (false, s) := by
  unfold takeSign
  split
  · exact absurd rfl (h _ rfl).2
  · exact absurd rfl (h _ rfl).1
  · rfl

/-- Digits with single underscores between them: cut at the underscores the text has no empty piece,
and all else in it are digits. -/
def Grouped (f : Char → Option Nat) (s : List Char) (ds : List Nat) : Prop :=
  [] ∉ s.splitOn '_' ∧ (s.filter (· ≠ '_')).map f = ds.map some

namespace Grouped

theorem isSome_of_mem (h : Grouped f s ds) (hc : c ∈ s) : c = '_' ∨ (f c).isSome = true := by
  by_cases hu : c = '_'
  · exact .inl hu
  · have hm : f c ∈ ds.map some := h.2 ▸ List.mem_map_of_mem (List.mem_filter.mpr ⟨hc, by simpa⟩)
    obtain ⟨d, _, hd⟩ := List.mem_map.mp hm
    exact .inr (hd ▸ rfl)

end Grouped

section Reading
variable {text : List Point} {a : Int}

end Reading

theorem exists_digits (hb : 1 < b) (hf : ∀ d < b, f (Nat.digitChar d) = some d) (n : Nat) :
    ∃ ds : List Nat, (Nat.toDigits b n).map f = ds.map some ∧ Nat.ofDigits b ds.reverse = n := by
  induction n using Nat.strongRecOn with
  | ind n ih =>
    rw [Nat.toDigits_eq_if hb]
    split_ifs with h
    · exact ⟨[n], congrArg ([·]) (hf n h), Nat.ofDigits_singleton⟩
    · have hn : 0 < n := by omega
      obtain ⟨ds, ht, ho⟩ := ih (n / b) (Nat.div_lt_self hn hb)
      refine ⟨ds ++ [n % b], ?_, ?_⟩
      · rw [List.map_append, List.map_append, ht]
        exact congrArg (ds.map some ++ [·]) (hf _ (Nat.mod_lt n (by omega)))
      · rw [List.reverse_append, List.reverse_singleton, List.singleton_append, Nat.ofDigits_cons,
          ho]
        exact Nat.mod_add_div n b

theorem exists_digits_decimal (n : Nat) :
    ∃ ds : List Nat, (decimal n).map digit? = ds.map some ∧ Nat.ofDigits 10 ds.reverse = n :=
  exists_digits (by decide) (by decide +kernel) n

theorem decimal_injective : Function.Injective decimal := by
  intro m n h
  obtain ⟨ds, hd, rfl⟩ := exists_digits_decimal m
  obtain ⟨es, he, rfl⟩ := exists_digits_decimal n
  rw [h, he] at hd
  rw [(List.map_inj_right fun _ _ => Option.some.inj).mp hd]

end StoredProgram.Numeral
