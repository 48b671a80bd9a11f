import Mathlib.Data.Nat.Digits.Defs
import StoredProgram.Assembly.Check
import StoredProgram.Proofs.Numeral
import StoredProgram.Proofs.Text.Word

/-! The grammar of assembly text, line by line, and what a line denotes. It is said by the parts of
a line and not by the way in which they are found. -/

namespace StoredProgram.Assembly
open Text

/-- One or more decimal digits, of any script, that write the number in base ten. -/
def Decimal (w : List Char) (n : Nat) : Prop :=
  ∃ ds : List Nat, ds ≠ [] ∧ w.map digit? = ds.map some ∧ n = Nat.ofDigits 10 ds.reverse

inductive Writes : List Char → Int → Prop
  | plain {w n} : Decimal w n → Writes w n
  | plus {w n} : Decimal w n → Writes ('+' :: w) n
  | minus {w n} : Decimal w n → Writes ('-' :: w) (-n)

def Skipped (line : List Char) : Prop :=
  ∃ text, Trimmed line text ∧ (text = [] ∨ ['/', '/'] <+: text)

/-- A line that is neither blank nor a comment, with its trimmed text, the first word of it and the
words after that. -/
structure Holds (line text word : List Char) (more : List (List Char)) : Prop where
  trimmed : Trimmed line text
  notComment : ¬ ['/', '/'] <+: text
  words : Words text (word :: more)

/-- What such a line denotes: only the first two words count. -/
structure Denotes (line : Nat) (text word : List Char) (more : List (List Char))
    (s : Statement) : Prop where
  line : s.line = some (line : Int)
  source : s.source = String.ofList text
  opcode : s.opcode = String.ofList (capitals word)
  operandText : s.operandText = more.head?.map String.ofList
  operand : ∀ a, s.operand = some a ↔ ∃ w, more.head? = some w ∧ Writes w a

/-- The statements of consecutive lines, numbered from the given number on: one for each line that
holds one. -/
inductive Listing : Nat → List (List Char) → List Statement → Prop
  | nil {n} : Listing n [] []
  | skip {n line lines ss} : Skipped line → Listing (n + 1) lines ss → Listing n (line :: lines) ss
  | hold {n line lines text word more s ss} : Holds line text word more →
      Denotes n text word more s → Listing (n + 1) lines ss → Listing n (line :: lines) (s :: ss)

/-- No operand in the lines is a numeral of more than 4300 digits. -/
def Short (lines : List (List Char)) : Prop :=
  ∀ line ∈ lines, ∀ text word w more a, Holds line text word (w :: more) → Writes w a →
    w.countP isDigit ≤ 4300

section Numeral
variable {w : List Char} {n : Nat} {a b : Int}

theorem map_digit?_of_all (h : w.all isDigit = true) :
    w.map digit? = (w.filterMap digit?).map some := by
  induction w with
  | nil => rfl
  | cons c w ih =>
    rw [List.all_cons, Bool.and_eq_true] at h
    obtain ⟨d, hd⟩ := Option.isSome_iff_exists.mp h.1
    rw [List.map_cons, List.filterMap_cons_some hd, List.map_cons, ih h.2, hd]

theorem filterMap_digit?_of_map {ds : List Nat} (h : w.map digit? = ds.map some) :
    w.filterMap digit? = ds := by
  have hf := congrArg (List.filterMap id) h
  rwa [List.filterMap_map, List.filterMap_map, Function.id_comp, Function.id_comp,
    List.filterMap_some] at hf

theorem all_isDigit_of_map {ds : List Nat} (h : w.map digit? = ds.map some) :
    w.all isDigit = true := by
  rw [List.all_eq_true]
  intro c hc
  have hm : digit? c ∈ ds.map some := h ▸ List.mem_map_of_mem hc
  obtain ⟨d, _, hd⟩ := List.mem_map.mp hm
  rw [isDigit, ← hd]
  rfl

theorem decimal_iff :
    Decimal w n ↔ w ≠ [] ∧ w.all isDigit = true ∧
      n = Numeral.ofDigits 10 (w.filterMap digit?) := by
  constructor
  · rintro ⟨ds, hn, hm, rfl⟩
    refine ⟨?_, all_isDigit_of_map hm, ?_⟩
    · rintro rfl
      exact hn (List.map_eq_nil_iff.mp hm.symm)
    · rw [filterMap_digit?_of_map hm, Numeral.ofDigits_eq]
  · rintro ⟨hn, ha, rfl⟩
    have hm := map_digit?_of_all ha
    refine ⟨w.filterMap digit?, ?_, hm, Numeral.ofDigits_eq 10 _⟩
    intro hf
    rw [hf] at hm
    exact hn (List.map_eq_nil_iff.mp hm)

theorem takeSign_of_decimal (h : Decimal w n) : Numeral.takeSign w = (false, w) := by
  obtain ⟨hn, ha, _⟩ := decimal_iff.mp h
  obtain ⟨c, v, rfl⟩ := List.exists_cons_of_ne_nil hn
  rw [List.all_cons, Bool.and_eq_true] at ha
  refine Numeral.takeSign_of_head? ?_
  rintro _ ⟨⟩
  exact ⟨fun hc => absurd (hc ▸ ha.1) (by decide), fun hc => absurd (hc ▸ ha.1) (by decide)⟩

theorem writes_iff :
    Writes w a ↔ ∃ n, Decimal (Numeral.takeSign w).2 n ∧
      a = Numeral.signed (Numeral.takeSign w).1 n := by
  constructor
  · rintro (h | h | h)
    · rw [takeSign_of_decimal h]
      exact ⟨_, h, rfl⟩
    · exact ⟨_, h, rfl⟩
    · exact ⟨_, h, rfl⟩
  · rintro ⟨n, h, rfl⟩
    unfold Numeral.takeSign at h ⊢
    split at h
    · exact .minus h
    · exact .plus h
    · exact .plain h

theorem Decimal.unique {m : Nat} (h : Decimal w n) (h' : Decimal w m) : n = m := by
  rw [(decimal_iff.mp h).2.2, (decimal_iff.mp h').2.2]

theorem Writes.unique (h : Writes w a) (h' : Writes w b) : a = b := by
  obtain ⟨n, hn, rfl⟩ := writes_iff.mp h
  obtain ⟨m, hm, rfl⟩ := writes_iff.mp h'
  rw [hn.unique hm]

theorem countP_isDigit (h : Writes w a) : w.countP isDigit = (Numeral.takeSign w).2.length := by
  have hl : ∀ {v : List Char} {n : Nat}, Decimal v n → v.countP isDigit = v.length := by
    intro v n h
    rw [List.countP_eq_length]
    exact List.all_eq_true.mp (decimal_iff.mp h).2.1
  rcases h with h | h | h
  · rw [takeSign_of_decimal h, hl h]
  · rw [List.countP_cons_of_neg (by decide), hl h]
    rfl
  · rw [List.countP_cons_of_neg (by decide), hl h]
    rfl

theorem readOperand_eq (h : Writes w a) :
    readOperand w = if 4300 < w.countP isDigit then .error (.tooManyDigits (w.countP isDigit))
      else .ok (some a) := by
  rw [countP_isDigit h]
  obtain ⟨n, hd, rfl⟩ := writes_iff.mp h
  obtain ⟨hn, ha, rfl⟩ := decimal_iff.mp hd
  have hc : ((Numeral.takeSign w).2.isEmpty || !(Numeral.takeSign w).2.all isDigit) = false := by
    rw [ha, List.isEmpty_eq_false_iff.mpr hn]
    rfl
  simp only [readOperand, hc, Bool.false_eq_true, if_false]
  rfl

theorem readOperand_of_writes (h : Writes w a) (hs : w.countP isDigit ≤ 4300) :
    readOperand w = .ok (some a) := (readOperand_eq h).trans (if_neg (Nat.not_lt.mpr hs))

theorem readOperand_of_not_writes (h : ∀ a, ¬ Writes w a) : readOperand w = .ok none := by
  have hc : ((Numeral.takeSign w).2.isEmpty || !(Numeral.takeSign w).2.all isDigit) = true := by
    by_contra hc
    rw [Bool.not_eq_true, Bool.or_eq_false_iff, List.isEmpty_eq_false_iff,
      Bool.not_eq_false'] at hc
    exact h _ (writes_iff.mpr ⟨_, decimal_iff.mpr ⟨hc.1, hc.2, rfl⟩, rfl⟩)
  simp only [readOperand, hc, if_true]

end Numeral

end StoredProgram.Assembly
