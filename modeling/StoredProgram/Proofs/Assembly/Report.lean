import StoredProgram.Proofs.Assembly.Printing
import StoredProgram.Proofs.DataSetup

/-! What becomes of a text: it is loaded, or its problems are reported, line by line. Only an
operand that is a numeral of too many digits is neither; the first one makes reading fail. -/

namespace StoredProgram

namespace Assembly
open Text
variable {line text word w : List Char} {more lines before after : List (List Char)} {n k : Nat}
  {a : Int} {e : Numeral.Error} {source : String}

def Long (line : List Char) (k : Nat) : Prop :=
  4300 < k ∧ ∃ text word w more a, Holds line text word (w :: more) ∧ Writes w a ∧
    w.countP isDigit = k

theorem short_nil : Short [] := List.forall_mem_nil _

theorem short_cons_iff : Short (line :: lines) ↔ (∀ k, ¬ Long line k) ∧ Short lines := by
  constructor
  · intro h
    refine ⟨?_, h.tail⟩
    rintro k ⟨hk, text, word, w, more, a, hh, hw, rfl⟩
    exact absurd hk (Nat.not_lt.mpr (h line List.mem_cons_self text word w more a hh hw))
  · rintro ⟨hl, hs⟩ l hm text word w more a hh hw
    rcases List.mem_cons.mp hm with rfl | hm
    · exact Nat.le_of_not_lt fun hk => hl _ ⟨hk, text, word, w, more, a, hh, hw, rfl⟩
    · exact hs l hm text word w more a hh hw

theorem exists_long_of_not_short (h : ¬ Short lines) :
    ∃ before line after k, lines = before ++ line :: after ∧ Short before ∧ Long line k := by
  induction lines with
  | nil => exact absurd short_nil h
  | cons line lines ih =>
    by_cases hl : ∃ k, Long line k
    · obtain ⟨k, hl⟩ := hl
      exact ⟨[], line, lines, k, rfl, short_nil, hl⟩
    · have hn : ∀ k, ¬ Long line k := not_exists.mp hl
      have ht : ¬ Short lines := fun hs => h (short_cons_iff.mpr ⟨hn, hs⟩)
      obtain ⟨before, l, after, k, rfl, hb, hk⟩ := ih ht
      exact ⟨line :: before, l, after, k, rfl, short_cons_iff.mpr ⟨hn, hb⟩, hk⟩

theorem not_short_of_long (h : Long line k) : ¬ Short (before ++ line :: after) := by
  obtain ⟨hk, text, word, w, more, a, hh, hw, rfl⟩ := h
  intro hs
  have hm : line ∈ before ++ line :: after := List.mem_append_right _ List.mem_cons_self
  exact absurd hk (Nat.not_lt.mpr (hs line hm text word w more a hh hw))

theorem readLine_of_long (h : Long line k) (n : Nat) :
    readLine n line = .error (.tooManyDigits k) := by
  obtain ⟨hk, text, word, w, more, a, hh, hw, rfl⟩ := h
  have hc : ¬ isComment text = true := fun hc => hh.notComment (isComment_iff.mp hc)
  have ho : ((w :: more).head?.map readOperand).getD (.ok none) =
      .error (.tooManyDigits (w.countP isDigit)) := (readOperand_eq hw).trans (if_pos hk)
  rw [readLine, hh.trimmed.eq, if_neg hc, hh.words.eq, readWords, ho]
  rfl

theorem readLines_of_long (hb : Short before) (h : Long line k) (n : Nat) :
    readLines n (before ++ line :: after) = .error (.tooManyDigits k) := by
  obtain ⟨ss, hr, _⟩ := exists_listing hb n
  rw [readLines_append, hr, Except.ok_bind, readLines, readLine_of_long h]
  rfl

theorem read_error_iff :
    read source = .error e ↔ ∃ before line after k,
      source.toList.splitOn '\n' = before ++ line :: after ∧ Short before ∧ Long line k ∧
      e = .tooManyDigits k := by
  constructor
  · intro h
    have hs : ¬ Short (source.toList.splitOn '\n') := by
      intro hs
      obtain ⟨program, hr, _⟩ := exists_read hs
      cases h.symm.trans hr
    obtain ⟨before, line, after, k, hl, hb, hk⟩ := exists_long_of_not_short hs
    rw [read, lines_eq_splitOn, hl, readLines_of_long hb hk] at h
    exact ⟨before, line, after, k, hl, hb, hk, (Except.error.inj h).symm⟩
  · rintro ⟨before, line, after, k, hl, hb, hk, rfl⟩
    rw [read, lines_eq_splitOn, hl]
    exact readLines_of_long hb hk 1

theorem length_decimal_pow (k : Nat) : (Numeral.decimal (Nat.pow 10 k)).length = k + 1 := by
  have hi : ∀ j, 0 < j → ((Numeral.decimal (10 ^ k)).length ≤ j ↔ k < j) := fun j hj =>
    (Nat.length_toDigits_le_iff (by decide) hj).trans (Nat.pow_lt_pow_iff_right (by decide))
  have hu : (Numeral.decimal (10 ^ k)).length ≤ k + 1 := (hi _ k.succ_pos).mpr k.lt_succ_self
  have hp : 0 < (Numeral.decimal (10 ^ k)).length := List.length_pos_iff.mpr Nat.toDigits_ne_nil
  exact Nat.le_antisymm hu ((hi _ hp).mp (Nat.le_refl _))

theorem long_pow (hn : w ≠ []) (hb : ∀ c ∈ w, isBlank c = false) (hc : '/' ∉ w) (hk : 4300 ≤ k) :
    Long (w ++ ' ' :: Numeral.decimalInt (Nat.pow 10 k)) (k + 1) := by
  let a : Int := (Nat.pow 10 k : Nat)
  have hh : ∀ o : Option Int, Holds (w ++ o.elim [] fun a => ' ' :: Numeral.decimalInt a) _ w
      (o.toList.map Numeral.decimalInt) := fun _ => holds_line hn hb hc
  refine ⟨Nat.lt_succ_of_le hk, _, w, Numeral.decimalInt a, [], a, hh (some a),
    writes_decimalInt a, ?_⟩
  exact (countP_isDigit_decimalInt a).trans (length_decimal_pow k)

theorem newline_not_mem_of_line (hb : ∀ c ∈ w, isBlank c = false) (a : Int) :
    '\n' ∉ w ++ ' ' :: Numeral.decimalInt a := by
  have hn : isBlank '\n' = true := by decide
  simp only [List.mem_append, List.mem_cons, not_or]
  refine ⟨fun hm => ?_, by decide, fun hm => ?_⟩
  · exact absurd hn (Bool.eq_false_iff.mp (hb _ hm))
  · exact absurd hn (Bool.eq_false_iff.mp (isBlank_of_mem_decimalInt hm))

end Assembly

namespace Loading
open Assembly
variable {size : Int} {source : String} {data : DataSetup} {program : List Statement}

theorem loadSource_of_error {e : Numeral.Error} (h : read source = .error e) (size : Int)
    (data : DataSetup) : loadSource size source data = .error (.numeral e) := by
  rw [loadSource, h]
  rfl

theorem loadSource_of_problems (h : read source = .ok program) (hp : problems program ≠ []) :
    ∃ log, loadSource size source data = .ok ⟨none, problems program, log⟩ := by
  obtain ⟨p, ps, hc⟩ := List.exists_cons_of_ne_nil hp
  simp only [loadSource, h, Except.mapError, Except.ok_bind, hc]
  exact ⟨_, rfl⟩

theorem loadSource_of_accepted (hs : 0 < size) (hd : data.Fits) (h : read source = .ok program)
    (hp : problems program = []) :
    ∃ m log, load size (program.map Statement.instruction) data = .ok (m, log) ∧
      loadSource size source data = .ok ⟨some m, [], log⟩ := by
  obtain ⟨⟨m, log⟩, hl⟩ := (load_ok_iff hs (program.map Statement.instruction) data).mpr hd
  refine ⟨m, log, hl, ?_⟩
  simp only [loadSource, h, Except.mapError, Except.ok_bind, hp]
  rw [show load size (program.map (·.instruction)) data = .ok (m, log) from hl]
  rfl

/-- Text without numerals of too many digits is loaded or else reported: each problem with the
number of its line, and each operand that is no numeral as a problem of its line. All other text
fails with the number of digits of the first such numeral, whatever it is to be loaded with. -/
theorem loadSource_loads_or_reports (hs : 0 < size) (hd : data.Fits) (source : String) :
    let lines := source.toList.splitOn '\n'
    (Short lines → ∃ program, read source = .ok program ∧
      (problems program = [] → ∃ m log,
        load size (program.map Statement.instruction) data = .ok (m, log) ∧
        loadSource size source data = .ok ⟨some m, [], log⟩) ∧
      (problems program ≠ [] → ∃ log,
        loadSource size source data = .ok ⟨none, problems program, log⟩) ∧
      (∀ p ∈ problems program, ∃ i < lines.length, ∃ rest,
        p.text = "Line " ++ Numeral.text (1 + i : Nat) ++ ": " ++ rest) ∧
      ∀ (i : Nat) line text word w more, lines[i]? = some line → Holds line text word (w :: more) →
        (∀ a, ¬ Writes w a) →
        "Line " ++ Numeral.text (1 + i : Nat) ++ ": " ++
          ("Invalid operand \"" ++ String.ofList w ++ "\"") ∈ (problems program).map Problem.text) ∧
    (¬ Short lines → ∃ before line after k, lines = before ++ line :: after ∧ Short before ∧
      Long line k ∧ read source = .error (.tooManyDigits k) ∧
      ∀ size data, loadSource size source data = .error (.numeral (.tooManyDigits k))) := by
  intro lines
  constructor
  · intro h
    obtain ⟨program, hr, hl⟩ := exists_read h
    have hm : ∀ p, p ∈ problems program ↔ Broken 1 lines p := fun p =>
      hl.mem_problemsFrom Nat.one_pos 0
    refine ⟨program, hr, loadSource_of_accepted hs hd hr, loadSource_of_problems hr, ?_, ?_⟩
    · intro p hp
      obtain ⟨i, line, text, word, more, hi, _, hn, _⟩ := (hm p).mp hp
      have ht : p.text = "Line " ++ Numeral.text p.line ++ ": " ++ _ := rfl
      rw [hn] at ht
      exact ⟨i, (List.getElem?_eq_some_iff.mp hi).1, _, ht⟩
    · intro i line text word w more hi hh hw
      refine List.mem_map.mpr ⟨⟨(1 + i : Nat), .operandDecimal (String.ofList w)⟩, ?_, rfl⟩
      exact (hm _).mpr ⟨i, line, text, word, w :: more, hi, hh, Nat.cast_add 1 i, .malformed rfl hw⟩
  · intro h
    obtain ⟨before, line, after, k, hl, hb, hk⟩ := exists_long_of_not_short h
    have hr : read source = .error (.tooManyDigits k) :=
      read_error_iff.mpr ⟨before, line, after, k, hl, hb, hk, rfl⟩
    exact ⟨before, line, after, k, hl, hb, hk, hr, loadSource_of_error hr⟩

theorem loadSource_loads_or_reports_over_limit :
    let data := DataSetup.ofPairs [(10, 5)]
    let reported := "LOAD 1O\nHALT"
    let line := "LOAD".toList ++ ' ' :: Numeral.decimalInt (Nat.pow 10 4300)
    (∃ program log, read reported = .ok program ∧
      (problems program).map Problem.text = ["Line 1: Invalid operand \"1O\""] ∧
      loadSource 20 reported data = .ok ⟨none, problems program, log⟩) ∧
    Long line 4301 ∧
    loadSource 20 (String.ofList line) data = .error (.numeral (.tooManyDigits 4301)) := by
  intro data reported line
  have hz : (0 : Int) < 20 := by decide
  have hd : data.Fits := DataSetup.fits_ofPairs _
  have hs : Short (reported.toList.splitOn '\n') := short_of_length (by decide +kernel)
  obtain ⟨program, hr, _, hp, _⟩ := (loadSource_loads_or_reports hz hd reported).1 hs
  have ht : (read reported).map (fun ss => (problems ss).map Problem.text) =
      .ok ["Line 1: Invalid operand \"1O\""] := by decide +kernel
  rw [hr] at ht
  have ht : (problems program).map Problem.text = ["Line 1: Invalid operand \"1O\""] :=
    Except.ok.inj ht
  have hn : problems program ≠ [] := by
    intro hn
    rw [hn] at ht
    cases ht
  obtain ⟨log, hl⟩ := hp hn
  have hb : ∀ c ∈ "LOAD".toList, Text.isBlank c = false := fun _ => Text.isBlank_of_any (by decide)
  have hlong : Long line 4301 := by
    apply long_pow
    case hb => exact hb
    all_goals decide
  have hline : (String.ofList line).toList.splitOn '\n' = [line] := by
    rw [String.toList_ofList]
    exact List.splitOn_eq_singleton (newline_not_mem_of_line hb _)
  have hns : ¬ Short ([] ++ line :: []) := not_short_of_long hlong
  rw [List.nil_append, ← hline] at hns
  obtain ⟨_, _, _, k, _, _, _, hk, hf⟩ :=
    (loadSource_loads_or_reports hz hd (String.ofList line)).2 hns
  have he : read (String.ofList line) = .error (.tooManyDigits 4301) :=
    read_error_iff.mpr ⟨[], line, [], 4301, hline, short_nil, hlong, rfl⟩
  obtain rfl := Numeral.Error.tooManyDigits.inj (Except.error.inj (he.symm.trans hk))
  exact ⟨⟨program, log, hr, ht, hl⟩, hlong, hf 20 data⟩

end Loading
end StoredProgram
