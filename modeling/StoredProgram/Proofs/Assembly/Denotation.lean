import Mathlib.Tactic.SplitIfs
import StoredProgram.Proofs.Assembly.Grammar
import StoredProgram.Proofs.Except

/-! Reading a text yields what its lines denote, one statement for each line that holds one. -/

namespace StoredProgram.Assembly
open Text

variable {line text word : List Char} {more lines : List (List Char)} {n : Nat} {s : Statement}
  {ss : List Statement}

theorem isComment_iff : isComment text = true ↔ ['/', '/'] <+: text := by
  unfold isComment
  split
  · exact iff_of_true rfl (List.prefix_append ['/', '/'] _)
  · next h =>
    refine iff_of_false Bool.false_ne_true fun ⟨t, ht⟩ => ?_
    exact h t ht.symm

theorem Holds.unique {text' word' : List Char} {more' : List (List Char)}
    (h : Holds line text word more) (h' : Holds line text' word' more') :
    text = text' ∧ word = word' ∧ more = more' := by
  obtain rfl := h.trimmed.eq.symm.trans h'.trimmed.eq
  exact ⟨rfl, List.cons.inj (h.words.eq.symm.trans h'.words.eq)⟩

theorem Holds.not_skipped (h : Holds line text word more) : ¬ Skipped line := by
  rintro ⟨t, ht, hb⟩
  obtain rfl := h.trimmed.eq.symm.trans ht.eq
  refine hb.elim (fun hn => ?_) h.notComment
  have hw := h.words.eq
  rw [hn] at hw
  cases hw

theorem eq_nil_of_trimmed (h : Trimmed line text) (hb : Blanks text) : text = [] := by
  cases text with
  | nil => rfl
  | cons c t => exact absurd ((hb c List.mem_cons_self).symm.trans (h.first c rfl)) (by decide)

theorem skipped_or_holds (line : List Char) :
    Skipped line ∨ ∃ text word more, Holds line text word more := by
  obtain ⟨text, ht⟩ : ∃ t, Trimmed line t := ⟨_, trimmed_trim line⟩
  by_cases hc : ['/', '/'] <+: text
  · exact .inl ⟨text, ht, .inr hc⟩
  obtain ⟨ws, hw⟩ := exists_words text
  cases hw with
  | blank hb => exact .inl ⟨text, ht, .inl (eq_nil_of_trimmed ht hb)⟩
  | word hp hn hw hs hws => exact .inr ⟨_, _, _, ht, hc, .word hp hn hw hs hws⟩

theorem readLine_of_skipped (h : Skipped line) (n : Nat) : readLine n line = .ok none := by
  obtain ⟨t, ht, hb⟩ := h
  rw [readLine, ht.eq]
  rcases hb with rfl | hc
  · rfl
  · exact if_pos (isComment_iff.mpr hc)

theorem readOperand_head (more : List (List Char))
    (hs : ∀ w a, more.head? = some w → Writes w a → w.countP isDigit ≤ 4300) :
    ∃ operand, (more.head?.map readOperand).getD (.ok none) = .ok operand ∧
      ∀ a, operand = some a ↔ ∃ w, more.head? = some w ∧ Writes w a := by
  cases more with
  | nil => exact ⟨none, rfl, fun a => iff_of_false nofun fun ⟨_, h, _⟩ => nomatch h⟩
  | cons w more =>
    by_cases hw : ∃ a, Writes w a
    · obtain ⟨a, ha⟩ := hw
      refine ⟨some a, readOperand_of_writes ha (hs w a rfl ha), fun b => ?_⟩
      constructor
      · intro h
        obtain rfl := Option.some.inj h
        exact ⟨w, rfl, ha⟩
      · rintro ⟨v, hv, hb⟩
        obtain rfl := Option.some.inj hv
        rw [ha.unique hb]
    · have hn : ∀ a, ¬ Writes w a := fun a ha => hw ⟨a, ha⟩
      refine ⟨none, readOperand_of_not_writes hn, fun b => iff_of_false nofun ?_⟩
      rintro ⟨v, hv, hb⟩
      obtain rfl := Option.some.inj hv
      exact hn b hb

theorem readLine_of_holds (h : Holds line text word more) (n : Nat)
    (hs : ∀ w a, more.head? = some w → Writes w a → w.countP isDigit ≤ 4300) :
    ∃ s, readLine n line = .ok (some s) ∧ Denotes n text word more s := by
  obtain ⟨operand, ho, ha⟩ := readOperand_head more hs
  have hc : ¬ isComment text = true := fun hc => h.notComment (isComment_iff.mp hc)
  refine ⟨⟨String.ofList (capitals word), operand, String.ofList text,
    more.head?.map String.ofList, some n⟩, ?_, rfl, rfl, rfl, rfl, ha⟩
  rw [readLine, h.trimmed.eq, if_neg hc, h.words.eq, readWords, ho]
  rfl

theorem readWords_of_readLine (h : readLine n line = .ok (some s)) :
    ∃ (opcode : List Char) (args : List (List Char)) (operand : Option Int),
      (args.head?.map readOperand).getD (.ok none) = .ok operand ∧
      s = ⟨String.ofList (capitals opcode), operand, String.ofList (trim isBlank line),
        args.head?.map String.ofList, some n⟩ := by
  rw [readLine] at h
  split_ifs at h
  · cases h
  · cases hw : words (trim isBlank line) with
    | nil =>
      rw [hw] at h
      cases h
    | cons opcode args =>
      rw [hw, readWords] at h
      obtain ⟨operand, ho, h⟩ := Except.bind_eq_ok_iff.mp h
      exact ⟨opcode, args, operand, ho, (Option.some.inj (Except.ok.inj h)).symm⟩

theorem Short.tail (h : Short (line :: lines)) : Short lines :=
  fun l hl => h l (List.mem_cons_of_mem line hl)

theorem exists_listing (h : Short lines) (n : Nat) :
    ∃ ss, readLines n lines = .ok ss ∧ Listing n lines ss := by
  induction lines generalizing n with
  | nil => exact ⟨[], rfl, .nil⟩
  | cons line lines ih =>
    obtain ⟨ss, hr, hl⟩ := ih h.tail (n + 1)
    rcases skipped_or_holds line with hk | ⟨text, word, more, hh⟩
    · refine ⟨ss, ?_, .skip hk hl⟩
      rw [readLines, readLine_of_skipped hk, hr]
      rfl
    · have hs : ∀ w a, more.head? = some w → Writes w a → w.countP isDigit ≤ 4300 := by
        intro w a hw ha
        obtain ⟨more, rfl⟩ : ∃ vs, more = w :: vs := List.head?_eq_some_iff.mp hw
        exact h line List.mem_cons_self text word w more a hh ha
      obtain ⟨s, hd, hs⟩ := readLine_of_holds hh n hs
      refine ⟨s :: ss, ?_, .hold hh hs hl⟩
      rw [readLines, hd, hr]
      rfl

theorem exists_read {source : String} (h : Short (source.toList.splitOn '\n')) :
    ∃ program, read source = .ok program ∧ Listing 1 (source.toList.splitOn '\n') program := by
  rw [read, lines_eq_splitOn]
  exact exists_listing h 1

end StoredProgram.Assembly
