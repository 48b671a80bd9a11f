import Mathlib.Data.List.TakeWhile
import StoredProgram.Text.Blank

/-! What trimming and the cutting into lines and words do, said by the parts of the text: a text is
its words with blanks between them, in one way only. -/

namespace StoredProgram.Text

theorem split_eq_splitOnP {α : Type} (separator : α → Bool) (s : List α) :
    split separator s = s.splitOnP separator := by
  induction s with
  | nil => rfl
  | cons c s ih => rw [split, List.splitOnP_cons_eq_if_modifyHead, ih]

theorem lines_eq_splitOn (s : List Char) : lines s = s.splitOn '\n' := by
  rw [lines, split_eq_splitOnP, List.splitOn_eq_splitOnP]

def Blanks (s : List Char) : Prop := ∀ c ∈ s, isBlank c = true

structure Trimmed (s t : List Char) : Prop where
  parts : ∃ p q, Blanks p ∧ Blanks q ∧ s = p ++ t ++ q
  first : ∀ c, t.head? = some c → isBlank c = false
  last : ∀ c, t.getLast? = some c → isBlank c = false

inductive Words : List Char → List (List Char) → Prop
  | blank {s} : Blanks s → Words s []
  | word {p w s ws} : Blanks p → w ≠ [] → (∀ c ∈ w, isBlank c = false) →
      (∀ c, s.head? = some c → isBlank c = true) → Words s ws → Words (p ++ w ++ s) (w :: ws)

variable {s t w : List Char} {ws : List (List Char)}

theorem isBlank_of_any {c : Char} (h : s.any isBlank = false) (hc : c ∈ s) : isBlank c = false :=
  Bool.eq_false_iff.mpr (List.any_eq_false.mp h c hc)

theorem Blanks.reverse (h : Blanks s) : Blanks s.reverse := fun c hc => h c (List.mem_reverse.mp hc)

theorem blanks_takeWhile (s : List Char) : Blanks (s.takeWhile isBlank) :=
  fun _ hc => List.mem_takeWhile_imp hc

theorem eq_false_of_head?_dropWhile {p : Char → Bool} {c : Char}
    (h : (s.dropWhile p).head? = some c) : p c = false := by
  have hn := List.head?_dropWhile_not p s
  rwa [h] at hn

theorem dropWhile_of_first {p : Char → Bool} (h : ∀ c, s.head? = some c → p c = false) :
    s.dropWhile p = s := by
  cases s with
  | nil => rfl
  | cons c s => rw [List.dropWhile_cons_of_neg (Bool.eq_false_iff.mp (h c rfl))]

theorem trimStart_eq (h : Blanks w) (ht : ∀ c, t.head? = some c → isBlank c = false) :
    trimStart isBlank (w ++ t) = t := by
  rw [trimStart, List.dropWhile_append_of_pos h, dropWhile_of_first ht]

theorem trimEnd_eq (h : Blanks w) (ht : ∀ c, t.getLast? = some c → isBlank c = false) :
    trimEnd isBlank (t ++ w) = t := by
  have hr : ∀ c, t.reverse.head? = some c → isBlank c = false := by
    intro c hc
    rw [List.head?_reverse] at hc
    exact ht c hc
  rw [trimEnd, List.reverse_append, List.dropWhile_append_of_pos h.reverse, dropWhile_of_first hr,
    List.reverse_reverse]

theorem Trimmed.eq (h : Trimmed s t) : trim isBlank s = t := by
  obtain ⟨p, q, hp, hq, rfl⟩ := h.parts
  rw [trim, List.append_assoc]
  cases t with
  | nil =>
    -- all of the text is blank
    rw [trimStart, List.nil_append, List.dropWhile_append_of_pos hp, ← List.append_nil q,
      List.dropWhile_append_of_pos hq]
    rfl
  | cons c t =>
    rw [trimStart_eq hp (t := c :: t ++ q) h.first, trimEnd_eq hq h.last]

theorem trimmed_trim (s : List Char) : Trimmed s (trim isBlank s) := by
  let u := s.dropWhile isBlank
  let q := (u.reverse.takeWhile isBlank).reverse
  have hu : u = trim isBlank s ++ q := by
    have := List.takeWhile_append_dropWhile (p := isBlank) (l := u.reverse)
    rw [← List.reverse_reverse u, ← this, List.reverse_append]
    rfl
  refine ⟨⟨s.takeWhile isBlank, q, blanks_takeWhile s, (blanks_takeWhile _).reverse, ?_⟩, ?_, ?_⟩
  · rw [List.append_assoc, ← hu, List.takeWhile_append_dropWhile]
  · intro c hc
    refine eq_false_of_head?_dropWhile (s := s) ?_
    show u.head? = some c
    rw [hu, List.head?_append, hc]
    rfl
  · intro c hc
    refine eq_false_of_head?_dropWhile (s := u.reverse) ?_
    rw [← List.getLast?_reverse]
    exact hc

theorem words_append_blank (s t : List Char) {c : Char} (h : isBlank c = true) :
    words (s ++ c :: t) = words s ++ words t := by
  rw [words, split_append_separator isBlank s t h, List.filter_append]
  rfl

theorem words_blanks_append (h : Blanks w) (s : List Char) : words (w ++ s) = words s := by
  induction w with
  | nil => rfl
  | cons c w ih =>
    have hc := words_append_blank [] (w ++ s) (h c List.mem_cons_self)
    rw [List.cons_append, ← List.nil_append (c :: (w ++ s)), hc]
    exact ih fun a ha => h a (List.mem_cons_of_mem c ha)

theorem words_of_word (hn : w ≠ []) (h : ∀ c ∈ w, isBlank c = false) : words w = [w] := by
  have hs : split isBlank w = [w] := by
    rw [split_eq_splitOnP, List.splitOnP_eq_singleton h]
  rw [words, hs, List.filter_cons_of_pos (by simpa using hn), List.filter_nil]

theorem words_word_append (hn : w ≠ []) (h : ∀ c ∈ w, isBlank c = false)
    (hs : ∀ c, s.head? = some c → isBlank c = true) : words (w ++ s) = w :: words s := by
  cases s with
  | nil => rw [List.append_nil, words_of_word hn h]; rfl
  | cons c s =>
    have hc := hs c rfl
    have hb : words (c :: s) = words s := words_append_blank [] s hc
    rw [words_append_blank w s hc, words_of_word hn h, hb]
    rfl

theorem Words.eq (h : Words s ws) : words s = ws := by
  induction h with
  | blank hs =>
    have hn := words_blanks_append hs []
    rwa [List.append_nil] at hn
  | word hp hn hw hs _ ih =>
    rw [List.append_assoc, words_blanks_append hp, words_word_append hn hw hs, ih]

theorem exists_words (s : List Char) : ∃ ws, Words s ws := by
  -- the blanks and the word at the front are taken off, and what follows is shorter
  by_cases hu : s.dropWhile isBlank = []
  · exact ⟨[], .blank (List.dropWhile_eq_nil_iff.mp hu)⟩
  let u := s.dropWhile isBlank
  let w := u.takeWhile fun c => !isBlank c
  let r := u.dropWhile fun c => !isBlank c
  have hs : s = s.takeWhile isBlank ++ w ++ r := by
    rw [List.append_assoc, List.takeWhile_append_dropWhile, List.takeWhile_append_dropWhile]
  have hw : w ≠ [] := by
    intro hw
    obtain ⟨c, v, hv⟩ := List.exists_cons_of_ne_nil hu
    have hc : isBlank c = false := eq_false_of_head?_dropWhile (s := s) (by rw [hv]; rfl)
    simp [w, u, hv, hc] at hw
  have hr : r.length < s.length := by
    have := congrArg List.length hs
    have := List.length_pos_iff.mpr hw
    simp only [List.length_append] at *
    omega
  obtain ⟨ws, hws⟩ := exists_words r
  refine ⟨w :: ws, hs ▸ .word (blanks_takeWhile s) hw ?_ ?_ hws⟩
  · intro c hc
    simpa using List.mem_takeWhile_imp hc
  · intro c hc
    simpa using eq_false_of_head?_dropWhile hc
termination_by s.length

theorem words_iff : Words s ws ↔ words s = ws := by
  refine ⟨Words.eq, fun h => ?_⟩
  obtain ⟨vs, hv⟩ := exists_words s
  rwa [← h, hv.eq]

theorem Words.length_le (h : Words s ws) :
    ∀ w ∈ ws, w.length ≤ s.length := by
  induction h with
  | blank => exact nofun
  | word _ _ _ _ _ ih =>
    intro v hv
    simp only [List.length_append]
    rcases List.mem_cons.mp hv with rfl | hv
    · omega
    · have := ih v hv
      omega

end StoredProgram.Text
