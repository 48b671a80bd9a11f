import StoredProgram.Proofs.Assembly.Acceptance

/-! Texts one after the other, and texts with more or fewer lines that hold no statement. What is read
of a line depends on its number only by carrying it, so that the lines of a second text keep their
statements and problems, at numbers that lie further on. -/

namespace StoredProgram.Assembly
open Text

def Statement.below (m : Nat) (s : Statement) : Statement := { s with line := s.line.map (· + m) }

def Problem.below (m : Nat) (p : Problem) : Problem := { p with line := p.line + m }

def Statement.unplaced (s : Statement) : Statement := { s with line := none }

def lineCount (source : String) : Nat := source.toList.count '\n' + 1

def Numbered (ss : List Statement) (ks : List Nat) : Prop :=
  ss.map Statement.line = ks.map (fun k : Nat => some (k : Int)) ∧ ks.Pairwise (· < ·) ∧ ∀ k ∈ ks, 0 < k

instance : DecidablePred Skipped := fun line =>
  decidable_of_iff (trim isBlank line = [] ∨ ['/', '/'] <+: trim isBlank line)
    ⟨fun h => ⟨_, trimmed_trim line, h⟩, fun ⟨_, ht, h⟩ => ht.eq ▸ h⟩

variable {line : List Char} {lines ls ls' : List (List Char)} {n : Nat} {s : Statement}
  {ss p q : List Statement}

theorem readWords_add (n m : Nat) (source : List Char) (ws : List (List Char)) :
    readWords (n + m) source ws = (readWords n source ws).map (Option.map (Statement.below m)) := by
  cases ws with
  | nil => rfl
  | cons opcode args =>
    rw [readWords, readWords]
    cases (args.head?.map readOperand).getD (.ok none) <;> rfl

theorem readLine_add (n m : Nat) (line : List Char) :
    readLine (n + m) line = (readLine n line).map (Option.map (Statement.below m)) := by
  by_cases hc : isComment (trim isBlank line) = true
  · rw [readLine, readLine, if_pos hc, if_pos hc]
    rfl
  · rw [readLine, readLine, if_neg hc, if_neg hc, readWords_add]

theorem readLines_add (n m : Nat) (lines : List (List Char)) :
    readLines (n + m) lines = (readLines n lines).map (List.map (Statement.below m)) := by
  induction lines generalizing n with
  | nil => rfl
  | cons line lines ih =>
    rw [readLines, readLines, readLine_add, Nat.add_right_comm, ih]
    rcases readLine n line with _ | _ | s
    · rfl
    · cases readLines (n + 1) lines <;> rfl
    · cases readLines (n + 1) lines <;> rfl

theorem readLines_append (n : Nat) (ls ls' : List (List Char)) :
    readLines n (ls ++ ls') = do
      let p ← readLines n ls
      let q ← readLines (n + ls.length) ls'
      return p ++ q := by
  induction ls generalizing n with
  | nil =>
    show readLines n ls' = readLines n ls' >>= fun q => .ok q
    cases readLines n ls' <;> rfl
  | cons line ls ih =>
    rw [List.cons_append, readLines, readLines, ih, List.length_cons,
      show n + 1 + ls.length = n + (ls.length + 1) by omega]
    cases readLine n line with
    | error e => rfl
    | ok first =>
      simp only [Except.ok_bind]
      cases readLines (n + 1) ls with
      | error e => rfl
      | ok p =>
        simp only [Except.ok_bind]
        cases readLines (n + (ls.length + 1)) ls' with
        | error e => rfl
        | ok q => exact congrArg Except.ok (List.append_assoc _ _ _).symm

theorem line_of_readLine (h : readLine n line = .ok (some s)) : s.line = some (n : Int) := by
  obtain ⟨_, _, _, _, rfl⟩ := readWords_of_readLine h
  rfl

theorem sublist_readLines (h : readLines n lines = .ok ss) :
    (ss.map Statement.line).Sublist
      ((List.range' n lines.length).map fun k : Nat => some (k : Int)) := by
  induction lines generalizing n ss with
  | nil =>
    obtain rfl := Except.ok.inj h
    exact .slnil
  | cons line lines ih =>
    rw [readLines] at h
    obtain ⟨first, hf, h⟩ := Except.bind_eq_ok_iff.mp h
    obtain ⟨rest, hr, h⟩ := Except.bind_eq_ok_iff.mp h
    obtain rfl := Except.ok.inj h
    rw [List.length_cons, List.range'_succ, List.map_cons]
    cases first with
    | none => exact (ih hr).cons _
    | some s =>
      rw [Option.toList_some, List.singleton_append, List.map_cons, line_of_readLine hf]
      exact (ih hr).cons_cons _

theorem exists_numbered (h : readLines n lines = .ok ss) (hn : 0 < n) : ∃ ks, Numbered ss ks := by
  obtain ⟨ks, hs, hk⟩ := List.sublist_map_iff.mp (sublist_readLines h)
  refine ⟨ks, hk, List.Pairwise.sublist hs List.pairwise_lt_range', fun k hm => ?_⟩
  have := List.mem_range'_1.mp (hs.mem hm)
  omega

theorem Numbered.exists_line {ks : List Nat} (h : Numbered ss ks) :
    ∀ s ∈ ss, ∃ k : Nat, 0 < k ∧ s.line = some (k : Int) := by
  intro s hs
  have hm : s.line ∈ ks.map fun k : Nat => some (k : Int) := h.1 ▸ List.mem_map_of_mem hs
  obtain ⟨k, hk, hl⟩ := List.mem_map.mp hm
  exact ⟨k, h.2.2 k hk, hl.symm⟩

theorem lineAt_below {k : Nat} (hl : s.line = some (k : Int)) (hk : 0 < k) (m i j : Nat) :
    (s.below m).lineAt i = s.lineAt j + m := by
  have hz : ¬ (k : Int) = 0 := by omega
  have hz' : ¬ (k : Int) + m = 0 := by omega
  simp only [Statement.lineAt, Statement.below, hl, Option.map_some, if_neg hz, if_neg hz']

theorem problemsFrom_below (h : ∀ s ∈ ss, ∃ k : Nat, 0 < k ∧ s.line = some (k : Int)) (m i j : Nat) :
    problemsFrom i (ss.map (Statement.below m)) =
      (problemsFrom j ss).map (Problem.below m) := by
  induction ss generalizing i j with
  | nil => rfl
  | cons s ss ih =>
    obtain ⟨⟨k, hk, hl⟩, h⟩ := List.forall_mem_cons.mp h
    rw [List.map_cons, problemsFrom_cons, problemsFrom_cons, List.map_append, List.map_map,
      ih h (i + 1) (j + 1)]
    refine congrArg (· ++ _) (List.map_congr_left fun r _ => ?_)
    exact congrArg (Problem.mk · r) (lineAt_below hl hk m i j)

theorem problemsFrom_append (i : Nat) (p q : List Statement) :
    problemsFrom i (p ++ q) = problemsFrom i p ++ problemsFrom (i + p.length) q := by
  rw [problemsFrom, List.zipIdx_append, List.flatMap_append]
  rfl

theorem map_rule_problemsFrom (i : Nat) (ss : List Statement) :
    (problemsFrom i ss).map Problem.rule = ss.flatMap Statement.brokenRules := by
  induction ss generalizing i with
  | nil => rfl
  | cons s ss ih =>
    rw [problemsFrom_cons, List.map_append, List.map_map, ih, List.flatMap_cons]
    exact congrArg (· ++ _) (List.map_id' _)

theorem map_rule_problems_congr (h : p.map Statement.unplaced = q.map Statement.unplaced) :
    (problems p).map Problem.rule = (problems q).map Problem.rule := by
  have hf := congrArg (List.flatMap Statement.brokenRules) h
  rw [List.flatMap_map, List.flatMap_map] at hf
  exact (map_rule_problemsFrom 0 p).trans (hf.trans (map_rule_problemsFrom 0 q).symm)

theorem unplaced_readLine (n m : Nat) (line : List Char) :
    (readLine n line).map (Option.map Statement.unplaced) =
      (readLine m line).map (Option.map Statement.unplaced) := by
  have h0 : ∀ n, (readLine n line).map (Option.map Statement.unplaced) =
      (readLine 0 line).map (Option.map Statement.unplaced) := by
    intro n
    rw [← Nat.zero_add n, readLine_add]
    rcases readLine 0 line with _ | _ | s <;> rfl
  rw [h0 n, h0 m]

theorem unplaced_readLines_cons (n : Nat) (line : List Char) (lines : List (List Char)) :
    (readLines n (line :: lines)).map (List.map Statement.unplaced) = do
      let first ← (readLine n line).map (Option.map Statement.unplaced)
      let rest ← (readLines (n + 1) lines).map (List.map Statement.unplaced)
      return first.toList ++ rest := by
  rw [readLines]
  rcases readLine n line with _ | _ | s
  · rfl
  · cases readLines (n + 1) lines <;> rfl
  · cases readLines (n + 1) lines <;> rfl

theorem unplaced_readLines_filter (n m : Nat) (lines : List (List Char)) :
    (readLines n lines).map (List.map Statement.unplaced) =
      (readLines m (lines.filter (¬ Skipped ·))).map (List.map Statement.unplaced) := by
  induction lines generalizing n m with
  | nil => rfl
  | cons line lines ih =>
    by_cases hs : Skipped line
    · rw [List.filter_cons_of_neg (by simpa using hs), ← ih (n + 1) m, readLines,
        readLine_of_skipped hs]
      cases readLines (n + 1) lines <;> rfl
    · rw [List.filter_cons_of_pos (by simpa using hs), unplaced_readLines_cons,
        unplaced_readLines_cons, unplaced_readLine n m, ih (n + 1) (m + 1)]

theorem exists_numbered_of_read {source : String} (h : read source = .ok p) :
    ∃ ks, Numbered p ks :=
  exists_numbered h Nat.one_pos

theorem read_append_newline (a b : String) :
    read (a ++ "\n" ++ b) = do
      let p ← read a
      let q ← read b
      return p ++ q.map (Statement.below (lineCount a)) := by
  have hl : Text.lines (a ++ "\n" ++ b).toList = Text.lines a.toList ++ Text.lines b.toList := by
    rw [String.toList_append, String.toList_append, List.append_assoc]
    exact split_append_separator (· == '\n') a.toList b.toList rfl
  have hn : (Text.lines a.toList).length = lineCount a := length_split _ _
  simp only [read, hl, readLines_append, readLines_add, hn]
  cases readLines 1 (Text.lines a.toList) with
  | error e => rfl
  | ok p => cases readLines 1 (Text.lines b.toList) <;> rfl

theorem problems_append_below (m : Nat) {ks : List Nat} (h : Numbered q ks) :
    problems (p ++ q.map (Statement.below m)) =
      problems p ++ (problems q).map (Problem.below m) := by
  have hb := problemsFrom_below h.exists_line m (0 + p.length) 0
  exact (problemsFrom_append 0 p _).trans (congrArg (problemsFrom 0 p ++ ·) hb)

theorem unplaced_read_congr {a b : String}
    (h : (a.toList.splitOn '\n').filter (¬ Skipped ·) =
      (b.toList.splitOn '\n').filter (¬ Skipped ·)) :
    (read a).map (List.map Statement.unplaced) = (read b).map (List.map Statement.unplaced) := by
  rw [read, read, lines_eq_splitOn, lines_eq_splitOn, unplaced_readLines_filter 1 1, h,
    ← unplaced_readLines_filter 1 1]

/-- A text before a line break is read as if it stood alone, and so is the text after it but for the
numbers of its lines. Lines without a statement change no more than these numbers, which are in
order. -/
theorem read_append_lines (a b : String) :
    (read (a ++ "\n" ++ b) = do
      let p ← read a
      let q ← read b
      return p ++ q.map (Statement.below (lineCount a))) ∧
    (∀ p q, read a = .ok p → read b = .ok q →
      problems (p ++ q.map (Statement.below (lineCount a))) =
        problems p ++ (problems q).map (Problem.below (lineCount a))) ∧
    ((a.toList.splitOn '\n').filter (¬ Skipped ·) =
        (b.toList.splitOn '\n').filter (¬ Skipped ·) →
      (read a).map (List.map Statement.unplaced) = (read b).map (List.map Statement.unplaced) ∧
      ∀ p q, read a = .ok p → read b = .ok q →
        (problems p).map Problem.rule = (problems q).map Problem.rule ∧
        (problems p = [] ↔ problems q = [])) ∧
    ∀ p, read a = .ok p → ∃ ks, Numbered p ks := by
  refine ⟨read_append_newline a b, fun p q _ hq => ?_, fun hs => ?_,
    fun p => exists_numbered_of_read⟩
  · obtain ⟨ks, hk⟩ := exists_numbered_of_read hq
    exact problems_append_below _ hk
  · have hu := unplaced_read_congr hs
    refine ⟨hu, fun p q hp hq => ?_⟩
    rw [hp, hq] at hu
    have hr := map_rule_problems_congr (Except.ok.inj hu)
    refine ⟨hr, ?_⟩
    rw [← List.map_eq_nil_iff (f := Problem.rule), hr, List.map_eq_nil_iff]

theorem read_append_lines_spaced :
    let a := "// sum\n\nadd x\nload\u00a0-07"
    let b := "add x\n \t\nload\u00a0-07"
    (a.toList.splitOn '\n').filter (¬ Skipped ·) = (b.toList.splitOn '\n').filter (¬ Skipped ·) ∧
    ∃ p q, read a = .ok p ∧ read b = .ok q ∧ p ≠ q ∧
      p.map Statement.unplaced = q.map Statement.unplaced ∧
      read (a ++ "\n" ++ b) = .ok (p ++ q.map (Statement.below 4)) ∧
      (problems (p ++ q.map (Statement.below 4))).map Problem.text =
        ["Line 3: Invalid operand \"x\"", "Line 5: Invalid operand \"x\""] ∧
      Numbered p [3, 4] ∧ Numbered (p ++ q.map (Statement.below 4)) [3, 4, 5, 7] := by
  intro a b
  have hs : (a.toList.splitOn '\n').filter (¬ Skipped ·) =
      (b.toList.splitOn '\n').filter (¬ Skipped ·) := by decide +kernel
  have hc : lineCount a = 4 := by decide +kernel
  obtain ⟨hr, hp, hu, _⟩ := read_append_lines a b
  rw [hc] at hr hp
  have ha : (read a).map (fun p => (p.map Statement.line, (problems p).map Problem.text)) =
      .ok ([some 3, some 4], ["Line 3: Invalid operand \"x\""]) := by decide +kernel
  have hb : (read b).map (fun q => (q.map Statement.line,
        ((problems q).map (Problem.below 4)).map Problem.text)) =
      .ok ([some 1, some 3], ["Line 5: Invalid operand \"x\""]) := by decide +kernel
  obtain ⟨p, ha, hpa⟩ := Except.map_eq_ok_iff.mp ha
  obtain ⟨q, hb, hqb⟩ := Except.map_eq_ok_iff.mp hb
  obtain ⟨hla, hta⟩ := Prod.mk.inj hpa
  obtain ⟨hlb, htb⟩ := Prod.mk.inj hqb
  have hm := (hu hs).1
  rw [ha, hb] at hr hm
  have hl : (p ++ q.map (Statement.below 4)).map Statement.line =
      [some 3, some 4, some 5, some 7] := by
    have hmb : (q.map (Statement.below 4)).map Statement.line =
        (q.map Statement.line).map (Option.map (· + 4)) := by
      rw [List.map_map, List.map_map]
      rfl
    rw [List.map_append, hmb, hla, hlb]
    rfl
  refine ⟨hs, p, q, ha, hb, ?_, Except.ok.inj hm, hr, ?_, ⟨hla, by decide, by decide⟩,
    hl, by decide, by decide⟩
  · rintro rfl
    exact absurd (hla.symm.trans hlb) (by decide)
  · exact (congrArg (List.map Problem.text) (hp p q ha hb)).trans
      (List.map_append.trans (congrArg₂ (· ++ ·) hta htb))

end StoredProgram.Assembly
