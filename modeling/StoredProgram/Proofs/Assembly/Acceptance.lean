import StoredProgram.Proofs.Assembly.Denotation

/-! Which texts are accepted, and what is reported of the others: the rules that their lines break,
each of them once and in the order of the lines. -/

namespace StoredProgram.Assembly
open Text

def Accepted (word : List Char) (more : List (List Char)) : Prop :=
  String.ofList (capitals word) = "HALT" ∧ (more = [] ∨ ∃ w a, more.head? = some w ∧ Writes w a) ∨
  String.ofList (capitals word) ∈ ["LOAD", "STORE", "ADD", "SUB", "JUMP", "JZ", "JNZ"] ∧
    ∃ w a, more.head? = some w ∧ Writes w a

inductive Breaks (word : List Char) (more : List (List Char)) : Rule → Prop
  | opcode : String.ofList (capitals word) ∉
      ["LOAD", "STORE", "ADD", "SUB", "JUMP", "JZ", "JNZ", "HALT"] →
      Breaks word more (.knownOpcode (String.ofList (capitals word)))
  | missing : String.ofList (capitals word) ≠ "HALT" → more = [] →
      Breaks word more (.operandPresent (String.ofList (capitals word)))
  | malformed {w} : more.head? = some w → (∀ a, ¬ Writes w a) →
      Breaks word more (.operandDecimal (String.ofList w))

def Rule.rank : Rule → Nat
  | .knownOpcode _ => 0
  | .operandPresent _ => 1
  | .operandDecimal _ => 2

def Problem.Precedes (p q : Problem) : Prop :=
  p.line < q.line ∨ p.line = q.line ∧ p.rule.rank < q.rule.rank

variable {text word : List Char} {more lines : List (List Char)} {n : Nat} {s : Statement}
  {ss : List Statement} {r : Rule} {p : Problem}

theorem accepted_iff : Accepted word more ↔ ∀ r, ¬ Breaks word more r := by
  have hmem : ∀ o : String, o ∈ ["LOAD", "STORE", "ADD", "SUB", "JUMP", "JZ", "JNZ", "HALT"] ↔
      o = "HALT" ∨ o ∈ ["LOAD", "STORE", "ADD", "SUB", "JUMP", "JZ", "JNZ"] := by
    intro o
    exact (List.mem_append (s := ["LOAD", "STORE", "ADD", "SUB", "JUMP", "JZ", "JNZ"])).trans
      (or_comm.trans (or_congr_left List.mem_singleton))
  have hempty : ∀ w, more.head? = some w → more ≠ [] := fun w hw hm => by rw [hm] at hw; cases hw
  constructor
  · rintro h r (ho | ⟨ho, hm⟩ | ⟨hw, hn⟩)
    · rw [hmem, not_or] at ho
      exact h.elim (fun h => ho.1 h.1) fun h => ho.2 h.1
    · refine h.elim (fun h => ho h.1) ?_
      rintro ⟨_, w, _, hw, _⟩
      exact hempty w hw hm
    · have hs : more = [] ∨ ∃ w a, more.head? = some w ∧ Writes w a := by
        exact h.elim And.right fun h => .inr h.2
      rcases hs with hm | ⟨v, a, hv, ha⟩
      · exact hempty _ hw hm
      · obtain rfl := Option.some.inj (hw.symm.trans hv)
        exact hn a ha
  · intro h
    have ho := (hmem _).mp (by_contra fun ho => h _ (.opcode ho))
    by_cases hw : ∃ w a, more.head? = some w ∧ Writes w a
    · exact ho.imp (fun ho => ⟨ho, .inr hw⟩) fun ho => ⟨ho, hw⟩
    · have hm : more = [] := by
        cases more with
        | nil => rfl
        | cons w ws => exact absurd (.malformed rfl fun a ha => hw ⟨w, a, rfl, ha⟩) (h _)
      have hh : String.ofList (capitals word) = "HALT" := by_contra fun hh => h _ (.missing hh hm)
      exact .inl ⟨hh, .inl hm⟩

theorem Denotes.operand_eq_none_iff (h : Denotes n text word more s) :
    s.operand = none ↔ ∀ w, more.head? = some w → ∀ a, ¬ Writes w a := by
  constructor
  · intro hn w hw a ha
    have hs := (h.operand a).mpr ⟨w, hw, ha⟩
    rw [hn] at hs
    cases hs
  · intro hn
    cases ho : s.operand with
    | none => rfl
    | some a =>
      obtain ⟨w, hw, ha⟩ := (h.operand a).mp ho
      exact absurd ha (hn w hw a)

theorem Denotes.lacksOperand_iff (h : Denotes n text word more s) :
    s.lacksOperand = true ↔ more = [] := by
  rw [Statement.lacksOperand, Bool.and_eq_true, Option.isNone_iff_eq_none,
    Option.isNone_iff_eq_none, h.operand_eq_none_iff, h.operandText]
  cases more with
  | nil => exact iff_of_true ⟨rfl, nofun⟩ rfl
  | cons w ws => exact iff_of_false (fun hn => nomatch hn.1) nofun

theorem mem_brokenRules (h : Denotes n text word more s) :
    r ∈ s.brokenRules ↔ Breaks word more r := by
  have hc : opcodes.contains s.opcode = true ↔ String.ofList (capitals word) ∈
      ["LOAD", "STORE", "ADD", "SUB", "JUMP", "JZ", "JNZ", "HALT"] := by
    rw [List.contains_iff_mem, h.opcode]
    rfl
  rw [Statement.brokenRules, List.mem_append, List.mem_append]
  constructor
  · rintro ((hr | hr) | hr)
    · split_ifs at hr with ho
      · cases hr
      · rw [List.mem_singleton.mp hr, h.opcode]
        exact .opcode fun hm => ho (hc.mpr hm)
    · split_ifs at hr with ho
      · rw [List.mem_singleton.mp hr, h.opcode]
        exact .missing (h.opcode ▸ ho.1) (h.lacksOperand_iff.mp ho.2)
      · cases hr
    · split at hr
      · next v hv hn =>
        rw [h.operandText, Option.map_eq_some_iff] at hv
        obtain ⟨w, hw, rfl⟩ := hv
        rw [List.mem_singleton.mp hr]
        exact .malformed hw (h.operand_eq_none_iff.mp hn w hw)
      · cases hr
  · rintro (ho | ⟨ho, hm⟩ | ⟨hw, hn⟩)
    · refine .inl (.inl ?_)
      rw [if_neg fun h => ho (hc.mp h), h.opcode]
      exact List.mem_singleton_self _
    · refine .inl (.inr ?_)
      rw [← h.opcode] at ho ⊢
      rw [if_pos ⟨ho, h.lacksOperand_iff.mpr hm⟩]
      exact List.mem_singleton_self _
    · refine .inr ?_
      have ho : s.operand = none := by
        refine h.operand_eq_none_iff.mpr fun v hv a ha => ?_
        obtain rfl := Option.some.inj (hw.symm.trans hv)
        exact hn a ha
      rw [h.operandText, hw, ho]
      exact List.mem_singleton_self _

theorem pairwise_brokenRules (s : Statement) :
    s.brokenRules.Pairwise fun r r' => r.rank < r'.rank := by
  unfold Statement.brokenRules
  split_ifs <;> split <;> simp [Rule.rank]

theorem lineAt_eq (h : Denotes n text word more s) (hn : 0 < n) (index : Nat) :
    s.lineAt index = n := by
  have hz : ¬ (n : Int) = 0 := by omega
  rw [Statement.lineAt, h.line]
  exact if_neg hz

def Broken (n : Nat) (lines : List (List Char)) (p : Problem) : Prop :=
  ∃ (i : Nat) (line text word : List Char) (more : List (List Char)), lines[i]? = some line ∧
    Holds line text word more ∧ p.line = n + i ∧ Breaks word more p.rule

theorem broken_cons_iff {line : List Char} :
    Broken n (line :: lines) p ↔
      (∃ text word more, Holds line text word more ∧ p.line = n ∧ Breaks word more p.rule) ∨
      Broken (n + 1) lines p := by
  constructor
  · rintro ⟨i, l, text, word, more, hi, hh, hp, hb⟩
    cases i with
    | zero =>
      obtain rfl := Option.some.inj hi
      exact .inl ⟨text, word, more, hh, hp.trans (Int.add_zero _), hb⟩
    | succ i =>
      refine .inr ⟨i, l, text, word, more, hi, hh, ?_, hb⟩
      rw [hp]
      push_cast
      omega
  · rintro (⟨text, word, more, hh, hp, hb⟩ | ⟨i, l, text, word, more, hi, hh, hp, hb⟩)
    · exact ⟨0, line, text, word, more, rfl, hh, hp.trans (Int.add_zero _).symm, hb⟩
    · refine ⟨i + 1, l, text, word, more, hi, hh, ?_, hb⟩
      rw [hp]
      push_cast
      omega

theorem mem_problems_of_denotes (h : Denotes n text word more s) :
    p ∈ s.brokenRules.map (fun r => (⟨n, r⟩ : Problem)) ↔
      p.line = n ∧ Breaks word more p.rule := by
  rw [List.mem_map]
  constructor
  · rintro ⟨r, hr, rfl⟩
    exact ⟨rfl, (mem_brokenRules h).mp hr⟩
  · rintro ⟨hp, hb⟩
    exact ⟨p.rule, (mem_brokenRules h).mpr hb, by rw [← hp]⟩

def problemsFrom (index : Nat) (ss : List Statement) : List Problem :=
  (ss.zipIdx index).flatMap fun (s, i) => s.brokenRules.map fun r => ⟨s.lineAt i, r⟩

theorem problemsFrom_cons (index : Nat) (s : Statement) (ss : List Statement) :
    problemsFrom index (s :: ss) =
      (s.brokenRules.map fun r => ⟨s.lineAt index, r⟩) ++ problemsFrom (index + 1) ss := rfl

theorem Listing.mem_problemsFrom (h : Listing n lines ss) (hn : 0 < n) (index : Nat) :
    p ∈ problemsFrom index ss ↔ Broken n lines p := by
  induction h generalizing index with
  | nil => exact iff_of_false nofun fun ⟨_, _, _, _, _, h, _⟩ => nomatch h
  | skip hs _ ih =>
    rw [ih (Nat.succ_pos _), broken_cons_iff]
    exact (or_iff_right fun ⟨_, _, _, hh, _⟩ => hh.not_skipped hs).symm
  | hold hh hd _ ih =>
    rw [problemsFrom_cons, List.mem_append, ih (Nat.succ_pos _), lineAt_eq hd hn,
      mem_problems_of_denotes hd, broken_cons_iff]
    refine or_congr_left ⟨fun h => ⟨_, _, _, hh, h⟩, ?_⟩
    -- a line holds one statement only
    rintro ⟨text, word, more, hh', h⟩
    obtain ⟨rfl, rfl, rfl⟩ := hh.unique hh'
    exact h

theorem Listing.pairwise_problemsFrom (h : Listing n lines ss) (hn : 0 < n) (index : Nat) :
    (problemsFrom index ss).Pairwise Problem.Precedes := by
  induction h generalizing index with
  | nil => exact .nil
  | skip _ _ ih => exact ih (Nat.succ_pos _) index
  | hold hh hd hl ih =>
    rw [problemsFrom_cons, List.pairwise_append, lineAt_eq hd hn]
    refine ⟨?_, ih (Nat.succ_pos _) (index + 1), ?_⟩
    · rw [List.pairwise_map]
      exact (pairwise_brokenRules _).imp fun hr => .inr ⟨rfl, hr⟩
    · intro p hp q hq
      obtain ⟨r, _, rfl⟩ := List.mem_map.mp hp
      obtain ⟨i, _, _, _, _, _, _, hq, _⟩ := (hl.mem_problemsFrom (Nat.succ_pos _) _).mp hq
      refine .inl ?_
      rw [hq]
      push_cast
      omega

/-- A text without numerals of too many digits can be read, and its statements are what its lines
denote. It is accepted just when each line that holds a statement is, and what is reported otherwise
are the rules that its lines break, once each and in the order of the lines. -/
theorem read_denotes (source : String) (h : Short (source.toList.splitOn '\n')) :
    let lines := source.toList.splitOn '\n'
    ∃ program, read source = .ok program ∧ Listing 1 lines program ∧
      (problems program = [] ↔
        ∀ line ∈ lines, ∀ text word more, Holds line text word more → Accepted word more) ∧
      (∀ p, p ∈ problems program ↔ Broken 1 lines p) ∧
      (problems program).Pairwise Problem.Precedes := by
  intro lines
  obtain ⟨program, hr, hl⟩ := exists_read h
  have hm : ∀ p, p ∈ problems program ↔ Broken 1 lines p := fun p =>
    hl.mem_problemsFrom Nat.one_pos 0
  refine ⟨program, hr, hl, ?_, hm, hl.pairwise_problemsFrom Nat.one_pos 0⟩
  rw [List.eq_nil_iff_forall_not_mem]
  constructor
  · intro hp line hline text word more hh
    obtain ⟨i, hi⟩ := List.mem_iff_getElem?.mp hline
    refine accepted_iff.mpr fun r hb => hp ⟨1 + i, r⟩ ((hm _).mpr ?_)
    exact ⟨i, line, text, word, more, hi, hh, rfl, hb⟩
  · intro hp p hpm
    obtain ⟨i, line, text, word, more, hi, hh, _, hb⟩ := (hm p).mp hpm
    exact accepted_iff.mp (hp line (List.mem_of_getElem? hi) text word more hh) p.rule hb

theorem short_of_length (h : ∀ line ∈ lines, line.length ≤ 4300) : Short lines := by
  intro line hl text word w more a hh _
  obtain ⟨p, q, _, _, hs⟩ := hh.trimmed.parts
  have hw := hh.words.length_le w (List.mem_cons_of_mem _ List.mem_cons_self)
  have hn := congrArg List.length hs
  have hc : w.countP isDigit ≤ w.length := List.countP_le_length
  have := h line hl
  simp only [List.length_append] at hn
  omega

theorem read_denotes_mixed :
    let source := " // sum\n\tload\u00a0\u0663 x\r\n\n+\nhalt 1O"
    let lines := source.toList.splitOn '\n'
    Short lines ∧ ∃ program, read source = .ok program ∧ Listing 1 lines program ∧
      (problems program).map Problem.text =
        ["Line 4: Invalid opcode \"+\"", "Line 4: Missing operand for \"+\"",
          "Line 5: Invalid operand \"1O\""] ∧
      ∀ p ∈ problems program, Broken 1 lines p := by
  intro source lines
  have hs : Short lines := short_of_length (by decide +kernel)
  obtain ⟨program, hr, hl, _, hp, _⟩ := read_denotes source hs
  have ht : (read source).map (fun ss => (problems ss).map Problem.text) =
      .ok ["Line 4: Invalid opcode \"+\"", "Line 4: Missing operand for \"+\"",
        "Line 5: Invalid operand \"1O\""] := by decide +kernel
  rw [hr] at ht
  exact ⟨hs, program, hr, hl, Except.ok.inj ht, fun p h => (hp p).mp h⟩

end StoredProgram.Assembly
