import StoredProgram.Proofs.Assembly.Append
import StoredProgram.Proofs.Assembly.Decimal
import StoredProgram.Proofs.Machine.Dispatch

/-! Programs written out, one instruction a line, and read back. What is read is what was written, so
that the text of an accepted program and the text that is written for it load alike. -/

namespace StoredProgram

def Assembly.print (program : List Instruction) : Except Numeral.Error String := do
  return "\n".intercalate (← program.mapM Instruction.text)

structure Instruction.Printable (i : Instruction) : Prop where
  opcode : i.opcode ∈ ["LOAD", "STORE", "ADD", "SUB", "JUMP", "JZ", "JNZ", "HALT"]
  operand : i.operand = none → i.opcode = "HALT"
  digits : ∀ a, i.operand = some a → (Numeral.decimal a.natAbs).length ≤ 4300

namespace Assembly
open Text

section Line
variable {w : List Char} {operand : Option Int}

theorem trimmed_self (hf : ∀ c, w.head? = some c → isBlank c = false)
    (hl : ∀ c, w.getLast? = some c → isBlank c = false) : Trimmed w w :=
  ⟨⟨[], [], nofun, nofun, (List.append_nil w).symm⟩, hf, hl⟩

theorem holds_line (hn : w ≠ []) (hb : ∀ c ∈ w, isBlank c = false) (hc : '/' ∉ w) :
    Holds (w ++ (operand.elim [] fun a => ' ' :: Numeral.decimalInt a))
      (w ++ (operand.elim [] fun a => ' ' :: Numeral.decimalInt a)) w
      (operand.toList.map Numeral.decimalInt) := by
  have hf : ∀ v c, (w ++ v).head? = some c → c ∈ w := by
    intro v c h
    rw [List.head?_append_of_ne_nil _ hn] at h
    exact List.mem_of_head? h
  have hs : ∀ v, ¬ ['/', '/'] <+: w ++ v := by
    rintro v ⟨t, ht⟩
    exact hc (hf v '/' (congrArg List.head? ht.symm))
  cases operand with
  | none =>
    rw [Option.elim_none, List.append_nil]
    refine ⟨trimmed_self (fun c h => hb c (List.mem_of_head? h)) fun c h =>
      hb c (List.mem_of_getLast? h), ?_, words_iff.mpr (words_of_word hn hb)⟩
    simpa using hs []
  | some a =>
    have hd := decimalInt_ne_nil a
    refine ⟨trimmed_self (fun c h => hb c (hf _ c h)) fun c h => ?_, hs _, words_iff.mpr ?_⟩
    · rw [Option.elim_some, List.getLast?_append_of_ne_nil _ (List.cons_ne_nil _ _),
        List.getLast?_cons_of_ne_nil hd] at h
      exact isBlank_of_mem_decimalInt (List.mem_of_getLast? h)
    · rw [Option.elim_some, words_append_blank w _ rfl, words_of_word hn hb,
        words_of_word hd fun c h => isBlank_of_mem_decimalInt h]
      rfl

theorem writes_head_iff {a : Int} :
    (∃ w, (operand.toList.map Numeral.decimalInt).head? = some w ∧ Writes w a) ↔
      operand = some a := by
  cases operand with
  | none => exact iff_of_false (fun ⟨_, h, _⟩ => nomatch h) nofun
  | some b =>
    constructor
    · rintro ⟨w, hw, ha⟩
      obtain rfl := Option.some.inj hw
      rw [(writes_decimalInt b).unique ha]
    · intro h
      obtain rfl := Option.some.inj h
      exact ⟨_, rfl, writes_decimalInt b⟩

theorem opcode_plain : ∀ o ∈ opcodes, o.toList ≠ [] ∧ (∀ c ∈ o.toList, isBlank c = false) ∧
    '/' ∉ o.toList ∧ capitals o.toList = o.toList := by
  have h : ∀ o ∈ opcodes, o.toList ≠ [] ∧ o.toList.all (!isBlank ·) = true ∧
      '/' ∉ o.toList ∧ capitals o.toList = o.toList := by decide +kernel
  refine fun o ho => (h o ho).imp_right fun h => h.imp_left fun hb c hc => ?_
  simpa using List.all_eq_true.mp hb c hc

end Line

end Assembly

def Instruction.line (i : Instruction) : List Char :=
  i.opcode.toList ++ (i.operand.elim [] fun a => ' ' :: Numeral.decimalInt a)

namespace Instruction.Printable
open Assembly Text
variable {i : Instruction}

theorem text_eq (h : i.Printable) : i.text = .ok (String.ofList i.line) := by
  unfold text line
  cases ho : i.operand with
  | none => rw [Option.elim_none, List.append_nil, String.ofList_toList]
  | some a =>
    dsimp only
    rw [Option.elim_some, write_of_length_le (h.digits a ho), ← List.singleton_append,
      ← List.append_assoc, String.ofList_append, String.ofList_append, String.ofList_toList]
    rfl

theorem newline_not_mem_line (h : i.Printable) : '\n' ∉ i.line := by
  obtain ⟨_, hb, _⟩ := opcode_plain i.opcode h.opcode
  rw [line, List.mem_append, not_or]
  refine ⟨fun hm => absurd (hb _ hm) (by decide), ?_⟩
  cases i.operand with
  | none => exact List.not_mem_nil
  | some a =>
    rw [Option.elim_some, List.mem_cons, not_or]
    exact ⟨by decide, fun hm => absurd (isBlank_of_mem_decimalInt hm) (by decide)⟩

theorem holds (h : i.Printable) :
    Holds i.line i.line i.opcode.toList (i.operand.toList.map Numeral.decimalInt) := by
  obtain ⟨hn, hb, hc, _⟩ := opcode_plain i.opcode h.opcode
  exact holds_line hn hb hc

theorem accepted (h : i.Printable) :
    Accepted i.opcode.toList (i.operand.toList.map Numeral.decimalInt) := by
  obtain ⟨_, _, _, hc⟩ := opcode_plain i.opcode h.opcode
  rw [Accepted, hc, String.ofList_toList]
  cases ho : i.operand with
  | none => exact .inl ⟨h.operand ho, .inl rfl⟩
  | some a =>
    have hw : ∃ w b, ((some a).toList.map Numeral.decimalInt).head? = some w ∧ Writes w b :=
      ⟨_, a, rfl, writes_decimalInt a⟩
    have hm : i.opcode ∈ opcodes.dropLast ++ ["HALT"] := h.opcode
    rcases List.mem_append.mp hm with hm | hm
    · exact .inr ⟨hm, hw⟩
    · exact .inl ⟨List.mem_singleton.mp hm, .inr hw⟩

theorem exists_readLine (h : i.Printable) (n : Nat) :
    ∃ s, readLine n i.line = .ok (some s) ∧ s.instruction = i ∧ s.line = some (n : Int) ∧
      s.brokenRules = [] := by
  obtain ⟨_, _, _, hc⟩ := opcode_plain i.opcode h.opcode
  obtain ⟨s, hr, hd⟩ := readLine_of_holds h.holds n fun w a hw _ => by
    obtain ⟨b, hb, rfl⟩ := List.mem_map.mp (List.mem_of_head? hw)
    rw [countP_isDigit_decimalInt]
    exact h.digits b (Option.mem_toList.mp hb)
  have ho : s.opcode = i.opcode := by rw [hd.opcode, hc, String.ofList_toList]
  have ha : s.operand = i.operand := Option.ext fun a => (hd.operand a).trans writes_head_iff
  refine ⟨s, hr, ?_, hd.line, ?_⟩
  · rw [Statement.instruction, ho, ha]
  · exact List.eq_nil_iff_forall_not_mem.mpr fun r hr =>
      accepted_iff.mp h.accepted r ((mem_brokenRules hd).mp hr)

end Instruction.Printable

namespace Assembly
open Text
variable {is : List Instruction} {program : List Statement}

theorem exists_readLines (h : ∀ i ∈ is, i.Printable) (n : Nat) :
    ∃ ss, readLines n (is.map Instruction.line) = .ok ss ∧ ss.map Statement.instruction = is ∧
      ss.map Statement.line = (List.range' n is.length).map (fun k : Nat => some (k : Int)) ∧
      ∀ s ∈ ss, s.brokenRules = [] := by
  induction is generalizing n with
  | nil => exact ⟨[], rfl, rfl, rfl, List.forall_mem_nil _⟩
  | cons i is ih =>
    obtain ⟨hi, his⟩ := List.forall_mem_cons.mp h
    obtain ⟨s, hs, hsi, hsl, hsr⟩ := hi.exists_readLine n
    obtain ⟨ss, hss, hssi, hssl, hssr⟩ := ih his (n + 1)
    refine ⟨s :: ss, ?_, ?_, ?_, List.forall_mem_cons.mpr ⟨hsr, hssr⟩⟩
    · rw [List.map_cons, readLines, hs, hss]
      rfl
    · rw [List.map_cons, hsi, hssi]
    · rw [List.map_cons, hsl, hssl, List.length_cons, List.range'_succ, List.map_cons]

theorem print_eq (h : ∀ i ∈ is, i.Printable) :
    print is = .ok ("\n".intercalate (is.map fun i => String.ofList i.line)) := by
  have hm : is.mapM Instruction.text = .ok (is.map fun i => String.ofList i.line) := by
    rw [Except.mapM_eq_ok_iff, List.map_map]
    exact List.map_congr_left fun i hi => (h i hi).text_eq
  rw [print, hm]
  rfl

theorem read_intercalate (h : ∀ i ∈ is, i.Printable) :
    read ("\n".intercalate (is.map fun i => String.ofList i.line)) =
      readLines 1 (is.map Instruction.line) := by
  cases is with
  | nil => rfl
  | cons i is =>
    have hm : ((i :: is).map fun i => String.ofList i.line).map String.toList =
        (i :: is).map Instruction.line := by
      rw [List.map_map]
      exact List.map_congr_left fun i _ => String.toList_ofList
    have hn : ∀ l ∈ (i :: is).map Instruction.line, '\n' ∉ l := by
      intro l hl
      obtain ⟨j, hj, rfl⟩ := List.mem_map.mp hl
      exact (h j hj).newline_not_mem_line
    rw [read, String.toList_intercalate, hm, lines_eq_splitOn]
    exact congrArg (readLines 1) (List.splitOn_intercalate '\n' hn (List.cons_ne_nil _ _))

theorem problems_eq_nil_iff : problems program = [] ↔ ∀ s ∈ program, s.brokenRules = [] := by
  rw [← List.map_eq_nil_iff (f := Problem.rule), ← List.flatMap_eq_nil_iff]
  exact Eq.congr_left (map_rule_problemsFrom 0 program)

theorem exists_read_print (h : ∀ i ∈ is, i.Printable) :
    ∃ text again, print is = .ok text ∧ read text = .ok again ∧ problems again = [] ∧
      again.map Statement.instruction = is ∧
      again.map Statement.line = (List.range' 1 is.length).map (fun k : Nat => some (k : Int)) := by
  obtain ⟨again, hr, hi, hl, hb⟩ := exists_readLines h 1
  exact ⟨_, again, print_eq h, (read_intercalate h).trans hr, problems_eq_nil_iff.mpr hb, hi, hl⟩

section Read
variable {w line : List Char} {lines : List (List Char)} {ss : List Statement} {s : Statement}
  {n : Nat} {a : Int}

theorem exists_readOperand_of_readLine (h : readLine n line = .ok (some s))
    (ha : s.operand = some a) : ∃ w, readOperand w = .ok (some a) := by
  obtain ⟨_, args, operand, ho, rfl⟩ := readWords_of_readLine h
  obtain rfl : operand = some a := ha
  cases args with
  | nil => cases ho
  | cons w args => exact ⟨w, ho⟩

theorem exists_readLine_of_mem (h : readLines n lines = .ok ss) (hs : s ∈ ss) :
    ∃ k line, readLine k line = .ok (some s) := by
  induction lines generalizing n ss with
  | nil =>
    obtain rfl := Except.ok.inj h
    cases hs
  | cons line lines ih =>
    obtain ⟨first, hf, h⟩ := Except.bind_eq_ok_iff.mp h
    obtain ⟨rest, hr, h⟩ := Except.bind_eq_ok_iff.mp h
    obtain rfl := Except.ok.inj h
    rcases List.mem_append.mp hs with hs | hs
    · rw [Option.mem_toList.mp hs] at hf
      exact ⟨n, line, hf⟩
    · exact ih hr hs

theorem printable_of_read {source : String} (h : read source = .ok program)
    (hp : problems program = []) : ∀ i ∈ program.map Statement.instruction, i.Printable := by
  intro i hi
  obtain ⟨s, hs, rfl⟩ := List.mem_map.mp hi
  obtain ⟨ho, ha⟩ := denotes_of_problems hp hs
  refine ⟨ho, fun hn => ha.resolve_right ?_, fun a ha => ?_⟩
  · rintro ⟨a, ha⟩
    cases ha.symm.trans hn
  · obtain ⟨k, line, hk⟩ := exists_readLine_of_mem h hs
    obtain ⟨w, hw⟩ := exists_readOperand_of_readLine hk ha
    exact length_of_readOperand hw

end Read

/-- What is written for an accepted text is accepted, holds the same instructions on the lines from
the first on, and loads alike; and any instructions that can be shown are read from what is written
for them. -/
theorem print_read :
    (∀ source program, read source = .ok program → problems program = [] →
      ∃ text again, print (program.map Statement.instruction) = .ok text ∧
        read text = .ok again ∧ problems again = [] ∧
        again.map Statement.instruction = program.map Statement.instruction ∧
        again.map Statement.line =
          (List.range' 1 program.length).map (fun k : Nat => some (k : Int)) ∧
        ∀ size data, Loading.loadSource size text data = Loading.loadSource size source data) ∧
    ∀ is : List Instruction, (∀ i ∈ is, i.Printable) →
      ∃ text again, print is = .ok text ∧ read text = .ok again ∧ problems again = [] ∧
        again.map Statement.instruction = is := by
  constructor
  · intro source program hr hp
    obtain ⟨text, again, ht, ha, hap, hi, hl⟩ := exists_read_print (printable_of_read hr hp)
    rw [List.length_map] at hl
    refine ⟨text, again, ht, ha, hap, hi, hl, fun size data => ?_⟩
    simp only [Loading.loadSource, hr, ha, Except.mapError, Except.ok_bind, hp, hap]
    rw [show again.map (·.instruction) = program.map (·.instruction) from hi]
  · intro is h
    obtain ⟨text, again, ht, ha, hap, hi, _⟩ := exists_read_print h
    exact ⟨text, again, ht, ha, hap, hi⟩

theorem print_read_respelled :
    let source := "\tload +0010 x\n\n// back\nhalt \u0663"
    let is : List Instruction := [⟨"SUB", some (-7)⟩, ⟨"HALT", none⟩]
    (∃ program text again, read source = .ok program ∧ problems program = [] ∧
      print (program.map Statement.instruction) = .ok text ∧ text = "LOAD 10\nHALT 3" ∧
      read text = .ok again ∧ again.map Statement.line = [some 1, some 2] ∧
      Loading.loadSource 20 text (.ofPairs [(10, 5)]) =
        Loading.loadSource 20 source (.ofPairs [(10, 5)])) ∧
    (∀ i ∈ is, i.Printable) ∧
    ∃ text again, print is = .ok text ∧ text = "SUB -7\nHALT" ∧ read text = .ok again ∧
      again.map Statement.instruction = is := by
  intro source is
  have hs : (read source).map (fun program => (problems program,
      program.map Statement.instruction)) =
        .ok ([], [⟨"LOAD", some 10⟩, ⟨"HALT", some 3⟩]) := by decide +kernel
  obtain ⟨program, hr, hs⟩ := Except.map_eq_ok_iff.mp hs
  obtain ⟨hp, hi⟩ := Prod.mk.inj hs
  have his : ∀ i ∈ is, i.Printable := by
    simp only [is, List.forall_mem_cons]
    refine ⟨⟨by decide, nofun, ?_⟩, ⟨by decide, fun _ => rfl, nofun⟩, List.forall_mem_nil _⟩
    rintro a ⟨⟩
    decide
  have hps : print [⟨"LOAD", some 10⟩, ⟨"HALT", some 3⟩] = .ok "LOAD 10\nHALT 3" := by
    decide +kernel
  have hpi : print is = .ok "SUB -7\nHALT" := by decide +kernel
  obtain ⟨text, again, ht, ha, _, hai, hal, hl⟩ := print_read.1 source program hr hp
  obtain ⟨text', again', ht', ha', _, hai'⟩ := print_read.2 is his
  refine ⟨⟨program, text, again, hr, hp, ht, ?_, ha, ?_, hl 20 _⟩, his, text', again', ht',
    Except.ok.inj (ht'.symm.trans hpi), ha', hai'⟩
  · rw [hi] at ht
    exact Except.ok.inj (ht.symm.trans hps)
  · have hn : program.length = 2 :=
      (List.length_map _).symm.trans (congrArg List.length hi)
    rw [hal, hn]
    rfl

end Assembly
end StoredProgram
