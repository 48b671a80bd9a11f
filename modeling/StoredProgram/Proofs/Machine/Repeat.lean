import Mathlib.Control.Monad.Basic
import StoredProgram.Proofs.Isa.Cycle
import StoredProgram.Proofs.Machine.Code

/-! A cycle whose fetch finds no instruction carries out the one of the cycle before once more. Most
effects are in place already and do not show; an addition or subtraction does, and a jump that was
taken comes back to where it is. -/

namespace StoredProgram

namespace Machine
open Isa
variable {program : List Instruction} {m m₀ m' : Machine} {n : Nat} {op : Operation}

/-- The effects of the operation are in place, where those of the arithmetic do not show. -/
def Settled (m : Machine) : Operation → Prop
  | .load a => m.acc = m.memory.number a
  | .store a => ∀ c ∈ m.memory, c.address = a → c.content = .number m.acc
  | .add _ | .sub _ => True
  | .jump a => m.pc = a
  | .jumpZero a => m.acc = 0 → m.pc = a
  | .jumpNonzero a => m.acc ≠ 0 → m.pc = a
  | .halt => False

def gain (m : Machine) : Int :=
  match m.ir.operation? with
  | some (.add a) => m.memory.number a
  | some (.sub a) => -m.memory.number a
  | _ => 0

def jumps (m : Machine) : Bool :=
  match m.ir.operation? with
  | some (.jump _) => true
  | some (.jumpZero _) => m.acc = 0
  | some (.jumpNonzero _) => m.acc ≠ 0
  | _ => false

theorem settled_perform (hop : op ≠ .halt) (h : m.perform op = .ok m') : m'.Settled op := by
  cases op with
  | halt => exact absurd rfl hop
  | load a =>
    obtain rfl := Except.ok.inj h
    exact (congrArg Content.value (m.memory.read?_highlight (some a) a)).symm
  | store a =>
    obtain rfl := Except.ok.inj h
    intro c hc ha
    obtain ⟨d, hd, hda, hdc⟩ := Memory.mem_highlight hc
    rcases Memory.mem_write hd with ⟨_, hv⟩ | ⟨hn, _⟩
    · exact hdc.symm.trans hv
    · exact absurd (hda.trans ha) hn
  | add a | sub a => trivial
  | jump a =>
    obtain rfl := Except.ok.inj h
    rfl
  | jumpZero a | jumpNonzero a =>
    obtain rfl := Except.ok.inj h
    rw [branch_eq]
    intro hz
    exact if_pos hz

/-- Between two cycles the effects of the instruction in the register are in place; before the first
one the register is empty. -/
structure Steady (m : Machine) : Prop where
  idle : m.halted = false → m.phase = .idle → m.ir = .empty
  fetch : m.phase = .fetch → ∀ op, m.ir.operation? = some op → m.Settled op

theorem Initial.steady (h : m.Initial program) : m.Steady := by
  refine ⟨fun _ _ => h.ir, fun hp => ?_⟩
  cases h.phase.symm.trans hp

theorem steady_of_phase (h : m.phase = .decode ∨ m.phase = .execute) : m.Steady := by
  refine ⟨fun _ hp => ?_, fun hp => ?_⟩
  · rcases h with h | h <;> cases h.symm.trans hp
  · rcases h with h | h <;> cases h.symm.trans hp

theorem steady_execute (hp : m.phase = .execute) (he : m.execute = .ok m') : m'.Steady := by
  unfold execute at he
  split at he
  · next op hop =>
    by_cases hh : op = .halt
    · subst hh
      obtain rfl := eq_stopped_of_perform he
      refine ⟨fun h => ?_, fun h => ?_⟩
      · cases h
      · cases h
    · have hg := goesOn_perform hp hh he
      have hf : m'.phase = .fetch := hg.phase.trans (congrArg Phase.next hp)
      refine ⟨fun _ hi => ?_, fun _ op' hop' => ?_⟩
      · cases hf.symm.trans hi
      · rw [(memory_perform he).1, hop] at hop'
        obtain rfl := Option.some.inj hop'
        exact settled_perform hh he
  · next hop =>
    obtain rfl := Except.ok.inj he
    refine ⟨fun _ hi => ?_, fun _ op hop' => ?_⟩
    · cases hi
    · cases hop.symm.trans hop'

theorem Steady.step (h : m.Steady) (hs : m.step = .ok m') : m'.Steady := by
  cases stepped hs with
  | halted => exact h
  | idle hh hp =>
    refine ⟨fun _ hi => ?_, fun _ op hop => ?_⟩
    · cases hi
    · rw [show m.startCycle.ir = .empty from h.idle hh hp] at hop
      cases hop
  | fetch _ hp =>
    exact steady_of_phase (.inl ((goesOn_fetch hp).phase.trans (congrArg Phase.next hp)))
  | decode => exact steady_of_phase (.inr rfl)
  | execute _ hp he => exact steady_execute hp he

theorem Steady.steps (h : m.Steady) (hs : m.steps n = .ok m') : m'.Steady := by
  induction n generalizing m with
  | zero =>
    obtain rfl := Except.ok.inj hs
    exact h
  | succ n ih =>
    rw [steps_succ] at hs
    obtain ⟨m₁, h₁, hs⟩ := Except.bind_eq_ok_iff.mp hs
    exact ih (h.step h₁) hs

theorem pc_of_taken {taken : Prop} [Decidable taken] {pc a : Int} (h : taken → pc = a) :
    (if taken then a else pc + 1) = if taken then pc else pc + 1 := by
  split_ifs with ht
  · exact (h ht).symm
  · rfl

theorem perform_settled (h : ∀ op, m.ir.operation? = some op → m.Settled op) :
    (ofMachine m).perform m.ir =
      { ofMachine m with
        acc := m.acc + m.gain
        alu := ((ofMachine m).perform m.ir).alu
        pc := if m.jumps then m.pc else m.pc + 1 } := by
  cases hop : m.ir.operation? with
  | none =>
    rw [State.perform_of_operation?_eq_none hop]
    simp only [gain, jumps, hop, Int.add_zero, Bool.false_eq_true, if_false]
    rfl
  | some op =>
    have hs := h op hop
    simp only [gain, jumps, hop]
    obtain ⟨hc, rfl | ⟨a, hi, ha⟩⟩ := Instruction.eq_of_operation? hop
    · exact hs.elim
    have hi : m.ir = ⟨op.opcode, some a⟩ := by rw [← hc, ← hi]
    rw [hi]
    -- what is written is what is there already, but for the two operations of arithmetic
    cases op with
    | halt => exact hs.elim
    | load b =>
      obtain rfl := Option.some.inj ha
      have hv : (ofMachine m).integer b = m.acc + 0 :=
        (integer_ofMachine m b).trans (hs.symm.trans (Int.add_zero _).symm)
      exact congrArg (fun v => { ofMachine m with acc := v, pc := m.pc + 1 }) hv
    | store b =>
      obtain rfl := Option.some.inj ha
      have hw : (ofMachine m).put b = (ofMachine m).words := by
        rw [← words_write, Memory.write_eq_self hs]
        rfl
      rw [Int.add_zero]
      exact congrArg (fun ws => { ofMachine m with words := ws, pc := m.pc + 1 }) hw
    | add b =>
      obtain rfl := Option.some.inj ha
      have hv : m.acc + (ofMachine m).integer b = m.acc + m.memory.number b := by
        rw [integer_ofMachine]
      exact congrArg (fun v => { (ofMachine m).perform ⟨"ADD", some b⟩ with acc := v }) hv
    | sub b =>
      obtain rfl := Option.some.inj ha
      have hv : m.acc - (ofMachine m).integer b = m.acc + -m.memory.number b := by
        rw [integer_ofMachine, Int.sub_eq_add_neg]
      exact congrArg (fun v => { (ofMachine m).perform ⟨"SUB", some b⟩ with acc := v }) hv
    | jump b =>
      obtain rfl := Option.some.inj ha
      rw [Int.add_zero]
      exact congrArg (fun a => { ofMachine m with pc := a }) hs.symm
    | jumpZero b =>
      obtain rfl := Option.some.inj ha
      simp only [Int.add_zero, decide_eq_true_eq]
      exact congrArg (fun a => { ofMachine m with pc := a }) (pc_of_taken hs)
    | jumpNonzero b =>
      obtain rfl := Option.some.inj ha
      simp only [Int.add_zero, decide_eq_true_eq]
      exact congrArg (fun a => { ofMachine m with pc := a }) (pc_of_taken hs)

theorem Steady.exists_steps_three (h : m.Steady) (hh : m.halted = false) (hp : m.phase = .fetch)
    (hd : ∀ i, m.memory.read? m.pc ≠ some (.instruction i)) :
    ∃ m', m.steps 3 = .ok m' ∧ ofMachine m' = (ofMachine m).perform m.ir := by
  have hi : (ofMachine m).instruction = m.ir :=
    (instruction_ofMachine m).trans (ir_fetch_of_not_read? hd)
  have hs : ¬ (ofMachine m).Stuck := by
    rintro ⟨_, hc, _⟩
    rw [hi] at hc
    exact h.fetch hp .halt ((Instruction.operation?_eq_halt_iff _).mpr hc)
  have hc : (ofMachine m).cycle =
      { ofMachine m with ir := (ofMachine m).instruction }.perform (ofMachine m).instruction :=
    if_neg (Bool.eq_false_iff.mp hh)
  obtain ⟨m', hm', he, _⟩ := Isa.exists_steps_three (.inr hp) hs
  refine ⟨m', hm', ?_⟩
  rw [he, hc, hi]
  rfl

/-- In a run of a loaded program, a cycle whose fetch finds no instruction carries out the one of
the cycle before once more. No cell changes, nothing is put out and the machine does not halt; but
the accumulator changes by what is added or subtracted again, and the program counter stays where it
is after a jump that was taken. -/
theorem loadSource_repeats {size : Int} {source : String} {data : DataSetup}
    {out : Loading.Outcome} (hl : Loading.loadSource size source data = .ok out)
    (ho : out.machine = some m₀) (hs : m₀.steps n = .ok m) (hh : m.halted = false)
    (hp : m.phase = .fetch) (hd : ∀ i, m.memory.read? m.pc ≠ some (.instruction i)) :
    ∃ m', m.steps 3 = .ok m' ∧
      ofMachine m' =
        { ofMachine m with
          acc := m.acc + m.gain
          alu := m'.alu
          pc := if m.jumps then m.pc else m.pc + 1 } ∧
      (m'.acc = m.acc ∧ m'.pc = m.pc + 1 ↔ m.gain = 0 ∧ m.jumps = false) := by
  obtain ⟨_, _, _, hi⟩ := initial_of_loadSource hl ho
  have hm := hi.steady.steps hs
  obtain ⟨m', hm', he⟩ := hm.exists_steps_three hh hp hd
  have halu : m'.alu = ((ofMachine m).perform m.ir).alu := congrArg State.alu he
  rw [perform_settled (hm.fetch hp), ← halu] at he
  have hacc : m'.acc = m.acc + m.gain := congrArg State.acc he
  have hpc : m'.pc = if m.jumps then m.pc else m.pc + 1 := congrArg State.pc he
  refine ⟨m', hm', he, ?_⟩
  rw [hacc, hpc]
  cases m.jumps with
  | true =>
    simp only [if_true, reduceCtorEq, and_false, iff_false]
    omega
  | false =>
    simp only [Bool.false_eq_true, if_false, and_true]
    omega

theorem loadSource_repeats_addition :
    ∃ out m₀ m, Loading.loadSource 20 "ADD 10" (.ofPairs [(10, 5)]) = .ok out ∧
      out.machine = some m₀ ∧ m₀.steps 4 = .ok m ∧ m.halted = false ∧ m.phase = .fetch ∧
      (∀ i, m.memory.read? m.pc ≠ some (.instruction i)) ∧ m.acc = 5 ∧
      ∃ m', m.steps 3 = .ok m' ∧ m'.acc = 10 ∧ m'.pc = 2 := by
  let m₀ : Machine :=
    { memory := Loading.fill [(10, 5)] (Loading.place [⟨"ADD", some 10⟩] (Memory.blank 20))
      output := [greeting, Loading.loadedLine 1] }
  have hl : (Loading.loadSource 20 "ADD 10" (.ofPairs [(10, 5)])).map Loading.Outcome.machine =
      .ok (some m₀) := by decide +kernel
  have hs : (m₀.steps 4).map (fun m => ((m.halted, m.phase), (m.memory.read? m.pc, m.pc),
      (m.acc, m.gain, m.jumps))) =
        .ok ((false, .fetch), (some (.number 0), 1), (5, 5, false)) := by decide +kernel
  obtain ⟨out, hl, ho⟩ := Except.map_eq_ok_iff.mp hl
  obtain ⟨m, hs, hm⟩ := Except.map_eq_ok_iff.mp hs
  simp only [Prod.mk.injEq] at hm
  obtain ⟨⟨hh, hp⟩, ⟨hr, hpc⟩, hacc, hgain, hjumps⟩ := hm
  have hd : ∀ i, m.memory.read? m.pc ≠ some (.instruction i) := by
    intro i hi
    cases hr.symm.trans hi
  obtain ⟨m', hm', he, _⟩ := loadSource_repeats hl ho hs hh hp hd
  refine ⟨out, m₀, m, hl, ho, hs, hh, hp, hd, hacc, m', hm', ?_, ?_⟩
  · have ha : m'.acc = m.acc + m.gain := congrArg State.acc he
    rw [ha, hacc, hgain]
    rfl
  · have hp : m'.pc = if m.jumps then m.pc else m.pc + 1 := congrArg State.pc he
    rw [hp, hjumps, hpc]
    rfl

end Machine
end StoredProgram
