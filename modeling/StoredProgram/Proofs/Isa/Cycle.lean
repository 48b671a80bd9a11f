import Mathlib.Logic.Function.Iterate
import StoredProgram.Proofs.Isa

/-! The machine takes three steps for one cycle of the instruction set, and agrees with it after any
number of cycles, unless one of them has to put out an accumulator that cannot be written. -/

namespace StoredProgram.Isa
open Machine
variable {m m' : Machine}

def State.Ready (s : State) : Prop := s.halted = true ∨ s.phase = .fetch

theorem ofMachine_fetch_decode (m : Machine) :
    ofMachine m.fetch.decode =
      { ofMachine m with phase := .execute, ir := (ofMachine m).instruction } := by
  rw [fetch_eq, instruction_ofMachine]
  simp only [ofMachine, decode, words_highlight]

theorem ofMachine_load (m : Machine) (a : Int) :
    ofMachine (m.load a) = { ofMachine m with phase := .fetch }.perform ⟨"LOAD", some a⟩ := by
  simp only [ofMachine, load, proceed, words_highlight, ← integer_ofMachine]
  rfl

theorem ofMachine_store (m : Machine) (a : Int) :
    ofMachine (m.store a) = { ofMachine m with phase := .fetch }.perform ⟨"STORE", some a⟩ := by
  simp only [ofMachine, store, proceed, words_highlight, words_write]
  rfl

theorem ofMachine_add (m : Machine) (a : Int) :
    ofMachine (arithmetic "ADD" (· + ·) m a) =
      { ofMachine m with phase := .fetch }.perform ⟨"ADD", some a⟩ := by
  simp only [ofMachine, arithmetic, proceed, words_highlight, ← integer_ofMachine]
  rfl

theorem ofMachine_sub (m : Machine) (a : Int) :
    ofMachine (arithmetic "SUB" (· - ·) m a) =
      { ofMachine m with phase := .fetch }.perform ⟨"SUB", some a⟩ := by
  simp only [ofMachine, arithmetic, proceed, words_highlight, ← integer_ofMachine]
  rfl

theorem ofMachine_branch (name : String) (taken : Prop) [Decidable taken] (m : Machine) (a : Int) :
    ofMachine (branch name taken m a) =
      { ofMachine m with phase := .fetch, pc := if taken then a else m.pc + 1 } := by
  rw [branch_eq]
  rfl

theorem ofMachine_perform {op : Operation} {a : Int} (ha : op.operand? = some a) :
    (m.perform op).map ofMachine =
      .ok ({ ofMachine m with phase := .fetch }.perform ⟨op.opcode, some a⟩) := by
  cases op with
  | halt => cases ha
  | load b => obtain rfl := Option.some.inj ha; exact congrArg Except.ok (ofMachine_load m b)
  | store b => obtain rfl := Option.some.inj ha; exact congrArg Except.ok (ofMachine_store m b)
  | add b => obtain rfl := Option.some.inj ha; exact congrArg Except.ok (ofMachine_add m b)
  | sub b => obtain rfl := Option.some.inj ha; exact congrArg Except.ok (ofMachine_sub m b)
  | jump b => obtain rfl := Option.some.inj ha; rfl
  | jumpZero b =>
    obtain rfl := Option.some.inj ha
    exact congrArg Except.ok (ofMachine_branch "JZ" (m.acc = 0) m b)
  | jumpNonzero b =>
    obtain rfl := Option.some.inj ha
    exact congrArg Except.ok (ofMachine_branch "JNZ" (m.acc ≠ 0) m b)

theorem State.perform_of_operation?_eq_none {i : Instruction} (h : i.operation? = none)
    (s : State) : s.perform i = { s with pc := s.pc + 1 } := by
  unfold State.perform
  split
  case h_9 => rfl
  all_goals cases h

theorem ofMachine_execute (h : ¬ (m.ir.opcode = haltOpcode ∧ Numeral.Unwritable m.acc)) :
    m.execute.map ofMachine = .ok ({ ofMachine m with phase := .fetch }.perform m.ir) := by
  cases ho : m.ir.operation? with
  | none =>
    rw [State.perform_of_operation?_eq_none ho]
    unfold execute
    rw [ho]
    rfl
  | some op =>
    obtain ⟨hc, rfl | ⟨a, hi, ha⟩⟩ := Instruction.eq_of_operation? ho
    · have hc : m.ir.opcode = haltOpcode := hc
      have hi : m.ir = ⟨haltOpcode, m.ir.operand⟩ := by rw [← hc]
      have hu : ¬ Numeral.Unwritable m.acc := fun hu => h ⟨hc, hu⟩
      rw [execute_of_halting hc, halt_eq, if_neg hu, hi]
      rfl
    · have hi : m.ir = ⟨op.opcode, some a⟩ := by rw [← hc, ← hi]
      unfold execute
      rw [ho, hi]
      exact ofMachine_perform ha

theorem halted_fetch_decode (hh : m.halted = false) (hp : m.phase = .fetch) :
    m.fetch.decode.halted = false := (goesOn_fetch hp).halted.trans hh

theorem steps_two (hh : m.halted = false) (hp : m.phase = .fetch) :
    m.steps 2 = .ok m.fetch.decode := by
  have hf := goesOn_fetch hp
  rw [steps_succ_of_ok (step_of_phase_fetch hh hp), steps_one]
  exact step_of_phase_decode (hf.halted.trans hh) (hf.phase.trans (congrArg _ hp))

theorem steps_three (hh : m.halted = false) (hp : m.phase = .fetch) :
    m.steps 3 = m.fetch.decode.execute := by
  rw [steps_succ_last, steps_two hh hp]
  exact step_of_phase_execute (halted_fetch_decode hh hp) rfl

theorem State.Ready.phase {s : State} (hr : s.Ready) (hh : s.halted = false) : s.phase = .fetch :=
  hr.resolve_left fun h => Bool.false_ne_true (hh.symm.trans h)

theorem State.cycle_eq {s : State} (hh : s.halted = false) (hp : s.phase = .fetch) :
    s.cycle = { s with phase := .fetch, ir := s.instruction }.perform s.instruction := by
  unfold cycle
  rw [if_neg (Bool.eq_false_iff.mp hh), ← hp]

theorem steps_three_stuck (hr : (ofMachine m).Ready) (hs : (ofMachine m).Stuck) :
    m.steps 3 = .error (.numeral .unwritable) := by
  obtain ⟨hh, ho, hu⟩ := hs
  have hd := ofMachine_fetch_decode m
  have hi : m.fetch.decode.ir = (ofMachine m).instruction := congrArg State.ir hd
  have ha : m.fetch.decode.acc = m.acc := congrArg State.acc hd
  have hc : m.fetch.decode.ir.opcode = haltOpcode := by
    rw [hi]
    exact ho
  rw [steps_three hh (hr.phase hh), execute_of_halting hc, halt_eq, ha]
  exact if_pos hu

theorem steps_three_cycle (hr : (ofMachine m).Ready) (hs : ¬ (ofMachine m).Stuck) :
    (m.steps 3).map ofMachine = .ok (ofMachine m).cycle := by
  by_cases hh : m.halted = true
  · rw [steps_of_halted hh]
    exact congrArg Except.ok (if_pos hh).symm
  have hh := Bool.eq_false_iff.mpr hh
  have hp : m.phase = .fetch := hr.phase hh
  have hd := ofMachine_fetch_decode m
  have hi : m.fetch.decode.ir = (ofMachine m).instruction := congrArg State.ir hd
  have ha : m.fetch.decode.acc = m.acc := congrArg State.acc hd
  have hn : ¬ (m.fetch.decode.ir.opcode = haltOpcode ∧ Numeral.Unwritable m.fetch.decode.acc) := by
    rw [hi, ha]
    rintro ⟨ho, hu⟩
    exact hs ⟨hh, ho, hu⟩
  rw [steps_three hh hp, ofMachine_execute hn, hd, hi, State.cycle_eq hh hp]

theorem State.ready_perform {s : State} (i : Instruction) (hp : s.phase = .fetch) :
    (s.perform i).Ready := by
  unfold perform
  split
  case h_8 => exact .inl rfl
  all_goals exact .inr hp

theorem State.ready_cycle {s : State} (hr : s.Ready) : s.cycle.Ready := by
  unfold cycle
  split_ifs with hh
  · exact .inl hh
  · exact ready_perform _ (hr.phase (Bool.eq_false_iff.mpr hh))

theorem exists_steps_three (hr : (ofMachine m).Ready) (hs : ¬ (ofMachine m).Stuck) :
    ∃ m', m.steps 3 = .ok m' ∧ ofMachine m' = (ofMachine m).cycle ∧ (ofMachine m').Ready := by
  have hc := steps_three_cycle hr hs
  cases hm : m.steps 3 with
  | error e => rw [hm] at hc; cases hc
  | ok m' =>
    rw [hm] at hc
    have hc : ofMachine m' = (ofMachine m).cycle := Except.ok.inj hc
    have hr' : (ofMachine m').Ready := by
      rw [hc]
      exact State.ready_cycle hr
    exact ⟨m', rfl, hc, hr'⟩

theorem steps_three_succ (n : Nat) (m : Machine) :
    m.steps (3 * (n + 1)) = m.steps 3 >>= steps (3 * n) := by
  rw [Nat.mul_succ, Nat.add_comm, steps_add]

theorem steps_cycles {n : Nat} (hr : (ofMachine m).Ready)
    (hs : ∀ i < n, ¬ (State.cycle^[i] (ofMachine m)).Stuck) :
    (m.steps (3 * n)).map ofMachine = .ok (State.cycle^[n] (ofMachine m)) := by
  induction n generalizing m with
  | zero => rfl
  | succ n ih =>
    obtain ⟨m', hm, hc, hr'⟩ := exists_steps_three hr (hs 0 (Nat.succ_pos n))
    have hs' : ∀ i < n, ¬ (State.cycle^[i] (ofMachine m')).Stuck := by
      intro i hi
      rw [hc, ← Function.iterate_succ_apply]
      exact hs (i + 1) (Nat.succ_lt_succ hi)
    rw [steps_three_succ, hm, Function.iterate_succ_apply, ← hc]
    exact ih hr' hs'

theorem steps_stuck {n i : Nat} (hr : (ofMachine m).Ready) (hi : i < n)
    (hs : (State.cycle^[i] (ofMachine m)).Stuck) :
    m.steps (3 * n) = .error (.numeral .unwritable) := by
  -- the first stuck cycle may come before the given one
  induction n generalizing m i with
  | zero => exact absurd hi (Nat.not_lt_zero i)
  | succ n ih =>
    rw [steps_three_succ]
    by_cases h : (ofMachine m).Stuck
    · rw [steps_three_stuck hr h]
      rfl
    · obtain ⟨m', hm, hc, hr'⟩ := exists_steps_three hr h
      rw [hm]
      cases i with
      | zero => exact absurd hs h
      | succ i =>
        rw [Function.iterate_succ_apply, ← hc] at hs
        exact ih hr' (Nat.lt_of_succ_lt_succ hi) hs

/-- From a machine that is ready to fetch, three steps a cycle agree with the instruction set for
any number of cycles, if none of them is stuck; and they fail if one of them is. -/
theorem steps_three_mul (hp : m.phase = .fetch) (n : Nat) :
    ((∀ i < n, ¬ (State.cycle^[i] (ofMachine m)).Stuck) →
      (m.steps (3 * n)).map ofMachine = .ok (State.cycle^[n] (ofMachine m))) ∧
    ((∃ i < n, (State.cycle^[i] (ofMachine m)).Stuck) →
      m.steps (3 * n) = .error (.numeral .unwritable)) := by
  have hr : (ofMachine m).Ready := .inr hp
  constructor
  · intro hs
    exact steps_cycles hr hs
  · rintro ⟨i, hi, hs⟩
    exact steps_stuck hr hi hs

theorem steps_three_mul_overwriting_and_stuck :
    let m : Machine :=
      { memory := [⟨0, .instruction ⟨"STORE", some 1⟩, .instruction, false⟩,
          ⟨1, .instruction ⟨"HALT", none⟩, .instruction, false⟩]
        phase := .fetch
        acc := 5 }
    let m' : Machine := { m with pc := 1, acc := Nat.pow 10 4300 }
    (m.phase = .fetch ∧ (∀ i < 2, ¬ (State.cycle^[i] (ofMachine m)).Stuck) ∧
      (m.steps 6).map ofMachine =
        .ok { ofMachine m with
          words := [⟨0, .instruction ⟨"STORE", some 1⟩, .instruction⟩, ⟨1, .number 5, .instruction⟩]
          pc := 2
          ir := ⟨"STORE", some 1⟩ }) ∧
    m'.phase = .fetch ∧ (∃ i < 2, (State.cycle^[i] (ofMachine m')).Stuck) ∧
      m'.steps 6 = .error (.numeral .unwritable) := by
  intro m m'
  have hs : ∀ i < 2, ¬ (State.cycle^[i] (ofMachine m)).Stuck := by decide +kernel
  have hs' : ∃ i < 2, (State.cycle^[i] (ofMachine m')).Stuck := by decide +kernel
  refine ⟨⟨rfl, hs, ((steps_three_mul (m := m) rfl 2).1 hs).trans (congrArg Except.ok ?_)⟩,
    rfl, hs', (steps_three_mul (m := m') rfl 2).2 hs'⟩
  decide +kernel

end StoredProgram.Isa
