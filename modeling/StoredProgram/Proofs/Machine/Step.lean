import Mathlib.Tactic.SplitIfs
import StoredProgram.Machine.Cycle
import StoredProgram.Proofs.Numeral

/-! What one step of the machine can do, and runs of several. A step either goes on to the next
phase or carries out a halting instruction, and the only step that fails is a halting one with an
accumulator that cannot be written. -/

namespace StoredProgram

def Phase.next : Phase → Phase
  | .idle => .fetch
  | .fetch => .decode
  | .decode => .execute
  | .execute => .fetch

namespace Machine
variable {m m' : Machine}

theorem steps_succ (n : Nat) (m : Machine) : m.steps (n + 1) = m.step >>= steps n := rfl

theorem steps_add (a b : Nat) (m : Machine) : m.steps (a + b) = m.steps a >>= steps b := by
  induction a generalizing m with
  | zero => rw [Nat.zero_add]; rfl
  | succ a ih =>
    rw [Nat.succ_add, steps_succ, steps_succ]
    cases m.step with
    | error e => rfl
    | ok m' =>
      show m'.steps (a + b) = m'.steps a >>= steps b
      exact ih m'

theorem steps_one (m : Machine) : m.steps 1 = m.step := by
  rw [steps_succ]
  cases m.step <;> rfl

theorem steps_succ_last (n : Nat) (m : Machine) : m.steps (n + 1) = m.steps n >>= step := by
  rw [steps_add]
  exact congrArg (m.steps n >>= ·) (funext steps_one)

theorem steps_succ_of_ok {n : Nat} (h : m.step = .ok m') : m.steps (n + 1) = m'.steps n := by
  rw [steps_succ, h]
  rfl

theorem steps_succ_of_error {n : Nat} {e : Fault} (h : m.step = .error e) :
    m.steps (n + 1) = .error e := by
  rw [steps_succ, h]
  rfl

theorem step_of_halted (h : m.halted = true) : m.step = .ok m := if_pos h

theorem steps_of_halted (h : m.halted = true) (n : Nat) : m.steps n = .ok m := by
  induction n with
  | zero => rfl
  | succ n ih => rw [steps_succ_of_ok (step_of_halted h), ih]

theorem step_of_phase_idle (hh : m.halted = false) (hp : m.phase = .idle) :
    m.step = .ok m.startCycle := by
  simp only [step, hh, hp, Bool.false_eq_true, if_false]

theorem step_of_phase_fetch (hh : m.halted = false) (hp : m.phase = .fetch) :
    m.step = .ok m.fetch := by
  simp only [step, hh, hp, Bool.false_eq_true, if_false]

theorem step_of_phase_decode (hh : m.halted = false) (hp : m.phase = .decode) :
    m.step = .ok m.decode := by
  simp only [step, hh, hp, Bool.false_eq_true, if_false]

theorem step_of_phase_execute (hh : m.halted = false) (hp : m.phase = .execute) :
    m.step = m.execute := by
  simp only [step, hh, hp, Bool.false_eq_true, if_false]

inductive Stepped (m : Machine) : Machine → Prop
  | halted : m.halted = true → Stepped m m
  | idle : m.halted = false → m.phase = .idle → Stepped m m.startCycle
  | fetch : m.halted = false → m.phase = .fetch → Stepped m m.fetch
  | decode : m.halted = false → m.phase = .decode → Stepped m m.decode
  | execute {m' : Machine} : m.halted = false → m.phase = .execute → m.execute = .ok m' →
      Stepped m m'

theorem stepped (h : m.step = .ok m') : m.Stepped m' := by
  by_cases hh : m.halted = true
  · obtain rfl := Except.ok.inj ((step_of_halted hh).symm.trans h)
    exact .halted hh
  have hh := Bool.eq_false_iff.mpr hh
  cases hp : m.phase with
  | idle =>
    obtain rfl := Except.ok.inj ((step_of_phase_idle hh hp).symm.trans h)
    exact .idle hh hp
  | fetch =>
    obtain rfl := Except.ok.inj ((step_of_phase_fetch hh hp).symm.trans h)
    exact .fetch hh hp
  | decode =>
    obtain rfl := Except.ok.inj ((step_of_phase_decode hh hp).symm.trans h)
    exact .decode hh hp
  | execute => exact .execute hh hp ((step_of_phase_execute hh hp).symm.trans h)

structure GoesOn (m m' : Machine) : Prop where
  phase : m'.phase = m.phase.next
  halted : m'.halted = m.halted
  running : m'.running = m.running
  speed : m'.speed = m.speed
  output : m'.output = m.output

def stopped (m : Machine) : Machine :=
  { m with
    phase := .idle
    signals := ["Execute", haltOpcode]
    running := false
    halted := true
    output := m.output ++ [haltMessage (Numeral.text m.acc)] }

theorem halt_eq (m : Machine) :
    m.halt = if Numeral.Unwritable m.acc then .error (.numeral .unwritable) else .ok m.stopped := by
  unfold halt
  rw [Numeral.write_eq]
  by_cases h : Numeral.Unwritable m.acc
  · rw [if_pos h, if_pos h]
  · rw [if_neg h, if_neg h]
    rfl

theorem eq_stopped_of_perform (h : m.perform .halt = .ok m') : m' = m.stopped := by
  rw [perform, halt_eq] at h
  split_ifs at h
  exact (Except.ok.inj h).symm

theorem branch_eq (name : String) (taken : Prop) [Decidable taken] (m : Machine) (a : Int) :
    branch name taken m a =
      { m with
        phase := .fetch
        signals := (branch name taken m a).signals
        pc := if taken then a else m.pc + 1
        bus := (branch name taken m a).bus } := by
  by_cases h : taken
  · simp only [branch, h, decide_true, if_true]
    rfl
  · simp only [branch, h, decide_false, Bool.false_eq_true, if_false]
    rfl

theorem fetch_eq (m : Machine) :
    m.fetch =
      { m with
        memory := m.memory.highlight (some m.pc)
        phase := .decode
        signals := ["Fetch"]
        ir := m.fetch.ir
        mar := m.pc
        mdr := (m.memory.read? m.pc).getD (.number 0)
        bus := m.fetch.bus } := by
  unfold fetch
  rcases m.memory.read? m.pc with _ | _ | _ <;> rfl

theorem goesOn_fetch (h : m.phase = .fetch) : GoesOn m m.fetch := by
  rw [fetch_eq]
  exact ⟨by rw [h]; rfl, rfl, rfl, rfl, rfl⟩

theorem goesOn_perform {op : Operation} (h : m.phase = .execute) (hop : op ≠ .halt)
    (hp : m.perform op = .ok m') : GoesOn m m' := by
  have hn : m.phase.next = .fetch := by rw [h]; rfl
  -- apart from the branches, what is carried out is one record update
  cases op with
  | halt => exact absurd rfl hop
  | jumpZero a | jumpNonzero a =>
    obtain rfl := Except.ok.inj hp
    rw [branch_eq]
    exact ⟨hn.symm, rfl, rfl, rfl, rfl⟩
  | _ =>
    obtain rfl := Except.ok.inj hp
    exact ⟨hn.symm, rfl, rfl, rfl, rfl⟩

theorem execute_of_halting (h : m.ir.opcode = haltOpcode) : m.execute = m.halt := by
  unfold execute
  rw [m.ir.operation?_eq_halt_iff.mpr h]
  rfl

theorem execute_of_not_halting (h : m.ir.opcode ≠ haltOpcode) (hp : m.phase = .execute) :
    ∃ m', m.execute = .ok m' ∧ GoesOn m m' := by
  have hn : m.phase.next = .fetch := by rw [hp]; rfl
  unfold execute
  cases ho : m.ir.operation? with
  | none => exact ⟨m.idleCycle, rfl, hn.symm, rfl, rfl, rfl, rfl⟩
  | some op =>
    have hop : op ≠ .halt := by
      intro hop
      rw [hop] at ho
      exact h (m.ir.operation?_eq_halt_iff.mp ho)
    have hk : ∃ m', m.perform op = .ok m' := by
      cases op with
      | halt => exact absurd rfl hop
      | _ => exact ⟨_, rfl⟩
    obtain ⟨m', hm⟩ := hk
    exact ⟨m', hm, goesOn_perform hp hop hm⟩

def Halting (m : Machine) : Prop :=
  m.halted = false ∧ m.phase = .execute ∧ m.ir.opcode = haltOpcode

instance (m : Machine) : Decidable m.Halting :=
  inferInstanceAs (Decidable (m.halted = false ∧ m.phase = .execute ∧ m.ir.opcode = haltOpcode))

theorem step_of_halting (h : Halting m) :
    m.step = if Numeral.Unwritable m.acc then .error (.numeral .unwritable) else .ok m.stopped := by
  obtain ⟨hh, hp, ho⟩ := h
  rw [← halt_eq, ← execute_of_halting ho]
  exact step_of_phase_execute hh hp

theorem step_of_not_halting (hh : m.halted = false) (h : ¬ Halting m) :
    ∃ m', m.step = .ok m' ∧ GoesOn m m' := by
  cases hp : m.phase with
  | idle => exact ⟨m.startCycle, step_of_phase_idle hh hp, by rw [hp]; rfl, rfl, rfl, rfl, rfl⟩
  | fetch => exact ⟨m.fetch, step_of_phase_fetch hh hp, goesOn_fetch hp⟩
  | decode => exact ⟨m.decode, step_of_phase_decode hh hp, by rw [hp]; rfl, rfl, rfl, rfl, rfl⟩
  | execute =>
    have ho : m.ir.opcode ≠ haltOpcode := fun ho => h ⟨hh, hp, ho⟩
    obtain ⟨m', he, hg⟩ := execute_of_not_halting ho hp
    exact ⟨m', (step_of_phase_execute hh hp).trans he, hg⟩

theorem step_error_iff {e : Fault} :
    m.step = .error e ↔ Halting m ∧ Numeral.Unwritable m.acc ∧ e = .numeral .unwritable := by
  constructor
  · intro h
    by_cases hh : m.halted = true
    · rw [step_of_halted hh] at h
      cases h
    · by_cases hm : Halting m
      · rw [step_of_halting hm] at h
        split_ifs at h with hu
        exact ⟨hm, hu, (Except.error.inj h).symm⟩
      · obtain ⟨m', hs, _⟩ := step_of_not_halting (Bool.eq_false_iff.mpr hh) hm
        rw [hs] at h
        cases h
  · rintro ⟨hm, hu, rfl⟩
    rw [step_of_halting hm, if_pos hu]

/-- The next step is to halt and cannot, since it would have to write the accumulator. -/
def Stuck (m : Machine) : Prop := m.Halting ∧ Numeral.Unwritable m.acc

instance (m : Machine) : Decidable m.Stuck :=
  inferInstanceAs (Decidable (m.Halting ∧ Numeral.Unwritable m.acc))

theorem step_of_stuck (h : m.Stuck) : m.step = .error (.numeral .unwritable) :=
  step_error_iff.mpr ⟨h.1, h.2, rfl⟩

theorem exists_step (h : ¬ m.Stuck) : ∃ m', m.step = .ok m' := by
  cases hs : m.step with
  | ok m' => exact ⟨m', rfl⟩
  | error e =>
    obtain ⟨hm, hu, _⟩ := step_error_iff.mp hs
    exact absurd ⟨hm, hu⟩ h

theorem step_ok (hh : m.halted = false) (h : m.step = .ok m') :
    GoesOn m m' ∨ Halting m ∧ m' = m.stopped := by
  by_cases hm : Halting m
  · rw [step_of_halting hm] at h
    split_ifs at h
    exact .inr ⟨hm, (Except.ok.inj h).symm⟩
  · obtain ⟨m₁, hs, hg⟩ := step_of_not_halting hh hm
    obtain rfl := Except.ok.inj (hs.symm.trans h)
    exact .inl hg

theorem eq_stopped_of_step (hh : m.halted = false) (h : m.step = .ok m') (hm : m'.halted = true) :
    Halting m ∧ m' = m.stopped := by
  apply (step_ok hh h).resolve_left
  intro hg
  have hf : m'.halted = false := hg.halted.trans hh
  rw [hf] at hm
  cases hm

theorem goesOn_of_step (hh : m.halted = false) (h : m.step = .ok m') (hm : m'.halted = false) :
    GoesOn m m' := by
  apply (step_ok hh h).resolve_right
  rintro ⟨_, rfl⟩
  cases hm

theorem not_running_of_step (hh : m.halted = false) (hr : m.running = false)
    (h : m.step = .ok m') : m'.running = false := by
  rcases step_ok hh h with hg | ⟨_, rfl⟩
  · exact hg.running.trans hr
  · rfl

end Machine
end StoredProgram
