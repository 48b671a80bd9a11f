import StoredProgram.Proofs.Machine.Step

/-! The two fields that belong to the driver, `running` and `speed`, do not influence what a machine
computes: a step commutes with putting the machine to rest. -/

namespace StoredProgram.Machine
variable {m m' : Machine}

def paused (m : Machine) : Machine := { m with running := false }

def atRest (m : Machine) (speed : Int) : Machine := { m.paused with speed := speed }

/-- Equal in every field but `running` and `speed`. -/
def Agrees (m m' : Machine) : Prop := m.atRest 0 = m'.atRest 0

theorem fetch_atRest (m : Machine) (v : Int) : (m.atRest v).fetch = m.fetch.atRest v := by
  have hr : (m.atRest v).memory.read? (m.atRest v).pc = m.memory.read? m.pc := rfl
  unfold fetch
  rw [hr]
  rcases m.memory.read? m.pc with _ | _ | _ <;> rfl

theorem branch_atRest (name : String) (taken : Bool) (m : Machine) (a v : Int) :
    branch name taken (m.atRest v) a = (branch name taken m a).atRest v := by
  cases taken <;> rfl

theorem halt_atRest (m : Machine) (v : Int) : (m.atRest v).halt = m.halt.map (atRest · v) := by
  have ha : (m.atRest v).acc = m.acc := rfl
  rw [halt_eq, halt_eq, ha]
  by_cases h : Numeral.Unwritable m.acc
  · rw [if_pos h, if_pos h]
    rfl
  · rw [if_neg h, if_neg h]
    rfl

theorem perform_atRest (m : Machine) (v : Int) (op : Operation) :
    (m.atRest v).perform op = (m.perform op).map (atRest · v) := by
  cases op with
  | jumpZero a => exact congrArg Except.ok (branch_atRest "JZ" _ m a v)
  | jumpNonzero a => exact congrArg Except.ok (branch_atRest "JNZ" _ m a v)
  | halt => exact halt_atRest m v
  | _ => rfl

theorem execute_atRest (m : Machine) (v : Int) :
    (m.atRest v).execute = m.execute.map (atRest · v) := by
  have hi : (m.atRest v).ir.operation? = m.ir.operation? := rfl
  unfold execute
  rw [hi]
  cases m.ir.operation? with
  | none => rfl
  | some op => exact perform_atRest m v op

theorem step_atRest (m : Machine) (v : Int) : (m.atRest v).step = m.step.map (atRest · v) := by
  by_cases hh : m.halted = true
  · rw [step_of_halted hh, step_of_halted (m := m.atRest v) hh]
    rfl
  have hh := Bool.eq_false_iff.mpr hh
  have hr : (m.atRest v).halted = false := hh
  cases hp : m.phase with
  | idle => rw [step_of_phase_idle hh hp, step_of_phase_idle hr hp]; rfl
  | fetch => rw [step_of_phase_fetch hh hp, step_of_phase_fetch hr hp, fetch_atRest]; rfl
  | decode => rw [step_of_phase_decode hh hp, step_of_phase_decode hr hp]; rfl
  | execute => rw [step_of_phase_execute hh hp, step_of_phase_execute hr hp, execute_atRest]

theorem step_speed (h : m.step = .ok m') : m'.speed = m.speed := by
  by_cases hh : m.halted = true
  · rw [Except.ok.inj ((step_of_halted hh).symm.trans h)]
  · rcases step_ok (Bool.eq_false_iff.mpr hh) h with hg | ⟨_, rfl⟩
    · exact hg.speed
    · rfl

theorem step_paused (m : Machine) : m.paused.step = m.step.map paused := by
  -- to pause is to come to rest at the same speed, which a step does not change
  show (m.atRest m.speed).step = m.step.map paused
  rw [step_atRest]
  cases h : m.step with
  | error e => rfl
  | ok m' =>
    have hv : m'.atRest m.speed = m'.paused := by
      rw [← step_speed h]
      rfl
    exact congrArg Except.ok hv

theorem steps_map {f : Machine → Machine} (hf : ∀ m, (f m).step = m.step.map f) (n : Nat)
    (m : Machine) : (f m).steps n = (m.steps n).map f := by
  induction n generalizing m with
  | zero => rfl
  | succ n ih =>
    rw [steps_succ, steps_succ, hf]
    cases m.step with
    | error e => rfl
    | ok m' => exact ih m'

theorem steps_paused (n : Nat) (m : Machine) : m.paused.steps n = (m.steps n).map paused :=
  steps_map step_paused n m

theorem Agrees.exists_step {m₁' : Machine} (h : Agrees m m') (hs : m'.step = .ok m₁') :
    ∃ m₁, m.step = .ok m₁ ∧ Agrees m₁ m₁' := by
  have ha : m.atRest 0 = m'.atRest 0 := h
  have hr : m.step.map (atRest · 0) = m'.step.map (atRest · 0) := by
    rw [← step_atRest, ← step_atRest, ha]
  rw [hs] at hr
  cases hm : m.step with
  | error e => rw [hm] at hr; cases hr
  | ok m₁ => rw [hm] at hr; exact ⟨m₁, rfl, Except.ok.inj hr⟩

end StoredProgram.Machine
