import StoredProgram.Proofs.Session.Invariant
import StoredProgram.Proofs.Session.Run

/-! A halt lasts: only loading, a reset and a step back can take a session out of it. -/

namespace StoredProgram.Session
variable {s s' : Session} {c : Command}

def Command.Reopens (c : Command) : Prop := c.Loads ∨ c = .reset ∨ c = .stepBack

theorem halted_setRunning (s : Session) (b : Bool) :
    (s.setRunning b).machine.halted = s.machine.halted := by
  unfold setRunning
  split_ifs <;> rfl

theorem halted_setSpeed (s : Session) (v : Value) :
    (s.perform (.setSpeed v)).session.machine.halted = s.machine.halted := by
  show (Progress.ofResult s ((s.setSpeed v).map (·, []))).session.machine.halted = _
  cases h : s.setSpeed v with
  | error e => rfl
  | ok s' =>
    obtain ⟨_, _, _, rfl⟩ := setSpeed_ok h
    rfl

theorem halted_reset {log : Log} (h : s.reset = .ok (s', log)) : s'.machine.halted = false := by
  obtain ⟨m, hf, hs⟩ := Except.bind_eq_ok_iff.mp h
  obtain ⟨_, rfl⟩ := freshMachine_ok hf
  obtain ⟨rfl, _⟩ := Prod.mk.inj (Except.ok.inj hs)
  rfl

theorem run_of_halted (h : s.machine.halted = true) (limit : Option Int) :
    s.run limit = { session := s } := by
  rw [run, setRunning_of_halted h]
  exact runFor_of_idle 0 _ (by rw [h, Bool.not_true, Bool.and_false])

theorem halted_advance {log : Log} (hh : s.machine.halted = true)
    (h : s.advance = .ok (s', log)) : s'.machine.halted = true := by
  -- of a halted session an advance changes the run flag at most
  rcases advance_ok h with ⟨_, rfl | rfl⟩ | ⟨hn, _⟩
  · exact hh
  · exact hh
  · exact absurd (hn.symm.trans hh) Bool.false_ne_true

theorem halted_ofResult {r : Except Fault (Session × Log)} (hh : s.machine.halted = true)
    (h : ∀ s' log, r = .ok (s', log) → s'.machine.halted = true) :
    (Progress.ofResult s r).session.machine.halted = true := by
  cases r with
  | error e => exact hh
  | ok p => exact h p.1 p.2 rfl

theorem halted_perform (hh : s.machine.halted = true) (hc : ¬ c.Reopens) :
    (s.perform c).session.machine.halted = true := by
  cases c with
  | loadProgram | loadSource | loadExample => exact absurd (.inl trivial) hc
  | reset => exact absurd (.inr (.inl rfl)) hc
  | stepBack => exact absurd (.inr (.inr rfl)) hc
  | step =>
    refine halted_ofResult hh fun s' log h => ?_
    by_cases hr : s.machine.running = true
    · rw [step_of_running hr] at h
      obtain ⟨rfl, _⟩ := Prod.mk.inj (Except.ok.inj h)
      exact hh
    · rw [step_of_paused (Bool.eq_false_iff.mpr hr)] at h
      exact halted_advance hh h
  | tick =>
    refine halted_ofResult hh fun s' log h => ?_
    by_cases hr : s.machine.running = true
    · rw [tick_of_running hr] at h
      exact halted_advance hh h
    · rw [tick_of_paused (Bool.eq_false_iff.mpr hr)] at h
      obtain ⟨rfl, _⟩ := Prod.mk.inj (Except.ok.inj h)
      exact hh
  | run limit =>
    rw [perform, run_of_halted hh]
    exact hh
  | setRunning b => exact (s.halted_setRunning b).trans hh
  | toggleRun => exact (s.halted_setRunning _).trans hh
  | pause => exact (s.halted_setRunning false).trans hh
  | setSpeed v => exact (s.halted_setSpeed v).trans hh
  | edit a v =>
    unfold perform editMemory
    split_ifs <;> exact hh
  | addBreakpoint b => exact hh
  | removeBreakpoint b => exact hh

end StoredProgram.Session
