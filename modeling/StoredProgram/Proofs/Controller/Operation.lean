import StoredProgram.Controller
import StoredProgram.Proofs.Session.Invariant

/-! What each operation of a controller does to its session, to its timer and to its viewers. To the
session it does what an operation of the session does. -/

namespace StoredProgram.Controller
variable {c : Controller} {s : Session} {log : Log} {e : Fault} {v : Value}

theorem tick_of_error (h : c.session.tick = .error e) :
    c.tick = { controller := c, fault := some e } := by
  rw [tick, h]

theorem tick_of_ok (h : c.session.tick = .ok (s, log)) :
    c.tick = { controller := { c with session := s }.syncTimer
               signals := changed s :: haltSignals c.session s
               log } := by
  rw [tick, h]

theorem step_of_running (h : c.session.machine.running = true) : c.step = { controller := c } :=
  if_pos h

theorem step_of_error (hr : c.session.machine.running = false) (h : c.session.step = .error e) :
    c.step = { controller := c, fault := some e } := by
  rw [step, if_neg (Bool.eq_false_iff.mp hr), h]

theorem step_of_ok (hr : c.session.machine.running = false) (h : c.session.step = .ok (s, log)) :
    c.step = { controller := { c with session := s }
               signals := changed s :: haltSignals c.session s
               log } := by
  rw [step, if_neg (Bool.eq_false_iff.mp hr), h]

theorem reset_of_error (h : c.session.reset = .error e) :
    c.reset = { controller := c.stopTimer, fault := some e } := by
  rw [reset, h]

theorem reset_of_ok (h : c.session.reset = .ok (s, log)) :
    c.reset = { controller := { c with session := s }.stopTimer, signals := [changed s], log } := by
  rw [reset, h]

theorem setSpeed_of_error (h : c.session.setSpeed v = .error e) :
    c.setSpeed v = { controller := c, fault := some e } := by
  rw [setSpeed, h]

theorem setSpeed_of_ok (h : c.session.setSpeed v = .ok s) : c.setSpeed v = c.publish s := by
  rw [setSpeed, h]

theorem toggleRun_eq (c : Controller) : c.toggleRun = c.publish c.session.toggleRun := by
  unfold toggleRun Session.toggleRun
  by_cases h : c.session.machine.running = true
  · rw [if_pos h, h]
    rfl
  · rw [if_neg h, Bool.eq_false_iff.mpr h]
    rfl

theorem shutdown_eq (c : Controller) :
    c.shutdown = { controller := { c with session := c.session.pause }.stopTimer } := by
  unfold shutdown
  split_ifs with h
  · rfl
  · rw [Session.pause_of_paused (Bool.eq_false_iff.mpr h)]

theorem syncTimer_eq (c : Controller) :
    c.syncTimer =
      { c with
        timer :=
          if c.session.machine.running && !c.session.machine.halted then
            ⟨true, c.session.machine.speed⟩
          else { c.timer with active := false } } := by
  simp only [syncTimer]
  split_ifs <;> rfl

theorem syncTimer_of_paused (h : c.session.machine.running = false) :
    c.syncTimer = c.stopTimer := by
  rw [syncTimer_eq, h, Bool.false_and, if_neg Bool.false_ne_true, stopTimer]

theorem syncTimer_of_running (hr : c.session.machine.running = true)
    (hh : c.session.machine.halted = false) :
    c.syncTimer = { c with timer := ⟨true, c.session.machine.speed⟩ } := by
  rw [syncTimer_eq, hr, hh, Bool.not_false, Bool.and_true, if_pos rfl]

theorem session_syncTimer (c : Controller) : c.syncTimer.session = c.session := by
  rw [syncTimer_eq]

def Command.onSession : Command → Session.Command
  | .start => .setRunning true
  | .pause | .shutdown => .pause
  | .toggleRun => .toggleRun
  | .step => .step
  | .reset => .reset
  | .setSpeed speed => .setSpeed speed
  | .tick => .tick
  | .behind command => command

theorem session_tick (c : Controller) :
    c.tick.controller.session = (c.session.perform .tick).session := by
  unfold Session.perform
  cases h : c.session.tick with
  | error e => rw [tick_of_error h]; rfl
  | ok r => rw [tick_of_ok h]; exact session_syncTimer _

theorem session_step (c : Controller) :
    c.step.controller.session = (c.session.perform .step).session := by
  unfold Session.perform
  by_cases hr : c.session.machine.running = true
  · rw [step_of_running hr, Session.step_of_running hr]
    rfl
  · have hr := Bool.eq_false_iff.mpr hr
    cases h : c.session.step with
    | error e => rw [step_of_error hr h]; rfl
    | ok r => rw [step_of_ok hr h]; rfl

theorem session_reset (c : Controller) :
    c.reset.controller.session = (c.session.perform .reset).session := by
  unfold Session.perform
  cases h : c.session.reset with
  | error e => rw [reset_of_error h]; rfl
  | ok r => rw [reset_of_ok h]; rfl

theorem session_setSpeed (c : Controller) (v : Value) :
    (c.setSpeed v).controller.session = (c.session.perform (.setSpeed v)).session := by
  show _ = (Session.Progress.ofResult c.session ((c.session.setSpeed v).map (·, []))).session
  cases h : c.session.setSpeed v with
  | error e => rw [setSpeed_of_error h]; rfl
  | ok s => rw [setSpeed_of_ok h]; exact session_syncTimer _

theorem session_perform (c : Controller) (x : Command) :
    (c.perform x).controller.session = (c.session.perform x.onSession).session := by
  cases x with
  | start => exact session_syncTimer _
  | pause => exact session_syncTimer _
  | toggleRun => rw [perform, toggleRun_eq]; exact session_syncTimer _
  | step => exact c.session_step
  | reset => exact c.session_reset
  | shutdown => exact congrArg (·.controller.session) c.shutdown_eq
  | setSpeed v => exact c.session_setSpeed v
  | tick => exact c.session_tick
  | behind b => rfl

theorem session_performAll (c : Controller) (xs : List Command) :
    (c.performAll xs).session = c.session.performAll (xs.map Command.onSession) := by
  induction xs generalizing c with
  | nil => rfl
  | cons x xs ih =>
    rw [performAll, ih, session_perform]
    rfl

theorem perform_settings (c : Controller) (x : Command) :
    (c.perform x).controller.session.settings = c.session.settings := by
  rw [session_perform, Session.perform_settings]

theorem performAll_settings (c : Controller) (xs : List Command) :
    (c.performAll xs).session.settings = c.session.settings := by
  rw [session_performAll, Session.performAll_settings]

end StoredProgram.Controller
