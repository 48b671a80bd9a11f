import StoredProgram.Proofs.Controller.Operation

/-! The timer and the run flag. The operations of a controller keep them in step; after operations
of the session that the controller did not see, the next one that starts, pauses, ticks or sets the
speed brings them in step again. -/

namespace StoredProgram.Controller
variable {c : Controller} {x : Command} {xs : List Command}

/-- The timer is active just while the session runs, and then at the speed of the session. -/
structure InStep (c : Controller) : Prop where
  active : c.timer.active = true ↔
    c.session.machine.running = true ∧ c.session.machine.halted = false
  interval : c.timer.active = true → c.timer.interval = c.session.machine.speed

structure AtRest (c : Controller) : Prop where
  inactive : c.timer.active = false
  paused : c.session.machine.running = false

def Command.Own : Command → Prop
  | .behind _ => False
  | _ => True

def StaysInStep (c : Controller) : Prop :=
  ∀ xs : List Command, (∀ x ∈ xs, x.Own) → (c.performAll xs).InStep

theorem AtRest.inStep (h : c.AtRest) : c.InStep where
  active := iff_of_false (Bool.eq_false_iff.mp h.inactive) fun hr =>
    Bool.eq_false_iff.mp h.paused hr.1
  interval ha := absurd ha (Bool.eq_false_iff.mp h.inactive)

theorem inStep_syncTimer (c : Controller) : c.syncTimer.InStep := by
  rw [syncTimer_eq]
  have hb : (c.session.machine.running && !c.session.machine.halted) = true ↔
      c.session.machine.running = true ∧ c.session.machine.halted = false := by
    rw [Bool.and_eq_true, Bool.not_eq_true']
  by_cases h : (c.session.machine.running && !c.session.machine.halted) = true
  · simp only [if_pos h]
    exact ⟨iff_of_true rfl (hb.mp h), fun _ => rfl⟩
  · simp only [if_neg h]
    exact ⟨iff_of_false Bool.false_ne_true fun hr => h (hb.mpr hr),
      fun ha => absurd ha Bool.false_ne_true⟩

theorem inStep_publish (c : Controller) (s : Session) : (c.publish s).controller.InStep :=
  inStep_syncTimer _

theorem inStep_start (c : Controller) : c.start.controller.InStep := c.inStep_publish _

theorem inStep_toggleRun (c : Controller) : c.toggleRun.controller.InStep := by
  rw [toggleRun_eq]
  exact c.inStep_publish _

theorem inStep_setSpeed {v : Value} (h : (c.setSpeed v).fault = none) :
    (c.setSpeed v).controller.InStep := by
  cases hs : c.session.setSpeed v with
  | error e => rw [setSpeed_of_error hs] at h; cases h
  | ok s => rw [setSpeed_of_ok hs]; exact c.inStep_publish s

theorem tick_of_stuck (hr : c.session.machine.running = true) (hm : c.session.machine.Stuck) :
    c.tick = { controller := c, fault := some (.numeral .unwritable) } :=
  tick_of_error ((Session.tick_of_running hr).trans (Session.advance_of_stuck hm))

theorem exists_tick (h : ¬ (c.session.machine.running = true ∧ c.session.machine.Stuck)) :
    ∃ s log, c.session.tick = .ok (s, log) := by
  by_cases hr : c.session.machine.running = true
  · rw [Session.tick_of_running hr]
    exact Session.exists_advance fun hm => h ⟨hr, hm⟩
  · exact ⟨_, _, Session.tick_of_paused (Bool.eq_false_iff.mpr hr)⟩

theorem inStep_tick (h : ¬ (c.session.machine.running = true ∧ c.session.machine.Stuck)) :
    c.tick.controller.InStep := by
  obtain ⟨s, log, ht⟩ := exists_tick h
  rw [tick_of_ok ht]
  exact inStep_syncTimer _

theorem atRest_reset {m : Machine} (h : Session.freshMachine c.session.settings = .ok m) :
    c.reset.controller.AtRest := by
  have hs : c.session.reset = .ok (c.session.replace m, Log.info "Simulator reset.") := by
    rw [Session.reset, h]
    rfl
  obtain ⟨_, rfl⟩ := Session.freshMachine_ok h
  rw [reset_of_ok hs]
  exact ⟨rfl, rfl⟩

theorem atRest_shutdown (c : Controller) : c.shutdown.controller.AtRest := by
  rw [shutdown_eq]
  exact ⟨rfl, rfl⟩

namespace InStep

theorem inactive (h : c.InStep) (hr : c.session.machine.running = false) :
    c.timer.active = false := by
  refine Bool.eq_false_iff.mpr fun ha => ?_
  exact Bool.eq_false_iff.mp hr (h.active.mp ha).1

theorem idle (h : c.InStep) (ha : c.timer.active = false) :
    (c.session.machine.running && !c.session.machine.halted) = false := by
  refine Bool.eq_false_iff.mpr fun hr => ?_
  rw [Bool.and_eq_true, Bool.not_eq_true'] at hr
  exact Bool.eq_false_iff.mp ha (h.active.mpr hr)

theorem tick (h : c.InStep) : c.tick.controller.InStep := by
  by_cases hm : c.session.machine.running = true ∧ c.session.machine.Stuck
  · rw [tick_of_stuck hm.1 hm.2]
    exact h
  · exact inStep_tick hm

/-- A single step does not see to the timer, and need not: before and after it nothing runs. -/
theorem step (h : c.InStep) : c.step.controller.InStep := by
  by_cases hr : c.session.machine.running = true
  · rw [step_of_running hr]
    exact h
  have hr := Bool.eq_false_iff.mpr hr
  cases hs : c.session.step with
  | error e =>
    rw [step_of_error hr hs]
    exact h
  | ok r =>
    rw [step_of_ok hr hs]
    rw [Session.step_of_paused hr] at hs
    exact AtRest.inStep ⟨h.inactive hr, Session.running_advance hr hs⟩

theorem setSpeed (h : c.InStep) (v : Value) : (c.setSpeed v).controller.InStep := by
  cases hs : c.session.setSpeed v with
  | error e => rw [setSpeed_of_error hs]; exact h
  | ok s => rw [setSpeed_of_ok hs]; exact c.inStep_publish s

theorem perform {m : Machine} (h : c.InStep)
    (hf : Session.freshMachine c.session.settings = .ok m) (hx : x.Own) :
    (c.perform x).controller.InStep := by
  cases x with
  | start => exact c.inStep_start
  | pause => exact c.inStep_publish _
  | toggleRun => exact c.inStep_toggleRun
  | step => exact h.step
  | reset => exact (atRest_reset hf).inStep
  | shutdown => exact c.atRest_shutdown.inStep
  | setSpeed v => exact h.setSpeed v
  | tick => exact h.tick
  | behind b => exact hx.elim

end InStep

theorem InStep.stays {m : Machine} (h : c.InStep)
    (hf : Session.freshMachine c.session.settings = .ok m) : c.StaysInStep := by
  intro xs
  induction xs generalizing c with
  | nil => exact fun _ => h
  | cons x xs ih =>
    intro hxs
    have hx := List.forall_mem_cons.mp hxs
    exact ih (h.perform hf hx.1) (by rwa [perform_settings]) hx.2

/-- From rest on, timer and run flag are in step after all operations of the controller. Whatever is
done behind its back, any later one that starts, pauses, sets the speed or ticks brings them in step
again, but for a tick that fails, and any later reset or shutdown leaves them at rest. -/
theorem timer_inStep {s₀ : Session} (hs : Session.start c.session.settings = .ok s₀)
    (hc : c.AtRest) :
    c.StaysInStep ∧
    ∀ xs, let c' := c.performAll xs
      (∀ x ∈ [.start, .pause, .toggleRun], (c'.perform x).controller.StaysInStep) ∧
      (∀ v, (c'.perform (.setSpeed v)).fault = none →
        (c'.perform (.setSpeed v)).controller.StaysInStep) ∧
      (¬ (c'.session.machine.running = true ∧ c'.session.machine.Stuck) →
        (c'.perform .tick).controller.StaysInStep) ∧
      (c'.session.machine.running = true ∧ c'.session.machine.Stuck →
        c'.perform .tick = { controller := c', fault := some (.numeral .unwritable) }) ∧
      ∀ x ∈ [.reset, .shutdown], (c'.perform x).controller.AtRest := by
  have hf := (Session.start_ok hs).1
  refine ⟨hc.inStep.stays hf, fun xs => ?_⟩
  intro c'
  have hf' : Session.freshMachine c'.session.settings = .ok s₀.machine := by
    rwa [performAll_settings]
  have hstays : ∀ {x}, (c'.perform x).controller.InStep → (c'.perform x).controller.StaysInStep :=
    fun h => h.stays (by rwa [perform_settings])
  refine ⟨?_, fun v hv => ?_, fun hm => ?_, fun hm => ?_, ?_⟩
  · intro x hx
    simp only [List.mem_cons, List.not_mem_nil, or_false] at hx
    rcases hx with rfl | rfl | rfl
    · exact hstays c'.inStep_start
    · exact hstays (c'.inStep_publish _)
    · exact hstays c'.inStep_toggleRun
  · exact hstays (inStep_setSpeed hv)
  · exact hstays (inStep_tick hm)
  · exact tick_of_stuck hm.1 hm.2
  · intro x hx
    simp only [List.mem_cons, List.not_mem_nil, or_false] at hx
    rcases hx with rfl | rfl
    · exact atRest_reset hf'
    · exact c'.atRest_shutdown

/-- A program is loaded, set running and sped up while the timer runs for the one before it; and
another program is run until it fails, so that the next tick fails as well. -/
theorem timer_inStep_behind_its_back :
    let s₀ : Session := { settings := {}, machine := Session.withSpeed (Machine.fresh 20) 500 }
    let c : Controller := { session := s₀ }
    let xs : List Command := [.start, .behind (.loadSource "LOAD 10\nJUMP 0" (.items [])),
      .behind (.setRunning true), .behind (.setSpeed (.int 200))]
    let ys : List Command := [.behind (.loadSource "LOAD 10\nADD 10\nHALT"
      (.items [.list [.int 10, .int (Nat.pow 10 4300 - 1)]])), .behind (.run none)]
    Session.start c.session.settings = .ok s₀ ∧ c.AtRest ∧
      ¬ (c.performAll xs).InStep ∧ ((c.performAll xs).perform .tick).controller.InStep ∧
      ((c.performAll xs).perform .shutdown).controller.AtRest ∧
      ¬ (c.performAll ys).InStep ∧
      (c.performAll ys).perform .tick =
        { controller := c.performAll ys, fault := some (.numeral .unwritable) } := by
  intro s₀ c xs ys
  have hs : Session.start c.session.settings = .ok s₀ := rfl
  have hc : c.AtRest := ⟨rfl, rfl⟩
  obtain ⟨-, -, htick, -, hrest⟩ := (timer_inStep hs hc).2 xs
  obtain ⟨-, -, -, hfail, -⟩ := (timer_inStep hs hc).2 ys
  have hx : ¬ (c.performAll xs).session.machine.Stuck := by decide +kernel
  have hi : (c.performAll xs).timer = ⟨true, 500⟩ ∧
      (c.performAll xs).session.machine.speed = 200 := by decide +kernel
  have hy : (c.performAll ys).session.machine.running = true ∧
      (c.performAll ys).session.machine.Stuck := by decide +kernel
  have ha : (c.performAll ys).timer.active = false := by decide +kernel
  refine ⟨hs, hc, fun h => ?_, htick (fun h => hx h.2) [] (List.forall_mem_nil _),
    hrest _ (.tail _ (.head _)), fun h => ?_, hfail hy⟩
  · have hv := h.interval (by rw [hi.1])
    rw [hi.1, hi.2] at hv
    exact absurd hv (by decide)
  · rw [h.active.mpr ⟨hy.1, hy.2.1.1⟩] at ha
    cases ha

end StoredProgram.Controller
