import StoredProgram.Proofs.Controller.Timer
import StoredProgram.Proofs.Session.Fault
import StoredProgram.Proofs.Session.Run

/-! Running by the ticks of a timer and running at once. Where the session of a driven controller
stops by itself, a run stops; where the limit cuts both short, the run also pauses. -/

namespace StoredProgram.Controller
open Session (RunLength Sticks StopsAt Trail)
variable {c : Controller} {s : Session} {m : Machine} {limit : Nat} {d : Progress × Nat}

theorem drive_of_inactive (h : c.timer.active = false) (limit : Nat) :
    drive limit c = ({ controller := c }, 0) := by
  cases limit with
  | zero => rfl
  | succ limit => rw [drive, if_neg (Bool.eq_false_iff.mp h)]

theorem drive_succ_of_error {e : Fault} (ha : c.timer.active = true)
    (h : c.session.tick = .error e) (limit : Nat) :
    drive (limit + 1) c = ({ controller := c, fault := some e }, 1) := by
  rw [drive, if_pos ha, tick_of_error h]

theorem drive_succ_of_ok {log : Log} (ha : c.timer.active = true)
    (h : c.session.tick = .ok (s, log)) (limit : Nat) :
    let d := drive limit { c with session := s }.syncTimer
    drive (limit + 1) c =
      ({ d.1 with
        signals := changed s :: haltSignals c.session s ++ d.1.signals
        log := log ++ d.1.log }, d.2 + 1) := by
  rw [drive, if_pos ha, tick_of_ok h]

theorem inStep_drive (h : c.InStep) (limit : Nat) : (drive limit c).1.controller.InStep := by
  induction limit generalizing c with
  | zero => exact h
  | succ limit ih =>
    by_cases ha : c.timer.active = true
    · cases ht : c.session.tick with
      | error e => rw [drive_succ_of_error ha ht]; exact h
      | ok r => rw [drive_succ_of_ok ha ht]; exact ih (inStep_syncTimer _)
    · rw [drive_of_inactive (Bool.eq_false_iff.mpr ha)]
      exact h

/-- The run that ends where the ticks end, and pauses if the timer is still active then. -/
def cutShort (taken : Nat) (d : Progress × Nat) : Session.Progress :=
  if d.1.controller.timer.active && d.1.fault.isNone then
    { session := d.1.controller.session.pause
      log := d.1.log ++ Log.warning (Session.stoppedMessage (taken + d.2)) }
  else { session := d.1.controller.session, log := d.1.log, fault := d.1.fault }

theorem cutShort_of_inactive (h : d.1.controller.timer.active = false) (taken : Nat) :
    cutShort taken d =
      { session := d.1.controller.session, log := d.1.log, fault := d.1.fault } := by
  rw [cutShort, h, Bool.false_and, if_neg Bool.false_ne_true]

theorem cutShort_of_fault {e : Fault} (h : d.1.fault = some e) (taken : Nat) :
    cutShort taken d =
      { session := d.1.controller.session, log := d.1.log, fault := some e } := by
  rw [cutShort, h, Option.isNone_some, Bool.and_false, if_neg Bool.false_ne_true]

theorem cutShort_of_active (ha : d.1.controller.timer.active = true) (h : d.1.fault = none)
    (taken : Nat) :
    cutShort taken d =
      { session := d.1.controller.session.pause
        log := d.1.log ++ Log.warning (Session.stoppedMessage (taken + d.2)) } := by
  rw [cutShort, ha, h, Option.isNone_none, Bool.and_true, if_pos rfl]

theorem runFor_of_inactive (h : c.InStep) (ha : c.timer.active = false) (taken limit : Nat) :
    Session.runFor taken limit c.session = cutShort taken (drive limit c) := by
  rw [Session.runFor_of_idle taken limit (h.idle ha), drive_of_inactive ha,
    cutShort_of_inactive ha]

theorem runFor_eq_cutShort (h : c.InStep) (taken limit : Nat) :
    Session.runFor taken limit c.session = cutShort taken (drive limit c) := by
  induction limit generalizing c taken with
  | zero =>
    by_cases ha : c.timer.active = true
    · obtain ⟨hr, hh⟩ := h.active.mp ha
      rw [Session.runFor_zero taken hr hh, drive, cutShort_of_active ha rfl]
      rfl
    · exact runFor_of_inactive h (Bool.eq_false_iff.mpr ha) taken 0
  | succ limit ih =>
    by_cases ha : c.timer.active = true
    · obtain ⟨hr, hh⟩ := h.active.mp ha
      have ht : c.session.tick = c.session.advance := Session.tick_of_running hr
      cases hs : c.session.advance with
      | error e =>
        rw [Session.runFor_succ_of_error taken limit hr hh hs,
          drive_succ_of_error ha (ht.trans hs), cutShort_of_fault rfl]
      | ok r =>
        have hrun := ih (inStep_syncTimer { c with session := r.1 }) (taken + 1)
        rw [session_syncTimer] at hrun
        rw [Session.runFor_succ_of_ok taken limit hr hh hs, drive_succ_of_ok ha (ht.trans hs),
          hrun, cutShort, cutShort]
        split_ifs
        · simp only [List.append_assoc, Nat.add_assoc, Nat.add_comm 1]
        · rfl
    · exact runFor_of_inactive h (Bool.eq_false_iff.mpr ha) taken (limit + 1)

/-- How a session that runs ends up after at most `limit` ticks: it has stopped by itself, it has been
cut short, or the last tick has failed. -/
inductive Driven (s : Session) (limit : Nat) (d : Progress × Nat) : Prop
  | stopped :
      RunLength s.breakpoints s.machine limit d.2 → StopsAt s.breakpoints s.machine d.2 →
      d.1.controller.session.past.length = s.past.length + d.2 → d.1.fault = none →
      d.1.controller.timer.active = false → d.1.controller.session.machine.running = false →
      Driven s limit d
  | cut :
      d.2 = limit → (∀ j ≤ limit, ¬ StopsAt s.breakpoints s.machine j) →
      d.1.controller.session.past.length = s.past.length + d.2 → d.1.fault = none →
      d.1.controller.timer.active = true → Driven s limit d
  | failed {j : Nat} :
      d.2 = j + 1 → (∀ i, ¬ StopsAt s.breakpoints s.machine i) →
      s.machine.steps j = .ok d.1.controller.session.machine →
      d.1.controller.session.past.length = s.past.length + j →
      d.1.fault = some (.numeral .unwritable) → d.1.controller.session.machine.Stuck →
      Driven s limit d

namespace Driven

theorem succ {p : Progress} (h : s.machine.step = .ok m)
    (hn : ¬ StopsAt s.breakpoints s.machine 1)
    (hd : Driven { s with machine := m, past := s.machine :: s.past } limit d)
    (hc : p.controller = d.1.controller) (hf : p.fault = d.1.fault) :
    Driven s (limit + 1) (p, d.2 + 1) := by
  have hs : ∀ j, (∀ i ≤ j, ¬ StopsAt s.breakpoints m i) →
      ∀ i ≤ j + 1, ¬ StopsAt s.breakpoints s.machine i := by
    intro j hj i hi hi'
    cases i with
    | zero => exact Session.not_stopsAt_zero hi'
    | succ i =>
      have hi'' := (Session.stopsAt_succ_iff_of_not_one h hn).mp hi'
      exact hj i (Nat.le_of_succ_le_succ hi) hi''
  have hl : (s.machine :: s.past).length = s.past.length + 1 := List.length_cons
  cases hd with
  | stopped hk ht hp hnone ha hr =>
    refine .stopped (.succ h hn hk) ((Session.stopsAt_succ_iff_of_not_one h hn).mpr ht) ?_
      (hf.trans hnone) (by rw [hc, ha]) (by rw [hc, hr])
    rw [hc, hp, hl, Nat.add_assoc, Nat.add_comm 1]
  | cut hlim hno hp hnone ha =>
    refine .cut (congrArg (· + 1) hlim) (hs limit hno) ?_ (hf.trans hnone) (by rw [hc, ha])
    rw [hc, hp, hl, Nat.add_assoc, Nat.add_comm 1]
  | failed hj hno hm hp he hu =>
    refine .failed (congrArg (· + 1) hj) (fun i => ?_) ?_ ?_ (hf.trans he) (by rwa [hc])
    · exact hs i (fun i _ => hno i) i (Nat.le_succ i)
    · rw [hc, Machine.steps_succ_of_ok h]
      exact hm
    · rw [hc, hp, hl, Nat.add_assoc, Nat.add_comm 1]

end Driven

theorem drive_driven_of_stop (h : c.InStep) (ha : c.timer.active = true)
    (hs : c.session.machine.step = .ok m)
    (hm : m.halted = true ∨ Breakpoint.anyFires c.session.breakpoints c.session.machine m = true)
    (limit : Nat) : Driven c.session (limit + 1) (drive (limit + 1) c) := by
  obtain ⟨hr, hh⟩ := h.active.mp ha
  obtain ⟨text, hadv⟩ := Session.advance_of_stop hr hh hs hm
  have h1 : StopsAt c.session.breakpoints c.session.machine 1 :=
    (Session.stopsAt_one_iff hs).mpr hm
  rw [drive_succ_of_ok ha ((Session.tick_of_running hr).trans hadv), syncTimer_of_paused rfl,
    drive_of_inactive rfl]
  exact .stopped (.one h1) h1 rfl rfl rfl rfl

theorem drive_driven (h : c.InStep) (ha : c.timer.active = true) (limit : Nat) :
    Driven c.session limit (drive limit c) := by
  induction limit generalizing c with
  | zero =>
    refine .cut rfl (fun j hj => ?_) rfl rfl ha
    rw [Nat.le_zero.mp hj]
    exact Session.not_stopsAt_zero
  | succ limit ih =>
    obtain ⟨hr, hh⟩ := h.active.mp ha
    have ht : c.session.tick = c.session.advance := Session.tick_of_running hr
    cases hs : c.session.machine.step with
    | error e =>
      obtain ⟨hm, hu, rfl⟩ := Machine.step_error_iff.mp hs
      rw [drive_succ_of_error ha (ht.trans (Session.advance_of_error hs))]
      exact .failed (j := 0) rfl (fun _ => Session.not_stopsAt_of_error hs) rfl rfl rfl ⟨hm, hu⟩
    | ok m =>
      by_cases hm : m.halted = true ∨
          Breakpoint.anyFires c.session.breakpoints c.session.machine m = true
      · exact drive_driven_of_stop h ha hs hm limit
      · have hn : ¬ StopsAt c.session.breakpoints c.session.machine 1 :=
          fun h1 => hm ((Session.stopsAt_one_iff hs).mp h1)
        have hh' : m.halted = false := Bool.eq_false_iff.mpr fun hm' => hm (.inl hm')
        have hr' : m.running = true := (Machine.goesOn_of_step hh hs hh').running.trans hr
        have hadv := Session.advance_of_not_stop hh hs hm
        -- the timer is set again to the speed that it has
        have hd := ih (inStep_syncTimer
          { c with session := { c.session with
              machine := m, past := c.session.machine :: c.session.past } })
          (by rw [syncTimer_of_running hr' hh'])
        rw [session_syncTimer] at hd
        rw [drive_succ_of_ok ha (ht.trans hadv)]
        exact hd.succ hs hn rfl rfl

theorem session_start (c : Controller) :
    c.start.controller.session = c.session.setRunning true := session_syncTimer _

theorem run_eq_cutShort (c : Controller) (limit : Nat) :
    c.session.run (some limit) = cutShort 0 (drive limit c.start.controller) := by
  rw [← runFor_eq_cutShort c.inStep_start, session_start]
  rfl

theorem start_of_halted (h : c.session.machine.halted = true) :
    c.start.controller.session = c.session ∧ c.start.controller.timer.active = false := by
  have hs : c.start.controller.session = c.session :=
    c.session_start.trans (Session.setRunning_of_halted h)
  refine ⟨hs, Bool.eq_false_iff.mpr fun ha => ?_⟩
  have hh := (c.inStep_start.active.mp ha).2
  rw [hs, h] at hh
  cases hh

theorem start_of_not_halted (h : c.session.machine.halted = false) :
    c.start.controller.session = { c.session with machine := c.session.started } ∧
      c.start.controller.timer.active = true := by
  have hs : c.start.controller.session = { c.session with machine := c.session.started } :=
    c.session_start.trans (Session.setRunning_of_not_halted h)
  refine ⟨hs, c.inStep_start.active.mpr ?_⟩
  rw [hs]
  exact ⟨rfl, h⟩

/-- The same ticks by a timer as in a run: the same history and the same machine, but for the run
flag. Both stop by themselves at the same tick; where the limit cuts them short, the timer stays
active and the run pauses. Both fail at a halt that cannot be written, at the same tick, and then both
are left running. -/
theorem drive_start_agrees_run (c : Controller) (limit : Nat) :
    let s := c.session
    let d := drive limit c.start.controller
    let p := s.run (some limit)
    let sticks := Sticks s.breakpoints s.started limit
    (s.machine.halted = true →
      d.1.controller.session = s ∧ d.2 = 0 ∧ p = { session := s }) ∧
    (s.machine.halted = false →
      d.1.controller.session.pause = p.session.pause ∧ d.1.fault = p.fault ∧
      (¬ sticks → p.fault = none ∧ RunLength s.breakpoints s.started limit d.2 ∧
        p.session.past.length = s.past.length + d.2 ∧ p.session.machine.running = false) ∧
      ((∃ j ≤ limit, StopsAt s.breakpoints s.started j) →
        ¬ sticks ∧ d.1.controller.session = p.session ∧
        d.1.controller.timer.active = false) ∧
      ((∀ j ≤ limit, ¬ StopsAt s.breakpoints s.started j) → ¬ sticks →
        d.2 = limit ∧ d.1.controller.session.machine.running = true ∧
        d.1.controller.timer.active = true) ∧
      (sticks → p.fault = some (.numeral .unwritable) ∧
        d.1.controller.session = p.session ∧ p.session.machine.Stuck ∧
        p.session.machine.running = true ∧ d.1.controller.timer.active = true ∧
        ∃ j, d.2 = j + 1 ∧ p.session.past.length = s.past.length + j ∧
          s.started.steps j = .ok p.session.machine)) := by
  intro s d p sticks
  have hp : p = cutShort 0 d := c.run_eq_cutShort limit
  refine ⟨fun hh => ?_, fun hh => ?_⟩
  · obtain ⟨hs, ha⟩ := start_of_halted hh
    have hd : d = ({ controller := c.start.controller }, 0) := drive_of_inactive ha limit
    rw [hp, hd, cutShort_of_inactive ha, hs]
    exact ⟨rfl, rfl, rfl⟩
  · obtain ⟨hs, ha⟩ := start_of_not_halted hh
    have hi : d.1.controller.InStep := inStep_drive c.inStep_start limit
    have hd : Driven { s with machine := s.started } limit d :=
      hs ▸ drive_driven c.inStep_start ha limit
    have hnone : p.fault = none ↔ ¬ sticks := Session.fault_run_eq_none_iff hh
    -- both ends are known from the way the ticks end
    clear_value d p
    subst hp
    cases hd with
    | stopped hk hstop hl hf ht hr =>
      rw [cutShort_of_inactive ht] at hnone ⊢
      have hn : ¬ sticks := hnone.mp hf
      refine ⟨rfl, rfl, fun _ => ⟨hf, hk, hl, hr⟩, fun _ => ⟨hn, rfl, ht⟩, fun hno => ?_,
        fun hsticks => absurd hsticks hn⟩
      exact absurd hstop (hno d.2 hk.le)
    | cut hlim hno hl hf ht =>
      have hk : RunLength s.breakpoints s.started limit d.2 := by
        rw [hlim]
        exact .of_not_stopsAt hno
      rw [cutShort_of_active ht hf] at hnone ⊢
      have hn : ¬ sticks := hnone.mp rfl
      refine ⟨rfl, hf, fun _ => ⟨rfl, hk, hl, rfl⟩, ?_, fun _ _ => ⟨hlim, (hi.active.mp ht).1, ht⟩,
        fun hsticks => absurd hsticks hn⟩
      rintro ⟨j, hj, hstop⟩
      exact absurd hstop (hno j hj)
    | failed hj hno hm hl hf hu =>
      rw [cutShort_of_fault hf] at hnone ⊢
      have hsticks : sticks := Classical.not_not.mp fun hn => nomatch hnone.mpr hn
      have hr : d.1.controller.session.machine.running = true := Machine.running_steps hm hu.1.1
      refine ⟨rfl, hf, fun hn => absurd hsticks hn, ?_, fun _ hn => absurd hsticks hn,
        fun _ => ⟨rfl, rfl, hu, hr, hi.active.mpr ⟨hr, hu.1.1⟩, _, hj, hl, hm⟩⟩
      rintro ⟨j, _, hstop⟩
      exact absurd hstop (hno j)

/-- Ticks up to a halt, ticks that the limit cuts short, and ticks of which the tenth fails at a halt
that cannot be written, after nine that a run makes as well. -/
theorem drive_start_agrees_run_each_way :
    let s₀ : Session := { settings := {}, machine := Session.withSpeed (Machine.fresh 20) 500 }
    let load (source : String) (a : Int) : Controller :=
      { session := (s₀.perform (.loadSource source (.items [.list [.int 10, .int a]]))).session }
    let halts := load "ADD 10\nHALT" 5
    let loops := load "ADD 10\nJUMP 0" 5
    let sticks := load "ADD 10\nADD 10\nHALT" (Nat.pow 10 4300 - 1)
    let d (c : Controller) := drive 12 c.start.controller
    (d halts).1.controller.session = (halts.session.run (some 12)).session ∧
      (d halts).1.controller.timer.active = false ∧
      (d loops).2 = 12 ∧ (d loops).1.controller.timer.active = true ∧
      (d loops).1.controller.session.pause = (loops.session.run (some 12)).session.pause ∧
      (sticks.session.run (some 12)).fault = some (.numeral .unwritable) ∧
      (d sticks).1.controller.session = (sticks.session.run (some 12)).session ∧
      (d sticks).2 = (sticks.session.run (some 12)).session.past.length + 1 := by
  intro s₀ load halts loops sticks d
  have hs : halts.session.machine.halted = false ∧
      ∃ j ≤ 12, StopsAt halts.session.breakpoints halts.session.started j := by decide +kernel
  have hl : loops.session.machine.halted = false ∧
      (∀ j ≤ 12, ¬ StopsAt loops.session.breakpoints loops.session.started j) ∧
      ¬ Sticks loops.session.breakpoints loops.session.started 12 := by decide +kernel
  have he : sticks.session.machine.halted = false ∧ sticks.session.past.length = 0 ∧
      Sticks sticks.session.breakpoints sticks.session.started 12 := by decide +kernel
  -- from here on nothing depends on what the programs are
  clear_value halts loops sticks
  obtain ⟨_, _, _, hstop, _⟩ := (drive_start_agrees_run halts 12).2 hs.1
  obtain ⟨hp, _, _, _, hcut, _⟩ := (drive_start_agrees_run loops 12).2 hl.1
  obtain ⟨_, _, _, _, _, hfail⟩ := (drive_start_agrees_run sticks 12).2 he.1
  obtain ⟨_, hss, hst⟩ := hstop hs.2
  obtain ⟨hk, _, ha⟩ := hcut hl.2.1 hl.2.2
  obtain ⟨hf, hes, _, _, _, j, hj, hlen, _⟩ := hfail he.2.2
  rw [he.2.1, Nat.zero_add] at hlen
  exact ⟨hss, hst, hk, ha, hp, hf, hes, hj.trans (congrArg (· + 1) hlen.symm)⟩

end StoredProgram.Controller
