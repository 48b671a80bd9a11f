import Mathlib.Control.Monad.Basic
import StoredProgram.Proofs.Controller.Operation
import StoredProgram.Proofs.Session.Range

/-! Sessions and timers under settings that were read from data: whatever is done, no memory has
another size, and no speed and no interval is out of range. -/

namespace StoredProgram.Controller
variable {c : Controller} {x : Command}

/-- The interval of the timer stayed as it was in `c`, or is the speed that the session has now. -/
def Follows (c c' : Controller) : Prop :=
  c'.timer.interval = c.timer.interval ∨ c'.timer.interval = c'.session.machine.speed

theorem follows_syncTimer (c : Controller) : c.Follows c.syncTimer := by
  rw [syncTimer_eq]
  unfold Follows
  split_ifs
  · exact .inr rfl
  · exact .inl rfl

theorem follows_publish (c : Controller) (s : Session) : c.Follows (c.publish s).controller :=
  follows_syncTimer { c with session := s }

theorem follows_step (c : Controller) : c.Follows c.step.controller := by
  by_cases hr : c.session.machine.running = true
  · rw [step_of_running hr]
    exact .inl rfl
  · have hr := Bool.eq_false_iff.mpr hr
    cases h : c.session.step with
    | error e => rw [step_of_error hr h]; exact .inl rfl
    | ok r => rw [step_of_ok hr h]; exact .inl rfl

theorem follows_perform (c : Controller) (x : Command) : c.Follows (c.perform x).controller := by
  cases x with
  | start => exact c.follows_publish _
  | pause => exact c.follows_publish _
  | toggleRun =>
    rw [perform, toggleRun_eq]
    exact c.follows_publish _
  | step => exact c.follows_step
  | reset =>
    rw [perform]
    cases h : c.session.reset with
    | error e => rw [reset_of_error h]; exact .inl rfl
    | ok r => rw [reset_of_ok h]; exact .inl rfl
  | shutdown =>
    rw [perform, shutdown_eq]
    exact .inl rfl
  | setSpeed v =>
    rw [perform]
    cases h : c.session.setSpeed v with
    | error e => rw [setSpeed_of_error h]; exact .inl rfl
    | ok s => rw [setSpeed_of_ok h]; exact c.follows_publish s
  | tick =>
    rw [perform]
    cases h : c.session.tick with
    | error e => rw [tick_of_error h]; exact .inl rfl
    | ok r => rw [tick_of_ok h]; exact c.follows_publish r.1
  | behind b => exact .inl rfl

structure Paced (c : Controller) : Prop where
  session : c.session.Paced
  interval : c.timer.interval = 0 ∨ c.session.settings.Admits c.timer.interval

theorem Paced.perform (h : c.Paced) (hs : c.session.settings.WellFormed) (x : Command) :
    (c.perform x).controller.Paced := by
  have hp : (c.perform x).controller.session.Paced := by
    rw [session_perform]
    exact h.session.perform hs _
  refine ⟨hp, ?_⟩
  rcases c.follows_perform x with hi | hi
  · rw [hi, perform_settings]
    exact h.interval
  · rw [hi]
    exact .inr hp.machine

theorem Paced.performAll (h : c.Paced) (hs : c.session.settings.WellFormed) (xs : List Command) :
    (c.performAll xs).Paced := by
  induction xs generalizing c with
  | nil => exact h
  | cons x xs ih => exact ih (h.perform hs x) (by rwa [perform_settings])

/-- Settings that are read from data are well-formed, a session can be started with them, and in all
that follows every memory has their size, and every speed and the interval of a timer that has been
set are in their range. -/
theorem performAll_inRange {v : Value} {settings : Settings}
    (h : Settings.read v = .ok settings) :
    settings.WellFormed ∧ ∃ s₀, Session.start settings = .ok s₀ ∧
      ∀ xs : List Command, let c := ({ session := s₀ } : Controller).performAll xs
        (∀ m ∈ c.session.timeline, (m.memory.length : Int) = settings.memorySize ∧
          settings.Admits m.speed ∧ 0 < m.speed) ∧
        (c.timer.interval = 0 ∨ settings.Admits c.timer.interval) := by
  have hs := Settings.wellFormed_of_read h
  obtain ⟨s₀, h₀⟩ := Session.exists_start hs
  refine ⟨hs, s₀, h₀, fun xs => ?_⟩
  intro c
  have hset : s₀.settings = settings := (Session.start_ok h₀).2.1
  have hc : c.Paced := by
    refine Paced.performAll ⟨Session.paced_start hs h₀, .inl rfl⟩ ?_ xs
    rwa [hset]
  have hsess : c.session = s₀.performAll (xs.map Command.onSession) := session_performAll _ xs
  have hcset : c.session.settings = settings := (performAll_settings _ xs).trans hset
  have hlen := (Session.invariant_length settings).of_start h₀ (xs.map Command.onSession)
  rw [← hsess] at hlen
  refine ⟨fun m hm => ?_, hcset ▸ hc.interval⟩
  have hspeed : settings.Admits m.speed := hcset ▸ hc.session m hm
  have hl : m.memory.length = settings.memorySize.toNat := hlen.of_mem_timeline hm
  have hpos := hs.memorySize
  exact ⟨by omega, hspeed, hs.pos_of_admits hspeed⟩

theorem performAll_inRange_clamped :
    let v : Value := .map [(.text "memory_size", .int 12), (.text "min_speed", .text "0xC8"),
      (.text "max_speed", .int 400)]
    let xs : List Command := [.behind (.loadSource "JUMP 0" (.items [])), .step, .start,
      .setSpeed (.int 50), .tick, .setSpeed (.int 0), .pause, .behind .stepBack]
    ∃ settings s₀, Settings.read v = .ok settings ∧ Session.start settings = .ok s₀ ∧
      s₀.machine.speed = 400 ∧ let c := ({ session := s₀ } : Controller).performAll xs
      settings.Admits c.timer.interval ∧ c.session.timeline.map (·.speed) = [400, 200] ∧
      ∀ m ∈ c.session.timeline, m.memory.length = 12 ∧ settings.Admits m.speed := by
  intro v xs
  have hr : (Settings.read v).map (·.memorySize) = .ok 12 := by decide +kernel
  obtain ⟨settings, hr, hm⟩ := Except.map_eq_ok_iff.mp hr
  obtain ⟨-, s₀, h₀, h⟩ := performAll_inRange hr
  have hs : (Settings.read v >>= Session.start).map (fun s =>
      let c := ({ session := s } : Controller).performAll xs
      (s.machine.speed, c.timer.interval, c.session.timeline.map (·.speed))) =
      .ok (400, 200, [400, 200]) := by decide +kernel
  rw [hr, Except.ok_bind, h₀] at hs
  obtain ⟨h₁, h₂, h₃⟩ := by simpa only [Prod.mk.injEq] using Except.ok.inj hs
  obtain ⟨hc, ht⟩ := h xs
  refine ⟨settings, s₀, hr, h₀, h₁, ht.resolve_left (by omega), h₃, fun m hmem => ?_⟩
  obtain ⟨hl, hspeed, -⟩ := hc m hmem
  exact ⟨by omega, hspeed⟩

end StoredProgram.Controller
