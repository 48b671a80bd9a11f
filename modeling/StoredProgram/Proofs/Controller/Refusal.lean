import StoredProgram.Proofs.Controller.Operation
import StoredProgram.Proofs.Session.Refusal

/-! What is turned down leaves everything as it was, the timer and its viewers included. -/

namespace StoredProgram.Controller
open Loading (loadedRecord)
variable {c : Controller} {x : Command}

theorem kinds_of_refuses (h : c.session.Refuses x.onSession) :
    x = .step ∨ (∃ v, x = .setSpeed v) ∨ ∃ b, x = .behind b := by
  cases x with
  | step => exact .inl rfl
  | setSpeed v => exact .inr (.inl ⟨v, rfl⟩)
  | behind b => exact .inr (.inr ⟨b, rfl⟩)
  | _ =>
    rcases h.kinds with hl | hc | ⟨_, hc⟩ | ⟨_, _, hc⟩
    · exact hl.elim
    all_goals cases hc

theorem step_of_refuses (h : c.session.Refuses .step) :
    c.step.controller = c ∧ c.step.signals = [] ∧ c.step.log = [] := by
  by_cases hr : c.session.machine.running = true
  · rw [step_of_running hr]
    exact ⟨rfl, rfl, rfl⟩
  · obtain ⟨-, ha⟩ := h.resolve_right fun h => hr h.2
    obtain ⟨e, he⟩ := Session.error_of_not_accepted ha
    rw [step_of_error (Bool.eq_false_iff.mpr hr) he]
    exact ⟨rfl, rfl, rfl⟩

theorem setSpeed_of_refuses {v : Value} (h : c.session.Refuses (.setSpeed v)) :
    ∃ e, c.setSpeed v = { controller := c, fault := some e } := by
  have ha : (c.session.perform (.setSpeed v)).accepted = false := by
    rcases h with ⟨_, ha⟩ | ⟨hc | ⟨_, _, hc⟩, _⟩
    · exact ha
    all_goals cases hc
  obtain ⟨e, he⟩ := Session.error_of_not_accepted ha
  cases hs : c.session.setSpeed v with
  | error e => exact ⟨e, setSpeed_of_error hs⟩
  | ok s =>
    rw [hs] at he
    cases he

theorem intact_of_refuses (h : c.session.Refuses x.onSession) :
    (c.perform x).controller = c ∧ (c.perform x).signals = [] ∧ (c.perform x).log.Warns := by
  rcases kinds_of_refuses h with rfl | ⟨v, rfl⟩ | ⟨b, rfl⟩
  · obtain ⟨hc, hs, hl⟩ := step_of_refuses h
    refine ⟨hc, hs, ?_⟩
    rw [perform, hl]
    exact Log.warns_nil
  · obtain ⟨e, he⟩ := setSpeed_of_refuses h
    rw [perform, he]
    exact ⟨rfl, rfl, Log.warns_nil⟩
  · obtain ⟨hs, hl⟩ := h.intact
    exact ⟨congrArg (fun s => { c with session := s }) hs, rfl, hl⟩

/-- In any session that has come about, an operation that is refused leaves all as it was, through a
controller as well, and no load is logged. A load is refused just when it is not loadable; one that
is made starts over and keeps the speed and the breakpoints. -/
theorem refusal_intact {settings : Settings} {s₀ : Session}
    (h : Session.start settings = .ok s₀) (cs : List Session.Command) :
    let s := s₀.performAll cs
    (∀ b, s.Refuses b → (s.perform b).session = s ∧ ∀ n, loadedRecord n ∉ (s.perform b).log) ∧
    (∀ timer x, let c : Controller := { session := s, timer }
      s.Refuses x.onSession → (c.perform x).controller = c ∧ (c.perform x).signals = [] ∧
        ∀ n, loadedRecord n ∉ (c.perform x).log) ∧
    (∀ b, b.Loads → ((s.perform b).accepted = true ↔ b.Loadable settings)) ∧
    (∀ v, (s.perform (.setSpeed v)).accepted = true ↔ ∃ n, v.int? = some n ∧ 0 < n) ∧
    ∀ b, b.Loads → (s.perform b).accepted = true → let s' := (s.perform b).session
      s'.past = [] ∧ s'.machine.running = false ∧ s'.machine.speed = s.machine.speed ∧
        s'.breakpoints = s.breakpoints ∧ ∃ program, b.program? settings = some program ∧
          loadedRecord program.length ∈ (s.perform b).log := by
  intro s
  obtain ⟨hf, hset, _⟩ := Session.start_ok h
  have hs : s.settings = settings := (s₀.performAll_settings cs).trans hset
  have hpos : 0 < s.settings.memorySize := hs ▸ (Session.freshMachine_ok hf).1
  refine ⟨fun b hb => ?_, fun timer x => ?_, fun b hb => ?_, Session.accepted_setSpeed_iff,
    fun b hb ha => ?_⟩
  · obtain ⟨hb, hl⟩ := hb.intact
    exact ⟨hb, Loading.loadedRecord_not_mem hl⟩
  · intro c hx
    obtain ⟨hc, hsig, hl⟩ := intact_of_refuses (c := c) hx
    exact ⟨hc, hsig, Loading.loadedRecord_not_mem hl⟩
  · rw [← hs]
    exact Session.accepted_iff_loadable hpos hb
  · rw [← hs]
    exact Session.anew_of_loads hb ha

theorem refusal_intact_running :
    let settings : Settings := {}
    let s₀ : Session := { settings, machine := Session.withSpeed (Machine.fresh 20) 500 }
    let cs : List Session.Command := [.loadSource "LOAD 10\nJUMP 0" (.items []),
      .addBreakpoint ⟨.pc, 5, true⟩, .step, .setSpeed (.int 200), .setRunning true, .tick]
    let bad : DataSetup := .items [.list [.int 10, .int 5], .text "42", .list [.int 11, .null]]
    let refused : List Session.Command := [.loadSource "HALT" bad, .loadSource "FOO" (.items []),
      .loadExample (.text "Sorting"), .setSpeed (.int 0), .step, .edit 10 1]
    let load : Session.Command :=
      .loadProgram [⟨"HALT", none⟩] (.table [(.text " 1_0", .bool true)])
    let s := s₀.performAll cs
    let c : Controller := { session := s, timer := ⟨true, 200⟩ }
    Session.start settings = .ok s₀ ∧ s.past.length = 2 ∧ s.breakpoints.length = 1 ∧
      s.machine.running = true ∧ ¬ bad.Fits ∧
      (∀ b ∈ refused, s.Refuses b ∧ (s.perform b).session = s ∧
        (c.perform (.behind b)).controller = c ∧ (c.perform (.behind b)).signals = []) ∧
      (c.perform (.setSpeed (.int 0))).controller = c ∧
      (s.perform load).session.past = [] ∧ (s.perform load).session.machine.running = false ∧
      (s.perform load).session.machine.speed = 200 ∧
      (s.perform load).session.breakpoints = s.breakpoints := by
  intro settings s₀ cs bad refused load
  dsimp only
  have h₀ : Session.start settings = .ok s₀ := rfl
  obtain ⟨hs, hc, hl, -, hn⟩ := refusal_intact h₀ cs
  have hrun : (s₀.performAll cs).machine.running = true := by decide +kernel
  have hr : ∀ b ∈ refused, (s₀.performAll cs).Refuses b := by
    intro b hb
    simp only [refused, List.mem_cons, List.not_mem_nil, or_false] at hb
    rcases hb with rfl | rfl | rfl | rfl | rfl | rfl
    · exact .inl ⟨.inl trivial, by decide +kernel⟩
    · exact .inl ⟨.inl trivial, by decide +kernel⟩
    · exact .inl ⟨.inl trivial, by decide +kernel⟩
    · exact .inl ⟨.inr (.inr ⟨_, rfl⟩), by decide +kernel⟩
    · exact .inr ⟨.inl rfl, hrun⟩
    · exact .inr ⟨.inr ⟨10, 1, rfl⟩, hrun⟩
  have hfits : ¬ bad.Fits := by
    intro hf
    have ha : ((s₀.performAll cs).perform (.loadProgram [] bad)).accepted = false := by
      decide +kernel
    exact Bool.eq_false_iff.mp ha ((hl (.loadProgram [] bad) trivial).mpr hf)
  have ha : ((s₀.performAll cs).perform load).accepted = true := by decide +kernel
  have hv : (s₀.performAll cs).machine.speed = 200 := by decide +kernel
  obtain ⟨hpast, hstop, hspeed, hbps, -⟩ := hn load trivial ha
  refine ⟨h₀, by decide +kernel, by decide +kernel, hrun, hfits, fun b hb => ?_,
    (hc ⟨true, 200⟩ (.setSpeed (.int 0)) (hr (.setSpeed (.int 0)) (by simp [refused]))).1,
    hpast, hstop, hspeed.trans hv, hbps⟩
  have hx := hc ⟨true, 200⟩ (.behind b) (hr b hb)
  exact ⟨hr b hb, (hs b (hr b hb)).1, hx.1, hx.2.1⟩

end StoredProgram.Controller
