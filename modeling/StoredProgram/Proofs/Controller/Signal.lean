import StoredProgram.Proofs.Controller.Timer
import StoredProgram.Proofs.Session.Halted

/-! What viewers are told. An operation of a controller is silent or reports the machine that it
leaves, and that the machine has halted if it was the operation that made it halt. -/

namespace StoredProgram.Controller
variable {c : Controller} {x : Command} {s : Session} {before after : Machine}

def Silent (c : Controller) : Command → Prop
  | .start | .pause | .toggleRun => False
  | .step => c.session.machine.running = true ∨ c.session.machine.Stuck
  | .tick => c.session.machine.running = true ∧ c.session.machine.Stuck
  | .reset => c.reset.fault ≠ none
  | .setSpeed speed => (c.setSpeed speed).fault ≠ none
  | .shutdown | .behind _ => True

def report (before after : Machine) : List Signal :=
  .stateChanged after ::
    if before.halted = false ∧ after.halted = true then [.halted after] else []

theorem report_eq (before after : Session) :
    changed after :: haltSignals before after = report before.machine after.machine := by
  unfold report haltSignals changed
  have hb : (after.machine.halted && !before.machine.halted) = true ↔
      before.machine.halted = false ∧ after.machine.halted = true := by
    rw [Bool.and_eq_true, Bool.not_eq_true', and_comm]
  simp only [hb]

theorem report_of_halted (h : after.halted = true → before.halted = true) :
    report before after = [.stateChanged after] := by
  rw [report, if_neg fun hn => ?_]
  exact absurd (hn.1.symm.trans (h hn.2)) Bool.false_ne_true

theorem halted_mem_report_iff :
    (∃ m, .halted m ∈ report before after) ↔ before.halted = false ∧ after.halted = true := by
  unfold report
  split_ifs with h
  · exact iff_of_true ⟨after, .tail _ (.head _)⟩ h
  · refine iff_of_false ?_ h
    rintro ⟨m, hm⟩
    cases List.mem_singleton.mp hm

/-- An operation is silent, and then one of the controller itself changes nothing short of a
shutdown; or it reports. -/
inductive Told (c : Controller) (x : Command) : Prop
  | silent : c.Silent x → (c.perform x).signals = [] →
      (x.Own → x ≠ .shutdown → (c.perform x).controller.session = c.session) → Told c x
  | report : ¬ c.Silent x →
      (c.perform x).signals =
        report c.session.machine (c.perform x).controller.session.machine → Told c x

theorem told_of_publish (hp : c.perform x = c.publish s) (hx : ¬ c.Silent x)
    (hh : s.machine.halted = c.session.machine.halted) : c.Told x := by
  refine .report hx ?_
  have hs : (c.publish s).controller.session = s := session_syncTimer _
  rw [hp, hs, report_of_halted fun h => hh ▸ h]
  rfl

theorem told_step (c : Controller) : c.Told .step := by
  by_cases hr : c.session.machine.running = true
  · exact .silent (.inl hr) (by rw [perform, step_of_running hr])
      fun _ _ => by rw [perform, step_of_running hr]
  have hr := Bool.eq_false_iff.mpr hr
  have hs : c.session.step = c.session.advance := Session.step_of_paused hr
  by_cases hm : c.session.machine.Stuck
  · have he := step_of_error hr (hs.trans (Session.advance_of_stuck hm))
    exact .silent (.inr hm) (by rw [perform, he]) fun _ _ => by rw [perform, he]
  · obtain ⟨s, log, ha⟩ := Session.exists_advance hm
    refine .report (fun h => ?_) ?_
    · rcases h with h | h
      · exact Bool.eq_false_iff.mp hr h
      · exact hm h
    · rw [perform, step_of_ok hr (hs.trans ha)]
      exact report_eq c.session s

theorem told_tick (c : Controller) : c.Told .tick := by
  by_cases hm : c.session.machine.running = true ∧ c.session.machine.Stuck
  · have he := tick_of_stuck hm.1 hm.2
    exact .silent hm (by rw [perform, he]) fun _ _ => by rw [perform, he]
  · obtain ⟨s, log, ht⟩ := exists_tick hm
    refine .report hm ?_
    rw [perform, tick_of_ok ht, session_syncTimer]
    exact report_eq c.session s

theorem told_reset (c : Controller) : c.Told .reset := by
  cases hr : c.session.reset with
  | error e =>
    have he := reset_of_error hr
    refine .silent ?_ (by rw [perform, he]) fun _ _ => by rw [perform, he]; rfl
    show c.reset.fault ≠ none
    rw [he]
    exact Option.some_ne_none e
  | ok r =>
    obtain ⟨s, log⟩ := r
    have hs := reset_of_ok hr
    refine .report (fun h => h (by rw [hs])) ?_
    have hh : s.machine.halted = false := Session.halted_reset hr
    rw [perform, hs]
    exact (report_of_halted fun h => absurd (hh.symm.trans h) Bool.false_ne_true).symm

theorem told_setSpeed (c : Controller) (v : Value) : c.Told (.setSpeed v) := by
  cases hv : c.session.setSpeed v with
  | error e =>
    have he := setSpeed_of_error hv
    refine .silent ?_ (by rw [perform, he]) fun _ _ => by rw [perform, he]
    show (c.setSpeed v).fault ≠ none
    rw [he]
    exact Option.some_ne_none e
  | ok s =>
    have hs := setSpeed_of_ok hv
    obtain ⟨_, _, _, rfl⟩ := Session.setSpeed_ok hv
    exact told_of_publish hs (fun h => h (by rw [hs]; rfl)) rfl

theorem told_perform (c : Controller) (x : Command) : c.Told x := by
  cases x with
  | start => exact told_of_publish rfl not_false (c.session.halted_setRunning true)
  | pause => exact told_of_publish rfl not_false (c.session.halted_setRunning false)
  | toggleRun => exact told_of_publish c.toggleRun_eq not_false (c.session.halted_setRunning _)
  | step => exact c.told_step
  | reset => exact c.told_reset
  | shutdown => exact .silent trivial (by rw [perform, shutdown_eq]) fun _ hx => absurd rfl hx
  | setSpeed v => exact c.told_setSpeed v
  | tick => exact c.told_tick
  | behind b => exact .silent trivial rfl fun hx => hx.elim

theorem halted_of_perform (hx : x.Own)
    (h : (c.perform x).controller.session.machine.halted = true) :
    c.session.machine.halted = true ∨ x = .step ∨ x = .tick := by
  rw [session_perform] at h
  cases x with
  | start => exact .inl ((c.session.halted_setRunning true).symm.trans h)
  | pause | shutdown => exact .inl ((c.session.halted_setRunning false).symm.trans h)
  | toggleRun => exact .inl ((c.session.halted_setRunning _).symm.trans h)
  | step => exact .inr (.inl rfl)
  | tick => exact .inr (.inr rfl)
  | behind b => exact hx.elim
  | reset =>
    rcases c.session.perform_reset with ⟨_, hr⟩ | ⟨_, m, hf, hr⟩
    · exact .inl (by rwa [Command.onSession, hr] at h)
    · obtain ⟨_, rfl⟩ := Session.freshMachine_ok hf
      rw [Command.onSession, hr] at h
      exact absurd h Bool.false_ne_true
  | setSpeed v => exact .inl ((c.session.halted_setSpeed v).symm.trans h)

theorem own_of_halted_mem (h : ∃ m, .halted m ∈ (c.perform x).signals) : x.Own := by
  obtain ⟨m, hm⟩ := h
  cases x with
  | behind b => exact absurd hm List.not_mem_nil
  | _ => trivial

theorem halted_mem_iff (hx : x.Own) :
    (∃ m, .halted m ∈ (c.perform x).signals) ↔
      c.session.machine.halted = false ∧
        (c.perform x).controller.session.machine.halted = true := by
  cases c.told_perform x with
  | report _ hr => rw [hr, halted_mem_report_iff]
  | silent _ hn hsame =>
    rw [hn]
    refine iff_of_false (by rintro ⟨m, hm⟩; cases hm) fun h => ?_
    by_cases hd : x = .shutdown
    · -- a shutdown is silent though it pauses, but a pause does not halt
      rcases halted_of_perform hx h.2 with hh | hs | ht
      · exact Bool.false_ne_true (h.1.symm.trans hh)
      · cases hd.symm.trans hs
      · cases hd.symm.trans ht
    · rw [hsame hx hd] at h
      exact Bool.false_ne_true (h.1.symm.trans h.2)

def Command.Reopens (x : Command) : Prop := x.onSession.Reopens

theorem halted_performAll {xs : List Command} (h : c.session.machine.halted = true)
    (hxs : ∀ x ∈ xs, ¬ x.Reopens) : (c.performAll xs).session.machine.halted = true := by
  induction xs generalizing c with
  | nil => exact h
  | cons x xs ih =>
    have hx := List.forall_mem_cons.mp hxs
    refine ih ?_ hx.2
    rw [session_perform]
    exact Session.halted_perform h hx.1

theorem exists_reopens {xs : List Command} (h : c.session.machine.halted = true)
    (hn : (c.performAll xs).session.machine.halted = false) : ∃ x ∈ xs, x.Reopens := by
  by_cases hxs : ∃ x ∈ xs, x.Reopens
  · exact hxs
  · have hh := halted_performAll h fun x hx ho => hxs ⟨x, hx, ho⟩
    exact absurd (hn.symm.trans hh) Bool.false_ne_true

def emitted (c : Controller) : List Command → List Signal
  | [] => []
  | x :: xs => (c.perform x).signals ++ (c.perform x).controller.emitted xs

def snapshot? : Signal → Option Machine
  | .stateChanged m => some m
  | .halted _ => none

/-- The machine as viewers see it who saw `m` before the signals. -/
def latest (m : Machine) (signals : List Signal) : Machine :=
  (signals.filterMap snapshot?).getLast?.getD m

theorem latest_append (m : Machine) (signals more : List Signal) :
    latest m (signals ++ more) = latest (latest m signals) more := by
  unfold latest
  rw [List.filterMap_append, List.getLast?_append]
  cases (more.filterMap snapshot?).getLast? <;> rfl

theorem latest_report (m : Machine) : latest m (report before after) = after := by
  unfold report
  split_ifs <;> rfl

theorem latest_perform (hx : x.Own) (hd : x ≠ .shutdown) :
    latest c.session.machine (c.perform x).signals =
      (c.perform x).controller.session.machine := by
  cases c.told_perform x with
  | report _ hr => rw [hr, latest_report]
  | silent _ hn hsame =>
    rw [hn, hsame hx hd]
    rfl

theorem latest_emitted {xs : List Command} (hxs : ∀ x ∈ xs, x.Own ∧ x ≠ .shutdown) :
    latest c.session.machine (c.emitted xs) = (c.performAll xs).session.machine := by
  induction xs generalizing c with
  | nil => rfl
  | cons x xs ih =>
    have hx := List.forall_mem_cons.mp hxs
    rw [emitted, latest_append, latest_perform hx.1.1 hx.1.2, ih hx.2]
    rfl

/-- An operation of the controller is silent or reports just once, and tells of a halt just when it
brings it about, as only a step or a tick does. Between two such there is an operation that takes
the session out of a halt. While the controller alone operates, what it last showed is what is. -/
theorem signals_mirror_session (c : Controller) :
    (∀ x : Command, x.Own →
      let before := c.session.machine
      let after := (c.perform x).controller.session.machine
      (c.Silent x → (c.perform x).signals = []) ∧
      (¬ c.Silent x → (c.perform x).signals = report before after) ∧
      ((∃ m, .halted m ∈ (c.perform x).signals) ↔
        before.halted = false ∧ after.halted = true) ∧
      (before.halted = false → after.halted = true → x = .step ∨ x = .tick)) ∧
    (∀ x zs y,
      let c' := (c.perform x).controller.performAll zs
      (∃ m, .halted m ∈ (c.perform x).signals) → (∃ m, .halted m ∈ (c'.perform y).signals) →
        ∃ z ∈ zs, z.Reopens) ∧
    ∀ xs : List Command, (∀ x ∈ xs, x.Own ∧ x ≠ .shutdown) → ∀ m,
      ((c.emitted xs).filterMap snapshot?).getLast? = some m →
        m = (c.performAll xs).session.machine := by
  refine ⟨fun x hx => ⟨fun h => ?_, fun h => ?_, halted_mem_iff hx, fun hb ha => ?_⟩,
    fun x zs y hx hy => ?_, fun xs hxs m hm => ?_⟩
  · cases c.told_perform x with
    | silent _ hn => exact hn
    | report hn => exact absurd h hn
  · cases c.told_perform x with
    | silent hn => exact absurd hn h
    | report _ hr => exact hr
  · exact (halted_of_perform hx ha).resolve_left (Bool.eq_false_iff.mp hb)
  · have hafter := (halted_mem_iff (own_of_halted_mem hx)).mp hx
    have hbefore := (halted_mem_iff (own_of_halted_mem hy)).mp hy
    exact exists_reopens hafter.2 hbefore.1
  · have h := latest_emitted (c := c) hxs
    rwa [latest, hm, Option.getD_some] at h

theorem signals_mirror_session_twice_halted :
    let c : Controller :=
      { session := { settings := {}, machine := Session.withSpeed (Machine.fresh 20) 500 } }
    let load : Command := .behind (.loadSource "HALT" (.items []))
    let zs : List Command := [load, .start, .tick, .tick, .tick]
    let c₁ := c.performAll [load, .step, .step, .step]
    let c₂ := (c₁.perform .step).controller.performAll zs
    let c₃ := c.performAll (.behind (.loadSource "LOAD 10\nADD 10\nHALT"
      (.items [.list [.int 10, .int (Nat.pow 10 4300 - 1)]])) :: List.replicate 9 .step)
    (∃ m, .halted m ∈ (c₁.perform .step).signals) ∧ (∃ m, .halted m ∈ (c₂.perform .tick).signals) ∧
      (∃ z ∈ zs, z.Reopens) ∧
      c₃.session.machine.running = false ∧ (c₃.perform .step).signals = [] := by
  intro c load zs c₁ c₂ c₃
  have h₁ : ∃ m, .halted m ∈ (c₁.perform .step).signals :=
    ((signals_mirror_session c₁).1 .step trivial).2.2.1.mpr (by decide +kernel)
  have h₂ : ∃ m, .halted m ∈ (c₂.perform .tick).signals :=
    ((signals_mirror_session c₂).1 .tick trivial).2.2.1.mpr (by decide +kernel)
  have h₃ : c₃.session.machine.running = false ∧ c₃.session.machine.Stuck := by decide +kernel
  exact ⟨h₁, h₂, (signals_mirror_session c₁).2.1 .step zs .tick h₁ h₂, h₃.1,
    ((signals_mirror_session c₃).1 .step trivial).1 (.inr h₃.2)⟩

end StoredProgram.Controller
