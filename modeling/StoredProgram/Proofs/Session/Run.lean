import Mathlib.Logic.ExistsUnique
import StoredProgram.Proofs.Session.Move
import StoredProgram.Proofs.Session.Run.Length

/-! A run makes as many steps as it takes until the machine halts or a breakpoint fires, and no more
than its limit. What it leaves behind is the machine after these steps, at rest, on top of the
machines before it. -/

namespace StoredProgram.Session
variable {s s' : Session} {bs : List Breakpoint} {m m' : Machine}

theorem runFor_of_idle (taken left : Nat) (h : (s.machine.running && !s.machine.halted) = false) :
    runFor taken left s = { session := s } := by
  cases left <;> simp only [runFor, h, Bool.false_eq_true, if_false]

theorem runFor_zero (taken : Nat) (hr : s.machine.running = true) (hh : s.machine.halted = false) :
    runFor taken 0 s =
      { session := { s with machine := s.machine.paused }
        log := Log.warning (stoppedMessage taken) } := by
  simp only [runFor, hr, hh, Bool.not_false, Bool.and_true, if_true]
  rfl

theorem runFor_succ_of_error {e : Fault} (taken left : Nat) (hr : s.machine.running = true)
    (hh : s.machine.halted = false) (h : s.advance = .error e) :
    runFor taken (left + 1) s = { session := s, fault := some e } := by
  have ht : s.tick = .error e := (if_pos hr).trans h
  simp only [runFor, hr, hh, ht, Bool.not_false, Bool.and_true, if_true]

theorem runFor_succ_of_ok {log : Log} (taken left : Nat) (hr : s.machine.running = true)
    (hh : s.machine.halted = false) (h : s.advance = .ok (s', log)) :
    runFor taken (left + 1) s =
      { runFor (taken + 1) left s' with log := log ++ (runFor (taken + 1) left s').log } := by
  have ht : s.tick = .ok (s', log) := (if_pos hr).trans h
  simp only [runFor, hr, hh, ht, Bool.not_false, Bool.and_true, if_true]

theorem advance_of_stop (hr : s.machine.running = true) (hh : s.machine.halted = false)
    (h : s.machine.step = .ok m)
    (hs : m.halted = true ∨ Breakpoint.anyFires s.breakpoints s.machine m = true) :
    ∃ text, s.advance =
      .ok ({ s with machine := m.paused, past := s.machine :: s.past }, Log.info text) := by
  rw [advance_of_ok hh h]
  by_cases hm : m.halted = true
  · -- a halting step has put the machine to rest by itself
    have hp : m.paused = m := by
      rw [(Machine.eq_stopped_of_step hh h hm).2]
      rfl
    refine ⟨lastLine m, ?_⟩
    rw [hp, ite_self, stepLog, if_pos hm]
  · have hg := Machine.goesOn_of_step hh h (Bool.eq_false_iff.mpr hm)
    have hi : s.interrupts m = true := by
      rw [interrupts, hg.running, hr, hs.resolve_left hm, Bool.and_true]
    refine ⟨"Breakpoint hit at PC: " ++ Numeral.text m.pc, ?_⟩
    rw [if_pos hi, stepLog, if_neg hm, if_pos hi]

theorem advance_of_not_stop (hh : s.machine.halted = false) (h : s.machine.step = .ok m)
    (hs : ¬ (m.halted = true ∨ Breakpoint.anyFires s.breakpoints s.machine m = true)) :
    s.advance = .ok ({ s with machine := m, past := s.machine :: s.past }, []) := by
  have hm : ¬ m.halted = true := fun hm => hs (.inl hm)
  have hi : ¬ s.interrupts m = true := by
    intro hi
    rw [interrupts, Bool.and_eq_true] at hi
    exact hs (.inr hi.2)
  rw [advance_of_ok hh h, stepLog, if_neg hi, if_neg hm, if_neg hi]

/-- What a run from `s` of `k` steps leaves behind, when `taken` steps were made before it. -/
structure Leaves (s : Session) (taken k : Nat) (p : Progress) : Prop where
  ok : ∀ m, s.machine.steps k = .ok m → ∃ ms log, Trail s.machine k ms ∧
    p = { session := { s with machine := m.paused, past := ms.reverse ++ s.past }, log } ∧
    (¬ StopsAt s.breakpoints s.machine k → log = Log.warning (stoppedMessage (taken + k))) ∧
    (StopsAt s.breakpoints s.machine k → ∃ text, log = Log.info text)
  error : ∀ e, s.machine.steps k = .error e → ∃ j m ms, j < k ∧ Trail s.machine j ms ∧
    s.machine.steps j = .ok m ∧ m.step = .error e ∧
    p = { session := { s with machine := m, past := ms.reverse ++ s.past }, fault := some e }

namespace Leaves
variable {taken k : Nat} {p : Progress}

theorem zero (taken : Nat) (hr : s.machine.running = true) (hh : s.machine.halted = false) :
    Leaves s taken 0 (runFor taken 0 s) where
  ok m hm := by
    obtain rfl := Except.ok.inj hm
    refine ⟨[], _, .nil _, runFor_zero taken hr hh, fun _ => rfl, fun hs => ?_⟩
    exact absurd hs not_stopsAt_zero
  error e he := by cases he

theorem of_error {e : Fault} (h : s.machine.step = .error e) :
    Leaves s taken (k + 1) { session := s, fault := some e } where
  ok m hm := by
    rw [Machine.steps_succ_of_error h] at hm
    cases hm
  error e' he := by
    rw [Machine.steps_succ_of_error h] at he
    obtain rfl := Except.error.inj he
    exact ⟨0, s.machine, [], Nat.succ_pos k, .nil _, rfl, h, rfl⟩

theorem one {text : String} (h : s.machine.step = .ok m)
    (hs : StopsAt s.breakpoints s.machine 1) :
    Leaves s taken 1
      { session := { s with machine := m.paused, past := s.machine :: s.past }
        log := Log.info text } where
  ok m' hm := by
    rw [Machine.steps_one, h] at hm
    obtain rfl := Except.ok.inj hm
    exact ⟨[s.machine], _, .cons h (.nil _), rfl, fun hn => absurd hs hn, fun _ => ⟨text, rfl⟩⟩
  error e he := by
    rw [Machine.steps_one, h] at he
    cases he

theorem succ (h : s.machine.step = .ok m) (hs : ¬ StopsAt s.breakpoints s.machine 1)
    (hp : Leaves { s with machine := m, past := s.machine :: s.past } (taken + 1) k p) :
    Leaves s taken (k + 1) p where
  ok m' hm := by
    have hk : StopsAt s.breakpoints s.machine (k + 1) ↔ StopsAt s.breakpoints m k :=
      stopsAt_succ_iff_of_not_one h hs
    rw [Machine.steps_succ_of_ok h] at hm
    obtain ⟨ms, log, ht, he, hw, hi⟩ := hp.ok m' hm
    refine ⟨s.machine :: ms, log, .cons h ht, ?_, fun hn => ?_, fun hj => hi (hk.mp hj)⟩
    · rw [he, List.reverse_cons, List.append_assoc]
      rfl
    · rw [hw fun hj => hn (hk.mpr hj), Nat.add_right_comm, Nat.add_assoc]
  error e he := by
    rw [Machine.steps_succ_of_ok h] at he
    obtain ⟨j, m', ms, hj, ht, hm, hf, hp⟩ := hp.error e he
    refine ⟨j + 1, m', s.machine :: ms, Nat.succ_lt_succ hj, .cons h ht,
      (Machine.steps_succ_of_ok h).trans hm, hf, ?_⟩
    rw [hp, List.reverse_cons, List.append_assoc]
    rfl

end Leaves

theorem runFor_leaves (taken limit : Nat) (hr : s.machine.running = true)
    (hh : s.machine.halted = false) :
    ∃ k, RunLength s.breakpoints s.machine limit k ∧ Leaves s taken k (runFor taken limit s) := by
  -- the session changes from tick to tick, but what it leaves is said of its own machine and past
  induction limit generalizing taken s with
  | zero => exact ⟨0, .zero, .zero taken hr hh⟩
  | succ limit ih =>
    cases h : s.machine.step with
    | error e =>
      rw [runFor_succ_of_error taken limit hr hh (advance_of_error h)]
      exact ⟨limit + 1, .of_error h, .of_error h⟩
    | ok m =>
      by_cases hs : m.halted = true ∨ Breakpoint.anyFires s.breakpoints s.machine m = true
      · obtain ⟨text, ha⟩ := advance_of_stop hr hh h hs
        have h1 : StopsAt s.breakpoints s.machine 1 := (stopsAt_one_iff h).mpr hs
        rw [runFor_succ_of_ok taken limit hr hh ha, runFor_of_idle _ _ rfl]
        exact ⟨1, .one h1, .one h h1⟩
      · have h1 : ¬ StopsAt s.breakpoints s.machine 1 := fun h1 => hs ((stopsAt_one_iff h).mp h1)
        have hm : m.halted = false := Bool.eq_false_iff.mpr fun hm => hs (.inl hm)
        have hg := Machine.goesOn_of_step hh h hm
        have hr' : m.running = true := hg.running.trans hr
        rw [runFor_succ_of_ok taken limit hr hh (advance_of_not_stop hh h hs)]
        obtain ⟨k, hk, hl⟩ :=
          ih (s := { s with machine := m, past := s.machine :: s.past }) (taken + 1) hr' hm
        exact ⟨k + 1, .succ h h1 hk, .succ h h1 hl⟩

theorem perform_step (hr : s.machine.running = false) (hh : s.machine.halted = false)
    (h : s.machine.step = .ok m) :
    (s.perform .step).session = { s with machine := m, past := s.machine :: s.past } := by
  have hi : ¬ s.interrupts m = true := by
    rw [interrupts, Machine.not_running_of_step hh hr h, Bool.false_and]
    decide
  have hs : s.step = s.advance := if_neg (Bool.eq_false_iff.mp hr)
  simp only [perform, hs, advance_of_ok hh h, Progress.ofResult, if_neg hi]

theorem performAll_step {k : Nat} (hr : s.machine.running = false)
    (hn : ∀ i < k, ∀ p, s.machine.steps i = .ok p → p.halted = false)
    (hm : s.machine.steps k = .ok m) :
    ∃ ms, Trail s.machine k ms ∧
      s.performAll (List.replicate k .step) =
        { s with machine := m, past := ms.reverse ++ s.past } := by
  induction k generalizing s with
  | zero =>
    obtain rfl := Except.ok.inj hm
    exact ⟨[], .nil _, rfl⟩
  | succ k ih =>
    have hh := hn 0 (Nat.succ_pos k) s.machine rfl
    rw [Machine.steps_succ] at hm
    obtain ⟨m₁, h, hm⟩ := Except.bind_eq_ok_iff.mp hm
    have hr' : m₁.running = false := Machine.not_running_of_step hh hr h
    have hn' : ∀ i < k, ∀ p, m₁.steps i = .ok p → p.halted = false := by
      intro i hi p hp
      exact hn (i + 1) (Nat.succ_lt_succ hi) p ((Machine.steps_succ_of_ok h).trans hp)
    rw [List.replicate_succ, performAll, perform_step hr hh h]
    obtain ⟨ms, ht, hs⟩ :=
      ih (s := { s with machine := m₁, past := s.machine :: s.past }) hr' hn' hm
    refine ⟨s.machine :: ms, .cons h ht, hs.trans ?_⟩
    rw [List.reverse_cons, List.append_assoc]
    rfl

def started (s : Session) : Machine := { s.machine with running := true }

theorem started_paused (s : Session) : s.started.paused = s.machine.paused := rfl

theorem setRunning_of_halted (h : s.machine.halted = true) : s.setRunning true = s :=
  if_pos (by rw [h]; rfl)

theorem setRunning_of_not_halted (h : s.machine.halted = false) :
    s.setRunning true = { s with machine := s.started } :=
  if_neg (by rw [h]; decide)

def stepLimit (s : Session) (limit : Option Int) : Nat :=
  (limit.getD s.settings.maxRunSteps).toNat

/-- A run of a halted machine does nothing. Any other run makes the number of steps at which it
stops first; it leaves the machine at rest, its trail in the past and one record in the log; and
the same number of single steps leads to the same machine. It fails just when one of these steps
does. -/
theorem run_ends (s : Session) (limit : Option Int) :
    (s.machine.halted = true → s.run limit = { session := s }) ∧
    (s.machine.halted = false →
      ∃! k, RunLength s.breakpoints s.started (s.stepLimit limit) k ∧
        (∀ m, s.started.steps k = .ok m → ∃ ms log, Trail s.started k ms ∧
          s.run limit =
            { session := { s with machine := m.paused, past := ms.reverse ++ s.past }, log } ∧
          ((∀ j ≤ s.stepLimit limit, ¬ StopsAt s.breakpoints s.started j) →
            log = Log.warning (stoppedMessage k)) ∧
          ((∃ j ≤ s.stepLimit limit, StopsAt s.breakpoints s.started j) →
            ∃ text, log = Log.info text) ∧
          s.pause.performAll (List.replicate k .step) =
            { s with machine := m.paused, past := (ms.map Machine.paused).reverse ++ s.past }) ∧
        (∀ e, s.started.steps k = .error e → ∃ j m ms, j < k ∧ Trail s.started j ms ∧
          s.started.steps j = .ok m ∧ m.Halting ∧ Numeral.Unwritable m.acc ∧
          s.run limit =
            { session := { s with machine := m, past := ms.reverse ++ s.past }
              fault := some (.numeral .unwritable) })) := by
  refine ⟨fun hh => ?_, fun hh => ?_⟩
  · have hs : s.setRunning true = s := if_pos (by rw [hh]; rfl)
    rw [run, hs]
    exact runFor_of_idle 0 _ (by rw [hh, Bool.not_true, Bool.and_false])
  · have hs : s.setRunning true = { s with machine := s.started } := if_neg (by rw [hh]; decide)
    obtain ⟨k, hk, hl⟩ :=
      runFor_leaves (s := { s with machine := s.started }) 0 (s.stepLimit limit) rfl hh
    refine ⟨k, ⟨hk, fun m hm => ?_, fun e he => ?_⟩, fun k' h' => hk.unique h'.1⟩
    · obtain ⟨ms, log, ht, hr, hw, hi⟩ := hl.ok m hm
      refine ⟨ms, log, ht, ?_, fun hn => ?_, fun hj => hi (hk.stopsAt_iff.mp hj), ?_⟩
      · rw [run, hs]
        exact hr
      · rw [hw (hn k hk.le), Nat.zero_add]
      · -- the single steps are those of the run, each of them at rest
        have hq : s.machine.paused.steps k = .ok m.paused := by
          rw [← started_paused, Machine.steps_paused, hm]
          rfl
        obtain ⟨ms', ht', hs'⟩ := performAll_step (s := s.pause) rfl (hk.not_halted_paused hh) hq
        rw [hs', ← ht.paused.unique ht']
        rfl
    · obtain ⟨j, m, ms, hj, ht, hm, hf, hr⟩ := hl.error e he
      obtain ⟨hm', hu, rfl⟩ := Machine.step_error_iff.mp hf
      refine ⟨j, m, ms, hj, ht, hm, hm', hu, ?_⟩
      rw [run, hs]
      exact hr

/-- A run that comes to a halt, one that its limit cuts short, and one that fails at a halt that
cannot be written. -/
theorem run_ends_each_way :
    let s₀ : Session := { settings := {}, machine := withSpeed (Machine.fresh 20) 500 }
    let load (source : String) (a : Int) : Session :=
      (s₀.perform (.loadSource source (.items [.list [.int 10, .int a]]))).session
    let halts := load "ADD 10\nHALT" 5
    let loops := load "ADD 10\nJUMP 0" 5
    let sticks := load "ADD 10\nADD 10\nHALT" (Nat.pow 10 4300 - 1)
    (∃ m past text, halts.run (some 12) =
      { session := { halts with machine := m, past }, log := Log.info text }) ∧
    (∃ m past, loops.run (some 12) =
      { session := { loops with machine := m, past }, log := Log.warning (stoppedMessage 12) }) ∧
    ∃ m past, sticks.run (some 12) =
      { session := { sticks with machine := m, past }, fault := some (.numeral .unwritable) } := by
  intro s₀ load halts loops sticks
  refine ⟨?_, ?_, ?_⟩
  · obtain ⟨k, ⟨hk, hok, _⟩, _⟩ := (run_ends halts (some 12)).2 (by decide +kernel)
    have hs : ∃ j ≤ 12, StopsAt halts.breakpoints halts.started j := by decide +kernel
    have hm : ∀ j ≤ 12, (halts.started.steps j).error? = none := by decide +kernel
    obtain ⟨m, hm⟩ := Except.error?_eq_none_iff.mp (hm k hk.le)
    obtain ⟨_, _, _, hr, _, hi, _⟩ := hok m hm
    obtain ⟨text, rfl⟩ := hi hs
    exact ⟨_, _, text, hr⟩
  · obtain ⟨k, ⟨hk, hok, _⟩, _⟩ := (run_ends loops (some 12)).2 (by decide +kernel)
    have hn : ∀ j ≤ 12, ¬ StopsAt loops.breakpoints loops.started j := by decide +kernel
    have hm : (loops.started.steps 12).error? = none := by decide +kernel
    obtain rfl : 12 = k := hk.unique (.of_not_stopsAt hn)
    obtain ⟨m, hm⟩ := Except.error?_eq_none_iff.mp hm
    obtain ⟨_, _, _, hr, hw, _⟩ := hok m hm
    obtain rfl := hw hn
    exact ⟨_, _, hr⟩
  · obtain ⟨k, ⟨hk, _, herr⟩, _⟩ := (run_ends sticks (some 12)).2 (by decide +kernel)
    have hn : ∀ j ≤ 12, ¬ StopsAt sticks.breakpoints sticks.started j := by decide +kernel
    have hm : (sticks.started.steps 12).error? = some (.numeral .unwritable) := by decide +kernel
    obtain rfl : 12 = k := hk.unique (.of_not_stopsAt hn)
    obtain ⟨_, _, _, _, _, _, _, _, hr⟩ := herr _ (Except.error?_eq_some_iff.mp hm)
    exact ⟨_, _, hr⟩

end StoredProgram.Session
