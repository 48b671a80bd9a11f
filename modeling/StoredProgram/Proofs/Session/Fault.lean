import StoredProgram.Proofs.Machine.Fault
import StoredProgram.Proofs.Session.Halted
import StoredProgram.Proofs.Session.Standing

/-! When a run fails, and how it ends when it does not. Only a run that comes to a halt which cannot
be written before it stops is left running. -/

namespace StoredProgram.Session
variable {s : Session} {bs : List Breakpoint} {m : Machine} {n k : Nat}
  {limit : Option Int}

/-- Within the limit, and before it stops, a run from `m` comes to a halt that cannot be written. -/
def Sticks (bs : List Breakpoint) (m : Machine) (n : Nat) : Prop :=
  ∃ j < n, ∃ m', m.steps j = .ok m' ∧ m'.Stuck ∧ ∀ i ≤ j, ¬ StopsAt bs m i

instance (bs : List Breakpoint) (m : Machine) (n : Nat) : Decidable (Sticks bs m n) :=
  inferInstanceAs (Decidable (∃ j < n, ∃ m', m.steps j = .ok m' ∧ m'.Stuck ∧
    ∀ i ≤ j, ¬ StopsAt bs m i))

theorem RunLength.sticks_iff (h : RunLength bs m n k) :
    Sticks bs m n ↔ ∃ j < k, ∃ m', m.steps j = .ok m' ∧ m'.Stuck := by
  constructor
  · rintro ⟨j, hj, m', hm, hs, hn⟩
    refine ⟨j, Nat.lt_of_not_le fun hk => ?_, m', hm, hs⟩
    exact hn k hk (h.last (Nat.lt_of_le_of_lt hk hj))
  · rintro ⟨j, hj, m', hm, hs⟩
    exact ⟨j, Nat.lt_of_lt_of_le hj h.le, m', hm, hs, fun i hi =>
      h.first i (Nat.lt_of_le_of_lt hi hj)⟩

theorem not_sticks_of_bounded {b : Nat} (hb : m.Bounded b)
    (hn : b * Nat.pow 2 n < Nat.pow 10 Numeral.digitLimit) : ¬ Sticks bs m n := by
  rintro ⟨j, hj, m', hm, hs, _⟩
  exact hb.not_stuck hn (Nat.le_of_lt hj) hm hs

theorem exists_leaves (hh : s.machine.halted = false) (limit : Option Int) :
    ∃ k, RunLength s.breakpoints s.started (s.stepLimit limit) k ∧
      Leaves { s with machine := s.started } 0 k (s.run limit) := by
  rw [run, setRunning_of_not_halted hh]
  exact runFor_leaves (s := { s with machine := s.started }) 0 (s.stepLimit limit) rfl hh

theorem run_of_not_sticks (hr : s.machine.running = true → s.machine.halted = false)
    (h : ¬ (s.machine.halted = false ∧ Sticks s.breakpoints s.started (s.stepLimit limit))) :
    (s.run limit).fault = none ∧ (s.run limit).session.machine.running = false := by
  by_cases hh : s.machine.halted = true
  · rw [run_of_halted hh]
    exact ⟨rfl, Bool.eq_false_iff.mpr fun hs => absurd (hh.symm.trans (hr hs)) (by decide)⟩
  have hh := Bool.eq_false_iff.mpr hh
  obtain ⟨k, hk, hl⟩ := exists_leaves hh limit
  cases hs : s.started.steps k with
  | ok m =>
    obtain ⟨_, _, _, hp, _⟩ := hl.ok m hs
    rw [hp]
    exact ⟨rfl, rfl⟩
  | error e => exact absurd ⟨hh, hk.sticks_iff.mpr (Machine.steps_error_iff.mp hs).2⟩ h

theorem run_of_sticks (hh : s.machine.halted = false)
    (h : Sticks s.breakpoints s.started (s.stepLimit limit)) :
    (s.run limit).fault = some (.numeral .unwritable) ∧
      (s.run limit).session.machine.running = true ∧ (s.run limit).session.machine.Stuck := by
  obtain ⟨k, hk, hl⟩ := exists_leaves hh limit
  have hs : s.started.steps k = .error (.numeral .unwritable) :=
    Machine.steps_error_iff.mpr ⟨rfl, hk.sticks_iff.mp h⟩
  obtain ⟨j, m, ms, _, _, hm, hf, hp⟩ := hl.error _ hs
  obtain ⟨hm', hu, _⟩ := Machine.step_error_iff.mp hf
  rw [hp]
  exact ⟨rfl, Machine.running_steps hm hm'.1, hm', hu⟩

theorem fault_run_eq_none_iff (hh : s.machine.halted = false) :
    (s.run limit).fault = none ↔ ¬ Sticks s.breakpoints s.started (s.stepLimit limit) := by
  refine ⟨fun hf hs => ?_, fun hs => (run_of_not_sticks (fun _ => hh) fun h => hs h.2).1⟩
  rw [(run_of_sticks hh hs).1] at hf
  cases hf

/-- Whatever was done in a session, its steps fail at a halt that cannot be written and at nothing
else. A run that comes to one before it stops fails there and is left running; any other ends at
rest. With numbers that are small enough for as many steps, none fails. -/
theorem run_fails_iff {settings : Settings} {s₀ : Session} (h : start settings = .ok s₀)
    (cs : List Command) (limit : Option Int) :
    let s := s₀.performAll cs
    let p := s.run limit
    let fails := s.machine.halted = false ∧ Sticks s.breakpoints s.started (s.stepLimit limit)
    (∀ n e, s.machine.steps n = .error e ↔
      e = .numeral .unwritable ∧ ∃ i < n, ∃ m, s.machine.steps i = .ok m ∧ m.Stuck) ∧
    (¬ fails → p.fault = none ∧ p.session.machine.running = false) ∧
    (fails → p.fault = some (.numeral .unwritable) ∧ p.session.machine.running = true ∧
      p.session.machine.Stuck) ∧
    ∀ b, s.machine.Bounded b →
      (∀ n, b * Nat.pow 2 n < Nat.pow 10 Numeral.digitLimit → ∃ m, s.machine.steps n = .ok m) ∧
      (b * Nat.pow 2 (s.stepLimit limit) < Nat.pow 10 Numeral.digitLimit →
        p.fault = none ∧ p.session.machine.running = false) := by
  intro s p fails
  have hr : s.machine.running = true → s.machine.halted = false :=
    ((along_start h).performAll cs).current.running
  refine ⟨fun _ _ => Machine.steps_error_iff, run_of_not_sticks hr,
    fun hf => run_of_sticks hf.1 hf.2,
    fun b hb => ⟨fun _ => hb.exists_steps, fun hl => ?_⟩⟩
  have hb' : s.started.Bounded b := hb
  exact run_of_not_sticks hr fun hf => not_sticks_of_bounded hb' hl hf.2

theorem run_fails_iff_sum :
    let s₀ : Session := { settings := {}, machine := withSpeed (Machine.fresh 20) 500 }
    let load (a : Int) : Command := .loadSource "LOAD 10\nADD 11\nHALT"
      (.items [.list [.int 10, .int a], .list [.int 11, .int 1]])
    let cs := [load (Nat.pow 10 4300 - 1)]
    let ds := [load 7, .edit 11 (Nat.pow 10 1000)]
    start {} = .ok s₀ ∧
      ((s₀.performAll cs).run none).fault = some (.numeral .unwritable) ∧
      ((s₀.performAll cs).run none).session.machine.running = true ∧
      ((s₀.performAll cs).run none).session.machine.acc = Nat.pow 10 4300 ∧
      (s₀.performAll ds).machine.Bounded (Nat.pow 10 1000) ∧
      ((s₀.performAll ds).run none).fault = none ∧
      ((s₀.performAll ds).run none).session.machine.running = false := by
  intro s₀ load cs ds
  have hs : start {} = .ok s₀ := rfl
  obtain ⟨_, hrests, hfails, _⟩ := run_fails_iff hs cs none
  obtain ⟨_, _, _, hsmall⟩ := run_fails_iff hs ds none
  have hfault : ((s₀.performAll cs).run none).fault.isSome = true := by decide +kernel
  have hacc : ((s₀.performAll cs).run none).session.machine.acc = Nat.pow 10 4300 := by
    decide +kernel
  have hb : (s₀.performAll ds).machine.Bounded (Nat.pow 10 1000) := by decide +kernel
  obtain ⟨hf, hr, _⟩ := hfails <| Classical.byContradiction fun hn => by
    rw [(hrests hn).1] at hfault
    cases hfault
  exact ⟨hs, hf, hr, hacc, hb, (hsmall _ hb).2 (by decide +kernel)⟩

end StoredProgram.Session
