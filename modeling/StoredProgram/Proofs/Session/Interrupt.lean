import StoredProgram.Proofs.Machine.Write
import StoredProgram.Proofs.Session.Standing

/-! At which ticks a breakpoint interrupts a run: those at which its event happens, as told by the
phase and the instruction that the tick carries out and not by what is left on the bus. -/

namespace StoredProgram
open Machine

theorem Phase.next_eq_fetch_iff (p : Phase) : p.next = .fetch ↔ p = .idle ∨ p = .execute := by
  cases p <;> decide

namespace Breakpoint
variable {b : Breakpoint} {before after : Machine}

/-- The machine has come to be ready to fetch from the address, or it has carried out a store to
the address of a cell. -/
def Event (b : Breakpoint) (before after : Machine) : Prop :=
  match b.trigger with
  | .pc => (before.phase = .idle ∨ before.phase = .execute) ∧ after.pc = b.address
  | .memoryWrite =>
    before.phase = .execute ∧ before.ir = ⟨"STORE", some b.address⟩ ∧
      ∃ c ∈ before.memory, c.address = b.address

theorem fires_pc_iff (hb : b.trigger = .pc) (hg : GoesOn before after) :
    b.fires before after = true ↔ b.enabled = true ∧ b.Event before after := by
  have hn : after.phase = .fetch ∧ before.phase ≠ .fetch ↔
      before.phase = .idle ∨ before.phase = .execute := by
    rw [hg.phase, Phase.next_eq_fetch_iff]
    refine and_iff_left_of_imp ?_
    rintro (hp | hp) <;> rw [hp] <;> decide
  simp only [fires, Event, hb, Bool.and_eq_true, decide_eq_true_eq, hn]

theorem fires_memoryWrite_iff (hb : b.trigger = .memoryWrite) (hf : before.Fetched)
    (hh : before.halted = false) (hs : before.step = .ok after) :
    b.fires before after = true ↔ b.enabled = true ∧ b.Event before after := by
  simp only [fires, Event, hb, Bool.and_eq_true, decide_eq_true_eq, Memory.isSome_cell?_iff]
  refine and_congr_right fun _ => ?_
  by_cases hp : before.phase = .execute
  · have hw := writes_iff hf hh hp hs b.address
    simp only [hp, true_and, ← hw]
    rw [and_assoc, and_assoc, and_assoc, and_assoc]
    refine and_congr_right fun ha => and_congr_right fun hd => and_congr_right fun hm => ?_
    -- the cells have the same addresses before and after
    have hi : before.ir = ⟨"STORE", some b.address⟩ := hw.mp ⟨ha, hd, hm⟩
    have ho := (Instruction.operation?_eq_store_iff before.ir b.address).mpr hi
    rw [step_of_phase_execute hh hp, execute, ho] at hs
    obtain rfl := Except.ok.inj hs
    rw [addresses_store, List.mem_map]
  · simp only [hp, false_and]

theorem fires_iff (hf : before.Fetched) (hh : before.halted = false) (hs : before.step = .ok after)
    (hm : after.halted = false) :
    b.fires before after = true ↔ b.enabled = true ∧ b.Event before after := by
  cases hb : b.trigger with
  | pc => exact fires_pc_iff hb (goesOn_of_step hh hs hm)
  | memoryWrite => exact fires_memoryWrite_iff hb hf hh hs

end Breakpoint

namespace Session
variable {settings : Settings} {s s' s₀ : Session}

theorem invariant_fetched (settings : Settings) : Invariant settings fun _ _ => Fetched where
  fresh h _ := by
    obtain ⟨_, rfl⟩ := freshMachine_ok h
    exact fetched_of_phase (.inl rfl)
  load h _ := by
    obtain ⟨_, _, _, rfl⟩ := Loading.load_ok h
    exact fetched_of_phase (.inl rfl)
  carried _ := ⟨fun h hh hs => h.step hh hs, fun _ h _ => h, fun _ h => h⟩
  edit h _ _ := h

theorem interrupts_iff {m : Machine} (hf : s.machine.Fetched) (hr : s.machine.running = true)
    (hh : s.machine.halted = false) (hs : s.machine.step = .ok m) (hm : m.halted = false) :
    s.interrupts m = true ↔ ∃ b ∈ s.breakpoints, b.enabled = true ∧ b.Event s.machine m := by
  have hm' : m.running = true := (goesOn_of_step hh hs hm).running.trans hr
  simp only [interrupts, hm', Bool.true_and, Breakpoint.anyFires, List.any_eq_true,
    Breakpoint.fires_iff hf hh hs hm]

theorem exists_tick (hr : s.machine.running = true) (hh : s.machine.halted = false)
    (hn : ¬ s.machine.Halting) :
    ∃ s' log, s.tick = .ok (s', log) ∧ s'.machine.halted = false := by
  obtain ⟨m, hs, hg⟩ := step_of_not_halting hh hn
  refine ⟨_, _, (tick_of_running hr).trans (advance_of_ok hh hs), ?_⟩
  have hm : m.halted = false := hg.halted.trans hh
  split_ifs <;> exact hm

theorem tick_running_iff {log : Log} (hf : s.machine.Fetched) (hr : s.machine.running = true)
    (hh : s.machine.halted = false) (ht : s.tick = .ok (s', log)) (hm : s'.machine.halted = false) :
    s'.machine.running = false ↔
      ∃ b ∈ s.breakpoints, b.enabled = true ∧ b.Event s.machine s'.machine := by
  rw [tick_of_running hr] at ht
  obtain ⟨ht, _⟩ | ⟨_, m, hs, rfl⟩ := advance_ok ht
  · exact absurd (hh.symm.trans ht) Bool.false_ne_true
  have hm : m.halted = false := by
    split_ifs at hm <;> exact hm
  have hi := interrupts_iff hf hr hh hs hm
  by_cases hb : s.interrupts m = true
  · simp only [if_pos hb]
    exact iff_of_true rfl (hi.mp hb)
  · have hr' : m.running = true := (goesOn_of_step hh hs hm).running.trans hr
    simp only [if_neg hb, hr']
    exact iff_of_false (by decide) fun he => hb (hi.mpr he)

/-- A tick that does not halt stops the run just when the event of an enabled breakpoint happens.
Only the execution of a halting instruction halts or fails. -/
theorem tick_interrupts_iff (h : start settings = .ok s₀) (cs : List Command)
    (hr : (s₀.performAll cs).machine.running = true) :
    let s := s₀.performAll cs
    (¬ s.machine.Halting → ∃ s' log, s.tick = .ok (s', log) ∧ s'.machine.halted = false) ∧
    ∀ s' log, s.tick = .ok (s', log) → s'.machine.halted = false →
      (s'.machine.running = false ↔
        ∃ b ∈ s.breakpoints, b.enabled = true ∧ b.Event s.machine s'.machine) := by
  have hh := ((along_start h).performAll cs).current.running hr
  have hf := ((invariant_fetched settings).of_start h cs).current
  exact ⟨exists_tick hr hh, fun s' log => tick_running_iff hf hr hh⟩

theorem tick_interrupts_iff_store_then_branch :
    let s₀ : Session := { settings := {}, machine := withSpeed (Machine.fresh 20) 500 }
    let cs : List Command := [.loadSource "STORE 10\nJNZ 0\nHALT" (.items []),
      .addBreakpoint ⟨.memoryWrite, 10, true⟩, .run (some 3), .setRunning true]
    let ds : List Command := cs ++ [.tick, .setRunning true, .tick, .tick]
    start {} = .ok s₀ ∧ (s₀.performAll cs).machine.running = true ∧
      (s₀.performAll ds).machine.running = true ∧
      (∃ s' log, (s₀.performAll cs).tick = .ok (s', log) ∧ s'.machine.running = false) ∧
      ∃ s' log, (s₀.performAll ds).tick = .ok (s', log) ∧ s'.machine.running = true := by
  intro s₀ cs ds
  have hs : start {} = .ok s₀ := rfl
  have hc : (s₀.performAll cs).machine.running = true := by decide +kernel
  have hd : (s₀.performAll ds).machine.running = true := by decide +kernel
  have hb : (s₀.performAll cs).breakpoints = [⟨.memoryWrite, 10, true⟩] ∧
      (s₀.performAll ds).breakpoints = [⟨.memoryWrite, 10, true⟩] := by decide +kernel
  have hi : (s₀.performAll cs).machine.ir = ⟨"STORE", some 10⟩ ∧
      (s₀.performAll ds).machine.ir = ⟨"JNZ", some 0⟩ := by decide +kernel
  have hn : ¬ (s₀.performAll cs).machine.Halting ∧ ¬ (s₀.performAll ds).machine.Halting := by
    decide +kernel
  have hp : (s₀.performAll cs).machine.phase = .execute ∧
      ∃ c ∈ (s₀.performAll cs).machine.memory, c.address = 10 := by decide +kernel
  refine ⟨hs, hc, hd, ?_, ?_⟩
  · obtain ⟨hok, hiff⟩ := tick_interrupts_iff hs cs hc
    obtain ⟨s', log, ht, hh⟩ := hok hn.1
    refine ⟨s', log, ht, (hiff s' log ht hh).mpr ⟨⟨.memoryWrite, 10, true⟩, ?_, rfl, ?_⟩⟩
    · rw [hb.1]
      exact .head _
    · exact ⟨hp.1, hi.1, hp.2⟩
  · obtain ⟨hok, hiff⟩ := tick_interrupts_iff hs ds hd
    obtain ⟨s', log, ht, hh⟩ := hok hn.2
    refine ⟨s', log, ht, Bool.ne_false_iff.mp fun hr => ?_⟩
    obtain ⟨b, hm, _, he⟩ := (hiff s' log ht hh).mp hr
    rw [hb.2, List.mem_singleton] at hm
    rw [hm] at he
    exact absurd (hi.2.symm.trans he.2.1) (by decide)

end Session
end StoredProgram
