import Mathlib.Logic.Relation
import StoredProgram.Proofs.Except
import StoredProgram.Proofs.Machine.Rest
import StoredProgram.Session.Command

/-! The operations of a session between two loads, taken apart into elementary moves. What every
move keeps, every such operation keeps. -/

namespace StoredProgram.Session
open Relation
variable {s s' : Session}

inductive Move (s : Session) : Session → Prop
  | step {m : Machine} : s.machine.halted = false → s.machine.step = .ok m →
      Move s { s with machine := m, past := s.machine :: s.past }
  | back {m : Machine} {past : List Machine} : s.past = m :: past →
      Move s { s with machine := m.paused, past := past }
  | running (b : Bool) : (b = true → s.machine.halted = false) →
      Move s { s with machine := { s.machine with running := b } }
  | speed (n : Int) : Move s { s with machine := withSpeed s.machine (s.settings.clampSpeed n) }
  | breakpoints (bs : List Breakpoint) : Move s { s with breakpoints := bs }

abbrev Moves : Session → Session → Prop := ReflTransGen Move

def interrupts (s : Session) (m : Machine) : Bool :=
  m.running && Breakpoint.anyFires s.breakpoints s.machine m

def stepLog (s : Session) (m : Machine) : Log :=
  if m.halted then Log.info (lastLine m)
  else if s.interrupts m then Log.info ("Breakpoint hit at PC: " ++ Numeral.text m.pc)
  else []

theorem advance_of_error {e : Fault} (h : s.machine.step = .error e) : s.advance = .error e := by
  simp only [advance, h, Except.error_bind]

theorem advance_of_ok {m : Machine} (hh : s.machine.halted = false) (h : s.machine.step = .ok m) :
    s.advance =
      .ok ({ s with
        machine := if s.interrupts m then m.paused else m
        past := s.machine :: s.past }, s.stepLog m) := by
  have hr : m.halted = true → m.running = false := by
    intro hm
    rw [(Machine.eq_stopped_of_step hh h hm).2]
    rfl
  have hc : (m.halted && !s.machine.halted) = m.halted := by rw [hh]; exact Bool.and_true _
  have hi : (m.running && Breakpoint.anyFires s.breakpoints s.machine m) = s.interrupts m := rfl
  simp only [advance, h, Except.ok_bind, hc, hi, stepLog, if_neg (Bool.eq_false_iff.mp hh)]
  by_cases hm : m.halted = true
  · -- a halted machine does not run, so that no breakpoint interrupts it
    have hn : ¬ s.interrupts m = true := by rw [interrupts, hr hm, Bool.false_and]; decide
    rw [if_pos hm, if_pos hm, if_neg hn]
    rfl
  · by_cases hb : s.interrupts m = true
    · rw [if_neg hm, if_neg hm, if_pos hb, if_pos hb, if_pos hb]
      rfl
    · rw [if_neg hm, if_neg hm, if_neg hb, if_neg hb, if_neg hb]
      rfl

theorem advance_of_halted (hh : s.machine.halted = true) :
    ∃ m log, s.advance = .ok ({ s with machine := m }, log) ∧
      (m = s.machine ∨ m = s.machine.paused) := by
  have hn : ¬ (s.machine.halted && !s.machine.halted) = true := by rw [hh]; decide
  simp only [advance, Machine.step_of_halted hh, Except.ok_bind, if_neg hn, if_pos hh]
  split_ifs
  · exact ⟨_, _, rfl, .inr rfl⟩
  · exact ⟨_, _, rfl, .inl rfl⟩

theorem step_of_running (h : s.machine.running = true) :
    s.step = .ok (s, Log.warning "Step ignored while running.") := if_pos h

theorem step_of_paused (h : s.machine.running = false) : s.step = s.advance :=
  if_neg (Bool.eq_false_iff.mp h)

theorem tick_of_running (h : s.machine.running = true) : s.tick = s.advance := if_pos h

theorem tick_of_paused (h : s.machine.running = false) : s.tick = .ok (s, []) :=
  if_neg (Bool.eq_false_iff.mp h)

theorem pause_of_paused (h : s.machine.running = false) : s.pause = s := by
  show { s with machine := { s.machine with running := false } } = s
  rw [← h]

theorem advance_of_stuck (h : s.machine.Stuck) : s.advance = .error (.numeral .unwritable) :=
  advance_of_error (Machine.step_of_stuck h)

theorem exists_advance (h : ¬ s.machine.Stuck) : ∃ s' log, s.advance = .ok (s', log) := by
  by_cases hh : s.machine.halted = true
  · obtain ⟨m, log, ha, _⟩ := advance_of_halted hh
    exact ⟨_, log, ha⟩
  · obtain ⟨m, hs⟩ := Machine.exists_step h
    exact ⟨_, _, advance_of_ok (Bool.eq_false_iff.mpr hh) hs⟩

theorem advance_ok {log : Log} (h : s.advance = .ok (s', log)) :
    s.machine.halted = true ∧ (s' = s ∨ s' = { s with machine := s.machine.paused }) ∨
    s.machine.halted = false ∧ ∃ m, s.machine.step = .ok m ∧
      s' = { s with
        machine := if s.interrupts m then m.paused else m
        past := s.machine :: s.past } := by
  by_cases hh : s.machine.halted = true
  · obtain ⟨m, l, ha, hm⟩ := advance_of_halted hh
    obtain ⟨rfl, _⟩ := Prod.mk.inj (Except.ok.inj (ha.symm.trans h))
    refine .inl ⟨hh, ?_⟩
    rcases hm with rfl | rfl
    · exact .inl rfl
    · exact .inr rfl
  have hh := Bool.eq_false_iff.mpr hh
  refine .inr ⟨hh, ?_⟩
  cases hs : s.machine.step with
  | error e =>
    rw [advance_of_error hs] at h
    cases h
  | ok m =>
    rw [advance_of_ok hh hs] at h
    exact ⟨m, rfl, (Prod.mk.inj (Except.ok.inj h)).1.symm⟩

theorem running_advance {log : Log} (h : s.machine.running = false)
    (ha : s.advance = .ok (s', log)) : s'.machine.running = false := by
  rcases advance_ok ha with ⟨_, rfl | rfl⟩ | ⟨hh, m, hs, rfl⟩
  · exact h
  · rfl
  · have hm := Machine.not_running_of_step hh h hs
    split_ifs
    · rfl
    · exact hm

theorem paused_moves (s : Session) : Moves s { s with machine := s.machine.paused } := by
  apply Relation.ReflTransGen.single
  exact .running false fun h => by cases h

theorem advance_moves {log : Log} (h : s.advance = .ok (s', log)) : Moves s s' := by
  rcases advance_ok h with ⟨_, rfl | rfl⟩ | ⟨hh, m, hs, rfl⟩
  · exact .refl
  · exact paused_moves s
  · have hm : Moves s { s with machine := m, past := s.machine :: s.past } := .single (.step hh hs)
    split_ifs
    · exact hm.trans (paused_moves _)
    · exact hm

theorem step_moves {log : Log} (h : s.step = .ok (s', log)) : Moves s s' := by
  unfold step at h
  split_ifs at h
  · obtain ⟨rfl, _⟩ := Prod.mk.inj (Except.ok.inj h)
    exact .refl
  · exact advance_moves h

theorem tick_moves {log : Log} (h : s.tick = .ok (s', log)) : Moves s s' := by
  unfold tick at h
  split_ifs at h
  · exact advance_moves h
  · obtain ⟨rfl, _⟩ := Prod.mk.inj (Except.ok.inj h)
    exact .refl

theorem setRunning_moves (s : Session) (b : Bool) : Moves s (s.setRunning b) := by
  unfold setRunning
  split_ifs with h
  · exact .refl
  · apply Relation.ReflTransGen.single
    refine .running b fun hb => ?_
    rw [hb, Bool.true_and] at h
    exact Bool.eq_false_iff.mpr h

theorem stepBack_moves (h : s.stepBack? = some s') : Moves s s' := by
  unfold stepBack? at h
  split at h
  · cases h
  · next m past hp =>
    obtain rfl := Option.some.inj h
    exact .single (.back hp)

theorem setSpeed_ok {v : Value} (h : s.setSpeed v = .ok s') :
    ∃ n, v.int? = some n ∧ 0 < n ∧
      s' = { s with machine := withSpeed s.machine (s.settings.clampSpeed n) } := by
  have hr : setSpeed.refuse v ≠ .ok s' := by
    unfold setSpeed.refuse
    split <;> exact fun h => by cases h
  unfold setSpeed at h
  split at h
  · next n hv =>
    split_ifs at h with hn
    · exact ⟨n, hv, hn, (Except.ok.inj h).symm⟩
    · exact absurd h hr
  · exact absurd h hr

theorem setSpeed_moves {v : Value} (h : s.setSpeed v = .ok s') : Moves s s' := by
  obtain ⟨n, _, _, rfl⟩ := setSpeed_ok h
  exact .single (.speed n)

theorem runFor_carries {R : Session → Session → Prop} (refl : ∀ s, R s s)
    (trans : ∀ {s t u}, R s t → R t u → R s u) (pause : ∀ s : Session, R s s.pause)
    (tick : ∀ {s s' : Session} {log}, s.tick = .ok (s', log) → R s s') (taken left : Nat)
    (s : Session) : R s (runFor taken left s).session := by
  induction left generalizing taken s with
  | zero =>
    unfold runFor
    split_ifs
    · exact pause s
    · exact refl s
  | succ left ih =>
    unfold runFor
    split_ifs
    · cases ht : s.tick with
      | error e => exact refl s
      | ok r => exact trans (tick ht) (ih (taken + 1) r.1)
    · exact refl s

theorem runFor_moves (taken left : Nat) (s : Session) : Moves s (runFor taken left s).session :=
  runFor_carries (fun _ => .refl) .trans (fun s => setRunning_moves s false) tick_moves taken left s

theorem run_moves (s : Session) (limit : Option Int) : Moves s (s.run limit).session := by
  have hs : Moves s (s.setRunning true) := setRunning_moves s true
  exact hs.trans (runFor_moves _ _ _)

/-- The operations that neither load, nor reset, nor edit. -/
def Command.Steady : Command → Prop
  | .loadProgram .. | .loadSource .. | .loadExample .. | .reset | .edit .. => False
  | _ => True

theorem ofResult_moves {r : Except Fault (Session × Log)}
    (h : ∀ s' log, r = .ok (s', log) → Moves s s') : Moves s (Progress.ofResult s r).session := by
  cases r with
  | error e => exact .refl
  | ok p => exact h p.1 p.2 rfl

theorem perform_moves {c : Command} (hc : c.Steady) (s : Session) :
    Moves s (s.perform c).session := by
  cases c with
  | loadProgram | loadSource | loadExample | reset | edit => exact hc.elim
  | step => exact ofResult_moves fun _ _ => step_moves
  | tick => exact ofResult_moves fun _ _ => tick_moves
  | stepBack =>
    unfold perform
    cases hb : s.stepBack? with
    | none => exact .refl
    | some s' => exact stepBack_moves hb
  | run limit => exact run_moves s limit
  | setRunning b => exact setRunning_moves s b
  | toggleRun => exact setRunning_moves s _
  | pause => exact setRunning_moves s false
  | setSpeed v =>
    refine ofResult_moves fun s' _ h => ?_
    cases hv : s.setSpeed v with
    | error e =>
      rw [hv] at h
      cases h
    | ok t =>
      rw [hv] at h
      obtain ⟨rfl, _⟩ := Prod.mk.inj (Except.ok.inj h)
      exact setSpeed_moves hv
  | addBreakpoint b => exact .single (.breakpoints _)
  | removeBreakpoint b => exact .single (.breakpoints _)

end StoredProgram.Session
