import StoredProgram.Proofs.Session.Track

/-! Stepping back undoes a step, whatever else was done in between. The past is a stack: a step puts
the machine before it on top, a step back takes the topmost one away, and no other operation but a
new start touches it. -/

namespace StoredProgram.Session
open Machine
variable {s s' : Session} {c : Command} {cs : List Command} {ms : List Machine}

/-- Operations without a new start, after none of which the past has the given length. -/
def Avoids (n : Nat) : Session → List Command → Prop
  | _, [] => True
  | s, c :: cs =>
    ¬ s.Restarts c ∧ (s.perform c).session.past.length ≠ n ∧ (s.perform c).session.Avoids n cs

theorem past_setRunning (s : Session) (b : Bool) : (s.setRunning b).past = s.past := by
  unfold setRunning
  split_ifs <;> rfl

theorem past_advance {log : Log} (h : s.advance = .ok (s', log)) :
    s'.past = s.past ∨ s'.past = s.machine :: s.past := by
  rcases advance_ok h with ⟨_, rfl | rfl⟩ | ⟨_, m, _, rfl⟩
  · exact .inl rfl
  · exact .inl rfl
  · exact .inr rfl

theorem past_tick {log : Log} (h : s.tick = .ok (s', log)) :
    s'.past = s.past ∨ s'.past = s.machine :: s.past := by
  unfold tick at h
  split_ifs at h
  · exact past_advance h
  · obtain ⟨rfl, _⟩ := Prod.mk.inj (Except.ok.inj h)
    exact .inl rfl

theorem past_step {log : Log} (h : s.step = .ok (s', log)) :
    s'.past = s.past ∨ s'.past = s.machine :: s.past := by
  unfold step at h
  split_ifs at h
  · obtain ⟨rfl, _⟩ := Prod.mk.inj (Except.ok.inj h)
    exact .inl rfl
  · exact past_advance h

theorem past_perform_step (hc : c = .step ∨ c = .tick) :
    (s.perform c).session.past = s.past ∨ (s.perform c).session.past = s.machine :: s.past := by
  rcases hc with rfl | rfl
  · unfold perform
    cases h : s.step with
    | error e => exact .inl rfl
    | ok r => exact past_step h
  · unfold perform
    cases h : s.tick with
    | error e => exact .inl rfl
    | ok r => exact past_tick h

theorem suffix_of_past (h : s'.past = s.past ∨ s'.past = s.machine :: s.past) :
    s.past <:+ s'.past := by
  rcases h with h | h
  · exact h ▸ List.suffix_rfl
  · exact h ▸ List.suffix_cons _ _

theorem past_runFor (taken left : Nat) (s : Session) :
    s.past <:+ (runFor taken left s).session.past :=
  runFor_carries (R := fun s s' => s.past <:+ s'.past) (fun _ => List.suffix_rfl) List.IsSuffix.trans
    (fun s => suffix_of_past (.inl (s.past_setRunning false)))
    (fun h => suffix_of_past (past_tick h)) taken left s

theorem past_setSpeed (s : Session) (v : Value) :
    (s.perform (.setSpeed v)).session.past = s.past := by
  show (Progress.ofResult s ((s.setSpeed v).map (·, []))).session.past = s.past
  cases h : s.setSpeed v with
  | error e => rfl
  | ok s' =>
    obtain ⟨_, _, _, rfl⟩ := setSpeed_ok h
    rfl

theorem perform_stepBack {m : Machine} (h : s.past = m :: ms) :
    s.perform .stepBack = { session := { s with machine := m.paused, past := ms } } := by
  simp only [perform, stepBack?, h]
  rfl

theorem perform_stepBack_of_nil (h : s.past = []) :
    s.perform .stepBack = { session := s, reply := .noPast } := by
  simp only [perform, stepBack?, h]

theorem past_perform (h : ¬ s.Restarts c) (hc : c ≠ .stepBack) :
    s.past <:+ (s.perform c).session.past := by
  cases c with
  | loadProgram | loadSource | loadExample =>
    exact suffix_of_past (.inl (congrArg past (session_of_not_restarts h (.inl trivial))))
  | reset => exact suffix_of_past (.inl (congrArg past (session_of_not_restarts h (.inr rfl))))
  | stepBack => exact absurd rfl hc
  | step => exact suffix_of_past (past_perform_step (.inl rfl))
  | tick => exact suffix_of_past (past_perform_step (.inr rfl))
  | run limit =>
    rw [← s.past_setRunning true]
    exact past_runFor _ _ _
  | setRunning b => exact suffix_of_past (.inl (s.past_setRunning b))
  | toggleRun => exact suffix_of_past (.inl (s.past_setRunning _))
  | pause => exact suffix_of_past (.inl (s.past_setRunning false))
  | setSpeed v => exact suffix_of_past (.inl (s.past_setSpeed v))
  | edit a v =>
    unfold perform editMemory
    split_ifs <;> exact List.suffix_rfl
  | addBreakpoint b => exact List.suffix_rfl
  | removeBreakpoint b => exact List.suffix_rfl

theorem Avoids.suffix {n : Nat} (h : s.Avoids n cs) (hn : ms.length = n + 1)
    (hs : ms <:+ s.past) : ms <:+ (s.performAll cs).past := by
  induction cs generalizing s with
  | nil => exact hs
  | cons c cs ih =>
    obtain ⟨hr, hl, hcs⟩ := h
    refine ih hcs ?_
    by_cases hc : c = .stepBack
    · subst hc
      cases hp : s.past with
      | nil =>
        rw [hp, List.suffix_nil] at hs
        rw [hs] at hn
        cases hn
      | cons m past =>
        rw [perform_stepBack hp] at hl ⊢
        rw [hp, List.suffix_cons_iff] at hs
        refine hs.resolve_left fun he => hl ?_
        -- the past would be one shorter than what stands at its bottom
        rw [he, List.length_cons] at hn
        exact Nat.succ.inj hn
    · exact hs.trans (past_perform hr hc)

theorem performAll_stepBack {m : Machine} {past : List Machine} (h : s.past = ms ++ m :: past) :
    s.performAll (List.replicate (ms.length + 1) .stepBack) =
      { s with machine := m.paused, past := past } := by
  induction ms generalizing s with
  | nil =>
    show (s.perform .stepBack).session = _
    rw [perform_stepBack h]
  | cons p ms ih =>
    rw [List.length_cons, List.replicate_succ, performAll, perform_stepBack h]
    exact ih rfl

/-- A step or tick that lengthens the past is undone by as many steps back as it takes to reach the
length before, whatever was done in between short of a new start or of going back there: the machine
is again the one before, at rest, on top of the same past. Without a past, a step back changes
nothing. -/
theorem performAll_stepBack_undoes (hc : c = .step ∨ c = .tick)
    (hl : (s.perform c).session.past.length = s.past.length + 1)
    (hcs : (s.perform c).session.Avoids s.past.length cs) :
    let t := (s.perform c).session.performAll cs
    s.past.length < t.past.length ∧
    t.performAll (List.replicate (t.past.length - s.past.length) .stepBack) =
      { t with machine := s.machine.paused, past := s.past } ∧
    t.past.reverse.take s.past.length = s.past.reverse ∧
    ∀ r : Session, r.past = [] → r.perform .stepBack = { session := r, reply := .noPast } := by
  intro t
  have hp : (s.perform c).session.past = s.machine :: s.past := by
    refine (past_perform_step hc).resolve_left fun h => ?_
    rw [h] at hl
    exact absurd hl (Nat.succ_ne_self _).symm
  have hs : s.machine :: s.past <:+ t.past := hcs.suffix rfl (hp ▸ List.suffix_rfl)
  obtain ⟨ms, ht⟩ := hs
  have hn : t.past.length = ms.length + 1 + s.past.length := by
    rw [← ht, List.length_append, List.length_cons]
    omega
  refine ⟨by omega, ?_, ?_, fun r => perform_stepBack_of_nil⟩
  · rw [hn, Nat.add_sub_cancel]
    exact performAll_stepBack ht.symm
  · rw [← ht, List.reverse_append, List.reverse_cons, List.append_assoc]
    exact List.take_left' (List.length_reverse ..)

theorem performAll_stepBack_undoes_run :
    let s₀ : Session := { settings := {}, machine := withSpeed (Machine.fresh 20) 500 }
    let s := s₀.performAll [.loadSource "ADD 10\nHALT" (.ofPairs [(10, 5)]), .step, .toggleRun]
    let cs : List Command := [.setSpeed (.int 200), .run none, .edit 10 9, .stepBack,
      .loadSource "FOO" (.items []), .toggleRun, .edit 0 7, .addBreakpoint ⟨.pc, 0, true⟩, .tick]
    let t := (s.perform .tick).session.performAll cs
    start {} = .ok s₀ ∧ s.past.length = 1 ∧ t.past.length = 7 ∧ t.machine ≠ s.machine ∧
      (s.perform .tick).session.Avoids 1 cs ∧
      (t.performAll (List.replicate 6 .stepBack)).machine = s.machine.paused := by
  intro s₀ s cs t
  have hl : s.past.length = 1 := by decide +kernel
  have ht : t.past.length = 7 := by decide +kernel
  have hc : (s.perform .tick).session.past.length = s.past.length + 1 := by decide +kernel
  have hcs : (s.perform .tick).session.Avoids 1 cs := by
    -- of the operations only the refused load looks like a new start
    refine ⟨not_restarts _ id nofun, by decide +kernel, not_restarts _ id nofun, by decide +kernel,
      not_restarts _ id nofun, by decide +kernel, not_restarts _ id nofun, by decide +kernel,
      fun h => absurd h.2 (by decide +kernel), by decide +kernel,
      not_restarts _ id nofun, by decide +kernel, not_restarts _ id nofun, by decide +kernel,
      not_restarts _ id nofun, by decide +kernel, not_restarts _ id nofun, by decide +kernel,
      trivial⟩
  have hm : t.machine ≠ s.machine := by decide +kernel
  obtain ⟨_, hu, _⟩ := performAll_stepBack_undoes (.inr rfl) hc (hl ▸ hcs)
  refine ⟨rfl, hl, ht, hm, hcs, ?_⟩
  rw [hl] at hu
  exact congrArg (fun r : Session => r.machine) (ht ▸ hu)

end StoredProgram.Session
