import StoredProgram.Proofs.Session.Load
import StoredProgram.Proofs.Session.Timeline

/-! Between two new starts a session moves along one sequence of machines, the steps from the
machine that the start put in place. The length of the past says how far along it is. -/

namespace StoredProgram.Session
variable {s : Session} {c : Command} {cs : List Command}

def Restarts (s : Session) (c : Command) : Prop :=
  (c.Loads ∨ c = .reset) ∧ (s.perform c).accepted = true

/-- Operations without a new start and without edits; the loads among them are refused. -/
def Continues : Session → List Command → Prop
  | _, [] => True
  | s, c :: cs =>
    (c.Steady ∨ c.Loads ∧ (s.perform c).accepted = false) ∧ (s.perform c).session.Continues cs

theorem Restarts.past_eq_nil (h : s.Restarts c) : (s.perform c).session.past = [] := by
  obtain ⟨hc | rfl, ha⟩ := h
  · cases s.perform_loaded hc with
    | refused hr => rw [hr] at ha; cases ha
    | accepted _ _ _ hs => rw [hs]; rfl
  · rcases s.perform_reset with ⟨hr, _⟩ | ⟨_, m, _, hs⟩
    · rw [hr] at ha; cases ha
    · rw [hs]; rfl

theorem not_restarts (s : Session) (hl : ¬ c.Loads) (hr : c ≠ .reset) : ¬ s.Restarts c :=
  fun h => h.1.elim hl hr

theorem session_of_not_restarts (h : ¬ s.Restarts c) (hc : c.Loads ∨ c = .reset) :
    (s.perform c).session = s := by
  have hr : (s.perform c).accepted ≠ true := fun ha => h ⟨hc, ha⟩
  rcases hc with hc | rfl
  · cases s.perform_loaded hc with
    | refused _ hs => exact hs
    | accepted ha => exact absurd ha hr
  · rcases s.perform_reset with ⟨_, hs⟩ | ⟨ha, _⟩
    · exact hs
    · exact absurd ha hr

theorem Continues.moves (h : s.Continues cs) : Moves s (s.performAll cs) := by
  induction cs generalizing s with
  | nil => exact .refl
  | cons c cs ih =>
    refine Relation.ReflTransGen.trans ?_ (ih h.2)
    rcases h.1 with hc | ⟨hc, ha⟩
    · exact perform_moves hc s
    · -- a load that is refused leaves the session as it was
      cases s.perform_loaded hc with
      | refused _ hs => rw [hs]
      | accepted hr => rw [ha] at hr; cases hr

/-- Up to the driver's fields, `m` is the machine `i` steps from `m₀`. -/
def OnTrack (m₀ : Machine) (i : Nat) (m : Machine) : Prop :=
  ∃ m', m₀.steps i = .ok m' ∧ m'.Agrees m

theorem carried_onTrack (m₀ : Machine) : Carried (OnTrack m₀) where
  step := by
    rintro i m m₁ ⟨m', hi, ha⟩ _ hs
    obtain ⟨m₁', hs', ha'⟩ := ha.exists_step hs
    refine ⟨m₁', ?_, ha'⟩
    rw [Machine.steps_succ_last, hi]
    exact hs'
  running _ h _ := h
  speed _ h := h

theorem Continues.onTrack (h : s.Continues cs) (hp : s.past = []) :
    Along (OnTrack s.machine) (s.performAll cs) := by
  have h₀ : OnTrack s.machine 0 s.machine := ⟨s.machine, rfl, rfl⟩
  have hs : Along (OnTrack s.machine) s := .of_past_nil hp h₀
  exact hs.moves (carried_onTrack s.machine) h.moves

theorem OnTrack.agrees {m₀ p q : Machine} {i : Nat} (hp : OnTrack m₀ i p) (hq : OnTrack m₀ i q) :
    p.Agrees q := by
  obtain ⟨m, hm, hp⟩ := hp
  obtain ⟨m', hm', hq⟩ := hq
  obtain rfl := Except.ok.inj (hm.symm.trans hm')
  exact hp.symm.trans hq

/-- After a new start, whatever follows, the current machine and those of the past are the steps
from the machine at the start, each as many steps from it as its place says. Two ways to go on from
the same start have the same machines at the same places. -/
theorem performAll_onTrack (hc : s.Restarts c) (hcs : (s.perform c).session.Continues cs) :
    let s₀ := (s.perform c).session
    let s' := s₀.performAll cs
    OnTrack s₀.machine s'.past.length s'.machine ∧
    (∀ i m, s'.past.reverse[i]? = some m → OnTrack s₀.machine i m ∧ m.halted = false) ∧
    ∀ ds, s₀.Continues ds → ∀ (i : Nat) (p q : Machine), s'.timeline[i]? = some p →
      (s₀.performAll ds).timeline[i]? = some q → p.Agrees q := by
  have hn := hc.past_eq_nil
  have h := hcs.onTrack hn
  refine ⟨h.current, h.past, ?_⟩
  intro ds hds i p q hp hq
  have hd := hds.onTrack hn
  exact (h.of_timeline hp).agrees (hd.of_timeline hq)

theorem performAll_onTrack_back_and_forth :
    let s : Session := { settings := {}, machine := Machine.fresh 20 }
    let c : Command := .loadProgram [⟨"ADD", some 1⟩, ⟨"JUMP", some 0⟩] (.items [])
    let cs : List Command := [.step, .step, .setRunning true, .tick, .stepBack, .setSpeed (.int 0),
      .loadSource "FOO" (.items []), .addBreakpoint ⟨.pc, 1, true⟩, .run none, .toggleRun, .step]
    let s₀ := (s.perform c).session
    let s' := s₀.performAll cs
    s'.past.length = 4 ∧ OnTrack s₀.machine 4 s'.machine ∧
      ∀ i m, s'.past.reverse[i]? = some m → OnTrack s₀.machine i m ∧ m.halted = false := by
  intro s c cs s₀ s'
  have hc : s.Restarts c := ⟨.inl trivial, rfl⟩
  have hcs : s₀.Continues cs := by
    refine ⟨.inl trivial, .inl trivial, .inl trivial, .inl trivial, .inl trivial, .inl trivial,
      .inr ⟨trivial, ?_⟩, .inl trivial, .inl trivial, .inl trivial, .inl trivial, trivial⟩
    decide +kernel
  have hl : s'.past.length = 4 := by decide +kernel
  obtain ⟨hm, hp, _⟩ := performAll_onTrack hc hcs
  exact ⟨hl, hl ▸ hm, hp⟩

end StoredProgram.Session
