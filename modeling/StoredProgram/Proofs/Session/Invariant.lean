import StoredProgram.Proofs.Session.Track

/-! What holds of every machine of a session, whatever is done in it. New machines must have the
property, and steps, the driver's own changes and edits must carry it on. -/

namespace StoredProgram.Session
variable {settings : Settings} {s s' : Session} {c : Command} {loaded : Option Nat}

theorem Command.kinds (c : Command) :
    c.Loads ∨ c = .reset ∨ (∃ a v, c = .edit a v) ∨ c.Steady := by
  cases c with
  | loadProgram | loadSource | loadExample => exact .inl trivial
  | reset => exact .inr (.inl rfl)
  | edit a v => exact .inr (.inr (.inl ⟨a, v, rfl⟩))
  | _ => exact .inr (.inr (.inr trivial))

theorem settings_of_moves (h : Moves s s') : s'.settings = s.settings := by
  induction h with
  | refl => rfl
  | tail _ hm ih => cases hm <;> exact ih

theorem perform_settings (s : Session) (c : Command) :
    (s.perform c).session.settings = s.settings := by
  rcases c.kinds with hc | rfl | ⟨a, v, rfl⟩ | hc
  · cases s.perform_loaded hc with
    | refused _ hs => rw [hs]
    | accepted _ _ _ hs => rw [hs]; rfl
  · rcases s.perform_reset with ⟨_, hs⟩ | ⟨_, m, _, hs⟩
    · rw [hs]
    · rw [hs]; rfl
  · unfold perform editMemory
    split_ifs <;> rfl
  · exact settings_of_moves (perform_moves hc s)

theorem performAll_settings (s : Session) (cs : List Command) :
    (s.performAll cs).settings = s.settings := by
  induction cs generalizing s with
  | nil => rfl
  | cons c cs ih => exact (ih _).trans (s.perform_settings c)

theorem Along.edit {P : Nat → Machine → Prop} {a v : Int} (h : Along P s)
    (hm : P s.past.length (s.machine.edit a (.number v))) :
    Along P (s.perform (.edit a v)).session := by
  unfold perform editMemory
  split_ifs
  · exact h
  · exact h.update hm

theorem Along.perform {P : Nat → Machine → Prop} (hP : Carried P)
    (he : ∀ {i m}, P i m → ∀ a n, P i (m.edit a (.number n))) (h : Along P s)
    (hc : ¬ s.Restarts c) : Along P (s.perform c).session := by
  rcases c.kinds with hl | rfl | ⟨a, v, rfl⟩ | hs
  · rwa [session_of_not_restarts hc (.inl hl)]
  · rwa [session_of_not_restarts hc (.inr rfl)]
  · exact Along.edit h (he h.current a v)
  · exact h.moves hP (perform_moves hs s)

/-- How many instructions were loaded since the latest reset, if any were, after an operation. -/
def loadedBy (s : Session) (loaded : Option Nat) (c : Command) : Option Nat :=
  if (s.perform c).accepted then
    match c, c.program? s.settings with
    | .reset, _ => none
    | _, some program => some program.length
    | _, none => loaded
  else loaded

def loadedSince (s : Session) (loaded : Option Nat) : List Command → Option Nat
  | [] => loaded
  | c :: cs => (s.perform c).session.loadedSince (s.loadedBy loaded c) cs

theorem loadedBy_of_not_accepted (h : (s.perform c).accepted = false) :
    s.loadedBy loaded c = loaded := if_neg (Bool.eq_false_iff.mp h)

theorem loadedBy_of_steady (hc : c.Steady) : s.loadedBy loaded c = loaded := by
  unfold loadedBy
  cases c with
  | loadProgram | loadSource | loadExample | reset | edit => exact hc.elim
  | _ => exact ite_self loaded

theorem loadedBy_of_not_restarts (hc : ¬ s.Restarts c) : s.loadedBy loaded c = loaded := by
  rcases c.kinds with hl | rfl | ⟨a, v, rfl⟩ | hs
  · exact loadedBy_of_not_accepted (Bool.eq_false_iff.mpr fun ha => hc ⟨.inl hl, ha⟩)
  · exact loadedBy_of_not_accepted (Bool.eq_false_iff.mpr fun ha => hc ⟨.inr rfl, ha⟩)
  · exact ite_self loaded
  · exact loadedBy_of_steady hs

theorem loadedBy_of_loads {program : List Instruction} (hc : c.Loads)
    (ha : (s.perform c).accepted = true) (hp : c.program? s.settings = some program) :
    s.loadedBy loaded c = some program.length := by
  unfold loadedBy
  rw [if_pos ha, hp]
  cases c with
  | loadProgram | loadSource | loadExample => rfl
  | _ => exact hc.elim

/-- A property of a machine at its place, which may depend on what was loaded. -/
structure Invariant (settings : Settings) (P : Option Nat → Nat → Machine → Prop) : Prop where
  fresh : ∀ {m}, freshMachine settings = .ok m → ∀ speed, P none 0 (withSpeed m speed)
  load : ∀ {program data m log}, Loading.load settings.memorySize program data = .ok (m, log) →
    ∀ speed, P (some program.length) 0 (withSpeed m speed)
  carried : ∀ loaded, Carried (P loaded)
  edit : ∀ {loaded i m}, P loaded i m → ∀ a n, P loaded i (m.edit a (.number n))

namespace Invariant
variable {P : Option Nat → Nat → Machine → Prop}

theorem perform (hP : Invariant s.settings P) (h : Along (P loaded) s) (c : Command) :
    Along (P (s.loadedBy loaded c)) (s.perform c).session := by
  by_cases hc : s.Restarts c
  · obtain ⟨hl | rfl, ha⟩ := hc
    · cases s.perform_loaded hl with
      | refused hr => exact absurd (hr.symm.trans ha) Bool.false_ne_true
      | accepted _ hp hm hs =>
        rw [loadedBy_of_loads hl ha hp, hs]
        exact .of_past_nil rfl (hP.load hm _)
    · rcases s.perform_reset with ⟨hr, _⟩ | ⟨_, m, hf, hs⟩
      · exact absurd (hr.symm.trans ha) Bool.false_ne_true
      · rw [hs, show s.loadedBy loaded .reset = none from if_pos ha]
        exact .of_past_nil rfl (hP.fresh hf _)
  · rw [loadedBy_of_not_restarts hc]
    exact h.perform (hP.carried loaded) hP.edit hc

theorem performAll (hP : Invariant s.settings P) (h : Along (P loaded) s) (cs : List Command) :
    Along (P (s.loadedSince loaded cs)) (s.performAll cs) := by
  induction cs generalizing s loaded with
  | nil => exact h
  | cons c cs ih => exact ih (by rwa [perform_settings]) (hP.perform h c)

end Invariant

theorem start_ok (h : start settings = .ok s) :
    freshMachine settings = .ok s.machine ∧ s.settings = settings ∧ s.past = [] := by
  obtain ⟨m, hf, hs⟩ := Except.bind_eq_ok_iff.mp h
  obtain rfl := Except.ok.inj hs
  exact ⟨hf, rfl, rfl⟩

theorem Invariant.start {P : Option Nat → Nat → Machine → Prop} (hP : Invariant settings P)
    (h : start settings = .ok s) : Along (P none) s := by
  obtain ⟨hf, _, hp⟩ := start_ok h
  exact .of_past_nil hp (hP.fresh hf s.machine.speed)

theorem Invariant.of_start {P : Option Nat → Nat → Machine → Prop} (hP : Invariant settings P)
    (h : Session.start settings = .ok s) (cs : List Command) :
    Along (P (s.loadedSince none cs)) (s.performAll cs) := by
  refine Invariant.performAll ?_ (hP.start h) cs
  rwa [(start_ok h).2.1]

end StoredProgram.Session
