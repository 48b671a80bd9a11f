import StoredProgram.Proofs.Session.Shape
import StoredProgram.Proofs.Settings.WellFormed

/-! What the settings fix for good: the size of every memory of a session, and the range of the
speeds. A new start takes the speed over from the machine that it replaces, and a step back brings
back one that was in range before. -/

namespace StoredProgram.Session
variable {settings : Settings} {s s' s₀ : Session} {c : Command}

theorem invariant_length (settings : Settings) :
    Invariant settings fun _ _ m => m.memory.length = settings.memorySize.toNat where
  fresh h _ := by
    obtain ⟨_, rfl⟩ := freshMachine_ok h
    exact (List.length_map _).trans List.length_range
  load h _ := by
    have hm := Loading.length_load h
    exact hm
  carried _ := carried_kept (Memory.kept_length _)
  edit h a n := (Memory.kept_length _).write a n h

theorem mem_timeline {m : Machine} : m ∈ s.timeline ↔ m = s.machine ∨ m ∈ s.past := by
  simp only [timeline, List.mem_append, List.mem_reverse, List.mem_singleton, or_comm]

def Paced (s : Session) : Prop := ∀ m ∈ s.timeline, s.settings.Admits m.speed

namespace Paced

theorem machine (h : s.Paced) : s.settings.Admits s.machine.speed :=
  h _ (mem_timeline.mpr (.inl rfl))

theorem of_past_nil (hp : s.past = []) (hm : s.settings.Admits s.machine.speed) : s.Paced := by
  intro m hmem
  rcases mem_timeline.mp hmem with rfl | hmem
  · exact hm
  · rw [hp] at hmem
    cases hmem

theorem update {m : Machine} (h : s.Paced) (hm : s.settings.Admits m.speed) :
    Paced { s with machine := m } := by
  intro p hp
  rcases mem_timeline.mp hp with rfl | hp
  · exact hm
  · exact h p (mem_timeline.mpr (.inr hp))

theorem move (h : s.Paced) (hs : s.settings.WellFormed) (hm : Move s s') : s'.Paced := by
  cases hm with
  | @step m _ hm =>
    intro p hp
    rcases mem_timeline.mp hp with rfl | hp
    · exact (Machine.step_speed hm).symm ▸ h.machine
    · exact h p (mem_timeline.mpr (List.mem_cons.mp hp))
  | @back m past hpast =>
    intro p hp
    rcases mem_timeline.mp hp with rfl | hp
    · exact h m (mem_timeline.mpr (.inr (hpast ▸ List.mem_cons_self)))
    · exact h p (mem_timeline.mpr (.inr (hpast ▸ List.mem_cons_of_mem m hp)))
  | running b _ => exact h.update h.machine
  | speed n => exact h.update (hs.admits_clampSpeed n)
  | breakpoints bs => exact h

theorem moves (h : s.Paced) (hs : s.settings.WellFormed) (hm : Moves s s') : s'.Paced := by
  induction hm with
  | refl => exact h
  | tail hm h₁ ih => exact ih.move (by rwa [settings_of_moves hm]) h₁

theorem replace (h : s.Paced) (m : Machine) : (s.replace m).Paced := of_past_nil rfl h.machine

theorem perform (h : s.Paced) (hs : s.settings.WellFormed) (c : Command) :
    (s.perform c).session.Paced := by
  rcases c.kinds with hc | rfl | ⟨a, v, rfl⟩ | hc
  · cases s.perform_loaded hc with
    | refused _ hr => rwa [hr]
    | accepted _ _ _ hr => rw [hr]; exact h.replace _
  · rcases s.perform_reset with ⟨_, hr⟩ | ⟨_, m, _, hr⟩
    · rwa [hr]
    · rw [hr]
      exact h.replace m
  · unfold Session.perform editMemory
    split_ifs
    · exact h
    · exact h.update h.machine
  · exact h.moves hs (perform_moves hc s)

end Paced

theorem exists_start (h : settings.WellFormed) : ∃ s₀, start settings = .ok s₀ := by
  rw [start, freshMachine, Machine.ofSize_of_pos h.memorySize]
  exact ⟨_, rfl⟩

theorem paced_start (hs : settings.WellFormed) (h : start settings = .ok s₀) : s₀.Paced := by
  obtain ⟨hf, rfl, hp⟩ := start_ok h
  obtain ⟨_, hm⟩ := freshMachine_ok hf
  refine .of_past_nil hp ?_
  rw [hm]
  exact hs.admits_clampSpeed _

end StoredProgram.Session
