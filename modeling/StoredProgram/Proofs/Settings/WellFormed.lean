import StoredProgram.Proofs.Except
import StoredProgram.Settings.Reading

/-! What settings promise that were read from data: reading ends in a check that passes just those
settings with which a session can be had. -/

namespace StoredProgram.Settings
variable {s t : Settings} {v : Value}

structure WellFormed (s : Settings) : Prop where
  memorySize : 1 ≤ s.memorySize
  minSpeed : 0 < s.minSpeed
  range : s.minSpeed ≤ s.maxSpeed
  executionSpeed : 0 < s.executionSpeed

def Admits (s : Settings) (speed : Int) : Prop := s.minSpeed ≤ speed ∧ speed ≤ s.maxSpeed

theorem WellFormed.admits_clampSpeed (h : s.WellFormed) (speed : Int) :
    s.Admits (s.clampSpeed speed) := clampSpeed_mem h.range speed

theorem WellFormed.pos_of_admits (h : s.WellFormed) {speed : Int} (hs : s.Admits speed) :
    0 < speed := Int.lt_of_lt_of_le h.minSpeed hs.1

theorem refuse_ne_ok {α : Type} (fault : String → Fault) (v : Value) (a : α) :
    refuse fault v ≠ .ok a := by
  unfold refuse
  split <;> exact nofun

theorem refuseRange_ne_ok {α : Type} (low high : Int) (a : α) :
    refuseRange low high ≠ .ok a := by
  unfold refuseRange
  split <;> exact nofun

theorem WellFormed.check (h : s.WellFormed) : check s = .ok s := by
  have hm : ¬ s.memorySize ≤ 0 := Int.not_le.mpr h.memorySize
  have he : ¬ s.executionSpeed ≤ 0 := Int.not_le.mpr h.executionSpeed
  rw [Settings.check, if_neg hm, if_neg (not_not_intro ⟨h.minSpeed, h.range⟩), if_neg he]

theorem check_eq_ok_iff : check s = .ok t ↔ s.WellFormed ∧ t = s := by
  constructor
  · intro h
    have hm : 0 < s.memorySize := by
      refine Int.not_le.mp fun hm => ?_
      rw [check, if_pos hm] at h
      exact refuse_ne_ok _ _ t h
    rw [check, if_neg (Int.not_le.mpr hm)] at h
    have hr : 0 < s.minSpeed ∧ s.minSpeed ≤ s.maxSpeed := by
      refine Decidable.not_not.mp fun hr => ?_
      rw [if_pos hr] at h
      exact refuseRange_ne_ok _ _ t h
    rw [if_neg (not_not_intro hr)] at h
    have he : 0 < s.executionSpeed := by
      refine Int.not_le.mp fun he => ?_
      rw [if_pos he] at h
      exact refuse_ne_ok _ _ t h
    rw [if_neg (Int.not_le.mpr he)] at h
    exact ⟨⟨hm, hr.1, hr.2, he⟩, (Except.ok.inj h).symm⟩
  · rintro ⟨h, rfl⟩
    exact h.check

theorem readEntries_eq_ok_iff {es : List (Value × Value)} :
    readEntries es = .ok s ↔ ∃ t ps, readNumbers es = .ok t ∧
      readPrograms (memberOr (.list []) "programs" es) = .ok ps ∧
      { t with programs := ps }.WellFormed ∧ s = { t with programs := ps } := by
  simp only [readEntries, Except.bind_eq_ok_iff, check_eq_ok_iff, exists_and_left]

theorem wellFormed_of_read (h : read v = .ok s) : s.WellFormed := by
  unfold read at h
  split at h
  · obtain ⟨t, ps, _, _, hw, rfl⟩ := readEntries_eq_ok_iff.mp h
    exact hw
  · cases h

end StoredProgram.Settings
