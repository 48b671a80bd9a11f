import StoredProgram.Proofs.Session.Move

/-! The machines that a session went through, each at its place. A property of a machine and its
place that steps and the driver's own changes carry on holds of all of them after any moves. -/

namespace StoredProgram.Session
variable {P : Nat → Machine → Prop} {s s' : Session}

theorem getElem?_concat_iff {ms : List Machine} {m p : Machine} {i : Nat} :
    (ms ++ [m])[i]? = some p ↔ ms[i]? = some p ∨ i = ms.length ∧ m = p := by
  rw [List.getElem?_append]
  split_ifs with hi
  · exact (or_iff_left fun h => Nat.ne_of_lt hi h.1).symm
  · have hn : ms[i]? = none := List.getElem?_eq_none (Nat.le_of_not_lt hi)
    have hz : i - ms.length = 0 ↔ i = ms.length := by omega
    rw [hn, List.getElem?_singleton]
    simp only [Option.ite_none_right_eq_some, hz, Option.some.injEq, reduceCtorEq, false_or]

/-- The machines of a session, the oldest first and the current one last. -/
def timeline (s : Session) : List Machine := s.past.reverse ++ [s.machine]

/-- Each machine of a session has the property at its place, and none of the past is halted. -/
structure Along (P : Nat → Machine → Prop) (s : Session) : Prop where
  current : P s.past.length s.machine
  past : ∀ i m, s.past.reverse[i]? = some m → P i m ∧ m.halted = false

/-- What a step makes of a place is the next one; the driver's fields do not matter. -/
structure Carried (P : Nat → Machine → Prop) : Prop where
  step : ∀ {i m m'}, P i m → m.halted = false → m.step = .ok m' → P (i + 1) m'
  running : ∀ {i m} (b : Bool), P i m → (b = true → m.halted = false) →
    P i { m with running := b }
  speed : ∀ {i m} (v : Int), P i m → P i { m with speed := v }

namespace Along

theorem of_past_nil (h : s.past = []) (hm : P 0 s.machine) : Along P s where
  current := by rwa [h]
  past i m hi := by
    rw [h] at hi
    cases hi

theorem update {m : Machine} (h : Along P s) (hm : P s.past.length m) :
    Along P { s with machine := m } where
  current := hm
  past := h.past

theorem push {m : Machine} (h : Along P s) (hh : s.machine.halted = false)
    (hm : P (s.past.length + 1) m) :
    Along P { s with machine := m, past := s.machine :: s.past } where
  current := hm
  past i p hp := by
    rw [List.reverse_cons, getElem?_concat_iff, List.length_reverse] at hp
    rcases hp with hp | ⟨rfl, rfl⟩
    · exact h.past i p hp
    · exact ⟨h.current, hh⟩

theorem pop {m : Machine} {past : List Machine} (h : Along P s) (hp : s.past = m :: past)
    (hm : P past.length m → m.halted = false → P past.length m.paused) :
    Along P { s with machine := m.paused, past := past } := by
  have hr : s.past.reverse = past.reverse ++ [m] := by rw [hp, List.reverse_cons]
  refine ⟨?_, fun i p hi => h.past i p ?_⟩
  · -- the machine that comes back was the last one of the past
    have hl : s.past.reverse[past.length]? = some m := by
      rw [hr, getElem?_concat_iff, List.length_reverse]
      exact .inr ⟨rfl, rfl⟩
    obtain ⟨hP, hh⟩ := h.past past.length m hl
    exact hm hP hh
  · rw [hr, getElem?_concat_iff]
    exact .inl hi

theorem move (hP : Carried P) (h : Along P s) (hm : Move s s') : Along P s' := by
  cases hm with
  | step hh hs => exact h.push hh (hP.step h.current hh hs)
  | back hp => exact h.pop hp fun hm _ => hP.running false hm fun hb => by cases hb
  | running b hb => exact h.update (hP.running b h.current hb)
  | speed n => exact h.update (hP.speed _ h.current)
  | breakpoints bs => exact ⟨h.current, h.past⟩

theorem moves (hP : Carried P) (h : Along P s) (hm : Moves s s') : Along P s' := by
  induction hm with
  | refl => exact h
  | tail _ hm ih => exact ih.move hP hm

theorem of_timeline {i : Nat} {m : Machine} (h : Along P s) (hi : s.timeline[i]? = some m) :
    P i m := by
  rcases getElem?_concat_iff.mp hi with hi | ⟨rfl, rfl⟩
  · exact (h.past i m hi).1
  · rw [List.length_reverse]
    exact h.current

theorem of_mem_timeline {Q : Machine → Prop} {m : Machine} (h : Along (fun _ => Q) s)
    (hm : m ∈ s.timeline) : Q m := by
  obtain ⟨i, hi⟩ := List.mem_iff_getElem?.mp hm
  exact h.of_timeline hi

end Along

end StoredProgram.Session
