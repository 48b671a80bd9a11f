import StoredProgram.Breakpoint
import StoredProgram.Proofs.Except
import StoredProgram.Proofs.Machine.Rest

/-! How many steps it takes until a machine halts or a breakpoint fires, and the machines that it
goes through on the way. -/

namespace StoredProgram.Session
variable {bs : List Breakpoint} {m m' : Machine}

/-- At the `k`-th step from `m` the machine halts or a breakpoint fires. -/
def StopsAt (bs : List Breakpoint) (m : Machine) (k : Nat) : Prop :=
  ∃ i before after, k = i + 1 ∧ m.steps i = .ok before ∧ before.step = .ok after ∧
    (after.halted = true ∨ Breakpoint.anyFires bs before after = true)

theorem stopsAt_succ_iff_exists {k : Nat} :
    StopsAt bs m (k + 1) ↔ ∃ before, m.steps k = .ok before ∧ ∃ after, before.step = .ok after ∧
      (after.halted = true ∨ Breakpoint.anyFires bs before after = true) := by
  constructor
  · rintro ⟨_, before, after, ⟨⟩, hb, ha, hs⟩
    exact ⟨before, hb, after, ha, hs⟩
  · rintro ⟨before, hb, after, ha, hs⟩
    exact ⟨k, before, after, rfl, hb, ha, hs⟩

instance (bs : List Breakpoint) (m : Machine) : DecidablePred (StopsAt bs m)
  | 0 => .isFalse fun ⟨_, _, _, h, _⟩ => nomatch h
  | _ + 1 => decidable_of_iff _ stopsAt_succ_iff_exists.symm

/-- The least number of steps, up to the limit, at which a run from `m` stops, or else the limit. -/
structure RunLength (bs : List Breakpoint) (m : Machine) (limit k : Nat) : Prop where
  le : k ≤ limit
  first : ∀ j < k, ¬ StopsAt bs m j
  last : k < limit → StopsAt bs m k

/-- The first `k` machines from `m` on, the oldest first. -/
def Trail (m : Machine) (k : Nat) (ms : List Machine) : Prop :=
  ms.map Except.ok = (List.range k).map fun i => m.steps i

theorem not_stopsAt_zero : ¬ StopsAt bs m 0 := by
  rintro ⟨i, _, _, h, _⟩
  exact Nat.succ_ne_zero i h.symm

theorem not_stopsAt_of_error {e : Fault} {k : Nat} (h : m.step = .error e) : ¬ StopsAt bs m k := by
  rintro ⟨i, before, after, -, hb, ha, -⟩
  cases i with
  | zero =>
    obtain rfl := Except.ok.inj hb
    rw [h] at ha
    cases ha
  | succ i =>
    rw [Machine.steps_succ_of_error h] at hb
    cases hb

theorem stopsAt_succ_iff {k : Nat} (h : m.step = .ok m') :
    StopsAt bs m (k + 1) ↔
      k = 0 ∧ (m'.halted = true ∨ Breakpoint.anyFires bs m m' = true) ∨ StopsAt bs m' k := by
  constructor
  · rintro ⟨i, before, after, hk, hb, ha, hs⟩
    cases i with
    | zero =>
      obtain rfl := Except.ok.inj hb
      obtain rfl := Except.ok.inj (h.symm.trans ha)
      exact .inl ⟨Nat.succ.inj hk, hs⟩
    | succ i =>
      rw [Machine.steps_succ_of_ok h] at hb
      exact .inr ⟨i, before, after, Nat.succ.inj hk, hb, ha, hs⟩
  · rintro (⟨rfl, hs⟩ | ⟨i, before, after, rfl, hb, ha, hs⟩)
    · exact ⟨0, m, m', rfl, rfl, h, hs⟩
    · exact ⟨i + 1, before, after, rfl, (Machine.steps_succ_of_ok h).trans hb, ha, hs⟩

theorem stopsAt_one_iff (h : m.step = .ok m') :
    StopsAt bs m 1 ↔ m'.halted = true ∨ Breakpoint.anyFires bs m m' = true := by
  refine (stopsAt_succ_iff h).trans ((or_iff_left not_stopsAt_zero).trans ?_)
  exact and_iff_right rfl

theorem stopsAt_succ_iff_of_not_one {k : Nat} (h : m.step = .ok m') (hn : ¬ StopsAt bs m 1) :
    StopsAt bs m (k + 1) ↔ StopsAt bs m' k := by
  refine (stopsAt_succ_iff h).trans (or_iff_right ?_)
  rintro ⟨_, hs⟩
  exact hn ((stopsAt_one_iff h).mpr hs)

namespace RunLength
variable {limit k k' : Nat}

theorem le_of_runLength (h : RunLength bs m limit k) (h' : RunLength bs m limit k') : k' ≤ k := by
  apply Nat.le_of_not_lt
  intro hlt
  have hk : k < limit := Nat.lt_of_lt_of_le hlt h'.le
  exact h'.first k hlt (h.last hk)

theorem unique (h : RunLength bs m limit k) (h' : RunLength bs m limit k') : k' = k :=
  Nat.le_antisymm (h.le_of_runLength h') (h'.le_of_runLength h)

theorem zero : RunLength bs m 0 0 :=
  ⟨Nat.le_refl _, fun _ h => absurd h (Nat.not_lt_zero _), fun h => absurd h (Nat.lt_irrefl 0)⟩

theorem of_not_stopsAt (h : ∀ j ≤ limit, ¬ StopsAt bs m j) : RunLength bs m limit limit :=
  ⟨Nat.le_refl _, fun j hj => h j (Nat.le_of_lt hj), fun h => absurd h (Nat.lt_irrefl limit)⟩

theorem of_error {e : Fault} (h : m.step = .error e) : RunLength bs m limit limit :=
  of_not_stopsAt fun _ _ => not_stopsAt_of_error h

theorem one (h : StopsAt bs m 1) : RunLength bs m (limit + 1) 1 where
  le := Nat.succ_le_succ (Nat.zero_le limit)
  first j hj := by
    obtain rfl := Nat.lt_one_iff.mp hj
    exact not_stopsAt_zero
  last _ := h

theorem succ (h : m.step = .ok m') (hn : ¬ StopsAt bs m 1) (hk : RunLength bs m' limit k) :
    RunLength bs m (limit + 1) (k + 1) where
  le := Nat.succ_le_succ hk.le
  first j hj := by
    cases j with
    | zero => exact not_stopsAt_zero
    | succ j =>
      intro hs
      have hs' := (stopsAt_succ_iff_of_not_one h hn).mp hs
      exact hk.first j (Nat.lt_of_succ_lt_succ hj) hs'
  last hlt := (stopsAt_succ_iff h).mpr (.inr (hk.last (Nat.lt_of_succ_lt_succ hlt)))

theorem stopsAt_iff (h : RunLength bs m limit k) :
    (∃ j ≤ limit, StopsAt bs m j) ↔ StopsAt bs m k := by
  constructor
  · rintro ⟨j, hj, hs⟩
    rcases Nat.lt_or_ge k limit with hk | hk
    · exact h.last hk
    · have hle : j ≤ k := Nat.le_trans hj hk
      have hge : k ≤ j := Nat.le_of_not_lt fun hlt => h.first j hlt hs
      have hjk : j = k := Nat.le_antisymm hle hge
      rwa [hjk] at hs
  · intro hs
    exact ⟨k, h.le, hs⟩

end RunLength

theorem Trail.nil (m : Machine) : Trail m 0 [] := rfl

theorem Trail.cons {k : Nat} {ms : List Machine} (h : m.step = .ok m') (ht : Trail m' k ms) :
    Trail m (k + 1) (m :: ms) := by
  unfold Trail at ht ⊢
  rw [List.range_succ_eq_map, List.map_cons, List.map_cons, List.map_map, ht]
  refine congrArg (List.cons _) (List.map_congr_left fun i _ => ?_)
  exact (Machine.steps_succ_of_ok h).symm

theorem RunLength.not_halted {limit k i : Nat} (h : RunLength bs m limit k)
    (hh : m.halted = false) (hi : i < k) (hm : m.steps i = .ok m') : m'.halted = false := by
  cases i with
  | zero => rwa [← Except.ok.inj hm]
  | succ i =>
    rw [Machine.steps_succ_last] at hm
    obtain ⟨before, hb, ha⟩ := Except.bind_eq_ok_iff.mp hm
    apply Bool.eq_false_iff.mpr
    intro hm'
    have hs : StopsAt bs m (i + 1) := ⟨i, before, m', rfl, hb, ha, .inl hm'⟩
    exact h.first (i + 1) hi hs

theorem RunLength.not_halted_paused {limit k : Nat} (h : RunLength bs m limit k)
    (hh : m.halted = false) :
    ∀ i < k, ∀ p, m.paused.steps i = .ok p → p.halted = false := by
  intro i hi p hp
  rw [Machine.steps_paused] at hp
  cases hm : m.steps i with
  | error e =>
    rw [hm] at hp
    cases hp
  | ok q =>
    rw [hm] at hp
    obtain rfl := Except.ok.inj hp
    show q.halted = false
    exact h.not_halted hh hi hm

theorem Trail.unique {k : Nat} {ms ms' : List Machine} (h : Trail m k ms) (h' : Trail m k ms') :
    ms = ms' := by
  have hm : ms.map Except.ok = ms'.map (Except.ok (ε := Fault)) := h.trans h'.symm
  exact (List.map_inj_right fun _ _ => Except.ok.inj).mp hm

theorem Trail.paused {k : Nat} {ms : List Machine} (h : Trail m k ms) :
    Trail m.paused k (ms.map Machine.paused) := by
  have hp := congrArg (List.map (Except.map Machine.paused)) h
  rw [List.map_map, List.map_map] at hp
  unfold Trail
  rw [List.map_map]
  refine hp.trans (List.map_congr_left fun i _ => ?_)
  exact (Machine.steps_paused i m).symm

end StoredProgram.Session
