import StoredProgram.Proofs.Machine.Shape

/-! The one thing at which steps fail, a halt that cannot be written, and how long it takes at least
to come to it: one step at most doubles the numbers of a machine. -/

namespace StoredProgram
variable {a : Int} {b : Nat}

namespace Memory
variable {memory : Memory}

def Bounded (b : Nat) (memory : Memory) : Prop :=
  ∀ c ∈ memory, (Content.value (some c.content)).natAbs ≤ b

theorem Bounded.number (h : memory.Bounded b) (a : Int) : (memory.number a).natAbs ≤ b := by
  rw [Memory.number]
  cases hr : memory.read? a with
  | none => exact Nat.zero_le b
  | some v =>
    obtain ⟨c, hc, _, rfl⟩ := exists_cell_of_read? hr
    exact h c hc

theorem Bounded.mono {b' : Nat} (h : memory.Bounded b) (hb : b ≤ b') : memory.Bounded b' :=
  fun c hc => Nat.le_trans (h c hc) hb

theorem Bounded.highlight (h : memory.Bounded b) (a : Option Int) :
    (memory.highlight a).Bounded b := by
  intro c hc
  obtain ⟨d, hd, _, hv⟩ := mem_highlight hc
  exact hv ▸ h d hd

theorem Bounded.write {v : Content} (h : memory.Bounded b)
    (hv : (Content.value (some v)).natAbs ≤ b) (a : Int) : (memory.write a v).Bounded b := by
  intro c hc
  rcases mem_write hc with ⟨_, hc⟩ | ⟨_, hc⟩
  · rwa [hc]
  · exact h c hc

end Memory

namespace Machine
variable {m m' : Machine} {n : Nat} {e : Fault}

theorem steps_error_iff :
    m.steps n = .error e ↔
      e = .numeral .unwritable ∧ ∃ i < n, ∃ m', m.steps i = .ok m' ∧ m'.Stuck := by
  induction n generalizing m with
  | zero => exact iff_of_false nofun fun ⟨_, i, hi, _⟩ => absurd hi (Nat.not_lt_zero i)
  | succ n ih =>
    cases hs : m.step with
    | error f =>
      obtain ⟨hh, hu, rfl⟩ := step_error_iff.mp hs
      rw [steps_succ_of_error hs]
      constructor
      · intro h
        exact ⟨(Except.error.inj h).symm, 0, Nat.succ_pos n, m, rfl, hh, hu⟩
      · rintro ⟨rfl, _⟩
        rfl
    | ok m₁ =>
      have hn : ¬ m.Stuck := by
        intro hn
        rw [step_of_stuck hn] at hs
        cases hs
      rw [steps_succ_of_ok hs, ih]
      refine and_congr_right fun _ => ?_
      constructor
      · rintro ⟨i, hi, m', hm, hst⟩
        exact ⟨i + 1, Nat.succ_lt_succ hi, m', (steps_succ_of_ok hs).trans hm, hst⟩
      · rintro ⟨i, hi, m', hm, hst⟩
        cases i with
        | zero => exact absurd (Except.ok.inj hm ▸ hst) hn
        | succ i =>
          exact ⟨i, Nat.lt_of_succ_lt_succ hi, m', (steps_succ_of_ok hs).symm.trans hm, hst⟩

theorem running_steps (h : m.steps n = .ok m') (hh : m'.halted = false) :
    m'.running = m.running := by
  induction n generalizing m with
  | zero => rw [Except.ok.inj h]
  | succ n ih =>
    rw [steps_succ] at h
    obtain ⟨m₁, hs, h⟩ := Except.bind_eq_ok_iff.mp h
    have hm₁ : m₁.halted = false := by
      refine Bool.eq_false_iff.mpr fun hm₁ => ?_
      rw [steps_of_halted hm₁] at h
      exact absurd (hh.symm.trans (Except.ok.inj h ▸ hm₁)) Bool.false_ne_true
    have hm : m.halted = false := by
      refine Bool.eq_false_iff.mpr fun hm => ?_
      rw [step_of_halted hm] at hs
      exact absurd (hm₁.symm.trans (Except.ok.inj hs ▸ hm)) Bool.false_ne_true
    exact (ih h).trans (goesOn_of_step hm hs hm₁).running

def Bounded (b : Nat) (m : Machine) : Prop := m.acc.natAbs ≤ b ∧ m.memory.Bounded b

instance (b : Nat) (m : Machine) : Decidable (m.Bounded b) :=
  inferInstanceAs (Decidable (m.acc.natAbs ≤ b ∧
    ∀ c ∈ m.memory, (Content.value (some c.content)).natAbs ≤ b))

theorem acc_step (h : m.step = .ok m') :
    m'.acc = m.acc ∨ ∃ a, m'.acc = m.memory.number a ∨ m'.acc = m.acc + m.memory.number a ∨
      m'.acc = m.acc - m.memory.number a := by
  cases stepped h with
  | halted | idle | decode => exact .inl rfl
  | fetch =>
    rw [fetch_eq]
    exact .inl rfl
  | execute _ _ he =>
    unfold execute at he
    split at he
    · next op _ =>
      cases op with
      | load a =>
        obtain rfl := Except.ok.inj he
        exact .inr ⟨a, .inl rfl⟩
      | add a =>
        obtain rfl := Except.ok.inj he
        exact .inr ⟨a, .inr (.inl rfl)⟩
      | sub a =>
        obtain rfl := Except.ok.inj he
        exact .inr ⟨a, .inr (.inr rfl)⟩
      | store a | jump a =>
        obtain rfl := Except.ok.inj he
        exact .inl rfl
      | jumpZero a | jumpNonzero a =>
        obtain rfl := Except.ok.inj he
        rw [branch_eq]
        exact .inl rfl
      | halt =>
        obtain rfl := eq_stopped_of_perform he
        exact .inl rfl
    · obtain rfl := Except.ok.inj he
      exact .inl rfl

theorem Bounded.step (h : m.Bounded b) (hs : m.step = .ok m') : m'.Bounded (b * 2) := by
  have hb : b ≤ b * 2 := Nat.le_mul_of_pos_right b (by decide)
  have hm : m.memory.Bounded (b * 2) := h.2.mono hb
  constructor
  · have ha := h.1
    rcases acc_step hs with hacc | ⟨a, hacc | hacc | hacc⟩
    · omega
    all_goals
      have hn := h.2.number a
      omega
  · rcases memory_step hs with hmem | ⟨a, hmem⟩ | ⟨a, _, _, hmem⟩
    · exact hmem ▸ hm
    · exact hmem ▸ hm.highlight _
    · exact hmem ▸ (hm.write (Nat.le_trans h.1 hb) a).highlight _

theorem Bounded.steps (h : m.Bounded b) (hn : m.steps n = .ok m') :
    m'.Bounded (b * Nat.pow 2 n) := by
  induction n generalizing m b with
  | zero =>
    obtain rfl := Except.ok.inj hn
    exact (Nat.mul_one b).symm ▸ h
  | succ n ih =>
    rw [steps_succ] at hn
    obtain ⟨m₁, hs, hn⟩ := Except.bind_eq_ok_iff.mp hn
    have hm := ih (h.step hs) hn
    rwa [Nat.mul_assoc, Nat.mul_comm 2] at hm

theorem Bounded.not_stuck (h : m.Bounded b)
    (hb : b * Nat.pow 2 n < Nat.pow 10 Numeral.digitLimit) {i : Nat} (hi : i ≤ n)
    (hm : m.steps i = .ok m') : ¬ m'.Stuck := by
  rintro ⟨_, hu⟩
  have hle : b * Nat.pow 2 i ≤ b * Nat.pow 2 n :=
    Nat.mul_le_mul_left b (Nat.pow_le_pow_right (by decide) hi)
  have hacc : m'.acc.natAbs ≤ b * Nat.pow 2 n := Nat.le_trans (h.steps hm).1 hle
  exact absurd (Nat.le_trans hu hacc) (Nat.not_le.mpr hb)

theorem Bounded.exists_steps (h : m.Bounded b)
    (hb : b * Nat.pow 2 n < Nat.pow 10 Numeral.digitLimit) : ∃ m', m.steps n = .ok m' := by
  cases hs : m.steps n with
  | ok m' => exact ⟨m', rfl⟩
  | error e =>
    obtain ⟨_, i, hi, m', hm, hst⟩ := steps_error_iff.mp hs
    exact absurd hst (h.not_stuck hb (Nat.le_of_lt hi) hm)

end Machine
end StoredProgram
