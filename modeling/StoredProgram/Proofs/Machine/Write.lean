import StoredProgram.Proofs.Machine.Step
import StoredProgram.Proofs.Memory

/-! Which steps write to memory. A fetch puts on the bus a record that is not one of a write, and no
operation but a store puts such a record there. -/

namespace StoredProgram

theorem Instruction.operation?_eq_store_iff (i : Instruction) (a : Int) :
    i.operation? = some (.store a) ↔ i = ⟨"STORE", some a⟩ := by
  constructor
  · intro h
    obtain ⟨ho, hop | ⟨b, hi, hop⟩⟩ := eq_of_operation? h
    · cases hop
    · obtain rfl := Option.some.inj hop
      rw [← hi]
      exact congrArg (Instruction.mk · i.operand) ho
  · rintro rfl
    rfl

namespace Machine
variable {m m' : Machine}

/-- From a fetch to the end of its cycle the bus does not tell of a write. -/
def Fetched (m : Machine) : Prop :=
  m.phase = .decode ∨ m.phase = .execute → m.bus.destination ≠ memoryPort

theorem fetched_of_phase (h : m.phase = .idle ∨ m.phase = .fetch) : m.Fetched := by
  rintro (hp | hp) <;> rw [hp] at h <;> exact absurd h (by decide)

theorem destination_fetch (m : Machine) : m.fetch.bus.destination ≠ memoryPort := by
  unfold fetch
  rcases m.memory.read? m.pc with _ | n | i
  · exact (by decide : "MDR" ≠ memoryPort)
  · exact (by decide : "MDR" ≠ memoryPort)
  · exact (by decide : "IR" ≠ memoryPort)

theorem Fetched.step (h : m.Fetched) (hh : m.halted = false) (hs : m.step = .ok m') :
    m'.Fetched := by
  cases hp : m.phase with
  | idle =>
    obtain rfl := Except.ok.inj ((step_of_phase_idle hh hp).symm.trans hs)
    exact fetched_of_phase (.inr rfl)
  | fetch =>
    obtain rfl := Except.ok.inj ((step_of_phase_fetch hh hp).symm.trans hs)
    intro _
    exact m.destination_fetch
  | decode =>
    obtain rfl := Except.ok.inj ((step_of_phase_decode hh hp).symm.trans hs)
    intro _
    exact h (.inl hp)
  | execute =>
    rcases step_ok hh hs with hg | ⟨_, rfl⟩
    · exact fetched_of_phase (.inr (by rw [hg.phase, hp]; rfl))
    · exact fetched_of_phase (.inl rfl)

theorem store_of_destination {op : Operation} (hb : m.bus.destination ≠ memoryPort)
    (h : m.perform op = .ok m') (hd : m'.bus.destination = memoryPort) : ∃ a, op = .store a := by
  have hbranch : ∀ name taken a, (branch name taken m a).bus.destination ≠ memoryPort := by
    intro name taken a
    cases taken
    · exact hb
    · exact (by decide : "PC" ≠ memoryPort)
  cases op with
  | store a => exact ⟨a, rfl⟩
  | jumpZero a | jumpNonzero a =>
    obtain rfl := Except.ok.inj h
    exact absurd hd (hbranch _ _ a)
  | halt =>
    obtain rfl := eq_stopped_of_perform h
    exact absurd hd hb
  | load a | add a | sub a =>
    obtain rfl := Except.ok.inj h
    exact absurd hd (by decide : "ACC" ≠ memoryPort)
  | jump a =>
    obtain rfl := Except.ok.inj h
    exact absurd hd (by decide : "PC" ≠ memoryPort)

theorem writes_iff (hf : m.Fetched) (hh : m.halted = false) (hp : m.phase = .execute)
    (h : m.step = .ok m') (a : Int) :
    m'.bus.active = true ∧ m'.bus.destination = memoryPort ∧ m'.mar = a ↔
      m.ir = ⟨"STORE", some a⟩ := by
  have hb : m.bus.destination ≠ memoryPort := hf (.inr hp)
  rw [step_of_phase_execute hh hp, execute] at h
  rw [← Instruction.operation?_eq_store_iff]
  cases ho : m.ir.operation? with
  | none =>
    rw [ho] at h
    obtain rfl := Except.ok.inj h
    exact iff_of_false (fun hw => hb hw.2.1) (fun hn => by cases hn)
  | some op =>
    rw [ho] at h
    constructor
    · rintro ⟨_, hd, rfl⟩
      obtain ⟨b, rfl⟩ := store_of_destination hb h hd
      obtain rfl := Except.ok.inj h
      rfl
    · intro hop
      obtain rfl := Option.some.inj hop
      obtain rfl := Except.ok.inj h
      exact ⟨rfl, rfl, rfl⟩

theorem addresses_store (m : Machine) (a : Int) :
    (m.store a).memory.map Cell.address = m.memory.map Cell.address := by
  rw [store, (Memory.sameCells_highlight _ _).addresses, (Memory.sameCells_write _ _ _).addresses]

end Machine
end StoredProgram
