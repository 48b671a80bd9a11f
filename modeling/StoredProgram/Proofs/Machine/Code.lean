import Mathlib.Logic.Relation
import StoredProgram.Proofs.Loading

/-! Where the instructions of a machine come from. Only loading puts instructions into memory, so
that those in memory and in the instruction register are of the program that was loaded, whatever is
stored or edited later. -/

namespace StoredProgram.Machine
open Relation
variable {program : List Instruction} {first : Instruction} {m m' : Machine}

inductive Change (m : Machine) : Machine → Prop
  | step {m' : Machine} : m.step = .ok m' → Change m m'
  | edit (a n : Int) : Change m (m.edit a (.number n))

abbrev Changes : Machine → Machine → Prop := ReflTransGen Change

theorem changes_of_steps {n : Nat} (h : m.steps n = .ok m') : Changes m m' := by
  induction n generalizing m with
  | zero =>
    obtain rfl := Except.ok.inj h
    exact .refl
  | succ n ih =>
    rw [steps_succ] at h
    obtain ⟨m₁, hs, h⟩ := Except.bind_eq_ok_iff.mp h
    exact .head (.step hs) (ih h)

theorem memory_perform {op : Operation} (h : m.perform op = .ok m') :
    m'.ir = m.ir ∧ (m'.memory = m.memory ∨ (∃ a, m'.memory = m.memory.highlight (some a)) ∨
      ∃ a, op = .store a ∧
        m'.memory = (m.memory.write a (.number m.acc)).highlight (some a)) := by
  cases op with
  | load a | add a | sub a =>
    obtain rfl := Except.ok.inj h
    exact ⟨rfl, .inr (.inl ⟨a, rfl⟩)⟩
  | store a =>
    obtain rfl := Except.ok.inj h
    exact ⟨rfl, .inr (.inr ⟨a, rfl, rfl⟩)⟩
  | jump a =>
    obtain rfl := Except.ok.inj h
    exact ⟨rfl, .inl rfl⟩
  | jumpZero a | jumpNonzero a =>
    obtain rfl := Except.ok.inj h
    rw [branch_eq]
    exact ⟨rfl, .inl rfl⟩
  | halt =>
    obtain rfl := eq_stopped_of_perform h
    exact ⟨rfl, .inl rfl⟩

/-- All instructions of the machine are of the program, but for the one that its register holds at
first. -/
structure Runs (program : List Instruction) (first : Instruction) (m : Machine) : Prop where
  memory : m.memory.Within program
  ir : m.ir = first ∨ m.ir ∈ program

theorem ir_fetch (m : Machine) :
    m.fetch.ir = m.ir ∨ ∃ i, m.memory.read? m.pc = some (.instruction i) ∧ m.fetch.ir = i := by
  unfold fetch
  rcases h : m.memory.read? m.pc with _ | _ | i
  · exact .inl rfl
  · exact .inl rfl
  · exact .inr ⟨i, rfl, rfl⟩

theorem ir_fetch_of_read? {i : Instruction} (h : m.memory.read? m.pc = some (.instruction i)) :
    m.fetch.ir = i := by
  unfold fetch
  rw [h]

theorem ir_fetch_of_not_read? (h : ∀ i, m.memory.read? m.pc ≠ some (.instruction i)) :
    m.fetch.ir = m.ir := by
  rcases m.ir_fetch with hi | ⟨i, hi, _⟩
  · exact hi
  · exact absurd hi (h i)

theorem memory_fetch (m : Machine) : m.fetch.memory = m.memory.highlight (some m.pc) :=
  congrArg Machine.memory m.fetch_eq

theorem Runs.fetch (h : m.Runs program first) : m.fetch.Runs program first := by
  refine ⟨m.memory_fetch ▸ h.memory.highlight _, ?_⟩
  rcases m.ir_fetch with hi | ⟨i, hr, hi⟩
  · exact hi ▸ h.ir
  · obtain ⟨c, hc, _, hv⟩ := Memory.exists_cell_of_read? hr
    exact .inr (hi ▸ h.memory c hc i hv)

theorem Runs.execute (h : m.Runs program first) (he : m.execute = .ok m') :
    m'.Runs program first := by
  unfold Machine.execute at he
  split at he
  · next op _ =>
    obtain ⟨hi, hm⟩ := memory_perform he
    refine ⟨?_, hi ▸ h.ir⟩
    rcases hm with hm | ⟨a, hm⟩ | ⟨a, _, hm⟩
    · exact hm ▸ h.memory
    · exact hm ▸ h.memory.highlight _
    · exact hm ▸ (h.memory.write_number a m.acc).highlight _
  · obtain rfl := Except.ok.inj he
    exact ⟨h.memory, h.ir⟩

theorem Runs.step (h : m.Runs program first) (hs : m.step = .ok m') : m'.Runs program first := by
  cases stepped hs with
  | halted => exact h
  | idle => exact ⟨h.memory, h.ir⟩
  | fetch => exact h.fetch
  | decode => exact ⟨h.memory, h.ir⟩
  | execute _ _ he => exact h.execute he

theorem Runs.changes (h : m.Runs program first) (hc : Changes m m') : m'.Runs program first := by
  induction hc with
  | refl => exact h
  | tail _ hc ih =>
    cases hc with
    | step hs => exact ih.step hs
    | edit a n => exact ⟨ih.memory.write_number a n, ih.ir⟩

structure Initial (program : List Instruction) (m : Machine) : Prop where
  halted : m.halted = false
  phase : m.phase = .idle
  pc : m.pc = 0
  ir : m.ir = .empty
  memory : m.memory.Placed program

theorem Initial.runs (h : m.Initial program) : m.Runs program .empty := ⟨h.memory.within, .inl h.ir⟩

theorem initial_of_loadSource {size : Int} {source : String} {data : DataSetup}
    {out : Loading.Outcome} (hl : Loading.loadSource size source data = .ok out)
    (ho : out.machine = some m) :
    ∃ statements, Assembly.read source = .ok statements ∧ Assembly.problems statements = [] ∧
      m.Initial ((statements.map (·.instruction)).take (min instructionRegion size.toNat)) := by
  obtain ⟨statements, log, hr, hp, hl⟩ := Loading.loadSource_ok hl ho
  have hm := Loading.placed_of_load hl
  obtain ⟨entries, _, _, rfl⟩ := Loading.load_ok hl
  exact ⟨statements, hr, hp, rfl, rfl, rfl, rfl, hm⟩

end StoredProgram.Machine
