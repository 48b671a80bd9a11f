import Mathlib.Control.Monad.Basic
import Mathlib.Data.List.Forall2
import StoredProgram.Proofs.Machine.Shape
import StoredProgram.Proofs.Memory

/-! Edits of cells between steps. The next step that reads or writes the cell sees an edit, and every
other step commutes with it; a step itself changes at most the cells that it stores to. -/

namespace StoredProgram

def Operation.Accesses (a : Int) : Operation → Prop
  | .load b | .store b | .add b | .sub b => b = a
  | .jump _ | .jumpZero _ | .jumpNonzero _ | .halt => False

namespace Machine
variable {m m' : Machine} {a b : Int} {v w : Content} {op : Operation}

def Accesses (m : Machine) (a : Int) : Prop :=
  m.phase = .fetch ∧ m.pc = a ∨
    m.phase = .execute ∧ m.ir ∈ ["LOAD", "STORE", "ADD", "SUB"].map (Instruction.mk · (some a))

instance (m : Machine) (a : Int) : Decidable (m.Accesses a) :=
  inferInstanceAs (Decidable (_ ∧ _ ∨ _ ∧ _ ∈ List.map _ _))

theorem acc_edit (m : Machine) (a : Int) (v : Content) : (m.edit a v).acc = m.acc := rfl

theorem memory_edit (m : Machine) (a : Int) (v : Content) :
    (m.edit a v).memory = m.memory.write a v := rfl

theorem edit_edit (m : Machine) (a : Int) (v w : Content) : (m.edit a v).edit a w = m.edit a w := by
  rw [edit, edit, Memory.write_write, edit]

theorem edit_comm (m : Machine) (h : a ≠ b) (v w : Content) :
    (m.edit a v).edit b w = (m.edit b w).edit a v := by
  rw [edit, edit, Memory.write_comm _ h, edit, edit]

theorem read?_edit_of_ne (h : b ≠ a) : (m.edit a v).memory.read? b = m.memory.read? b := by
  rw [memory_edit, Memory.read?_write, if_neg h]

theorem number_edit_of_ne (h : b ≠ a) : (m.edit a v).memory.number b = m.memory.number b :=
  congrArg Content.value (read?_edit_of_ne h)

theorem fetch_edit (h : m.pc ≠ a) : (m.edit a v).fetch = m.fetch.edit a v := by
  have hr : (m.edit a v).memory.read? (m.edit a v).pc = m.memory.read? m.pc := read?_edit_of_ne h
  unfold fetch
  rw [hr, memory_edit, Memory.highlight_write]
  rcases m.memory.read? m.pc with _ | _ | _ <;> rfl

theorem load_edit (h : b ≠ a) : (m.edit a v).load b = (m.load b).edit a v := by
  unfold load
  rw [number_edit_of_ne h, memory_edit, Memory.highlight_write]
  rfl

theorem store_edit (h : b ≠ a) : (m.edit a v).store b = (m.store b).edit a v := by
  unfold store
  rw [acc_edit, memory_edit, Memory.write_comm _ h.symm, Memory.highlight_write]
  rfl

theorem store_edit_self (m : Machine) (a : Int) (v : Content) : (m.edit a v).store a = m.store a := by
  unfold store
  rw [acc_edit, memory_edit, Memory.write_write]
  rfl

theorem arithmetic_edit (h : b ≠ a) (name : String) (compute : Int → Int → Int) :
    arithmetic name compute (m.edit a v) b = (arithmetic name compute m b).edit a v := by
  unfold arithmetic
  rw [number_edit_of_ne h, memory_edit, Memory.highlight_write]
  rfl

theorem branch_edit (name : String) (taken : Bool) (m : Machine) (a : Int) (v : Content) (b : Int) :
    branch name taken (m.edit a v) b = (branch name taken m b).edit a v := by
  cases taken <;> rfl

theorem halt_edit (m : Machine) (a : Int) (v : Content) :
    (m.edit a v).halt = m.halt.map (·.edit a v) := by
  rw [halt_eq, halt_eq, acc_edit]
  by_cases h : Numeral.Unwritable m.acc
  · rw [if_pos h, if_pos h]
    rfl
  · rw [if_neg h, if_neg h]
    rfl

theorem perform_edit (h : ¬ op.Accesses a) :
    (m.edit a v).perform op = (m.perform op).map (·.edit a v) := by
  cases op with
  | load b => exact congrArg Except.ok (load_edit h)
  | store b => exact congrArg Except.ok (store_edit h)
  | add b => exact congrArg Except.ok (arithmetic_edit h "ADD" (· + ·))
  | sub b => exact congrArg Except.ok (arithmetic_edit h "SUB" (· - ·))
  | jump b => rfl
  | jumpZero b => exact congrArg Except.ok (branch_edit "JZ" _ m a v b)
  | jumpNonzero b => exact congrArg Except.ok (branch_edit "JNZ" _ m a v b)
  | halt => exact halt_edit m a v

theorem execute_edit (h : ∀ op, m.ir.operation? = some op → ¬ op.Accesses a) :
    (m.edit a v).execute = m.execute.map (·.edit a v) := by
  have hi : (m.edit a v).ir.operation? = m.ir.operation? := rfl
  unfold execute
  rw [hi]
  cases hop : m.ir.operation? with
  | none => rfl
  | some op => exact perform_edit (h op hop)

theorem accesses_of_operation (hp : m.phase = .execute) (hop : m.ir.operation? = some op)
    (h : op.Accesses a) : m.Accesses a := by
  have hi : m.ir = ⟨op.opcode, some a⟩ := by
    obtain ⟨ho, rfl | ⟨b, hb, hd⟩⟩ := Instruction.eq_of_operation? hop
    · exact h.elim
    · have hba : b = a := by
        cases op with
        | load c | store c | add c | sub c => exact (Option.some.inj hd).symm.trans h
        | jump c | jumpZero c | jumpNonzero c | halt => exact h.elim
      rw [← ho, ← hba, ← hb]
  have ho : op.opcode ∈ ["LOAD", "STORE", "ADD", "SUB"] := by
    cases op with
    | load c | store c | add c | sub c => simp [Operation.opcode]
    | jump c | jumpZero c | jumpNonzero c | halt => exact h.elim
  exact .inr ⟨hp, hi ▸ List.mem_map_of_mem ho⟩

theorem step_edit_of_not_accesses (hh : m.halted = false) (h : ¬ m.Accesses a) :
    (m.edit a v).step = m.step.map (·.edit a v) := by
  have hh' : (m.edit a v).halted = false := hh
  cases hp : m.phase with
  | idle =>
    have hp' : (m.edit a v).phase = .idle := hp
    rw [step_of_phase_idle hh' hp', step_of_phase_idle hh hp]
    rfl
  | fetch =>
    have hp' : (m.edit a v).phase = .fetch := hp
    have hpc : m.pc ≠ a := fun hpc => h (.inl ⟨hp, hpc⟩)
    rw [step_of_phase_fetch hh' hp', step_of_phase_fetch hh hp, fetch_edit hpc]
    rfl
  | decode =>
    have hp' : (m.edit a v).phase = .decode := hp
    rw [step_of_phase_decode hh' hp', step_of_phase_decode hh hp]
    rfl
  | execute =>
    have hp' : (m.edit a v).phase = .execute := hp
    rw [step_of_phase_execute hh' hp', step_of_phase_execute hh hp]
    exact execute_edit fun op hop ha => h (accesses_of_operation hp hop ha)

theorem step_edit_of_store (hh : m.halted = false) (hp : m.phase = .execute)
    (hi : m.ir = ⟨"STORE", some a⟩) : (m.edit a v).step = m.step := by
  have hh' : (m.edit a v).halted = false := hh
  have hp' : (m.edit a v).phase = .execute := hp
  have hop : m.ir.operation? = some (.store a) := (Instruction.operation?_eq_store_iff _ _).mpr hi
  have hop' : (m.edit a v).ir.operation? = some (.store a) := hop
  rw [step_of_phase_execute hh' hp', step_of_phase_execute hh hp, execute, execute, hop, hop']
  exact congrArg Except.ok (store_edit_self m a v)

/-- What a step may do to a cell: the content changes only if the cell is stored to. -/
def Touches (m : Machine) (c c' : Cell) : Prop :=
  c'.address = c.address ∧ c'.region = c.region ∧
    (c'.content = c.content ∨ m.phase = .execute ∧ m.ir = ⟨"STORE", some c.address⟩)

theorem forall₂_touches (hs : m.step = .ok m') : List.Forall₂ m.Touches m.memory m'.memory := by
  rcases memory_step hs with hm | ⟨a, hm⟩ | ⟨a, hp, hi, hm⟩
  · rw [hm, List.forall₂_same]
    exact fun c _ => ⟨rfl, rfl, .inl rfl⟩
  · rw [hm, Memory.highlight, List.forall₂_map_right_iff, List.forall₂_same]
    exact fun c _ => ⟨rfl, rfl, .inl rfl⟩
  · rw [hm, Memory.highlight, Memory.write, List.forall₂_map_right_iff, List.forall₂_map_right_iff,
      List.forall₂_same]
    intro c _
    by_cases ha : c.address = a
    · rw [if_pos ha]
      exact ⟨rfl, rfl, .inr ⟨hp, ha ▸ hi⟩⟩
    · rw [if_neg ha]
      exact ⟨rfl, rfl, .inl rfl⟩

/-- A step commutes with an edit of any cell that it does not access, also where it fails. It is the
same with and without an edit of the cell that it stores to, and it changes the content of no other
cell. Of edits to one address the last counts, and edits to different addresses commute. -/
theorem step_edit (hh : m.halted = false) (a v : Int) :
    (¬ m.Accesses a → (m.edit a (.number v)).step = m.step.map (·.edit a (.number v))) ∧
    (m.phase = .execute → m.ir = ⟨"STORE", some a⟩ → (m.edit a (.number v)).step = m.step) ∧
    (∀ m', m.step = .ok m' → List.Forall₂ m.Touches m.memory m'.memory) ∧
    (∀ b w : Int, a ≠ b →
      (m.edit a (.number v)).edit b (.number w) = (m.edit b (.number w)).edit a (.number v)) ∧
    ∀ w : Int, (m.edit a (.number v)).edit a (.number w) = m.edit a (.number w) :=
  ⟨step_edit_of_not_accesses hh, step_edit_of_store hh, fun _ => forall₂_touches,
    fun _ _ h => edit_comm m h _ _, fun _ => edit_edit m a _ _⟩

theorem step_edit_store :
    let m : Machine :=
      { memory := [⟨0, .instruction ⟨"STORE", some 1⟩, .instruction, true⟩,
          ⟨1, .number 4, .data, false⟩, ⟨2, .number 5, .data, false⟩]
        phase := .execute
        ir := ⟨"STORE", some 1⟩
        acc := 7 }
    m.halted = false ∧ ¬ m.Accesses 2 ∧ m.Accesses 1 ∧
    (m.edit 2 (.number 9)).step = m.step.map (·.edit 2 (.number 9)) ∧
    (m.edit 1 (.number 9)).step = m.step ∧
    ∃ m', m.step = .ok m' ∧ List.Forall₂ m.Touches m.memory m'.memory ∧
      m'.memory.read? 1 = some (.number 7) ∧ m'.memory.read? 2 = some (.number 5) := by
  intro m
  have hh : m.halted = false := rfl
  have hn : ¬ m.Accesses 2 := by decide
  obtain ⟨hc, _, ht, _⟩ := step_edit hh 2 9
  obtain ⟨_, hs, _⟩ := step_edit hh 1 9
  exact ⟨hh, hn, by decide, hc hn, hs rfl rfl, _, rfl, ht _ rfl, by decide, by decide⟩

end Machine
end StoredProgram
