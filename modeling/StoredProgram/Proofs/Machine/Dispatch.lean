import Mathlib.Order.Bounds.Basic
import StoredProgram.Proofs.Isa.Cycle
import StoredProgram.Proofs.Machine.Code

/-! A program that has passed the check never falls back to the cycle of an instruction that denotes
nothing once it has fetched an instruction: what is in the register then is of the program, and
each of its instructions denotes an operation. -/

namespace StoredProgram

theorem Instruction.exists_operation (i : Instruction) (ho : i.opcode ∈ opcodes)
    (ha : i.opcode = haltOpcode ∨ ∃ a, i.operand = some a) : ∃ op, i.operation? = some op := by
  unfold operation?
  split_ifs with hh
  · exact ⟨_, rfl⟩
  · obtain ⟨a, ha⟩ := ha.resolve_left hh
    rw [ha, Option.bind_some]
    simp only [opcodes, List.mem_cons, List.not_mem_nil, or_false] at ho
    rcases ho with h | h | h | h | h | h | h | h <;> rw [h] <;> exact ⟨_, rfl⟩

theorem Assembly.denotes_of_problems {program : List Statement} {s : Statement}
    (h : problems program = []) (hs : s ∈ program) :
    s.opcode ∈ opcodes ∧ (s.opcode = haltOpcode ∨ ∃ a, s.operand = some a) := by
  obtain ⟨k, hk⟩ := List.mem_iff_getElem?.mp hs
  have hr : s.brokenRules = [] :=
    List.map_eq_nil_iff.mp (List.flatMap_eq_nil_iff.mp h _ (List.mk_mem_zipIdx_iff_getElem?.mpr hk))
  obtain ⟨hr, hd⟩ := List.append_eq_nil_iff.mp hr
  obtain ⟨ho, hp⟩ := List.append_eq_nil_iff.mp hr
  split_ifs at ho with hc
  split_ifs at hp with hl
  refine ⟨List.contains_iff_mem.mp hc, ?_⟩
  rw [or_iff_not_imp_left]
  intro hn
  cases ha : s.operand with
  | some a => exact ⟨a, rfl⟩
  | none =>
    -- the text of the operand is there but is no numeral, which is a problem as well
    have ht : s.operandText.isNone = false := by
      simpa only [Statement.lacksOperand, ha, Option.isNone_none, Bool.and_true,
        Bool.not_eq_true] using not_and.mp hl hn
    obtain ⟨w, hw⟩ := Option.isSome_iff_exists.mp (Option.isNone_eq_false_iff.mp ht)
    rw [hw, ha] at hd
    cases hd

namespace Machine
variable {program : List Instruction} {m m₀ m' : Machine} {k n : Nat}

def NoOp (m : Machine) : Prop :=
  m.halted = false ∧ m.phase = .execute ∧ m.ir.operation? = none

/-- The instruction in the register is of the program and denotes an operation, which is what
execution carries out. -/
structure Dispatches (program : List Instruction) (m : Machine) : Prop where
  mem : m.ir ∈ program
  opcode : m.ir.opcode ∈ opcodes
  operand : m.ir.opcode = "HALT" ∨ ∃ a, m.ir.operand = some a
  handler : ∃ op : Operation, op.opcode = m.ir.opcode ∧
    (op = .halt ∨ op.operand? = m.ir.operand) ∧ m.execute = m.perform op

/-- So many cycles have passed and no instruction has been fetched. -/
structure Waits (m₀ : Machine) (k : Nat) (m : Machine) : Prop where
  halted : m.halted = false
  phase : m.phase = .fetch
  pc : m.pc = k
  ir : m.ir = .empty
  memory : ∀ a, m.memory.read? a = m₀.memory.read? a

def Bare (m : Machine) (k : Nat) : Prop :=
  ∀ j < k, ∀ i, m.memory.read? (j : Nat) ≠ some (.instruction i)

theorem Initial.waits (h : m₀.Initial program) : Waits m₀ 0 m₀.startCycle :=
  ⟨h.halted, rfl, h.pc, h.ir, fun _ => rfl⟩

theorem NoOp.execute (h : m.NoOp) : m.execute = .ok m.idleCycle := by
  unfold Machine.execute
  rw [h.2.2]

theorem Waits.ir_fetch (h : Waits m₀ k m)
    (hk : ∀ i, m₀.memory.read? k ≠ some (.instruction i)) : m.fetch.ir = .empty := by
  refine (ir_fetch_of_not_read? fun i => ?_).trans h.ir
  rw [h.pc, h.memory]
  exact hk i

theorem Waits.noOp (h : Waits m₀ k m) (hk : ∀ i, m₀.memory.read? k ≠ some (.instruction i)) :
    m.fetch.decode.NoOp ∧ m.fetch.decode.pc = k := by
  have hi : m.fetch.decode.ir = .empty := h.ir_fetch hk
  refine ⟨⟨(goesOn_fetch h.phase).halted.trans h.halted, rfl, ?_⟩, ?_⟩
  · rw [hi]
    rfl
  · exact (congrArg Machine.pc m.fetch_eq).trans h.pc

theorem Waits.cycle (h : Waits m₀ k m) (hk : ∀ i, m₀.memory.read? k ≠ some (.instruction i)) :
    ∃ m', m.steps 3 = .ok m' ∧ Waits m₀ (k + 1) m' := by
  obtain ⟨hn, hp⟩ := h.noOp hk
  refine ⟨_, (Isa.steps_three h.halted h.phase).trans hn.execute, hn.1, rfl, ?_, h.ir_fetch hk, ?_⟩
  · exact (congrArg (· + 1) hp).trans (Int.natCast_succ k).symm
  · intro a
    show m.fetch.memory.read? a = _
    rw [memory_fetch, Memory.read?_highlight, h.memory]

theorem Initial.exists_waits (h : m₀.Initial program) (hb : m₀.Bare k) :
    ∃ m, m₀.steps (3 * k + 1) = .ok m ∧ Waits m₀ k m := by
  induction k with
  | zero => exact ⟨_, (steps_one m₀).trans (step_of_phase_idle h.halted h.phase), h.waits⟩
  | succ k ih =>
    obtain ⟨m, hs, hw⟩ := ih fun j hj => hb j (Nat.lt_succ_of_lt hj)
    obtain ⟨m', hs', hw'⟩ := hw.cycle (hb k (Nat.lt_succ_self k))
    refine ⟨m', ?_, hw'⟩
    rw [Nat.mul_succ, Nat.add_right_comm, steps_add, hs]
    exact hs'

theorem Initial.exists_noOp (h : m₀.Initial program) (hb : m₀.Bare (k + 1)) :
    ∃ m, m₀.steps (3 * k + 3) = .ok m ∧ m.NoOp ∧ m.pc = k := by
  obtain ⟨m, hs, hw⟩ := h.exists_waits fun j hj => hb j (Nat.lt_succ_of_lt hj)
  refine ⟨_, ?_, hw.noOp (hb k (Nat.lt_succ_self k))⟩
  rw [show 3 * k + 3 = 3 * k + 1 + 2 from rfl, steps_add, hs]
  exact Isa.steps_two hw.halted hw.phase

theorem Runs.ir_mem_of_fetch {first i : Instruction} (h : m.Runs program first)
    (hi : m.memory.read? m.pc = some (.instruction i)) (hs : m.fetch.steps n = .ok m') :
    m'.ir ∈ program := by
  obtain ⟨c, hc, _, hv⟩ := Memory.exists_cell_of_read? hi
  have hm : i ∈ program := h.memory c hc i hv
  have hf : m.fetch.Runs program i := ⟨h.fetch.memory, .inl (ir_fetch_of_read? hi)⟩
  exact (hf.changes (changes_of_steps hs)).ir.elim (fun he => he ▸ hm) id

theorem Initial.not_noOp (h : m₀.Initial program) (hb : m₀.Bare k) {i : Instruction}
    (hk : m₀.memory.read? k = some (.instruction i))
    (hd : ∀ i ∈ program, i.operation? ≠ none) (hn : 3 * k < n) (hs : m₀.steps n = .ok m) :
    ¬ m.NoOp := by
  intro hno
  obtain ⟨m₁, hs₁, hw⟩ := h.exists_waits hb
  obtain ⟨d, rfl⟩ := Nat.exists_eq_add_of_le hn
  rw [steps_add, hs₁] at hs
  have hs : m₁.steps d = .ok m := hs
  cases d with
  | zero =>
    obtain rfl := Except.ok.inj hs
    exact absurd (hw.phase.symm.trans hno.2.1) nofun
  | succ d =>
    -- the step after the wait fetches the first instruction; the register is not empty from there on
    rw [steps_succ_of_ok (step_of_phase_fetch hw.halted hw.phase)] at hs
    have hi : m₁.memory.read? m₁.pc = some (.instruction i) := by
      rw [hw.pc, hw.memory, hk]
    have hr := h.runs.changes (changes_of_steps hs₁)
    exact hd _ (hr.ir_mem_of_fetch hi hs) hno.2.2

theorem not_halted_of_steps {k : Nat} (hk : k ≤ n) (hs : m.steps n = .ok m')
    (hh : m'.halted = false) : ∃ m₁, m.steps k = .ok m₁ ∧ m₁.halted = false := by
  obtain ⟨d, rfl⟩ := Nat.exists_eq_add_of_le hk
  rw [steps_add] at hs
  obtain ⟨m₁, hs₁, hs⟩ := Except.bind_eq_ok_iff.mp hs
  refine ⟨m₁, hs₁, Bool.eq_false_iff.mpr fun h => ?_⟩
  rw [steps_of_halted h] at hs
  obtain rfl := Except.ok.inj hs
  exact Bool.false_ne_true (hh.symm.trans h)

theorem dispatches_of_mem (hi : m.ir ∈ program) (ho : m.ir.opcode ∈ opcodes)
    (ha : m.ir.opcode = haltOpcode ∨ ∃ a, m.ir.operand = some a) : m.Dispatches program := by
  obtain ⟨op, hop⟩ := m.ir.exists_operation ho ha
  obtain ⟨hc, hd⟩ := Instruction.eq_of_operation? hop
  refine ⟨hi, ho, ha, op, hc.symm, hd.imp_right ?_, ?_⟩
  · rintro ⟨a, ha, hd⟩
    exact hd.trans ha.symm
  · unfold execute
    rw [hop]

/-- Whatever is stored or edited in the meantime, what a program that has passed the check carries
out is one of its instructions, unless it has not fetched any so far. Left to itself it falls back
in the cycles below the first instruction and in no others, and if there is no instruction at all it
falls back forever. -/
theorem loadSource_dispatches {size : Int} {source : String} {data : DataSetup}
    {out : Loading.Outcome} {m₀ : Machine} (hl : Loading.loadSource size source data = .ok out)
    (ho : out.machine = some m₀) :
    (∃ statements, Assembly.read source = .ok statements ∧
      ∀ m, Changes m₀ m → m.phase = .execute → m.ir ≠ .empty →
        m.Dispatches ((statements.map (·.instruction)).take (min 10 size.toNat))) ∧
    (∀ a, IsLeast {a | ∃ i, m₀.memory.read? a = some (.instruction i)} a →
      (∀ k : Nat, (k : Int) < a → ∃ m, m₀.steps (3 * k + 3) = .ok m ∧ m.NoOp ∧ m.pc = k) ∧
      ∀ (n : Nat) (m : Machine), 3 * a < n → m₀.steps n = .ok m → ¬ m.NoOp) ∧
    ((∀ a i, m₀.memory.read? a ≠ some (.instruction i)) →
      (∀ k : Nat, ∃ m, m₀.steps (3 * k + 3) = .ok m ∧ m.NoOp ∧ m.pc = k) ∧
      ∀ n, ∃ m, m₀.steps n = .ok m ∧ m.halted = false) := by
  obtain ⟨statements, hread, hp, hi⟩ := initial_of_loadSource hl ho
  have hd : ∀ i ∈ (statements.map (·.instruction)).take (min instructionRegion size.toNat),
      i.opcode ∈ opcodes ∧ (i.opcode = haltOpcode ∨ ∃ a, i.operand = some a) := by
    intro i hm
    obtain ⟨s, hs, rfl⟩ := List.mem_map.mp (List.mem_of_mem_take hm)
    exact Assembly.denotes_of_problems hp hs
  refine ⟨⟨statements, hread, fun m hc _ hne => ?_⟩, fun a ha => ⟨fun k hk => ?_, ?_⟩, fun hn => ?_⟩
  · have hm := (hi.runs.changes hc).ir.resolve_left hne
    exact dispatches_of_mem hm (hd _ hm).1 (hd _ hm).2
  · refine hi.exists_noOp fun j hj i hr => ?_
    have hle := ha.2 ⟨i, hr⟩
    omega
  · intro n m hn hs
    obtain ⟨i, hr⟩ := ha.1
    obtain ⟨c, hc, hca, hci⟩ := Memory.exists_cell_of_read? hr
    obtain ⟨k, hk, _⟩ := hi.memory c hc i hci
    obtain rfl := hca.symm.trans hk
    refine hi.not_noOp (fun j hj i hr => ?_) hr (fun i hm => ?_) (by omega) hs
    · have hle := ha.2 ⟨i, hr⟩
      omega
    · obtain ⟨op, hop⟩ := i.exists_operation (hd i hm).1 (hd i hm).2
      rw [hop]
      exact Option.some_ne_none op
  · have hw := fun k => hi.exists_noOp (k := k) fun j _ => hn j
    refine ⟨hw, fun n => ?_⟩
    obtain ⟨m, hs, hno, _⟩ := hw n
    exact not_halted_of_steps (by omega) hs hno.1

theorem loadSource_dispatches_overwritten :
    (∃ out m₀, Loading.loadSource 20 "ADD 10\nHALT" (.ofPairs [(0, 7)]) = .ok out ∧
      out.machine = some m₀ ∧ IsLeast {a | ∃ i, m₀.memory.read? a = some (.instruction i)} 1 ∧
      (∃ m, m₀.steps 3 = .ok m ∧ m.NoOp) ∧
      ∃ m, m₀.steps 6 = .ok m ∧ ¬ m.NoOp ∧
        (m.edit 1 (.number 3)).Dispatches [⟨"ADD", some 10⟩, ⟨"HALT", none⟩]) ∧
    ∃ out m₀, Loading.loadSource 20 "" (.items []) = .ok out ∧ out.machine = some m₀ ∧
      (∀ a i, m₀.memory.read? a ≠ some (.instruction i)) ∧
      ∃ m, m₀.steps 9 = .ok m ∧ m.NoOp ∧ m.pc = 2 := by
  let m₀ : Machine :=
    { memory := Loading.fill [(0, 7)]
        (Loading.place [⟨"ADD", some 10⟩, ⟨"HALT", none⟩] (Memory.blank 20))
      output := [greeting, Loading.loadedLine 2] }
  let m₁ : Machine := { memory := Memory.blank 20, output := [greeting, Loading.loadedLine 0] }
  have hl : (Loading.loadSource 20 "ADD 10\nHALT" (.ofPairs [(0, 7)])).map Loading.Outcome.machine =
      .ok (some m₀) := by decide +kernel
  have hl₁ : (Loading.loadSource 20 "" (.items [])).map Loading.Outcome.machine =
      .ok (some m₁) := by decide +kernel
  obtain ⟨out, hl, ho⟩ := Except.map_eq_ok_iff.mp hl
  obtain ⟨out₁, hl₁, ho₁⟩ := Except.map_eq_ok_iff.mp hl₁
  obtain ⟨⟨statements, hr, hd⟩, hc, _⟩ := loadSource_dispatches hl ho
  obtain ⟨_, _, hn⟩ := loadSource_dispatches hl₁ ho₁
  have hp : (Assembly.read "ADD 10\nHALT").map
      (fun ss => (ss.map (·.instruction)).take (min 10 (20 : Int).toNat)) =
        .ok [⟨"ADD", some 10⟩, ⟨"HALT", none⟩] := by decide +kernel
  rw [hr] at hp
  have ha : IsLeast {a | ∃ i, m₀.memory.read? a = some (.instruction i)} 1 := by
    refine ⟨⟨⟨"HALT", none⟩, by decide +kernel⟩, ?_⟩
    rintro a ⟨i, hi⟩
    obtain ⟨c, hc, rfl, hci⟩ := Memory.exists_cell_of_read? hi
    have hm : ∀ c ∈ m₀.memory, c.address < 1 → c.content = .number 7 := by decide +kernel
    by_contra hlt
    cases hci.symm.trans (hm c hc (Int.lt_of_not_ge hlt))
  have hs : (m₀.steps 6).map (fun m => (m.phase, m.ir)) = .ok (.execute, ⟨"HALT", none⟩) := by
    decide +kernel
  obtain ⟨m, hs, hm⟩ := Except.map_eq_ok_iff.mp hs
  obtain ⟨hph, hir⟩ := Prod.mk.inj hm
  refine ⟨⟨out, m₀, hl, ho, ha, ?_, m, hs, (hc 1 ha).2 6 m (by decide) hs, ?_⟩,
    out₁, m₁, hl₁, ho₁, ?_⟩
  · obtain ⟨m, hs, hno, _⟩ := (hc 1 ha).1 0 (by decide)
    exact ⟨m, hs, hno⟩
  · rw [← Except.ok.inj hp]
    refine hd _ ((changes_of_steps hs).tail (.edit 1 3)) hph ?_
    show m.ir ≠ .empty
    rw [hir]
    decide
  · have hb : ∀ a i, m₁.memory.read? a ≠ some (.instruction i) := by
      intro a i hi
      obtain ⟨c, hc, _, hci⟩ := Memory.exists_cell_of_read? hi
      have hm : ∀ c ∈ m₁.memory, c.content = .number 0 := by decide +kernel
      cases hci.symm.trans (hm c hc)
    exact ⟨hb, (hn hb).1 2⟩

end Machine
end StoredProgram
