import Mathlib.Data.List.Count
import Mathlib.Data.List.Nodup
import StoredProgram.Proofs.Loading.Contents
import StoredProgram.Proofs.Machine.Shape

/-! What a viewer sees of the machine, and why it agrees with what the machine did: the marked cell is
the one of the latest access, the latest arithmetic is right, and from a fetch to the end of its
cycle the registers and the bus tell of that fetch. -/

namespace StoredProgram

namespace Memory
variable {memory : Memory} {a : Int} {b : Option Int}

def Contiguous (memory : Memory) : Prop :=
  memory.map Cell.address = (List.range memory.length).map fun k : Nat => (k : Int)

def InRange (memory : Memory) (a : Int) : Prop := 0 ≤ a ∧ a < memory.length

instance (memory : Memory) (a : Int) : Decidable (memory.InRange a) :=
  inferInstanceAs (Decidable (_ ∧ _))

def Marks (memory : Memory) (a : Option Int) : Prop :=
  ∀ c ∈ memory, c.active = true ↔ some c.address = a

theorem kept_contiguous : Kept Contiguous where
  highlight := by
    intro memory a h
    rw [Contiguous, (sameCells_highlight memory a).addresses, (sameCells_highlight memory a).length]
    exact h
  write := by
    intro memory a n h
    rw [Contiguous, (sameCells_write memory a _).addresses, (sameCells_write memory a _).length]
    exact h

theorem contiguous_ofContents (size : Nat) (f : Nat → Content) : (ofContents size f).Contiguous := by
  rw [Contiguous, ofContents, List.length_map, List.length_range, List.map_map]
  rfl

theorem Contiguous.mem_addresses_iff (h : memory.Contiguous) (a : Int) :
    a ∈ memory.map Cell.address ↔ memory.InRange a := by
  rw [h, List.mem_map]
  constructor
  · rintro ⟨k, hk, rfl⟩
    exact ⟨Int.natCast_nonneg k, Int.ofNat_lt.mpr (List.mem_range.mp hk)⟩
  · rintro ⟨h0, hn⟩
    exact ⟨a.toNat, List.mem_range.mpr (by omega), Int.toNat_of_nonneg h0⟩

theorem Contiguous.isSome_read?_iff (h : memory.Contiguous) (a : Int) :
    (memory.read? a).isSome = true ↔ memory.InRange a := by
  rw [← h.mem_addresses_iff, Memory.isSome_read?_iff]

theorem Contiguous.nodup_addresses (h : memory.Contiguous) : (memory.map Cell.address).Nodup := by
  rw [h]
  exact List.nodup_range.map fun _ _ => Int.ofNat.inj

theorem marks_highlight (memory : Memory) (b : Option Int) : (memory.highlight b).Marks b :=
  fun _ hc => active_iff_of_mem_highlight hc

theorem Marks.write (h : memory.Marks b) (a : Int) (v : Content) : (memory.write a v).Marks b := by
  intro c hc
  obtain ⟨d, hd, rfl⟩ := List.mem_map.mp hc
  split_ifs
  · exact h d hd
  · exact h d hd

theorem marks_none_ofContents (size : Nat) (f : Nat → Content) : (ofContents size f).Marks none := by
  intro c hc
  obtain ⟨k, _, rfl⟩ := List.mem_map.mp hc
  exact iff_of_false Bool.false_ne_true (Option.some_ne_none _)

theorem Marks.countP_active (h : memory.Marks (some a)) (hc : memory.Contiguous) :
    memory.countP (·.active) = if memory.InRange a then 1 else 0 := by
  have hm : memory.countP (·.active) = (memory.map Cell.address).count a := by
    rw [List.count, List.countP_map]
    apply List.countP_congr
    intro c hmem
    rw [h c hmem, Option.some_inj, Function.comp_apply, beq_iff_eq]
  rw [hm]
  split_ifs with hr
  · exact List.count_eq_one_of_mem hc.nodup_addresses ((hc.mem_addresses_iff a).mpr hr)
  · exact List.count_eq_zero_of_not_mem fun hmem => hr ((hc.mem_addresses_iff a).mp hmem)

end Memory

theorem Content.number_ne_instruction (n : Int) (i : Instruction) : number n ≠ .instruction i :=
  Content.noConfusion

def Alu.Correct (alu : Alu) : Prop :=
  alu = {} ∨ alu.operation = "ADD" ∧ alu.output = alu.input1 + alu.input2 ∨
    alu.operation = "SUB" ∧ alu.output = alu.input1 - alu.input2

namespace Machine
open Memory
variable {m m' m₀ : Machine} {op : Operation} {n : Nat}

/-- The registers and the bus tell of the fetch from the program counter: what was found there, or
zero in place of nothing, has gone to the instruction register if it is an instruction. -/
structure Latched (m : Machine) : Prop where
  mar : m.mar = m.pc
  active : m.bus.active = true
  found : m.memory.InRange m.pc → m.bus.data = some m.mdr
  missing : ¬ m.memory.InRange m.pc → m.bus.data = none ∧ m.mdr = .number 0
  toRegister : m.bus.destination = "IR" ↔ ∃ i, m.mdr = .instruction i
  register : ∀ i, m.mdr = .instruction i → m.ir = i
  fromMemory : (∀ i, m.mdr ≠ .instruction i) →
    m.bus.source = "Memory" ∧ m.bus.destination = "MDR"

def Fetches (m : Machine) : Prop := m.halted = false ∧ m.phase = .fetch

instance (m : Machine) : Decidable m.Fetches :=
  inferInstanceAs (Decidable (m.halted = false ∧ m.phase = .fetch))

/-- Reached by steps and edits, with so many fetches among the steps. -/
inductive Reached (m₀ : Machine) : Nat → Machine → Prop
  | start : Reached m₀ 0 m₀
  | step {n : Nat} {m m' : Machine} : Reached m₀ n m → m.step = .ok m' →
      Reached m₀ (if m.Fetches then n + 1 else n) m'
  | edit {n : Nat} {m : Machine} (a v : Int) : Reached m₀ n m → Reached m₀ n (m.edit a (.number v))

theorem Reached.fetched (h : Reached m₀ n m) (hf : m.Fetches) (hs : m.step = .ok m') :
    Reached m₀ (n + 1) m' := by
  have hr := h.step hs
  rwa [if_pos hf] at hr

theorem Reached.other (h : Reached m₀ n m) (hf : ¬ m.Fetches) (hs : m.step = .ok m') :
    Reached m₀ n m' := by
  have hr := h.step hs
  rwa [if_neg hf] at hr

structure Displays (fetches : Nat) (m : Machine) : Prop where
  contiguous : m.memory.Contiguous
  waiting : fetches = 0 → m.phase = .idle ∨ m.phase = .fetch
  marks : m.memory.Marks (if fetches = 0 then none else some m.mar)
  alu : m.alu.Correct
  latched : m.phase = .decode ∨ m.phase = .execute → m.Latched

theorem latched_fetch (h : m.memory.Contiguous) : m.fetch.Latched := by
  have hr := h.isSome_read?_iff m.pc
  have hlen : m.fetch.memory.length = m.memory.length := by
    rw [memory_fetch, highlight, List.length_map]
  have hin : m.fetch.memory.InRange m.fetch.pc ↔ (m.memory.read? m.pc).isSome = true := by
    rw [hr, InRange, hlen, fetch_eq]
    rfl
  unfold fetch at hin ⊢
  have hd : "MDR" ≠ "IR" := by decide
  rcases hc : m.memory.read? m.pc with _ | n | i
  · rw [hc] at hin
    have hn := Content.number_ne_instruction 0
    exact ⟨rfl, rfl, fun hm => absurd (hin.mp hm) Bool.false_ne_true, fun _ => ⟨rfl, rfl⟩,
      iff_of_false hd (not_exists.mpr hn), fun i hi => absurd hi (hn i), fun _ => ⟨rfl, rfl⟩⟩
  · rw [hc] at hin
    have hn := Content.number_ne_instruction n
    exact ⟨rfl, rfl, fun _ => rfl, fun hm => absurd (hin.mpr rfl) hm,
      iff_of_false hd (not_exists.mpr hn), fun i hi => absurd hi (hn i), fun _ => ⟨rfl, rfl⟩⟩
  · rw [hc] at hin
    exact ⟨rfl, rfl, fun _ => rfl, fun hm => absurd (hin.mpr rfl) hm,
      iff_of_true rfl ⟨i, rfl⟩, fun _ => Content.instruction.inj, fun hm => absurd rfl (hm i)⟩

theorem Latched.edit (h : m.Latched) (a : Int) (v : Content) : (m.edit a v).Latched := by
  have hin : (m.edit a v).memory.InRange (m.edit a v).pc ↔ m.memory.InRange m.pc := by
    have hlen : (m.edit a v).memory.length = m.memory.length := List.length_map _
    rw [InRange, hlen]
    rfl
  exact ⟨h.mar, h.active, fun hm => h.found (hin.mp hm), fun hm => h.missing fun hr => hm (hin.mpr hr),
    h.toRegister, h.register, h.fromMemory⟩

theorem marks_perform (h : m.memory.Marks (some m.mar)) (hp : m.perform op = .ok m') :
    m'.memory.Marks (some m'.mar) := by
  cases op with
  | load a | add a | sub a =>
    obtain rfl := Except.ok.inj hp
    exact marks_highlight _ _
  | store a =>
    obtain rfl := Except.ok.inj hp
    exact marks_highlight _ _
  | jump a =>
    obtain rfl := Except.ok.inj hp
    exact h
  | jumpZero a | jumpNonzero a =>
    obtain rfl := Except.ok.inj hp
    rw [branch_eq]
    exact h
  | halt =>
    obtain rfl := eq_stopped_of_perform hp
    exact h

theorem correct_perform (h : m.alu.Correct) (hp : m.perform op = .ok m') : m'.alu.Correct := by
  cases op with
  | add a =>
    obtain rfl := Except.ok.inj hp
    exact .inr (.inl ⟨rfl, rfl⟩)
  | sub a =>
    obtain rfl := Except.ok.inj hp
    exact .inr (.inr ⟨rfl, rfl⟩)
  | load a | store a | jump a =>
    obtain rfl := Except.ok.inj hp
    exact h
  | jumpZero a | jumpNonzero a =>
    obtain rfl := Except.ok.inj hp
    rw [branch_eq]
    exact h
  | halt =>
    obtain rfl := eq_stopped_of_perform hp
    exact h

theorem display_execute (hm : m.memory.Marks (some m.mar)) (ha : m.alu.Correct)
    (he : m.execute = .ok m') : m'.memory.Marks (some m'.mar) ∧ m'.alu.Correct := by
  unfold execute at he
  split at he
  · exact ⟨marks_perform hm he, correct_perform ha he⟩
  · obtain rfl := Except.ok.inj he
    exact ⟨hm, ha⟩

theorem phase_of_execute (hh : m.halted = false) (hp : m.phase = .execute)
    (hs : m.step = .ok m') : ¬ (m'.phase = .decode ∨ m'.phase = .execute) := by
  rcases step_ok hh hs with hg | ⟨_, rfl⟩
  · have hq : m'.phase = .fetch := hg.phase.trans (congrArg Phase.next hp)
    rw [hq]
    decide
  · exact nofun

namespace Displays

theorem step (h : Displays n m) (hs : m.step = .ok m') :
    Displays (if m.Fetches then n + 1 else n) m' := by
  have hc := kept_contiguous.step h.contiguous hs
  have hn : ∀ {p : Phase}, m.phase = p → p ≠ .fetch → ¬ m.Fetches :=
    fun hp hne hf => hne (hp.symm.trans hf.2)
  cases stepped hs with
  | halted hh =>
    have hf : ¬ m.Fetches := fun hf => Bool.false_ne_true (hf.1.symm.trans hh)
    rwa [if_neg hf]
  | idle hh hp =>
    rw [if_neg (hn hp (by decide))]
    exact ⟨hc, fun _ => .inr rfl, h.marks, h.alu, nofun⟩
  | fetch hh hp =>
    rw [if_pos ⟨hh, hp⟩]
    refine ⟨hc, nofun, ?_, ?_, fun _ => latched_fetch h.contiguous⟩
    · rw [fetch_eq]
      exact marks_highlight _ _
    · rw [fetch_eq]
      exact h.alu
  | decode hh hp =>
    rw [if_neg (hn hp (by decide))]
    have hl := h.latched (.inl hp)
    refine ⟨hc, fun h0 => ?_, h.marks, h.alu, fun _ => ⟨hl.mar, hl.active, hl.found, hl.missing,
      hl.toRegister, hl.register, hl.fromMemory⟩⟩
    rcases h.waiting h0 with hw | hw <;> cases hp.symm.trans hw
  | execute hh hp he =>
    rw [if_neg (hn hp (by decide))]
    -- an execution comes after a fetch
    have h0 : n ≠ 0 := by
      intro h0
      rcases h.waiting h0 with hw | hw <;> cases hp.symm.trans hw
    have hm := h.marks
    rw [if_neg h0] at hm
    obtain ⟨hm', ha'⟩ := display_execute hm h.alu he
    refine ⟨hc, fun h0' => absurd h0' h0, ?_, ha', fun hp' => absurd hp' (phase_of_execute hh hp hs)⟩
    rwa [if_neg h0]

theorem edit (h : Displays n m) (a v : Int) : Displays n (m.edit a (.number v)) :=
  ⟨kept_contiguous.write a v h.contiguous, h.waiting, h.marks.write a _, h.alu,
    fun hp => (h.latched hp).edit a _⟩

theorem reached (h : Displays 0 m₀) (hr : Reached m₀ n m) : Displays n m := by
  induction hr with
  | start => exact h
  | step _ hs ih => exact ih.step hs
  | edit a v _ ih => exact ih.edit a v

end Displays

theorem displays_of_ofContents (size : Nat) (f : Nat → Content) (output : List String) :
    Displays 0 { memory := ofContents size f, output := output } :=
  ⟨contiguous_ofContents size f, fun _ => .inl rfl, marks_none_ofContents size f, .inl rfl, nofun⟩

theorem displays_ofSize {size : Int} (h : ofSize size = .ok m₀) : Displays 0 m₀ := by
  obtain ⟨_, rfl⟩ := ofSize_ok h
  exact displays_of_ofContents size.toNat (fun _ => .number 0) [greeting]

theorem displays_load {size : Int} {program : List Instruction} {data : DataSetup} {log : Log}
    (h : Loading.load size program data = .ok (m₀, log)) : Displays 0 m₀ := by
  obtain ⟨entries, _, _, rfl⟩ := Loading.load_ok h
  rw [Loading.fill_place_blank]
  exact displays_of_ofContents _ _ _

/-- From a fresh or loaded machine, by steps and edits in any order: no cell is marked before the
first fetch, and later just the cell that the address register tells of, if there is one; the latest
arithmetic is correct; and between a fetch and the end of its cycle the registers and the bus tell of
that fetch. -/
theorem reached_displays {fetches : Nat}
    (h₀ : (∃ size, ofSize size = .ok m₀) ∨
      ∃ size program data log, Loading.load size program data = .ok (m₀, log))
    (h : Reached m₀ fetches m) :
    (fetches = 0 → ∀ c ∈ m.memory, c.active = false) ∧
    (fetches ≠ 0 → (∀ c ∈ m.memory, c.active = true ↔ c.address = m.mar) ∧
      m.memory.countP (·.active) = if m.memory.InRange m.mar then 1 else 0) ∧
    m.alu.Correct ∧
    (m.phase = .decode ∨ m.phase = .execute → m.Latched) := by
  have hd : Displays fetches m := by
    rcases h₀ with ⟨_, h₀⟩ | ⟨_, _, _, _, h₀⟩
    · exact (displays_ofSize h₀).reached h
    · exact (displays_load h₀).reached h
  have hm := hd.marks
  refine ⟨fun h0 c hc => ?_, fun h0 => ?_, hd.alu, hd.latched⟩
  · rw [if_pos h0] at hm
    have hc' := hm c hc
    simpa using hc'
  · rw [if_neg h0] at hm
    refine ⟨fun c hc => ?_, hm.countP_active hd.contiguous⟩
    rw [hm c hc, Option.some_inj]

theorem reached_displays_overwritten :
    ∃ m₀ log m, Loading.load 20 [⟨"ADD", some 10⟩, ⟨"LOAD", some 40⟩] (.ofPairs [(10, 5)]) =
        .ok (m₀, log) ∧
      Reached m₀ 0 m₀ ∧ (∀ c ∈ m₀.memory, c.active = false) ∧
      Reached m₀ 2 m ∧ m.memory.read? 1 = some (.number 3) ∧ m.phase = .decode ∧
      m.mar = 1 ∧ m.memory.countP (·.active) = 1 ∧
      m.alu = ⟨0, 5, 5, "ADD"⟩ ∧ m.alu.Correct ∧ m.ir = ⟨"LOAD", some 40⟩ ∧ m.Latched := by
  let m₀ : Machine :=
    { memory := ofContents 20 (Loading.contentAt [⟨"ADD", some 10⟩, ⟨"LOAD", some 40⟩] [(10, 5)])
      output := [greeting, Loading.loadedLine 2] }
  let m₁ : Machine := arithmetic "ADD" (· + ·) m₀.startCycle.fetch.decode 10
  have hl : Loading.load 20 [⟨"ADD", some 10⟩, ⟨"LOAD", some 40⟩] (.ofPairs [(10, 5)]) =
      .ok (m₀, Loading.loadedLog 2) := Loading.load_eq (by decide) _ rfl
  have started : Reached m₀ 0 m₀.startCycle := .other .start (by decide +kernel) rfl
  have fetched : Reached m₀ 1 m₀.startCycle.fetch := started.fetched (by decide +kernel) rfl
  have decoded : Reached m₀ 1 m₀.startCycle.fetch.decode := fetched.other (by decide +kernel) rfl
  have h₁ : Reached m₀ 1 m₁ := decoded.other (by decide +kernel) rfl
  have h₂ : Reached m₀ 2 (m₁.fetch.edit 1 (.number 3)) :=
    .edit 1 3 (h₁.fetched (by decide +kernel) rfl)
  obtain ⟨hn, _⟩ := reached_displays (.inr ⟨_, _, _, _, hl⟩) .start
  obtain ⟨_, hm, ha, hd⟩ := reached_displays (.inr ⟨_, _, _, _, hl⟩) h₂
  refine ⟨m₀, _, _, hl, .start, hn rfl, h₂, by decide +kernel, rfl, rfl, ?_, ?_, ha, ?_, hd (.inl rfl)⟩
  · rw [(hm (by decide)).2]
    decide +kernel
  · decide +kernel
  · decide +kernel

end Machine
end StoredProgram
