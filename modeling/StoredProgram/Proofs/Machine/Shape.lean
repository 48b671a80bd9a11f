import StoredProgram.Proofs.Machine.Code

/-! The shape of memory. Steps and edits mark cells and write numbers into them, and what these two
keep is kept for good: the number of the cells, their addresses and regions, and that the only
instructions in them are those that were loaded, each at its place. -/

namespace StoredProgram
variable {program : List Instruction}

namespace Memory
variable {memory : Memory} {size : Nat} {P : Memory → Prop}

/-- What marking cells and writing numbers keep. -/
structure Kept (P : Memory → Prop) : Prop where
  highlight : ∀ {memory : Memory} (a : Option Int), P memory → P (memory.highlight a)
  write : ∀ {memory : Memory} (a n : Int), P memory → P (memory.write a (.number n))

def layout (memory : Memory) : List (Int × Region) := memory.map fun c => (c.address, c.region)

/-- There are as many cells as the size says, in the order of their addresses, the first ten of them
for instructions, and an instruction stands only where the program has it. -/
structure Shaped (size : Nat) (program : List Instruction) (memory : Memory) : Prop where
  layout : memory.layout = (List.range size).map fun k : Nat =>
    ((k : Int), if k < 10 then Region.instruction else .data)
  code : ∀ c ∈ memory, ∀ i, c.content = .instruction i →
    ∃ k : Nat, c.address = k ∧ k < min 10 (min size program.length) ∧ program[k]? = some i

theorem layout_highlight (memory : Memory) (a : Option Int) :
    (memory.highlight a).layout = memory.layout := memory.map_highlight (fun _ _ => rfl) a

theorem layout_write (memory : Memory) (a : Int) (v : Content) :
    (memory.write a v).layout = memory.layout := memory.map_write (fun _ _ => rfl) a v

theorem layout_blank (size : Nat) :
    (blank size).layout = (List.range size).map fun k : Nat =>
      ((k : Int), if k < 10 then Region.instruction else .data) := by
  simp only [layout, blank, List.map_map, Function.comp_def]
  rfl

theorem kept_length (n : Nat) : Kept fun memory => memory.length = n where
  highlight a h := (sameCells_highlight _ a).length.trans h
  write a _ h := (sameCells_write _ a _).length.trans h

theorem kept_shaped (size : Nat) (program : List Instruction) :
    Kept fun memory => memory.Shaped size program where
  highlight := by
    intro memory a h
    refine ⟨(layout_highlight memory a).trans h.layout, fun c hc i hi => ?_⟩
    obtain ⟨d, hd, ha, hv⟩ := mem_highlight hc
    exact ha ▸ h.code d hd i (hv.trans hi)
  write := by
    intro memory a n h
    refine ⟨(layout_write memory a _).trans h.layout, fun c hc i hi => ?_⟩
    rcases mem_write hc with ⟨_, hv⟩ | ⟨_, hc⟩
    · cases hv.symm.trans hi
    · exact h.code c hc i hi

theorem kept_number (a : Int) : Kept fun memory => ∃ n, memory.read? a = some (.number n) where
  highlight b := by
    rintro ⟨n, h⟩
    exact ⟨n, (read?_highlight _ b a).trans h⟩
  write b m := by
    rintro ⟨n, h⟩
    rw [read?_write, h]
    split_ifs
    · exact ⟨m, rfl⟩
    · exact ⟨n, rfl⟩

end Memory

namespace Loading
open Memory

theorem layout_load {size : Int} {data : DataSetup} {m : Machine} {log : Log}
    (h : load size program data = .ok (m, log)) :
    m.memory.layout = (blank size.toNat).layout := by
  obtain ⟨entries, _, _, rfl⟩ := load_ok h
  exact (map_fill (fun _ _ => rfl) _ _).trans (map_place (fun _ _ => rfl) _ _)

theorem length_load {size : Int} {data : DataSetup} {m : Machine} {log : Log}
    (h : load size program data = .ok (m, log)) : m.memory.length = size.toNat := by
  have hl := congrArg List.length (layout_load h)
  simpa only [layout, blank, List.length_map, List.length_range] using hl

theorem shaped_of_load {size : Int} {data : DataSetup} {m : Machine} {log : Log}
    (h : load size program data = .ok (m, log)) : m.memory.Shaped size.toNat program := by
  refine ⟨(layout_load h).trans (layout_blank _), fun c hc i hi => ?_⟩
  obtain ⟨k, ha, hk⟩ := placed_of_load h c hc i hi
  have hb := (List.getElem?_eq_some_iff.mp hk).1
  rw [List.length_take] at hb
  rw [List.getElem?_take] at hk
  split_ifs at hk with hl
  exact ⟨k, ha, by rw [instructionRegion] at hb; omega, hk⟩

end Loading

namespace Machine
variable {m m' : Machine}

theorem memory_step (h : m.step = .ok m') :
    m'.memory = m.memory ∨ (∃ a, m'.memory = m.memory.highlight (some a)) ∨
      ∃ a, m.phase = .execute ∧ m.ir = ⟨"STORE", some a⟩ ∧
        m'.memory = (m.memory.write a (.number m.acc)).highlight (some a) := by
  cases stepped h with
  | halted => exact .inl rfl
  | idle => exact .inl rfl
  | fetch => exact .inr (.inl ⟨m.pc, m.memory_fetch⟩)
  | decode => exact .inl rfl
  | execute _ hp he =>
    unfold execute at he
    split at he
    · next op hop =>
      rcases (memory_perform he).2 with hm | ha | ⟨a, rfl, hm⟩
      · exact .inl hm
      · exact .inr (.inl ha)
      · exact .inr (.inr ⟨a, hp, (Instruction.operation?_eq_store_iff _ _).mp hop, hm⟩)
    · obtain rfl := Except.ok.inj he
      exact .inl rfl

end Machine

namespace Memory.Kept
open Machine
variable {m m' : Machine} {P : Memory → Prop}

theorem step (hP : Kept P) (h : P m.memory) (hs : m.step = .ok m') : P m'.memory := by
  rcases memory_step hs with hm | ⟨a, hm⟩ | ⟨a, _, _, hm⟩
  · exact hm ▸ h
  · exact hm ▸ hP.highlight _ h
  · exact hm ▸ hP.highlight _ (hP.write a m.acc h)

theorem changes (hP : Kept P) (h : P m.memory) (hc : Changes m m') : P m'.memory := by
  induction hc with
  | refl => exact h
  | tail _ hc ih =>
    cases hc with
    | step hs => exact hP.step ih hs
    | edit a n => exact hP.write a n ih

end Memory.Kept
end StoredProgram
