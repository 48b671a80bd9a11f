import StoredProgram.Loading
import StoredProgram.Proofs.Except
import StoredProgram.Proofs.Machine.Write

/-! What loading puts where: an instruction in memory stands at its place in the program. Writing
numbers, as stores, edits and initial data do, brings no further instructions. -/

namespace StoredProgram
variable {program : List Instruction} {i : Instruction}

namespace Memory
variable {memory : Memory}

def Within (program : List Instruction) (memory : Memory) : Prop :=
  ∀ c ∈ memory, ∀ i, c.content = .instruction i → i ∈ program

theorem Within.highlight (h : Within program memory) (a : Option Int) :
    Within program (memory.highlight a) := by
  intro c hc i hi
  obtain ⟨d, hd, _, hv⟩ := mem_highlight hc
  exact h d hd i (hv.trans hi)

theorem Within.write_number (h : Within program memory) (a n : Int) :
    Within program (memory.write a (.number n)) := by
  intro c hc i hi
  rcases mem_write hc with ⟨_, hv⟩ | ⟨_, hc⟩
  · rw [hi] at hv
    cases hv
  · exact h c hc i hi

def Placed (program : List Instruction) (memory : Memory) : Prop :=
  ∀ c ∈ memory, ∀ i, c.content = .instruction i →
    ∃ k : Nat, c.address = k ∧ program[k]? = some i

theorem Placed.within (h : Placed program memory) : Within program memory := by
  intro c hc i hi
  obtain ⟨k, _, hk⟩ := h c hc i hi
  exact List.mem_of_getElem? hk

theorem addresses_blank (size : Nat) :
    (blank size).map Cell.address = (List.range size).map fun k : Nat => (k : Int) := by
  simp only [blank, List.map_map, Function.comp_def]

end Memory

theorem Machine.ofSize_ok {size : Int} {m : Machine} (h : Machine.ofSize size = .ok m) :
    0 < size ∧ m = Machine.fresh size.toNat := by
  unfold Machine.ofSize at h
  split_ifs at h with hs
  exact ⟨Int.lt_of_not_ge hs, (Except.ok.inj h).symm⟩

theorem Machine.ofSize_of_pos {size : Int} (hs : 0 < size) :
    Machine.ofSize size = .ok (Machine.fresh size.toNat) := if_neg (Int.not_le.mpr hs)

namespace Loading
variable {memory : Memory} {c : Cell}

theorem load_ok {size : Int} {program : List Instruction} {data : DataSetup} {m : Machine}
    {log : Log} (h : load size program data = .ok (m, log)) :
    ∃ entries, 0 < size ∧ data.entries = .ok entries ∧
      m = { memory := fill entries (place program (Memory.blank size.toNat))
            output := [Machine.greeting, loadedLine program.length] } := by
  obtain ⟨m₀, hm, h⟩ := Except.bind_eq_ok_iff.mp h
  obtain ⟨entries, he, h⟩ := Except.bind_eq_ok_iff.mp h
  obtain ⟨hs, rfl⟩ := Machine.ofSize_ok hm
  exact ⟨entries, hs, he, (Prod.mk.inj (Except.ok.inj h)).1.symm⟩

theorem loadSource_ok {size : Int} {source : String} {data : DataSetup} {out : Outcome}
    {m : Machine} (h : loadSource size source data = .ok out) (hm : out.machine = some m) :
    ∃ program log, Assembly.read source = .ok program ∧ Assembly.problems program = [] ∧
      load size (program.map (·.instruction)) data = .ok (m, log) := by
  unfold loadSource at h
  cases hr : Assembly.read source with
  | error e =>
    rw [hr] at h
    cases h
  | ok program =>
    simp only [hr, Except.mapError, Except.ok_bind] at h
    cases hp : Assembly.problems program with
    | cons p ps =>
      rw [hp] at h
      obtain rfl := Except.ok.inj h
      cases hm
    | nil =>
      rw [hp] at h
      obtain ⟨⟨m', log⟩, hl, h⟩ := Except.bind_eq_ok_iff.mp h
      obtain rfl := Except.ok.inj h
      obtain rfl := Option.some.inj hm
      exact ⟨program, log, rfl, hp, hl⟩

section Map
variable {α : Type} {f : Cell → α}

theorem map_place (hf : ∀ c v, f { c with content := v } = f c) (program : List Instruction)
    (memory : Memory) : (place program memory).map f = memory.map f := by
  unfold place
  generalize (program.take instructionRegion).zipIdx = es
  induction es generalizing memory with
  | nil => rfl
  | cons e es ih => exact (ih _).trans (memory.map_write hf _ _)

theorem map_fill (hf : ∀ c v, f { c with content := v } = f c) (data : List (Int × Int))
    (memory : Memory) : (fill data memory).map f = memory.map f := by
  unfold fill
  induction data generalizing memory with
  | nil => rfl
  | cons e data ih => exact (ih _).trans (memory.map_write hf _ _)

end Map

theorem mem_fill {data : List (Int × Int)} (hc : c ∈ fill data memory)
    (hi : c.content = .instruction i) : c ∈ memory := by
  unfold fill at hc
  induction data generalizing memory with
  | nil => exact hc
  | cons e data ih =>
    rcases Memory.mem_write (ih hc) with ⟨_, hv⟩ | ⟨_, hm⟩
    · rw [hi] at hv
      cases hv
    · exact hm

theorem mem_place (hc : c ∈ place program memory) (hi : c.content = .instruction i) :
    c ∈ memory ∨ ∃ k : Nat, c.address = k ∧ k < instructionRegion ∧ program[k]? = some i := by
  -- for the induction the entries are any list, of which the last one to write a cell is found there
  have hw : ∀ (es : List (Instruction × Nat)) (memory : Memory),
      c ∈ es.foldl (fun m e => m.write (e.2 : Nat) (.instruction e.1)) memory →
      c ∈ memory ∨ ∃ e ∈ es, c.address = (e.2 : Nat) ∧ e.1 = i := by
    intro es
    induction es with
    | nil => exact fun _ hc => .inl hc
    | cons e es ih =>
      intro memory hc
      rcases ih _ hc with hc | ⟨e', he, h⟩
      · rcases Memory.mem_write hc with ⟨ha, hv⟩ | ⟨_, hm⟩
        · rw [hi] at hv
          exact .inr ⟨e, List.mem_cons_self, ha, (Content.instruction.inj hv).symm⟩
        · exact .inl hm
      · exact .inr ⟨e', List.mem_cons_of_mem e he, h⟩
  refine (hw _ _ hc).imp_right ?_
  rintro ⟨⟨j, k⟩, he, ha, rfl⟩
  have hk := List.mk_mem_zipIdx_iff_getElem?.mp he
  rw [List.getElem?_take] at hk
  split_ifs at hk with hl
  exact ⟨k, ha, hl, hk⟩

theorem placed_of_load {size : Int} {data : DataSetup} {m : Machine} {log : Log}
    (h : load size program data = .ok (m, log)) :
    m.memory.Placed (program.take (min instructionRegion size.toNat)) := by
  intro c hc i hi
  obtain ⟨entries, _, _, rfl⟩ := load_ok h
  have hc := mem_fill hc hi
  rcases mem_place hc hi with hb | ⟨k, ha, hk, hp⟩
  · obtain ⟨n, _, rfl⟩ := List.mem_map.mp hb
    cases hi
  · have hm := List.mem_map_of_mem (f := Cell.address) hc
    rw [map_place fun _ _ => rfl, Memory.addresses_blank, ha, List.mem_map] at hm
    obtain ⟨n, hn, he⟩ := hm
    obtain rfl := Int.ofNat.inj he
    refine ⟨n, ha, ?_⟩
    rwa [List.getElem?_take_of_lt (Nat.lt_min.mpr ⟨hk, List.mem_range.mp hn⟩)]

end Loading

end StoredProgram
