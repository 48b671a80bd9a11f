import Mathlib.Tactic.SplitIfs
import StoredProgram.Memory

/-! Reads, writes and marks on cells in any order, where an address may have several cells or none.
A later write to an address replaces an earlier one, writes to different addresses and marks do not
get in each other's way, and neither changes where the cells are. -/

namespace StoredProgram.Memory
variable {memory : Memory} {a b : Int} {v : Content} {c : Cell}

section Map
variable {α : Type} {f : Cell → α}

theorem map_highlight (hf : ∀ c b, f { c with active := b } = f c) (m : Memory) (a : Option Int) :
    (m.highlight a).map f = m.map f := by
  rw [highlight, List.map_map]
  exact List.map_congr_left fun c _ => hf c _

theorem map_write (hf : ∀ c v, f { c with content := v } = f c) (m : Memory) (a : Int)
    (v : Content) : (m.write a v).map f = m.map f := by
  rw [write, List.map_map]
  refine List.map_congr_left fun c _ => ?_
  simp only [Function.comp_apply]
  split_ifs
  · exact hf c v
  · rfl

end Map

theorem mem_write (hc : c ∈ memory.write a v) :
    c.address = a ∧ c.content = v ∨ c.address ≠ a ∧ c ∈ memory := by
  obtain ⟨d, hd, rfl⟩ := List.mem_map.mp hc
  by_cases ha : d.address = a
  · rw [if_pos ha]
    exact .inl ⟨ha, rfl⟩
  · rw [if_neg ha]
    exact .inr ⟨ha, hd⟩

theorem mem_highlight {b : Option Int} (hc : c ∈ memory.highlight b) :
    ∃ d ∈ memory, d.address = c.address ∧ d.content = c.content := by
  obtain ⟨d, hd, rfl⟩ := List.mem_map.mp hc
  exact ⟨d, hd, rfl, rfl⟩

theorem exists_cell_of_read? (h : memory.read? a = some v) :
    ∃ c ∈ memory, c.address = a ∧ c.content = v := by
  obtain ⟨c, hc, rfl⟩ := Option.map_eq_some_iff.mp h
  have ha := List.find?_some (p := fun c : Cell => decide (c.address = a)) hc
  exact ⟨c, List.mem_of_find?_eq_some hc, of_decide_eq_true ha, rfl⟩

theorem isSome_cell?_iff (m : Memory) (a : Int) :
    (m.cell? a).isSome = true ↔ a ∈ m.map Cell.address := by
  simp only [cell?, List.find?_isSome, decide_eq_true_eq, List.mem_map]

theorem isSome_read?_iff (memory : Memory) (a : Int) :
    (memory.read? a).isSome = true ↔ a ∈ memory.map Cell.address := by
  rw [read?, Option.isSome_map, isSome_cell?_iff]

theorem read?_highlight (memory : Memory) (a : Option Int) (b : Int) :
    (memory.highlight a).read? b = memory.read? b := by
  simp only [read?, cell?, highlight, List.find?_map, Option.map_map, Function.comp_def]

theorem read?_write (memory : Memory) (a b : Int) (v : Content) :
    (memory.write a v).read? b =
      if b = a then (memory.read? b).map fun _ => v else memory.read? b := by
  -- addresses stay, so the cell that is found is the one at the same place as before
  have hp : (fun c : Cell => decide (c.address = b)) ∘
      (fun c : Cell => if c.address = a then { c with content := v } else c) =
        fun c => decide (c.address = b) := by
    funext c
    simp only [Function.comp_apply]
    split_ifs <;> rfl
  simp only [read?, cell?, Memory.write, List.find?_map, hp]
  cases hc : memory.find? fun c => decide (c.address = b) with
  | none => simp
  | some c =>
    have hb : c.address = b := by simpa using List.find?_some hc
    simp only [Option.map_some, hb]
    split_ifs <;> rfl

theorem read?_write_eq (memory : Memory) (a b : Int) (v : Content) :
    (memory.write a v).read? b =
      if b = a ∧ a ∈ memory.map Cell.address then some v else memory.read? b := by
  rw [read?_write]
  by_cases hb : b = a
  · subst hb
    have hs := memory.isSome_read?_iff b
    rw [if_pos rfl]
    cases hr : memory.read? b with
    | none =>
      rw [hr] at hs
      rw [if_neg fun h => Bool.false_ne_true (hs.mpr h.2)]
      rfl
    | some u =>
      rw [hr] at hs
      rw [if_pos ⟨rfl, hs.mp rfl⟩]
      rfl
  · rw [if_neg hb, if_neg fun h => hb h.1]

theorem write_eq_self (h : ∀ c ∈ memory, c.address = a → c.content = v) :
    memory.write a v = memory := by
  refine (List.map_congr_left fun c hc => ?_).trans memory.map_id
  split_ifs with ha
  · rw [← h c hc ha]
    rfl
  · rfl

theorem write_of_notMem (h : a ∉ memory.map Cell.address) (v : Content) :
    memory.write a v = memory :=
  write_eq_self fun _ hc ha => absurd (List.mem_map.mpr ⟨_, hc, ha⟩) h

theorem write_write (memory : Memory) (a : Int) (v w : Content) :
    (memory.write a v).write a w = memory.write a w := by
  simp only [write, List.map_map]
  apply List.map_congr_left
  intro c _
  rw [Function.comp_apply]
  by_cases h : c.address = a
  · rw [if_pos h, if_pos h, if_pos h]
  · rw [if_neg h, if_neg h]

theorem write_comm (memory : Memory) (h : a ≠ b) (v w : Content) :
    (memory.write a v).write b w = (memory.write b w).write a v := by
  simp only [write, List.map_map]
  apply List.map_congr_left
  intro c _
  rw [Function.comp_apply, Function.comp_apply]
  by_cases ha : c.address = a
  · have hb : c.address ≠ b := fun hb => h (ha.symm.trans hb)
    rw [if_pos ha, if_neg hb, if_neg hb, if_pos ha]
  · rw [if_neg ha]
    split_ifs
    · rfl
    · rfl

theorem highlight_highlight (memory : Memory) (a b : Option Int) :
    (memory.highlight a).highlight b = memory.highlight b := by
  rw [highlight, highlight, List.map_map]
  rfl

theorem highlight_write (memory : Memory) (a : Int) (v : Content) (b : Option Int) :
    (memory.write a v).highlight b = (memory.highlight b).write a v := by
  simp only [write, highlight, List.map_map]
  apply List.map_congr_left
  intro c _
  rw [Function.comp_apply, Function.comp_apply]
  by_cases h : c.address = a
  · rw [if_pos h, if_pos h]
  · rw [if_neg h, if_neg h]

theorem active_iff_of_mem_highlight {x : Option Int} (hc : c ∈ memory.highlight x) :
    c.active = true ↔ some c.address = x := by
  obtain ⟨d, _, rfl⟩ := List.mem_map.mp hc
  exact decide_eq_true_iff

structure SameCells (memory memory' : Memory) : Prop where
  length : memory'.length = memory.length
  addresses : memory'.map Cell.address = memory.map Cell.address
  regions : memory'.map Cell.region = memory.map Cell.region

theorem sameCells_write (memory : Memory) (a : Int) (v : Content) :
    memory.SameCells (memory.write a v) where
  length := List.length_map _
  addresses := map_write (fun _ _ => rfl) memory a v
  regions := map_write (fun _ _ => rfl) memory a v

theorem sameCells_highlight (memory : Memory) (x : Option Int) :
    memory.SameCells (memory.highlight x) where
  length := List.length_map _
  addresses := map_highlight (fun _ _ => rfl) memory x
  regions := map_highlight (fun _ _ => rfl) memory x

/-- What is written to an address with a cell is read there, and all else is read as before. Of two
writes to one address the later counts, the order of writes to two addresses does not, and a write
that finds no cell changes nothing. The latest marks replace those before, on just the cells with the
address, and contents and marks do not depend on each other. The cells stay where they are. -/
theorem access_laws (memory : Memory) (a b : Int) (v w : Content) (x y : Option Int) :
    ((memory.write a v).read? b =
      if b = a ∧ a ∈ memory.map Cell.address then some v else memory.read? b) ∧
    (memory.write a v).write a w = memory.write a w ∧
    (a ≠ b → (memory.write a v).write b w = (memory.write b w).write a v) ∧
    (a ∉ memory.map Cell.address → memory.write a v = memory) ∧
    (memory.highlight x).highlight y = memory.highlight y ∧
    (memory.write a v).highlight x = (memory.highlight x).write a v ∧
    (memory.highlight x).read? b = memory.read? b ∧
    memory.SameCells (memory.write a v) ∧ memory.SameCells (memory.highlight x) ∧
    ∀ c ∈ memory.highlight x, c.active = true ↔ some c.address = x := by
  refine ⟨memory.read?_write_eq a b v, memory.write_write a v w, fun h => memory.write_comm h v w,
    fun h => write_of_notMem h v, memory.highlight_highlight x y, memory.highlight_write a v x,
    memory.read?_highlight x b, memory.sameCells_write a v, memory.sameCells_highlight x, ?_⟩
  intro c hc
  exact active_iff_of_mem_highlight hc

theorem access_laws_repeated :
    let memory : Memory := [⟨-1, .number 4, .data, true⟩, ⟨3, .instruction ⟨"HALT", none⟩, .data, false⟩,
      ⟨-1, .number 5, .instruction, false⟩]
    (memory.write (-1) (.number 7)).read? (-1) = some (.number 7) ∧
    (memory.write (-1) (.number 7)).write 3 (.number 8) =
      (memory.write 3 (.number 8)).write (-1) (.number 7) ∧
    memory.write 9 (.number 7) = memory ∧
    ((memory.highlight (some (-1))).map Cell.active) = [true, false, true] := by
  intro memory
  obtain ⟨hread, _⟩ := access_laws memory (-1) (-1) (.number 7) (.number 8) (some (-1)) none
  obtain ⟨_, _, hcomm, _⟩ := access_laws memory (-1) 3 (.number 7) (.number 8) (some (-1)) none
  obtain ⟨_, _, _, habsent, _⟩ := access_laws memory 9 3 (.number 7) (.number 8) (some (-1)) none
  refine ⟨?_, hcomm (by decide), habsent (by decide), by decide⟩
  rw [hread, if_pos (by decide)]

end StoredProgram.Memory
