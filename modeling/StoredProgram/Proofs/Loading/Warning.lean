import StoredProgram.Proofs.Loading.Contents
import StoredProgram.Proofs.Numeral

/-! What loading tells about the instructions that find no room. The warning goes by the ten addresses
that are meant for instructions, and it is right for a program that fits and for a memory that has
all of these addresses; in a smaller memory more instructions are lost than it tells of. -/

namespace StoredProgram

def Content.instruction? : Content → Option Instruction
  | .instruction i => some i
  | .number _ => none

theorem Content.instruction?_eq_some_iff {v : Content} {i : Instruction} :
    v.instruction? = some i ↔ v = .instruction i := by
  cases v with
  | number n => exact iff_of_false nofun nofun
  | instruction j => exact Option.some_inj.trans (Content.instruction.injEq j i).symm.to_iff

def Memory.instructions (memory : Memory) : List Instruction :=
  memory.filterMap (·.content.instruction?)

namespace Loading
variable {size : Nat} {program : List Instruction} {memory : Memory} {i : Instruction} {j k n : Nat}

def truncation (fit total : Nat) : Record :=
  ⟨.warning, s!"Only the first {count fit} of {count total} " ++
    "instructions fit in instruction memory."⟩

def Loses (program : List Instruction) (memory : Memory) : Prop :=
  ∃ (k : Nat) (i : Instruction), program[k]? = some i ∧ memory.read? k ≠ some (.instruction i)

/-- The log warns just when an instruction is lost, and with the number of those that are not. -/
structure Accounts (program : List Instruction) (memory : Memory) (log : Log) : Prop where
  warns : (∃ fit, truncation fit program.length ∈ log) ↔ Loses program memory
  fit : ∀ fit, truncation fit program.length ∈ log → fit = memory.instructions.length

theorem count_injective : Function.Injective count :=
  fun _ _ h => Numeral.decimal_injective (String.ofList_injective h)

theorem truncation_inj {total : Nat} : truncation j total = truncation k total ↔ j = k := by
  refine ⟨fun h => ?_, congrArg (truncation · total)⟩
  have ht := (Record.mk.inj h).2
  simp only [String.append_left_inj, String.append_right_inj] at ht
  exact count_injective ht

theorem loadedLog_eq (n : Nat) :
    loadedLog n = (if 10 < n then [truncation 10 n] else []) ++
      Log.info s!"Program loaded: {count n} instructions." := rfl

theorem truncation_mem_loadedLog_iff : truncation j n ∈ loadedLog n ↔ j = 10 ∧ 10 < n := by
  have hi : truncation j n ∉ Log.info s!"Program loaded: {count n} instructions." := by
    intro h
    have hl := congrArg Record.level (List.mem_singleton.mp h)
    cases hl
  rw [loadedLog_eq, List.mem_append, or_iff_left hi]
  split_ifs with h
  · rw [List.mem_singleton, truncation_inj, and_iff_left h]
  · exact iff_of_false List.not_mem_nil fun hj => h hj.2

theorem instruction?_placed (x : Option Instruction) :
    ((x.map Content.instruction).getD (.number 0)).instruction? = x := by
  cases x <;> rfl

theorem read?_place_blank :
    (place program (Memory.blank size)).read? k = some (.instruction i) ↔
      k < min 10 size ∧ program[k]? = some i := by
  rw [place_blank, Nat.lt_min]
  by_cases hk : k < size
  · rw [Memory.read?_ofContents hk, Option.some_inj, ← Content.instruction?_eq_some_iff,
      instruction?_placed, List.getElem?_take, and_iff_left hk]
    split_ifs with hr
    · exact (and_iff_right hr).symm
    · exact iff_of_false nofun fun h => hr h.1
  · refine iff_of_false (fun h => ?_) fun h => hk h.1.2
    obtain ⟨c, hc, ha, _⟩ := Memory.exists_cell_of_read? h
    obtain ⟨a, hm, rfl⟩ := List.mem_map.mp hc
    obtain rfl := Int.ofNat.inj ha
    exact hk (List.mem_range.mp hm)

theorem loses_place_blank_iff :
    Loses program (place program (Memory.blank size)) ↔ min 10 size < program.length := by
  constructor
  · rintro ⟨k, i, hk, hr⟩
    have hl := (List.getElem?_eq_some_iff.mp hk).1
    refine Nat.lt_of_not_le fun hn => hr ?_
    exact read?_place_blank.mpr ⟨Nat.lt_of_lt_of_le hl hn, hk⟩
  · intro h
    refine ⟨min 10 size, _, List.getElem?_eq_getElem h, fun hr => ?_⟩
    exact Nat.lt_irrefl _ (read?_place_blank.mp hr).1

theorem filterMap_getElem?_range {α : Type} (xs : List α) (n : Nat) :
    (List.range n).filterMap (xs[·]?) = xs.take n := by
  induction n with
  | zero => rfl
  | succ n ih =>
    rw [List.range_succ, List.filterMap_append, ih, List.take_add_one, List.filterMap_cons,
      List.filterMap_nil]
    cases xs[n]? <;> rfl

theorem instructions_place_blank (size : Nat) (program : List Instruction) :
    (place program (Memory.blank size)).instructions = program.take (min 10 size) := by
  rw [place_blank, Memory.instructions, Memory.ofContents, List.filterMap_map]
  simp only [Function.comp_def, instruction?_placed]
  rw [filterMap_getElem?_range, List.take_take, Nat.min_comm]
  rfl

theorem accounts_iff :
    Accounts program (place program (Memory.blank size)) (loadedLog program.length) ↔
      10 ≤ size ∨ program.length ≤ size := by
  have hw : (∃ fit, truncation fit program.length ∈ loadedLog program.length) ↔
      10 < program.length := by
    simp only [truncation_mem_loadedLog_iff, exists_eq_left]
  have hl := congrArg List.length (instructions_place_blank size program)
  rw [List.length_take] at hl
  constructor
  · rintro ⟨hloses, hfit⟩
    rw [hw, loses_place_blank_iff] at hloses
    -- a longer program is warned of, with a number that takes ten cells; a shorter one must not be lost
    by_cases h : 10 < program.length
    · have := hfit 10 (truncation_mem_loadedLog_iff.mpr ⟨rfl, h⟩)
      omega
    · omega
  · intro h
    refine ⟨?_, fun fit hm => ?_⟩
    · rw [hw, loses_place_blank_iff]
      omega
    · obtain ⟨rfl, hm⟩ := truncation_mem_loadedLog_iff.mp hm
      omega

/-- Loading warns just of a program of more than ten instructions, and says then that ten of them fit.
Before the initial data the first instructions of the program stand in memory, as many as there are
cells for up to the tenth, and the rest is lost. So what the warning tells is right in a memory of
ten cells or more and for a program that is no longer than the memory, and it is wrong otherwise. -/
theorem load_warns (old : Option Machine) (program : List Instruction) {data : DataSetup}
    {entries : List (Int × Int)} (he : data.entries = .ok entries) :
    let n := sizeFor old
    let placed := place program (Memory.blank n)
    (n = 0 → load n program data = .error .memorySize) ∧
    (0 < n → ∃ m log, load n program data = .ok (m, log) ∧ m.memory = fill entries placed ∧
      placed.instructions = program.take (min 10 n) ∧
      (Loses program placed ↔ min 10 n < program.length) ∧
      (∀ fit, truncation fit program.length ∈ log ↔ fit = 10 ∧ 10 < program.length) ∧
      (Accounts program placed log ↔ 10 ≤ n ∨ program.length ≤ n)) := by
  intro n placed
  refine ⟨fun hn => ?_, fun hn => ?_⟩
  · rw [hn]
    rfl
  · refine ⟨_, _, load_eq (by omega) program he, ?_, instructions_place_blank n program,
      loses_place_blank_iff, fun _ => truncation_mem_loadedLog_iff, accounts_iff⟩
    rw [Int.toNat_natCast]
    exact (fill_place_blank n program entries).symm

theorem load_warns_small_memory :
    let small : Machine := { memory := Memory.blank 3 }
    let large : Machine := { memory := Memory.blank 10 }
    let program (k : Nat) : List Instruction := List.replicate k ⟨"HALT", none⟩
    (∃ m log, load (sizeFor (some small)) (program 5) (.items []) = .ok (m, log) ∧
      Loses (program 5) m.memory ∧ ∀ fit, truncation fit 5 ∉ log) ∧
    (∃ m log, load (sizeFor (some small)) (program 12) (.items []) = .ok (m, log) ∧
      truncation 10 12 ∈ log ∧ m.memory.instructions.length = 3) ∧
    ∃ m log, load (sizeFor (some large)) (program 12) (.items []) = .ok (m, log) ∧
      Accounts (program 12) m.memory log := by
  intro small large program
  have he : (DataSetup.items []).entries = .ok [] := rfl
  have hf : ∀ memory : Memory, fill [] memory = memory := fun _ => rfl
  refine ⟨?_, ?_, ?_⟩
  · obtain ⟨m, log, hl, hm, _, hloses, hwarns, _⟩ :=
      (load_warns (some small) (program 5) he).2 (by decide)
    refine ⟨m, log, hl, ?_, fun fit hf => ?_⟩
    · rw [hm, hf]
      exact hloses.mpr (by decide)
    · exact absurd ((hwarns fit).mp hf).2 (by decide)
  · obtain ⟨m, log, hl, hm, hi, _, hwarns, _⟩ :=
      (load_warns (some small) (program 12) he).2 (by decide)
    refine ⟨m, log, hl, (hwarns 10).mpr (by decide), ?_⟩
    rw [hm, hf, hi, List.length_take, List.length_replicate]
    rfl
  · obtain ⟨m, log, hl, hm, _, _, _, haccounts⟩ :=
      (load_warns (some large) (program 12) he).2 (by decide)
    refine ⟨m, log, hl, ?_⟩
    rw [hm, hf]
    exact haccounts.mpr (.inl (by decide))

end Loading
end StoredProgram
