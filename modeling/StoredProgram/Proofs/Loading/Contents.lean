import Mathlib.Data.Set.List
import StoredProgram.Proofs.DataSetup

/-! What each cell holds after loading: the last value that the initial data have for its address, or
else the instruction at its place in the program. Neither what the machine held before nor the order
of data for different addresses matters. -/

namespace StoredProgram

namespace Memory
variable {size : Nat} {f g : Nat → Content}

def ofContents (size : Nat) (f : Nat → Content) : Memory :=
  (List.range size).map fun a : Nat => { address := a, content := f a, region := regionOf a }

theorem ofContents_congr (h : ∀ k < size, f k = g k) : ofContents size f = ofContents size g := by
  refine List.map_congr_left fun k hk => ?_
  rw [h k (List.mem_range.mp hk)]

theorem write_ofContents (size : Nat) (f : Nat → Content) (a : Int) (v : Content) :
    (ofContents size f).write a v = ofContents size fun k => if (k : Int) = a then v else f k := by
  rw [write, ofContents, List.map_map]
  refine List.map_congr_left fun k _ => ?_
  simp only [Function.comp_apply]
  split_ifs <;> rfl

theorem read?_ofContents {k : Nat} (hk : k < size) : (ofContents size f).read? k = some (f k) := by
  have hp : ((fun c : Cell => decide (c.address = (k : Int))) ∘ fun a : Nat =>
      ({ address := a, content := f a, region := regionOf a } : Cell)) = fun a => decide (a = k) := by
    funext a
    simp only [Function.comp_apply, Int.natCast_inj]
  have hf : (List.range size).find? (fun a => decide (a = k)) = some k := by
    rw [List.find?_range_eq_some]
    refine ⟨decide_eq_true rfl, List.mem_range.mpr hk, fun j hj => ?_⟩
    simp only [Nat.ne_of_lt hj, decide_false, Bool.not_false]
  rw [read?, cell?, ofContents, List.find?_map, hp, hf]
  rfl

end Memory

namespace Loading
variable {β γ : Type} {size : Nat} {program : List Instruction} {entries entries' : List (Int × Int)}

def last? (es : List (Int × β)) (a : Int) : Option β :=
  ((es.filter fun e => e.1 = a).getLast?).map (·.2)

def contentAt (program : List Instruction) (entries : List (Int × Int)) (a : Nat) : Content :=
  match last? entries a with
  | some v => .number v
  | none =>
    if h : a < min 10 program.length then .instruction (program.get ⟨a, (Nat.lt_min.mp h).2⟩)
    else .number 0

theorem last?_cons (e : Int × β) (es : List (Int × β)) (a : Int) :
    last? (e :: es) a = (last? es a).or (if e.1 = a then some e.2 else none) := by
  unfold last?
  by_cases h : e.1 = a
  · rw [if_pos h, List.filter_cons_of_pos (by simpa using h), List.getLast?_cons]
    cases (es.filter fun e => e.1 = a).getLast? <;> rfl
  · rw [if_neg h, List.filter_cons_of_neg (by simpa using h), Option.or_none]

theorem last?_eq_none {es : List (Int × β)} {a : Int} (h : ∀ e ∈ es, e.1 ≠ a) :
    last? es a = none := by
  have hf : (es.filter fun e => e.1 = a) = [] :=
    List.filter_eq_nil_iff.mpr fun e he => by simpa using h e he
  rw [last?, hf]
  rfl

theorem last?_map (f : β → γ) (es : List (Int × β)) (a : Int) :
    last? (es.map fun e => (e.1, f e.2)) a = (last? es a).map f := by
  simp only [last?, List.filter_map, List.getLast?_map, Option.map_map, Function.comp_def]

theorem last?_congr {es es' : List (Int × β)} {a : Int}
    (h : (es.filter fun e => e.1 = a) = es'.filter fun e => e.1 = a) : last? es a = last? es' a := by
  rw [last?, h, last?]

theorem last?_zipIdx (f : β → γ) (xs : List β) (n k : Nat) :
    last? ((xs.zipIdx n).map fun e => ((e.2 : Int), f e.1)) k =
      if n ≤ k then xs[k - n]?.map f else none := by
  induction xs generalizing n with
  | nil => simp [last?]
  | cons x xs ih =>
    rw [List.zipIdx_cons, List.map_cons, last?_cons, ih]
    rcases Nat.lt_trichotomy n k with h | rfl | h
    · obtain ⟨d, rfl⟩ := Nat.exists_eq_add_of_lt h
      have hn : ¬ (n : Int) = (n + d + 1 : Nat) := by omega
      rw [if_pos (Nat.succ_le_of_lt h), if_neg hn, if_pos (Nat.le_of_lt h), Option.or_none,
        show n + d + 1 - n = d + 1 by omega, show n + d + 1 - (n + 1) = d by omega,
        List.getElem?_cons_succ]
    · rw [if_neg (Nat.not_succ_le_self n), if_pos rfl, if_pos (Nat.le_refl n), Nat.sub_self]
      rfl
    · have hn : ¬ (n : Int) = k := by omega
      rw [if_neg (by omega), if_neg hn, if_neg (Nat.not_le_of_lt h)]
      rfl

def writeAll (es : List (Int × Content)) (memory : Memory) : Memory :=
  es.foldl (fun m e => m.write e.1 e.2) memory

theorem writeAll_ofContents (es : List (Int × Content)) (f : Nat → Content) :
    writeAll es (Memory.ofContents size f) =
      Memory.ofContents size fun k => (last? es k).getD (f k) := by
  induction es generalizing f with
  | nil => rfl
  | cons e es ih =>
    rw [writeAll, List.foldl_cons, Memory.write_ofContents]
    refine (ih _).trans (Memory.ofContents_congr fun k _ => ?_)
    rw [last?_cons]
    cases last? es (k : Int) with
    | some v => rfl
    | none =>
      simp only [eq_comm (a := e.1)]
      split_ifs <;> rfl

theorem fill_eq_writeAll (entries : List (Int × Int)) (memory : Memory) :
    fill entries memory = writeAll (entries.map fun e => (e.1, .number e.2)) memory := by
  rw [writeAll, List.foldl_map, fill]

theorem place_eq_writeAll (program : List Instruction) (memory : Memory) :
    place program memory = writeAll
      (((program.take instructionRegion).zipIdx).map fun e => ((e.2 : Int), .instruction e.1))
      memory := by
  rw [writeAll, List.foldl_map, place]

theorem contentAt_of_getElem? {k : Nat} {i : Instruction} (hk : k < 10)
    (h : program[k]? = some i) (he : ∀ e ∈ entries, e.1 ≠ k) :
    contentAt program entries k = .instruction i := by
  obtain ⟨hl, rfl⟩ := List.getElem?_eq_some_iff.mp h
  rw [contentAt, last?_eq_none he]
  exact dif_pos (Nat.lt_min.mpr ⟨hk, hl⟩)

theorem place_blank (size : Nat) (program : List Instruction) :
    place program (Memory.blank size) = Memory.ofContents size fun k =>
      ((program.take instructionRegion)[k]?.map Content.instruction).getD (.number 0) := by
  rw [place_eq_writeAll,
    show Memory.blank size = Memory.ofContents size fun _ => .number 0 from rfl, writeAll_ofContents]
  refine Memory.ofContents_congr fun k _ => ?_
  rw [last?_zipIdx, if_pos (Nat.zero_le k), Nat.sub_zero]

theorem fill_place_blank (size : Nat) (program : List Instruction) (entries : List (Int × Int)) :
    fill entries (place program (Memory.blank size)) =
      Memory.ofContents size (contentAt program entries) := by
  rw [fill_eq_writeAll, place_blank, writeAll_ofContents]
  refine Memory.ofContents_congr fun k _ => ?_
  have hp : ((program.take instructionRegion)[k]?.map Content.instruction).getD (.number 0) =
      if h : k < min 10 program.length then .instruction (program.get ⟨k, (Nat.lt_min.mp h).2⟩)
      else .number 0 := by
    split_ifs with h
    · have hr : k < instructionRegion := (Nat.lt_min.mp h).1
      rw [List.getElem?_take_of_lt hr, List.getElem?_eq_getElem (Nat.lt_min.mp h).2]
      rfl
    · rw [List.getElem?_eq_none (by rw [List.length_take]; exact Nat.le_of_not_lt h)]
      rfl
  rw [last?_map, hp, contentAt]
  cases last? entries (k : Int) <;> rfl

theorem load_eq {size : Int} (hs : 0 < size) (program : List Instruction) {data : DataSetup}
    (he : data.entries = .ok entries) :
    load size program data = .ok
      ({ memory := Memory.ofContents size.toNat (contentAt program entries)
         output := [Machine.greeting, loadedLine program.length] }, loadedLog program.length) := by
  rw [load, Machine.ofSize_of_pos hs, he, ← fill_place_blank]
  rfl

end Loading

namespace DataSetup
variable {data data' : DataSetup} {entries : List (Int × Int)} {n : Nat}

def parts : DataSetup → List (Except Fault (Int × Int))
  | .items xs => xs.map fun x => pair x >>= entry
  | .table es => es.map entry

def At (a : Int) (p : Except Fault (Int × Int)) : Prop := ∃ v, p = .ok (a, v)

instance (a : Int) : DecidablePred (At a)
  | .ok (b, v) => decidable_of_iff (b = a) ⟨fun h => ⟨v, by rw [h]⟩, fun ⟨_, h⟩ => by cases h; rfl⟩
  | .error _ => isFalse nofun

/-- Initial data between which a memory of `n` cells makes no difference. -/
inductive Interchangeable (n : Nat) : DataSetup → DataSetup → Prop
  | listed {es : List (Value × Value)} {xs : List Value} :
      List.Forall₂ (fun e x => x.elements = .ok [e.1, e.2]) es xs →
      Interchangeable n (.table es) (.items xs)
  /-- Entries with one address stay in their order. -/
  | reordered {data data' : DataSetup} : data'.parts.Perm data.parts →
      (∀ a, data'.parts.filter (At a ·) = data.parts.filter (At a ·)) →
      Interchangeable n data data'
  /-- Entries for addresses that have a cell are all kept. -/
  | reduced {data data' : DataSetup} : data'.parts.Sublist data.parts →
      (∀ a : Nat, a < n → data'.parts.filter (At a ·) = data.parts.filter (At a ·)) →
      Interchangeable n data data'

theorem entries_eq_ok_iff : data.entries = .ok entries ↔ data.parts = entries.map .ok := by
  cases data with
  | items xs => exact Except.mapM_eq_ok_iff
  | table es => exact Except.mapM_eq_ok_iff

theorem parts_items_eq {es : List (Value × Value)} {xs : List Value}
    (h : List.Forall₂ (fun e x => x.elements = .ok [e.1, e.2]) es xs) :
    (items xs).parts = (table es).parts := by
  induction h with
  | nil => rfl
  | cons hx _ ih =>
    rw [parts, List.map_cons, pair_eq_ok_iff.mpr hx, Except.ok_bind]
    exact congrArg _ ih

theorem filter_at (entries : List (Int × Int)) (a : Int) :
    (entries.map Except.ok).filter (At a ·) =
      (entries.filter fun e => e.1 = a).map (Except.ok (ε := Fault)) := by
  rw [List.filter_map]
  refine congrArg _ (List.filter_congr fun e _ => ?_)
  rw [Function.comp_apply, decide_eq_decide]
  constructor
  · rintro ⟨v, h⟩
    rw [Except.ok.inj h]
  · rintro rfl
    exact ⟨e.2, rfl⟩

theorem exists_entries_of_subset (h : data'.parts ⊆ data.parts) (he : data.entries = .ok entries) :
    ∃ entries', data'.entries = .ok entries' := by
  rw [entries_eq_ok_iff] at he
  have hm : data'.parts ∈ Set.range (List.map (Except.ok (ε := Fault) (α := Int × Int))) := by
    rw [Set.range_list_map]
    intro p hp
    obtain ⟨e, _, rfl⟩ := List.mem_map.mp (he ▸ h hp)
    exact ⟨e, rfl⟩
  obtain ⟨entries', hp⟩ := hm
  exact ⟨entries', entries_eq_ok_iff.mpr hp.symm⟩

theorem exists_entries_of_filter (hs : data'.parts ⊆ data.parts)
    (hf : ∀ a : Nat, a < n → data'.parts.filter (At a ·) = data.parts.filter (At a ·))
    (he : data.entries = .ok entries) :
    ∃ entries', data'.entries = .ok entries' ∧ ∀ a : Nat, a < n →
      (entries'.filter fun e => e.1 = (a : Int)) = entries.filter fun e => e.1 = (a : Int) := by
  obtain ⟨entries', he'⟩ := exists_entries_of_subset hs he
  refine ⟨entries', he', fun a ha => ?_⟩
  have hm := hf a ha
  rw [entries_eq_ok_iff.mp he, entries_eq_ok_iff.mp he', filter_at, filter_at] at hm
  exact (List.map_inj_right fun _ _ => Except.ok.inj).mp hm

theorem Interchangeable.exists_entries (h : Interchangeable n data data')
    (he : data.entries = .ok entries) :
    ∃ entries', data'.entries = .ok entries' ∧ ∀ a : Nat, a < n →
      (entries'.filter fun e => e.1 = (a : Int)) = entries.filter fun e => e.1 = (a : Int) := by
  cases h with
  | listed hx =>
    refine ⟨entries, ?_, fun _ _ => rfl⟩
    rw [entries_eq_ok_iff, parts_items_eq hx, ← entries_eq_ok_iff, he]
  | reordered hp hf => exact exists_entries_of_filter hp.subset (fun a _ => hf a) he
  | reduced hs hf => exact exists_entries_of_filter hs.subset hf he

end DataSetup

namespace Loading
open DataSetup

/-- The size of the machine in whose place a program is loaded, or that of a standard one. -/
def sizeFor (old : Option Machine) : Nat := (old.map (·.memory.length)).getD Machine.standardSize

/-- With data that can be taken for integers, loading gives a fresh machine of the size of the old
one, in which each cell holds the last value that the data have for it or else the instruction at its
place among the first ten; and a machine without cells is turned down. Only the size of the old
machine matters, and of the data only the values for each cell in their order. -/
theorem load_contents (old : Option Machine) (program : List Instruction) {data : DataSetup}
    {entries : List (Int × Int)} (he : data.entries = .ok entries) :
    let n := sizeFor old
    (0 < n → load n program data = .ok
      ({ Machine.fresh n with
          memory := (List.range n).map fun a : Nat =>
            { address := a
              content := contentAt program entries a
              region := Memory.regionOf a
              active := false }
          output := [Machine.greeting, loadedLine program.length] },
        loadedLog program.length)) ∧
    (n = 0 → load n program data = .error .memorySize) ∧
    ∀ old' data', sizeFor old' = n → Interchangeable n data data' →
      load (sizeFor old') program data' = load n program data := by
  intro n
  refine ⟨fun hn => load_eq (by omega) program he, fun hn => ?_, fun old' data' ho hd => ?_⟩
  · rw [hn]
    rfl
  · rw [ho]
    rcases Nat.eq_zero_or_pos n with hn | hn
    · rw [hn]
      rfl
    · obtain ⟨entries', he', hf⟩ := hd.exists_entries he
      have hc : Memory.ofContents n (contentAt program entries') =
          Memory.ofContents n (contentAt program entries) := by
        refine Memory.ofContents_congr fun k hk => ?_
        rw [contentAt, last?_congr (hf k hk), contentAt]
      rw [load_eq (by omega) program he', load_eq (by omega) program he, Int.toNat_natCast, hc]

theorem load_contents_repeated :
    let old : Machine := { memory := [⟨7, .number 1, .data, true⟩, ⟨7, .number 2, .data, false⟩] }
    let program : List Instruction := [⟨"HALT", none⟩, ⟨"JUMP", some 0⟩, ⟨"ADD", some 1⟩]
    let data : DataSetup := .table [(.text "1", .int 7), (.int 40, .int 3), (.int 1, .bool true)]
    let listed : DataSetup :=
      .items [.pair (.text "1") (.int 7), .list [.int 40, .int 3], .pair (.int 1) (.bool true)]
    let reordered : DataSetup := .table [(.text "1", .int 7), (.int 1, .bool true), (.int 40, .int 3)]
    let reduced : DataSetup := .table [(.text "1", .int 7), (.int 1, .bool true)]
    data.entries = .ok [(1, 7), (40, 3), (1, 1)] ∧ sizeFor (some old) = 2 ∧
    Interchangeable 2 data listed ∧ Interchangeable 2 data reordered ∧
    Interchangeable 2 data reduced ∧
    ∀ data' ∈ [data, listed, reordered, reduced], ∃ m log,
      load (sizeFor (some old)) program data' = .ok (m, log) ∧
      m.memory.map Cell.content = [.instruction ⟨"HALT", none⟩, .number 1] ∧
      m.output = ["CPU initialized. Ready to load program.", "Program loaded. 3 instructions."] := by
  intro old program data listed reordered reduced
  have he : data.entries = .ok [(1, 7), (40, 3), (1, 1)] := by decide +kernel
  have hl : Interchangeable 2 data listed :=
    .listed (.cons rfl (.cons rfl (.cons rfl .nil)))
  have ho : Interchangeable 2 data reordered := by
    have he' : reordered.entries = .ok [(1, 7), (1, 1), (40, 3)] := by decide +kernel
    refine .reordered (by decide +kernel) fun a => ?_
    rw [entries_eq_ok_iff.mp he, entries_eq_ok_iff.mp he', filter_at, filter_at]
    by_cases h : (40 : Int) = a
    · subst h
      rfl
    · simp [List.filter_cons, h]
  have hr : Interchangeable 2 data reduced := .reduced (by decide +kernel) (by decide +kernel)
  obtain ⟨hc, _, hi⟩ := load_contents (some old) program he
  have hd := hc (by decide)
  refine ⟨he, rfl, hl, ho, hr, ?_⟩
  intro data' hm
  have hs : load (sizeFor (some old)) program data' = load (sizeFor (some old)) program data := by
    simp only [List.mem_cons, List.not_mem_nil, or_false] at hm
    rcases hm with rfl | rfl | rfl | rfl
    · rfl
    · exact hi (some old) _ rfl hl
    · exact hi (some old) _ rfl ho
    · exact hi (some old) _ rfl hr
  exact ⟨_, _, hs.trans hd, by decide +kernel, by decide +kernel⟩

theorem load_no_cells :
    (∃ entries, (DataSetup.items []).entries = .ok entries) ∧
    ¬ ∃ r, load (sizeFor (some { memory := [] })) [⟨"HALT", none⟩] (.items []) = .ok r := by
  refine ⟨⟨[], rfl⟩, ?_⟩
  rintro ⟨r, h⟩
  cases h

end Loading
end StoredProgram
