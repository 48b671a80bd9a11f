import StoredProgram.Proofs.Program.Start

/-! Straight-line code: operations on cells, each of which goes on to the next address. While none of
them stores over the code, it does what they do one after another, and a program of such operations
with a halting instruction at its end halts with their fold. -/

namespace StoredProgram

def Operation.Straight : Operation → Prop
  | .load _ | .store _ | .add _ | .sub _ => True
  | .jump _ | .jumpZero _ | .jumpNonzero _ | .halt => False

instance : DecidablePred Operation.Straight
  | .load _ | .store _ | .add _ | .sub _ => .isTrue trivial
  | .jump _ | .jumpZero _ | .jumpNonzero _ | .halt => .isFalse id

def Operation.instruction (op : Operation) : Instruction := ⟨op.opcode, op.operand?⟩

theorem Operation.operation?_instruction (op : Operation) : op.instruction.operation? = some op := by
  cases op <;> rfl

namespace View
variable {v : View} {op : Operation} {ops : List Operation} {code : List Instruction} {k : Nat}

theorem pc_act (hs : op.Straight) : (v.act op).pc = v.pc + 1 := by
  cases op with
  | load a | store a | add a | sub a => rfl
  | jump a | jumpZero a | jumpNonzero a | halt => exact hs.elim

theorem pc_foldl_act (hs : ∀ op ∈ ops, op.Straight) : (ops.foldl act v).pc = v.pc + ops.length := by
  induction ops generalizing v with
  | nil => exact (Int.add_zero _).symm
  | cons op ops ih =>
    obtain ⟨ho, hs⟩ := List.forall_mem_cons.mp hs
    rw [List.foldl_cons, ih hs, pc_act ho, List.length_cons]
    omega

theorem Holds.act (h : Holds code v.content)
    (hst : ∀ a : Int, op = .store a → a < 0 ∨ code.length ≤ a) : Holds code (v.act op).content := by
  cases op with
  | store a => exact Holds.put h (hst a rfl)
  | load a | add a | sub a | jump a | jumpZero a | jumpNonzero a | halt => exact h

theorem Holds.foldl_act (h : Holds code v.content)
    (hst : ∀ a : Int, .store a ∈ ops → a < 0 ∨ code.length ≤ a) :
    Holds code (ops.foldl View.act v).content := by
  induction ops generalizing v with
  | nil => exact h
  | cons op ops ih =>
    apply ih
    · exact Holds.act h fun a ho => hst a (ho ▸ List.mem_cons_self)
    · exact fun a ha => hst a (List.mem_cons_of_mem op ha)

theorem Holds.leads_foldl (h : Holds code v.content) (hpc : v.pc = k)
    (hk : ops.map Operation.instruction <+: code.drop k) (hs : ∀ op ∈ ops, op.Straight)
    (hst : ∀ a : Int, .store a ∈ ops → a < 0 ∨ code.length ≤ a) :
    Leads ops.length v (ops.foldl View.act v) := by
  induction ops generalizing v k with
  | nil => exact .refl
  | cons op ops ih =>
    obtain ⟨ho, hs⟩ := List.forall_mem_cons.mp hs
    obtain ⟨rest, hk⟩ := hk
    rw [List.map_cons, List.cons_append] at hk
    have hi : code[k]? = some op.instruction := by
      rw [← List.head?_drop, ← hk, List.head?_cons]
    have hd : code.drop (k + 1) = ops.map Operation.instruction ++ rest := by
      rw [← List.tail_drop, ← hk, List.tail_cons]
    have hop : v.operation? = some op := by
      have hc : v.content v.pc = some (.instruction op.instruction) := by
        rw [hpc, h k _ hi]
      rw [operation?_eq hc, op.operation?_instruction]
    have hn : op ≠ .halt := by
      rintro rfl
      exact ho
    have hpc' : (v.act op).pc = (k + 1 : Nat) := by
      rw [pc_act ho, hpc, Int.natCast_succ]
    refine .act hop hn (ih ?_ hpc' ⟨rest, hd.symm⟩ hs ?_)
    · exact Holds.act h fun a ha => hst a (ha ▸ List.mem_cons_self)
    · exact fun a ha => hst a (List.mem_cons_of_mem op ha)

end View

namespace Program
open View
variable {ops : List Operation} {size : Int} {data : DataSetup} {entries : List (Int × Int)}

def straightLine (ops : List Operation) (operand : Option Int) : List Instruction :=
  ops.map Operation.instruction ++ [⟨haltOpcode, operand⟩]

theorem length_straightLine (ops : List Operation) (operand : Option Int) :
    (straightLine ops operand).length = ops.length + 1 := by
  rw [straightLine, List.length_append, List.length_map, List.length_singleton]

theorem operation?_straightLine_last {w : View} {operand : Option Int}
    (h : Holds (straightLine ops operand) w.content) (hpc : w.pc = ops.length) :
    w.operation? = some .halt := by
  have hi : (straightLine ops operand)[ops.length]? = some ⟨haltOpcode, operand⟩ := by
    rw [straightLine, List.getElem?_append_right (List.length_map _).le, List.length_map, Nat.sub_self]
    rfl
  have hc : w.content w.pc = some (.instruction ⟨haltOpcode, operand⟩) := by
    rw [hpc, h _ _ hi]
  rw [operation?_eq hc]
  rfl

/-- Up to nine operations on cells with a halting instruction after them, where neither the initial
data nor a store goes to one of these addresses. The program halts with the step that ends its last
instruction and with no step before. Program counter, accumulator and contents are then those of the
operations carried out one after another on what was loaded, the code is intact, and the accumulator
is put out, if it can be written. -/
theorem straightLine_halts (hs : ∀ op ∈ ops, op.Straight) (hlen : ops.length ≤ 9)
    (hsize : ops.length < size) (he : data.entries = .ok entries)
    (hdata : ∀ e ∈ entries, e.1 < 0 ∨ ops.length < e.1)
    (hstore : ∀ a : Int, .store a ∈ ops → a < 0 ∨ ops.length < a) (operand : Option Int) :
    ∃ m₀ log, Loading.load size (straightLine ops operand) data = .ok (m₀, log) ∧
      let last := ops.foldl View.act ⟨0, 0, m₀.memory.read?⟩
      (∀ n < 1 + 3 * (ops.length + 1), ∃ m, m₀.steps n = .ok m ∧ m.halted = false) ∧
      (¬ Numeral.Unwritable last.acc →
        ∃ m, m₀.steps (1 + 3 * (ops.length + 1)) = .ok m ∧ m.halted = true ∧
          m.pc = ops.length ∧ m.acc = last.acc ∧ m.memory.read? = last.content ∧
          (∀ k : Nat, k ≤ ops.length →
            m.memory.read? k = ((straightLine ops operand)[k]?).map Content.instruction) ∧
          m.output.getLast? =
            some ("Program halted. Final ACC value: " ++ Numeral.text last.acc)) := by
  have hcode := length_straightLine ops operand
  have h0 : 0 < size := by omega
  obtain ⟨m₀, log, hload, hb⟩ := Loading.exists_begins_load h0 (straightLine ops operand) he
  have hr₀ : m₀.memory.read? = Loading.content? size (straightLine ops operand) entries :=
    congrArg View.content hb.view
  have hout : ∀ a : Int, .store a ∈ ops → a < 0 ∨ (straightLine ops operand).length ≤ a := by
    intro a ha
    have := hstore a ha
    omega
  have hc : Holds (straightLine ops operand) m₀.memory.read? := by
    rw [hr₀]
    apply Loading.holds_content?
    · omega
    · omega
    · intro e hm
      have := hdata e hm
      omega
  rw [← hr₀] at hb
  have hl : Leads ops.length ⟨0, 0, m₀.memory.read?⟩ (ops.foldl View.act ⟨0, 0, m₀.memory.read?⟩) :=
    Holds.leads_foldl hc rfl (List.prefix_append _ _) hs hout
  refine ⟨m₀, log, hload, fun n hn => hb.not_halted_before hl (by omega), fun hu => ?_⟩
  have hpc : (ops.foldl View.act ⟨0, 0, m₀.memory.read?⟩).pc = ops.length :=
    (pc_foldl_act hs).trans (Int.zero_add _)
  have hend := Holds.foldl_act (v := ⟨0, 0, m₀.memory.read?⟩) hc hout
  obtain ⟨m, hm, hh, hv, ho⟩ := hb.exists_halted hl (operation?_straightLine_last hend hpc) hu
  have hr : m.memory.read? = (ops.foldl View.act ⟨0, 0, m₀.memory.read?⟩).content :=
    congrArg View.content hv
  refine ⟨m, ?_, hh, (congrArg View.pc hv).trans hpc, congrArg View.acc hv, hr, ?_, ho⟩
  · rw [show 1 + 3 * (ops.length + 1) = 3 * ops.length + 4 by omega]
    exact hm
  · intro k hk
    have hi := List.getElem?_eq_getElem (l := straightLine ops operand) (i := k) (by omega)
    rw [hr, hend k _ hi, hi, Option.map_some]

theorem straightLine_halts_aliased :
    let ops : List Operation :=
      [.load 10, .add 10, .sub 0, .store 40, .add 40, .store 11, .store 10, .sub 11, .add 10]
    (∀ op ∈ ops, op.Straight) ∧ ops.length ≤ 9 ∧ (ops.length : Int) < 12 ∧
    (DataSetup.ofPairs [(10, 5)]).entries = .ok [(10, 5)] ∧
    (∀ e ∈ [((10 : Int), (5 : Int))], e.1 < 0 ∨ ops.length < e.1) ∧
    (∀ a : Int, .store a ∈ ops → a < 0 ∨ ops.length < a) ∧
    ∃ m₀ log m, Loading.load 12 (straightLine ops none) (.ofPairs [(10, 5)]) = .ok (m₀, log) ∧
      ¬ Numeral.Unwritable (ops.foldl View.act ⟨0, 0, m₀.memory.read?⟩).acc ∧
      m₀.steps 31 = .ok m ∧ m.halted = true ∧ m.pc = 9 ∧ m.acc = 10 ∧
      m.memory.read? 11 = some (.number 10) ∧ m.memory.read? 40 = none ∧
      m.output.getLast? = some "Program halted. Final ACC value: 10" := by
  intro ops
  have hs : ∀ op ∈ ops, op.Straight := by decide
  have he : (DataSetup.ofPairs [(10, 5)]).entries = .ok [(10, 5)] := rfl
  have hd : ∀ e ∈ [((10 : Int), (5 : Int))], e.1 < 0 ∨ ops.length < e.1 := by decide
  have hst : ∀ a : Int, .store a ∈ ops → a < 0 ∨ ops.length < a := by
    simp [ops]
  have hsize : (ops.length : Int) < 12 := by decide
  obtain ⟨m₀, log, hload, _, hend⟩ := straightLine_halts hs (by decide) hsize he hd hst none
  have hr : m₀.memory.read? =
      (Memory.ofContents 12 (Loading.contentAt (straightLine ops none) [(10, 5)])).read? := by
    have hm := (Loading.load_eq (by decide) (straightLine ops none) he).symm.trans hload
    rw [← (Prod.mk.inj (Except.ok.inj hm)).1]
    rfl
  have hacc : (ops.foldl View.act ⟨0, 0, m₀.memory.read?⟩).acc = 10 := by
    rw [hr]
    decide +kernel
  have hu : ¬ Numeral.Unwritable (ops.foldl View.act ⟨0, 0, m₀.memory.read?⟩).acc := by
    rw [hacc]
    decide +kernel
  obtain ⟨m, hm, hh, hpc, ha, hread, _, ho⟩ := hend hu
  rw [hacc] at ha ho
  refine ⟨hs, by decide, hsize, he, hd, hst, m₀, log, m, hload, hu, hm, hh, hpc, ha, ?_, ?_, ?_⟩
  · rw [hread, hr]
    decide +kernel
  · rw [hread, hr]
    decide +kernel
  · rw [ho]
    decide +kernel

end Program
end StoredProgram
