import StoredProgram.Proofs.Isa.Cycle
import StoredProgram.Proofs.Machine.Code
import StoredProgram.Proofs.Machine.Shape

/-! Programs by what they work on: the program counter, the accumulator and the contents of the
cells. An instruction takes three steps, and what it does to these three does not depend on anything
else of the machine. -/

namespace StoredProgram

structure View where
  pc : Int
  acc : Int
  content : Int → Option Content

namespace View

def put (content : Int → Option Content) (a n : Int) : Int → Option Content :=
  fun b => if b = a then (content b).map fun _ => .number n else content b

def act (v : View) : Operation → View
  | .load a => { v with pc := v.pc + 1, acc := Content.value (v.content a) }
  | .store a => { v with pc := v.pc + 1, content := put v.content a v.acc }
  | .add a => { v with pc := v.pc + 1, acc := v.acc + Content.value (v.content a) }
  | .sub a => { v with pc := v.pc + 1, acc := v.acc - Content.value (v.content a) }
  | .jump a => { v with pc := a }
  | .jumpZero a => { v with pc := if v.acc = 0 then a else v.pc + 1 }
  | .jumpNonzero a => { v with pc := if v.acc ≠ 0 then a else v.pc + 1 }
  | .halt => v

def operation? (v : View) : Option Operation :=
  match v.content v.pc with
  | some (.instruction i) => i.operation?
  | _ => none

/-- So many instructions, none of which halts, lead from the one to the other. -/
inductive Leads : Nat → View → View → Prop
  | refl {v} : Leads 0 v v
  | act {n v w op} : v.operation? = some op → op ≠ .halt → Leads n (v.act op) w →
      Leads (n + 1) v w

def Holds (code : List Instruction) (content : Int → Option Content) : Prop :=
  ∀ (k : Nat) i, code[k]? = some i → content k = some (.instruction i)

variable {u v w : View} {content : Int → Option Content} {j k : Nat} {i : Instruction} {a n : Int}
variable {code : List Instruction}

theorem put_put (content : Int → Option Content) (a n n' : Int) :
    put (put content a n) a n' = put content a n' := by
  funext b
  unfold put
  split_ifs
  · exact Option.map_map _ _ _
  · rfl

theorem put_of_eq (h : content a = some (.number n)) : put content a n = content := by
  funext b
  unfold put
  split_ifs with hb
  · rw [hb, h, Option.map_some]
  · rfl

theorem put_self (h : ∃ c, content a = some c) : put content a n a = some (.number n) := by
  obtain ⟨c, h⟩ := h
  rw [put, if_pos rfl, h, Option.map_some]

theorem put_of_ne {b : Int} (h : b ≠ a) : put content a n b = content b := if_neg h

theorem Holds.put (h : Holds code content) (ha : a < 0 ∨ code.length ≤ a) :
    Holds code (View.put content a n) := by
  intro k i hk
  have hl : k < code.length := (List.getElem?_eq_some_iff.mp hk).1
  rw [put_of_ne (by omega), h k i hk]

theorem operation?_eq (h : v.content v.pc = some (.instruction i)) : v.operation? = i.operation? := by
  rw [operation?, h]

theorem Leads.one {o : Operation} (h : v.content v.pc = some (.instruction i))
    (ho : i.operation? = some o) (hn : o ≠ .halt) : Leads 1 v (v.act o) :=
  .act ((operation?_eq h).trans ho) hn .refl

theorem Leads.trans (h : Leads j u v) (h' : Leads k v w) : Leads (j + k) u w := by
  induction h with
  | refl => rwa [Nat.zero_add]
  | act ho hn _ ih =>
    rw [Nat.succ_add]
    exact .act ho hn (ih h')

end View

namespace Machine
variable {m m' : Machine} {v w : View} {op : Operation}

def view (m : Machine) : View := ⟨m.pc, m.acc, m.memory.read?⟩

/-- About to fetch, with this to work on. -/
structure Shows (m : Machine) (v : View) : Prop where
  halted : m.halted = false
  phase : m.phase = .fetch
  view : m.view = v

theorem read?_highlight_eq (memory : Memory) (a : Option Int) :
    (memory.highlight a).read? = memory.read? := funext (memory.read?_highlight a)

theorem read?_write_eq_put (memory : Memory) (a n : Int) :
    (memory.write a (.number n)).read? = View.put memory.read? a n :=
  funext fun b => memory.read?_write a b _

theorem view_fetch_decode (m : Machine) : m.fetch.decode.view = m.view := by
  rw [fetch_eq]
  exact congrArg (View.mk m.pc m.acc) (read?_highlight_eq _ _)

theorem shows_branch (hh : m.halted = false) (name : String) (taken : Prop) [Decidable taken]
    (a : Int) : (branch name taken m a).Shows { m.view with pc := if taken then a else m.pc + 1 } := by
  rw [branch_eq]
  exact ⟨hh, rfl, rfl⟩

theorem exists_perform (hh : m.halted = false) (hn : op ≠ .halt) :
    ∃ m', m.perform op = .ok m' ∧ m'.Shows (m.view.act op) := by
  cases op with
  | load a | add a | sub a =>
    exact ⟨_, rfl, hh, rfl, congrArg (View.mk _ _) (read?_highlight_eq _ _)⟩
  | store a =>
    refine ⟨_, rfl, hh, rfl, congrArg (View.mk _ _) ?_⟩
    exact (read?_highlight_eq _ _).trans (read?_write_eq_put _ _ _)
  | jump a => exact ⟨_, rfl, hh, rfl, rfl⟩
  | jumpZero a => exact ⟨_, rfl, shows_branch hh "JZ" (m.acc = 0) a⟩
  | jumpNonzero a => exact ⟨_, rfl, shows_branch hh "JNZ" (m.acc ≠ 0) a⟩
  | halt => exact absurd rfl hn

theorem operation?_ir_fetch (h : m.view.operation? = some op) :
    m.fetch.ir.operation? = some op := by
  unfold View.operation? at h
  split at h
  · next i hi =>
    rw [ir_fetch_of_read? hi]
    exact h
  · cases h

theorem execute_fetch_decode (h : m.view.operation? = some op) :
    m.fetch.decode.execute = m.fetch.decode.perform op := by
  have ho : m.fetch.decode.ir.operation? = some op := operation?_ir_fetch h
  unfold execute
  rw [ho]

namespace Shows

theorem steps_three (h : m.Shows v) (ho : v.operation? = some op) :
    m.steps 3 = m.fetch.decode.perform op := by
  rw [Isa.steps_three h.halted h.phase, execute_fetch_decode (h.view ▸ ho)]

theorem exists_steps_three (h : m.Shows v) (ho : v.operation? = some op) (hn : op ≠ .halt) :
    ∃ m', m.steps 3 = .ok m' ∧ m'.Shows (v.act op) := by
  obtain ⟨m', hm, hs⟩ := exists_perform (Isa.halted_fetch_decode h.halted h.phase) hn
  rw [view_fetch_decode, h.view] at hs
  exact ⟨m', (h.steps_three ho).trans hm, hs⟩

theorem exists_steps {n : Nat} (h : m.Shows v) (hl : View.Leads n v w) :
    ∃ m', m.steps (3 * n) = .ok m' ∧ m'.Shows w := by
  induction hl generalizing m with
  | refl => exact ⟨m, rfl, h⟩
  | act ho hn _ ih =>
    obtain ⟨m₁, hm₁, hs₁⟩ := h.exists_steps_three ho hn
    obtain ⟨m', hm', hs'⟩ := ih hs₁
    refine ⟨m', ?_, hs'⟩
    rw [Isa.steps_three_succ, hm₁]
    exact hm'

theorem exists_halted (h : m.Shows v) (ho : v.operation? = some .halt)
    (hu : ¬ Numeral.Unwritable v.acc) :
    ∃ m', m.steps 3 = .ok m' ∧ m'.halted = true ∧ m'.view = v ∧
      m'.output.getLast? = some (haltMessage (Numeral.text v.acc)) := by
  have hv : m.fetch.decode.view = v := (view_fetch_decode m).trans h.view
  have ha : m.fetch.decode.acc = v.acc := congrArg View.acc hv
  refine ⟨m.fetch.decode.stopped, ?_, rfl, hv, ?_⟩
  · rw [h.steps_three ho, perform, halt_eq, ha, if_neg hu]
  · rw [← ha]
    exact List.getLast?_concat

end Shows

end Machine
end StoredProgram
