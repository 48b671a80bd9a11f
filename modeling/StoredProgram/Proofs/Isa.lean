import StoredProgram.Proofs.Machine.Step

/-! The instruction set by itself: what an instruction does to the state that a programmer sees,
without phases inside a cycle, bus, address and data registers, control signals and marks of
access. -/

namespace StoredProgram.Isa

/-- A cell without the mark of its latest access. -/
structure Word where
  address : Int
  content : Content
  region : Region
  deriving DecidableEq

structure State where
  words : List Word
  phase : Phase
  pc : Int
  ir : Instruction
  acc : Int
  alu : Alu
  running : Bool
  halted : Bool
  speed : Int
  output : List String
  deriving DecidableEq

namespace State

def content? (s : State) (a : Int) : Option Content :=
  (s.words.find? fun w => w.address = a).map (·.content)

def integer (s : State) (a : Int) : Int :=
  match s.content? a with
  | some (.number n) => n
  | _ => 0

/-- The instruction at the program counter or, if there is none, that of the cycle before. -/
def instruction (s : State) : Instruction :=
  match s.content? s.pc with
  | some (.instruction i) => i
  | _ => s.ir

def put (s : State) (a : Int) : List Word :=
  s.words.map fun w => if w.address = a then { w with content := .number s.acc } else w

def perform (s : State) : Instruction → State
  | ⟨"LOAD", some a⟩ => { s with acc := s.integer a, pc := s.pc + 1 }
  | ⟨"STORE", some a⟩ => { s with words := s.put a, pc := s.pc + 1 }
  | ⟨"ADD", some a⟩ =>
    let sum := s.acc + s.integer a
    { s with acc := sum, alu := ⟨s.acc, s.integer a, sum, "ADD"⟩, pc := s.pc + 1 }
  | ⟨"SUB", some a⟩ =>
    let difference := s.acc - s.integer a
    { s with acc := difference, alu := ⟨s.acc, s.integer a, difference, "SUB"⟩, pc := s.pc + 1 }
  | ⟨"JUMP", some a⟩ => { s with pc := a }
  | ⟨"JZ", some a⟩ => { s with pc := if s.acc = 0 then a else s.pc + 1 }
  | ⟨"JNZ", some a⟩ => { s with pc := if s.acc ≠ 0 then a else s.pc + 1 }
  | ⟨"HALT", _⟩ =>
    { s with
      phase := .idle
      running := false
      halted := true
      output := s.output ++ ["Program halted. Final ACC value: " ++ Numeral.text s.acc] }
  | _ => { s with pc := s.pc + 1 }

def cycle (s : State) : State :=
  if s.halted then s else { s with ir := s.instruction }.perform s.instruction

/-- The next cycle is to put out an accumulator whose text is beyond the limit. -/
def Stuck (s : State) : Prop :=
  s.halted = false ∧ s.instruction.opcode = "HALT" ∧ Numeral.Unwritable s.acc

instance (s : State) : Decidable s.Stuck :=
  inferInstanceAs
    (Decidable (s.halted = false ∧ s.instruction.opcode = "HALT" ∧ Numeral.Unwritable s.acc))

end State

def words (memory : Memory) : List Word := memory.map fun c => ⟨c.address, c.content, c.region⟩

def ofMachine (m : Machine) : State where
  words := words m.memory
  phase := m.phase
  pc := m.pc
  ir := m.ir
  acc := m.acc
  alu := m.alu
  running := m.running
  halted := m.halted
  speed := m.speed
  output := m.output

theorem words_highlight (memory : Memory) (a : Option Int) :
    words (memory.highlight a) = words memory := by
  simp only [words, Memory.highlight, List.map_map, Function.comp_def]

theorem words_write (m : Machine) (a : Int) :
    words (m.memory.write a (.number m.acc)) = (ofMachine m).put a := by
  simp only [words, Memory.write, State.put, ofMachine, List.map_map]
  refine List.map_congr_left fun c _ => ?_
  simp only [Function.comp_apply]
  split_ifs <;> rfl

theorem content?_ofMachine (m : Machine) (a : Int) :
    (ofMachine m).content? a = m.memory.read? a := by
  simp only [State.content?, ofMachine, words, Memory.read?, Memory.cell?, List.find?_map,
    Option.map_map]
  rfl

theorem integer_ofMachine (m : Machine) (a : Int) :
    (ofMachine m).integer a = m.memory.number a := by
  unfold State.integer Memory.number
  rw [content?_ofMachine]
  rcases m.memory.read? a with _ | _ | _ <;> rfl

theorem instruction_ofMachine (m : Machine) :
    (ofMachine m).instruction = m.fetch.ir := by
  have hc : (ofMachine m).content? (ofMachine m).pc = m.memory.read? m.pc :=
    content?_ofMachine m m.pc
  unfold State.instruction Machine.fetch
  rw [hc]
  rcases m.memory.read? m.pc with _ | _ | _ <;> rfl

end StoredProgram.Isa
