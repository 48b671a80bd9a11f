import StoredProgram.Numeral

/-! Instructions of the accumulator machine. An instruction is an opcode with at most one operand;
it need not denote an operation, since programs are text before they are checked. -/

namespace StoredProgram

structure Instruction where
  opcode : String
  operand : Option Int := none
  deriving DecidableEq

inductive Operation where
  | load (address : Int)
  | store (address : Int)
  | add (address : Int)
  | sub (address : Int)
  | jump (address : Int)
  | jumpZero (address : Int)
  | jumpNonzero (address : Int)
  | halt
  deriving DecidableEq

def haltOpcode : String := "HALT"

def opcodes : List String := ["LOAD", "STORE", "ADD", "SUB", "JUMP", "JZ", "JNZ", haltOpcode]

def Operation.opcode : Operation → String
  | .load _ => "LOAD"
  | .store _ => "STORE"
  | .add _ => "ADD"
  | .sub _ => "SUB"
  | .jump _ => "JUMP"
  | .jumpZero _ => "JZ"
  | .jumpNonzero _ => "JNZ"
  | .halt => haltOpcode

def Operation.operand? : Operation → Option Int
  | .load a | .store a | .add a | .sub a | .jump a | .jumpZero a | .jumpNonzero a => some a
  | .halt => none

def Operation.named? (opcode : String) (address : Int) : Option Operation :=
  [.load address, .store address, .add address, .sub address, .jump address, .jumpZero address,
    .jumpNonzero address, .halt].find? fun op => op.opcode = opcode

theorem Operation.eq_of_named? {opcode : String} {a : Int} {op : Operation}
    (h : named? opcode a = some op) : opcode = op.opcode ∧ (op = .halt ∨ op.operand? = some a) := by
  have hm := List.mem_of_find?_eq_some h
  have hd := List.find?_some h
  have ho : opcode = op.opcode := (of_decide_eq_true hd).symm
  simp only [List.mem_cons, List.not_mem_nil, or_false] at hm
  rcases hm with rfl | rfl | rfl | rfl | rfl | rfl | rfl | rfl
  all_goals first | exact ⟨ho, .inr rfl⟩ | exact ⟨ho, .inl rfl⟩

namespace Instruction

/-- What the instruction register holds before the first fetch of an instruction. -/
def empty : Instruction := ⟨"", none⟩

/-- An unknown opcode, or a missing operand where one is needed, denotes nothing. -/
def operation? (i : Instruction) : Option Operation :=
  if i.opcode = haltOpcode then some .halt
  else i.operand.bind (Operation.named? i.opcode)

theorem eq_of_operation? {i : Instruction} {op : Operation} (h : i.operation? = some op) :
    i.opcode = op.opcode ∧ (op = .halt ∨ ∃ a, i.operand = some a ∧ op.operand? = some a) := by
  unfold operation? at h
  by_cases hh : i.opcode = haltOpcode
  · rw [if_pos hh] at h
    obtain rfl := Option.some.inj h
    exact ⟨hh, .inl rfl⟩
  · rw [if_neg hh] at h
    obtain ⟨a, ha, hn⟩ := Option.bind_eq_some_iff.mp h
    obtain ⟨ho, hop⟩ := Operation.eq_of_named? hn
    exact ⟨ho, hop.imp_right fun hop => ⟨a, ha, hop⟩⟩

theorem operation?_eq_halt_iff (i : Instruction) :
    i.operation? = some .halt ↔ i.opcode = haltOpcode :=
  ⟨fun h => (eq_of_operation? h).1, fun h => if_pos h⟩

def text (i : Instruction) : Except Numeral.Error String :=
  match i.operand with
  | none => .ok i.opcode
  | some a => return i.opcode ++ " " ++ (← Numeral.write a)

end Instruction

end StoredProgram
