import StoredProgram.Machine

/-! The instruction cycle, one phase at a time. A halted machine stays as it is; the only step that
can fail is the halting one, whose message must hold the accumulator as decimal text. -/

namespace StoredProgram.Machine

def startCycle (m : Machine) : Machine := { m with phase := .fetch }

/-- What is not an instruction leaves the instruction register as it was. -/
def fetch (m : Machine) : Machine :=
  let content := m.memory.read? m.pc
  let m' : Machine :=
    { m with
      memory := m.memory.highlight (some m.pc)
      phase := .decode
      signals := ["Fetch"]
      mar := m.pc
      mdr := content.getD (.number 0) }
  match content with
  | some (.instruction i) => { m' with ir := i, bus := .transfer content "MDR" "IR" }
  | _ => { m' with bus := .transfer content memoryPort "MDR" }

def decode (m : Machine) : Machine :=
  { m with phase := .execute, signals := ["Decode", m.ir.opcode] }

def proceed (m : Machine) (pc : Int) (signals : List String) : Machine :=
  { m with phase := .fetch, pc := pc, signals := signals }

def load (m : Machine) (a : Int) : Machine :=
  let v := m.memory.number a
  { m.proceed (m.pc + 1) ["Execute", "LOAD"] with
    memory := m.memory.highlight (some a)
    mar := a
    mdr := .number v
    acc := v
    bus := .transfer (some (.number v)) "MDR" "ACC" }

def store (m : Machine) (a : Int) : Machine :=
  { m.proceed (m.pc + 1) ["Execute", "STORE"] with
    memory := (m.memory.write a (.number m.acc)).highlight (some a)
    mar := a
    mdr := .number m.acc
    bus := .transfer (some (.number m.acc)) "MDR" memoryPort }

def arithmetic (name : String) (compute : Int → Int → Int) (m : Machine) (a : Int) : Machine :=
  let v := m.memory.number a
  let r := compute m.acc v
  { m.proceed (m.pc + 1) ["Execute", name] with
    memory := m.memory.highlight (some a)
    mar := a
    mdr := .number v
    acc := r
    alu := ⟨m.acc, v, r, name⟩
    bus := .transfer (some (.number r)) "ALU" "ACC" }

def jump (m : Machine) (a : Int) (signals : List String) : Machine :=
  { m.proceed a signals with bus := .transfer (some (.number a)) "IR" "PC" }

def branch (name : String) (taken : Bool) (m : Machine) (a : Int) : Machine :=
  if taken then m.jump a ["Execute", name, "Taken"]
  else m.proceed (m.pc + 1) ["Execute", name, "Not Taken"]

def haltMessage (acc : String) : String := "Program halted. Final ACC value: " ++ acc

def halt (m : Machine) : Except Fault Machine :=
  match Numeral.write m.acc with
  | .error e => .error (.numeral e)
  | .ok acc =>
    .ok ({ m with
      phase := .idle
      signals := ["Execute", haltOpcode]
      running := false
      halted := true }.print (haltMessage acc))

def perform (m : Machine) : Operation → Except Fault Machine
  | .load a => .ok (m.load a)
  | .store a => .ok (m.store a)
  | .add a => .ok (m.arithmetic "ADD" (· + ·) a)
  | .sub a => .ok (m.arithmetic "SUB" (· - ·) a)
  | .jump a => .ok (m.jump a ["Execute", "JUMP"])
  | .jumpZero a => .ok (m.branch "JZ" (m.acc = 0) a)
  | .jumpNonzero a => .ok (m.branch "JNZ" (m.acc ≠ 0) a)
  | .halt => m.halt

/-- The cycle of an instruction that denotes nothing: the bus goes quiet but keeps its record. -/
def idleCycle (m : Machine) : Machine :=
  { m.proceed (m.pc + 1) [] with bus := { m.bus with active := false } }

def execute (m : Machine) : Except Fault Machine :=
  match m.ir.operation? with
  | some op => m.perform op
  | none => .ok m.idleCycle

def step (m : Machine) : Except Fault Machine :=
  if m.halted then .ok m
  else match m.phase with
    | .idle => .ok m.startCycle
    | .fetch => .ok m.fetch
    | .decode => .ok m.decode
    | .execute => m.execute

def steps : Nat → Machine → Except Fault Machine
  | 0, m => .ok m
  | n + 1, m => m.step >>= steps n

end StoredProgram.Machine
