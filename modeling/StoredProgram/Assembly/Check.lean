import StoredProgram.Assembly

/-! The rules that a program must keep to be loaded. All statements are held against all rules, so
that a list of problems is complete. -/

namespace StoredProgram.Assembly

inductive Rule where
  | knownOpcode (opcode : String)
  | operandPresent (opcode : String)
  | operandDecimal (word : String)
  deriving DecidableEq

structure Problem where
  line : Int
  rule : Rule
  deriving DecidableEq

def Problem.text (p : Problem) : String :=
  "Line " ++ Numeral.text p.line ++ ": " ++
    match p.rule with
    | .knownOpcode o => "Invalid opcode \"" ++ o ++ "\""
    | .operandPresent o => "Missing operand for \"" ++ o ++ "\""
    | .operandDecimal w => "Invalid operand \"" ++ w ++ "\""

namespace Statement

def lacksOperand (s : Statement) : Bool := s.operandText.isNone && s.operand.isNone

def brokenRules (s : Statement) : List Rule :=
  (if opcodes.contains s.opcode then [] else [.knownOpcode s.opcode]) ++
  (if s.opcode ≠ haltOpcode ∧ s.lacksOperand then [.operandPresent s.opcode] else []) ++
  (match s.operandText, s.operand with
    | some w, none => [.operandDecimal w]
    | _, _ => [])

/-- A statement without a line, or with line zero, goes by its place in the program. -/
def lineAt (s : Statement) (index : Nat) : Int :=
  match s.line with
  | some n => if n = 0 then index + 1 else n
  | none => index + 1

end Statement

def problems (program : List Statement) : List Problem :=
  program.zipIdx.flatMap fun (s, i) => s.brokenRules.map fun r => ⟨s.lineAt i, r⟩

end StoredProgram.Assembly
