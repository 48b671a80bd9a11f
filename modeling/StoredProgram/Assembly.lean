import StoredProgram.Instruction
import StoredProgram.Text.Blank
import StoredProgram.Text.Capital

/-! Assembly text: one instruction a line, as an opcode and an operand. Blank lines and lines that
begin with a comment mark hold none, and words after the second are ignored. -/

namespace StoredProgram.Assembly

open Text

structure Statement where
  opcode : String
  operand : Option Int := none
  source : String := ""
  operandText : Option String := none
  line : Option Int := none
  deriving DecidableEq

def Statement.instruction (s : Statement) : Instruction := ⟨s.opcode, s.operand⟩

def readOperand (word : List Char) : Except Numeral.Error (Option Int) :=
  let (negative, ds) := Numeral.takeSign word
  if ds.isEmpty || !ds.all isDigit then .ok none
  else if Numeral.digitLimit < ds.length then .error (.tooManyDigits ds.length)
  else .ok (some (Numeral.signed negative (Numeral.ofDigits 10 (ds.filterMap digit?))))

def isComment : List Char → Bool
  | '/' :: '/' :: _ => true
  | _ => false

def readWords (line : Nat) (source : List Char) :
    List (List Char) → Except Numeral.Error (Option Statement)
  | [] => .ok none
  | opcode :: args => do
    let operand ← (args.head?.map readOperand).getD (.ok none)
    return some {
      opcode := String.ofList (capitals opcode)
      operand := operand
      source := String.ofList source
      operandText := args.head?.map String.ofList
      line := some line }

def readLine (line : Nat) (s : List Char) : Except Numeral.Error (Option Statement) :=
  let source := trim isBlank s
  if isComment source then .ok none else readWords line source (words source)

def readLines : Nat → List (List Char) → Except Numeral.Error (List Statement)
  | _, [] => .ok []
  | n, l :: ls => do
    let first ← readLine n l
    let rest ← readLines (n + 1) ls
    return first.toList ++ rest

def read (source : String) : Except Numeral.Error (List Statement) :=
  readLines 1 (lines source.toList)

end StoredProgram.Assembly
