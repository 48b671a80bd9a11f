import Mathlib.Tactic.SplitIfs
import StoredProgram.Value

/-! Decoded data by its kinds: which can be gone through, what is found in a map under a text, and
what is found there after an entry was put in. -/

namespace StoredProgram.Value
variable {v : Value} {s : String} {e : Fault}

def isCollection : Value → Bool
  | .list _ | .set _ | .pair .. | .text _ | .points _ | .map _ => true
  | _ => false

def isIterable : Value → Bool
  | .bytes _ => true
  | v => v.isCollection

end StoredProgram.Value
