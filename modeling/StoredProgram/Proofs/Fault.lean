import StoredProgram.Fault
import StoredProgram.Proofs.Except

/-! The kinds of faults that a computation can fail with, by its parts. -/

namespace StoredProgram

section FailsAs
variable {α β : Type} {x : Except Fault α} {f : α → Except Fault β} {k : Fault.Kind} {e : Fault}

end FailsAs

end StoredProgram
