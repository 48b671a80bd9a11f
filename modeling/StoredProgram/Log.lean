/-! What a request reports besides its result. -/

namespace StoredProgram

inductive Level where
  | info
  | warning
  deriving DecidableEq

structure Record where
  level : Level
  text : String
  deriving DecidableEq

abbrev Log := List Record

def Log.info (text : String) : Log := [⟨.info, text⟩]

def Log.warning (text : String) : Log := [⟨.warning, text⟩]

end StoredProgram
