import StoredProgram.Proofs.Loading
import StoredProgram.Session.Command

/-! Loads and resets. One that is accepted puts a machine in its place that has not moved yet, and
leaves no past; one that is not accepted changes nothing. -/

namespace StoredProgram

namespace Log

def Warns (log : Log) : Prop := ∀ r ∈ log, r.level = .warning

theorem warns_nil : Warns [] := List.forall_mem_nil _

theorem warns_warning (text : String) : (warning text).Warns := List.forall_mem_singleton.mpr rfl

theorem Warns.append {log log' : Log} (h : log.Warns) (h' : log'.Warns) : Warns (log ++ log') :=
  List.forall_mem_append.mpr ⟨h, h'⟩

theorem warns_flatMap {α : Type} (xs : List α) (text : α → String) :
    Warns (xs.flatMap fun x => warning (text x)) := by
  intro r hr
  obtain ⟨x, _, hr⟩ := List.mem_flatMap.mp hr
  exact warns_warning (text x) r hr

end Log

namespace Session
variable {s s' : Session}

theorem freshMachine_ok {settings : Settings} {m : Machine} (h : freshMachine settings = .ok m) :
    0 < settings.memorySize ∧
      m = withSpeed (Machine.fresh settings.memorySize.toNat)
        (settings.clampSpeed settings.executionSpeed) := by
  obtain ⟨m₀, hm, h⟩ := Except.bind_eq_ok_iff.mp h
  obtain ⟨hs, rfl⟩ := Machine.ofSize_ok hm
  exact ⟨hs, (Except.ok.inj h).symm⟩

def Progress.accepted (p : Progress) : Bool :=
  p.fault.isNone &&
    match p.reply with
    | .problems ps => ps.isEmpty
    | _ => true

def sourceProgram? (source : String) : Option (List Instruction) :=
  (Assembly.read source).toOption.map fun statements => statements.map (·.instruction)

def exampleProgram? (settings : Settings) (name : Value) : Option (List Instruction) :=
  ((Program.find name settings.programs >>= Program.source).toOption).bind sourceProgram?

def Command.program? (settings : Settings) : Command → Option (List Instruction)
  | .loadProgram program _ => some program
  | .loadSource source _ => sourceProgram? source
  | .loadExample name => exampleProgram? settings name
  | _ => none

def Command.Loads : Command → Prop
  | .loadProgram .. | .loadSource .. | .loadExample .. => True
  | _ => False

/-- The operation changes nothing and logs warnings at most, or else it loads a program of the given
instructions and logs that. -/
inductive Loaded (s : Session) (program? : Option (List Instruction)) (p : Progress) : Prop
  | refused : p.accepted = false → p.session = s → p.log.Warns → Loaded s program? p
  | accepted {program : List Instruction} {data : DataSetup} {m : Machine} {log : Log} :
      p.accepted = true → program? = some program →
      Loading.load s.settings.memorySize program data = .ok (m, log) →
      p.session = s.replace m → p.log = log → Loaded s program? p

theorem loadProgram_loaded (s : Session) (program : List Instruction) (data : DataSetup) :
    Loaded s (some program) (.ofResult s (s.loadProgram program data)) := by
  unfold loadProgram
  cases hl : Loading.load s.settings.memorySize program data with
  | error e =>
    rw [Except.error_bind]
    exact .refused rfl rfl Log.warns_nil
  | ok r =>
    rw [Except.ok_bind]
    exact .accepted rfl rfl hl rfl rfl

theorem loadSource_loaded (s : Session) (source : String) (data : DataSetup) :
    Loaded s (sourceProgram? source) (.ofLoading s (s.loadSource source data)) := by
  unfold loadSource Loading.loadSource sourceProgram?
  cases hr : Assembly.read source with
  | error e => exact .refused rfl rfl Log.warns_nil
  | ok statements =>
    simp only [Except.mapError, Except.ok_bind]
    cases hp : Assembly.problems statements with
    | cons p ps =>
      exact .refused rfl rfl ((Log.warns_warning _).append (Log.warns_flatMap _ _))
    | nil =>
      simp only
      cases hl : Loading.load s.settings.memorySize (statements.map (·.instruction)) data with
      | error e => exact .refused rfl rfl Log.warns_nil
      | ok r => exact .accepted rfl rfl hl rfl rfl

theorem loadExample_loaded (s : Session) (name : Value) :
    Loaded s (exampleProgram? s.settings name) (.ofLoading s (s.loadExample name)) := by
  unfold loadExample exampleProgram?
  cases Program.find name s.settings.programs with
  | error e => exact .refused rfl rfl Log.warns_nil
  | ok p =>
    rw [Except.ok_bind, Except.ok_bind]
    cases p.source with
    | error e => exact .refused rfl rfl Log.warns_nil
    | ok source => exact loadSource_loaded s source (.ofPairs p.memorySetup)

theorem perform_loaded (s : Session) {c : Command} (hc : c.Loads) :
    Loaded s (c.program? s.settings) (s.perform c) := by
  cases c with
  | loadProgram program data => exact loadProgram_loaded s program data
  | loadSource source data => exact loadSource_loaded s source data
  | loadExample name => exact loadExample_loaded s name
  | _ => exact hc.elim

theorem perform_reset (s : Session) :
    ((s.perform .reset).accepted = false ∧ (s.perform .reset).session = s) ∨
    ((s.perform .reset).accepted = true ∧ ∃ m, freshMachine s.settings = .ok m ∧
      (s.perform .reset).session = s.replace m) := by
  unfold perform reset
  cases hf : freshMachine s.settings with
  | error e => exact .inl ⟨rfl, rfl⟩
  | ok m => exact .inr ⟨rfl, m, rfl, rfl⟩

end Session
end StoredProgram
