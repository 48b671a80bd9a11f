import StoredProgram.Proofs.DataSetup
import StoredProgram.Proofs.Session.Load
import StoredProgram.Proofs.Session.Move

/-! What a session turns down, and what it loads. Loading goes through a source, its problems and
the initial data before anything is put in place, so that one that fails in between leaves the
session whole. -/

namespace StoredProgram

namespace Loading

def loadedRecord (n : Nat) : Record := ⟨.info, s!"Program loaded: {count n} instructions."⟩

theorem loadedRecord_mem (n : Nat) : loadedRecord n ∈ loadedLog n :=
  List.mem_append_right _ (List.mem_singleton_self _)

theorem loadedRecord_not_mem {log : Log} (h : log.Warns) (n : Nat) : loadedRecord n ∉ log := by
  intro hn
  cases h _ hn

theorem log_of_load {size : Int} {program : List Instruction} {data : DataSetup} {m : Machine}
    {log : Log} (h : load size program data = .ok (m, log)) : log = loadedLog program.length := by
  obtain ⟨_, _, h⟩ := Except.bind_eq_ok_iff.mp h
  obtain ⟨_, _, h⟩ := Except.bind_eq_ok_iff.mp h
  exact (Prod.mk.inj (Except.ok.inj h)).2.symm

end Loading

namespace Session
variable {s : Session} {c : Command} {source : String} {data : DataSetup}

def Sound (source : String) : Prop :=
  ∃ statements, Assembly.read source = .ok statements ∧ Assembly.problems statements = []

def Command.Loadable (settings : Settings) : Command → Prop
  | .loadProgram _ data => data.Fits
  | .loadSource source data => Sound source ∧ data.Fits
  | .loadExample name => ∃ p source, Program.find name settings.programs = .ok p ∧
      p.source = .ok source ∧ Sound source
  | _ => False

section Acceptance

theorem accepted_ofResult_iff {x : Except Fault (Session × Log)} :
    (Progress.ofResult s x).accepted = true ↔ ∃ r, x = .ok r := by
  cases x with
  | error e => exact iff_of_false Bool.false_ne_true (Except.not_error_eq_ok e)
  | ok r => exact iff_of_true rfl ⟨r, rfl⟩

theorem error_of_not_accepted {x : Except Fault (Session × Log)}
    (h : (Progress.ofResult s x).accepted = false) : ∃ e, x = .error e := by
  cases x with
  | error e => exact ⟨e, rfl⟩
  | ok r => cases h

theorem accepted_loadProgram_iff (hs : 0 < s.settings.memorySize) (program : List Instruction) :
    (s.perform (.loadProgram program data)).accepted = true ↔ data.Fits := by
  rw [← Loading.load_ok_iff hs program data]
  refine accepted_ofResult_iff.trans ?_
  unfold loadProgram
  cases Loading.load s.settings.memorySize program data with
  | error e => exact iff_of_false (Except.not_error_eq_ok e) (Except.not_error_eq_ok e)
  | ok r => exact iff_of_true ⟨_, rfl⟩ ⟨r, rfl⟩

theorem accepted_loadSource_iff (hs : 0 < s.settings.memorySize) :
    (s.perform (.loadSource source data)).accepted = true ↔ Sound source ∧ data.Fits := by
  show (Progress.ofLoading s (s.loadSource source data)).accepted = true ↔ _
  unfold loadSource Loading.loadSource Sound
  cases hr : Assembly.read source with
  | error e =>
    refine iff_of_false Bool.false_ne_true ?_
    rintro ⟨⟨_, h, _⟩, _⟩
    cases h
  | ok statements =>
    simp only [Except.mapError, Except.ok_bind]
    cases hp : Assembly.problems statements with
    | cons p ps =>
      refine iff_of_false Bool.false_ne_true ?_
      rintro ⟨⟨_, h, hn⟩, _⟩
      obtain rfl := Except.ok.inj h
      rw [hp] at hn
      cases hn
    | nil =>
      have hd := Loading.load_ok_iff hs (statements.map (·.instruction)) data
      simp only
      cases hl : Loading.load s.settings.memorySize (statements.map (·.instruction)) data with
      | error e =>
        refine iff_of_false Bool.false_ne_true ?_
        rintro ⟨_, hf⟩
        obtain ⟨r, hr⟩ := hd.mpr hf
        rw [hl] at hr
        cases hr
      | ok r => exact iff_of_true rfl ⟨⟨statements, rfl, hp⟩, hd.mp ⟨r, hl⟩⟩

theorem accepted_loadExample_iff (hs : 0 < s.settings.memorySize) (name : Value) :
    (s.perform (.loadExample name)).accepted = true ↔ ∃ p source,
      Program.find name s.settings.programs = .ok p ∧ p.source = .ok source ∧ Sound source := by
  show (Progress.ofLoading s (s.loadExample name)).accepted = true ↔ _
  unfold loadExample
  cases Program.find name s.settings.programs with
  | error e =>
    refine iff_of_false Bool.false_ne_true ?_
    rintro ⟨_, _, h, _⟩
    cases h
  | ok p =>
    rw [Except.ok_bind]
    cases hp : p.source with
    | error e =>
      refine iff_of_false Bool.false_ne_true ?_
      rintro ⟨_, _, h, hn, _⟩
      obtain rfl := Except.ok.inj h
      rw [hp] at hn
      cases hn
    | ok source =>
      -- data from settings always fit
      refine (accepted_loadSource_iff hs).trans ?_
      constructor
      · rintro ⟨h, _⟩
        exact ⟨p, source, rfl, hp, h⟩
      · rintro ⟨_, _, h, hn, hsound⟩
        obtain rfl := Except.ok.inj h
        rw [hp] at hn
        obtain rfl := Except.ok.inj hn
        exact ⟨hsound, DataSetup.fits_ofPairs _⟩

theorem accepted_iff_loadable (hs : 0 < s.settings.memorySize) (hc : c.Loads) :
    (s.perform c).accepted = true ↔ c.Loadable s.settings := by
  cases c with
  | loadProgram program data => exact accepted_loadProgram_iff hs program
  | loadSource source data => exact accepted_loadSource_iff hs
  | loadExample name => exact accepted_loadExample_iff hs name
  | _ => exact hc.elim

theorem setSpeed_refuse (v : Value) : ∃ e, setSpeed.refuse v = .error e := by
  unfold setSpeed.refuse
  cases v.display with
  | error e => exact ⟨_, rfl⟩
  | ok shown => exact ⟨_, rfl⟩

theorem accepted_setSpeed_iff (v : Value) :
    (s.perform (.setSpeed v)).accepted = true ↔ ∃ n, v.int? = some n ∧ 0 < n := by
  obtain ⟨e, he⟩ := setSpeed_refuse v
  refine accepted_ofResult_iff.trans ?_
  unfold setSpeed
  rw [he]
  cases v.int? with
  | none =>
    refine iff_of_false (Except.not_error_eq_ok e) ?_
    rintro ⟨_, h, _⟩
    cases h
  | some n =>
    by_cases hn : 0 < n
    · simp only [if_pos hn]
      exact iff_of_true ⟨_, rfl⟩ ⟨n, rfl, hn⟩
    · simp only [if_neg hn]
      refine iff_of_false (Except.not_error_eq_ok e) ?_
      rintro ⟨_, h, hp⟩
      obtain rfl := Option.some.inj h
      exact hn hp

end Acceptance

/-- A load, a step or a speed that fails or has problems, or a step or an edit while running. -/
def Refuses (s : Session) (c : Command) : Prop :=
  (c.Loads ∨ c = .step ∨ ∃ v, c = .setSpeed v) ∧ (s.perform c).accepted = false ∨
    (c = .step ∨ ∃ a n, c = .edit a n) ∧ s.machine.running = true

theorem Refuses.kinds (h : s.Refuses c) :
    c.Loads ∨ c = .step ∨ (∃ v, c = .setSpeed v) ∨ ∃ a n, c = .edit a n := by
  rcases h with ⟨hl | hc | hv, _⟩ | ⟨hc | he, _⟩
  · exact .inl hl
  · exact .inr (.inl hc)
  · exact .inr (.inr (.inl hv))
  · exact .inr (.inl hc)
  · exact .inr (.inr (.inr he))

theorem Refuses.intact (h : s.Refuses c) :
    (s.perform c).session = s ∧ (s.perform c).log.Warns := by
  rcases h with ⟨hl | rfl | ⟨v, rfl⟩, ha⟩ | ⟨rfl | ⟨a, n, rfl⟩, hr⟩
  · cases s.perform_loaded hl with
    | refused _ hs hw => exact ⟨hs, hw⟩
    | accepted hr => rw [ha] at hr; cases hr
  · obtain ⟨e, he⟩ := error_of_not_accepted ha
    rw [perform, he]
    exact ⟨rfl, Log.warns_nil⟩
  · obtain ⟨e, he⟩ := error_of_not_accepted ha
    rw [perform, he]
    exact ⟨rfl, Log.warns_nil⟩
  · rw [perform, step_of_running hr]
    exact ⟨rfl, Log.warns_warning _⟩
  · rw [perform, editMemory, if_pos hr]
    exact ⟨rfl, Log.warns_warning _⟩

theorem anew_of_loads (hc : c.Loads) (ha : (s.perform c).accepted = true) :
    let s' := (s.perform c).session
    s'.past = [] ∧ s'.machine.running = false ∧ s'.machine.speed = s.machine.speed ∧
      s'.breakpoints = s.breakpoints ∧ ∃ program, c.program? s.settings = some program ∧
        Loading.loadedRecord program.length ∈ (s.perform c).log := by
  intro s'
  cases s.perform_loaded hc with
  | refused hr => rw [ha] at hr; cases hr
  | @accepted program _ m log _ hp hl hs hlog =>
    obtain ⟨_, _, _, rfl⟩ := Loading.load_ok hl
    obtain rfl := Loading.log_of_load hl
    have hs' : s' = s.replace _ := hs
    rw [hs', hlog]
    exact ⟨rfl, rfl, rfl, rfl, program, hp, Loading.loadedRecord_mem _⟩

end Session

end StoredProgram
