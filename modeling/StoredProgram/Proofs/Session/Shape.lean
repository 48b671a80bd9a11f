import Mathlib.Control.Monad.Basic
import StoredProgram.Proofs.Machine.Shape
import StoredProgram.Proofs.Session.Invariant

/-! The memories of a session. From a load up to the next new start all of them have the shape that
the load gave to the first, those of the past included, whatever is run, undone or edited. -/

namespace StoredProgram
open Machine

namespace Session
variable {s : Session} {c : Command} {cs : List Command} {P : Memory → Prop}
  {program : List Instruction}

def Lasts : Session → List Command → Prop
  | _, [] => True
  | s, c :: cs => ¬ s.Restarts c ∧ (s.perform c).session.Lasts cs

theorem carried_kept (hP : Memory.Kept P) : Carried fun _ m => P m.memory where
  step h _ hs := hP.step h hs
  running _ h _ := h
  speed _ h := h

theorem Lasts.along (hcs : s.Lasts cs) (hP : Memory.Kept P)
    (h : Along (fun _ m => P m.memory) s) :
    Along (fun _ m => P m.memory) (s.performAll cs) := by
  induction cs generalizing s with
  | nil => exact h
  | cons c cs ih =>
    obtain ⟨hc, hcs⟩ := hcs
    have hedit : ∀ {m : Machine}, P m.memory → ∀ a n, P (m.edit a (.number n)).memory :=
      fun hm a n => hP.write a n hm
    exact ih hcs (h.perform (carried_kept hP) hedit hc)

theorem shaped_of_loads (hc : c.Loads) (ha : (s.perform c).accepted = true)
    (hp : c.program? s.settings = some program) :
    Along (fun _ m => m.memory.Shaped s.settings.memorySize.toNat program)
      (s.perform c).session := by
  cases s.perform_loaded hc with
  | refused hr => exact absurd (hr.symm.trans ha) Bool.false_ne_true
  | accepted _ hp' hl hs =>
    obtain rfl := Option.some.inj (hp.symm.trans hp')
    have hm := Loading.shaped_of_load hl
    rw [hs]
    exact .of_past_nil rfl hm

end Session

/-- Whatever is stored or edited after a load, memory keeps its cells, their order and regions, the
instructions in it are those of the program, each at its place, and a cell that holds a number never
holds an instruction again. In a session this holds of every machine, past or current, until the
next new start. -/
theorem memory_shaped :
    (∀ (n : Nat) program data m₀ log, Loading.load n program data = .ok (m₀, log) →
      ∀ m, Changes m₀ m → m.memory.Shaped n program ∧
        ∀ m', Changes m m' → ∀ a v, m.memory.read? a = some (.number v) →
          ∃ w, m'.memory.read? a = some (.number w)) ∧
    ∀ (s : Session) c program cs, c.Loads → (s.perform c).accepted = true →
      c.program? s.settings = some program → (s.perform c).session.Lasts cs →
      ∀ m ∈ ((s.perform c).session.performAll cs).timeline,
        m.memory.Shaped s.settings.memorySize.toNat program := by
  refine ⟨fun n program data m₀ log hl m hm => ⟨?_, ?_⟩, fun s c program cs hc ha hp hcs m hm => ?_⟩
  · exact (Memory.kept_shaped n program).changes (Loading.shaped_of_load hl) hm
  · intro m' hm' a v hv
    exact (Memory.kept_number a).changes ⟨v, hv⟩ hm'
  · have h := hcs.along (Memory.kept_shaped _ program) (Session.shaped_of_loads hc ha hp)
    exact h.of_mem_timeline hm

theorem memory_shaped_overwritten :
    let program : List Instruction := [⟨"STORE", some 1⟩, ⟨"JUMP", some 0⟩, ⟨"HALT", none⟩]
    let s : Session := { settings := { memorySize := 2 }, machine := Machine.fresh 2 }
    let c : Session.Command := .loadProgram program (.items [])
    let cs : List Session.Command := [.step, .run (some 3), .edit (-1) 9, .stepBack,
      .loadSource "FOO" (.items []), .edit 0 9, .toggleRun, .tick, .tick]
    let t := (s.perform c).session.performAll cs
    (∃ m₀ log m, Loading.load 2 program (.items []) = .ok (m₀, log) ∧ m₀.steps 4 = .ok m ∧
      m.memory.read? 1 = some (.number 0) ∧ m.memory.Shaped 2 program ∧
      ∃ w, (m.edit 1 (.number 9)).memory.read? 1 = some (.number w)) ∧
    t.timeline.length = 6 ∧ ∀ m ∈ t.timeline, m.memory.Shaped 2 program := by
  intro program s c cs t
  have hl : (Loading.load 2 program (.items []) >>= fun r =>
      (r.1.steps 4).map fun m => m.memory.read? 1) = .ok (some (.number 0)) := by decide +kernel
  obtain ⟨⟨m₀, log⟩, hl, hs⟩ := Except.bind_eq_ok_iff.mp hl
  obtain ⟨m, hs, hm⟩ := Except.map_eq_ok_iff.mp hs
  have ha : (s.perform c).accepted = true := by decide +kernel
  have hcs : (s.perform c).session.Lasts cs := by
    -- of the operations only the refused load looks like a new start
    refine ⟨?_, ?_, ?_, ?_, fun h => absurd h.2 (by decide +kernel), ?_, ?_, ?_, ?_, trivial⟩ <;>
      exact Session.not_restarts _ id nofun
  have ht : t.timeline.length = 6 := by decide +kernel
  obtain ⟨hshape, hnumber⟩ :=
    memory_shaped.1 2 program (.items []) m₀ log hl m (changes_of_steps hs)
  exact ⟨⟨m₀, log, m, hl, hs, hm, hshape, hnumber _ (.single (.edit 1 9)) 1 0 hm⟩, ht,
    memory_shaped.2 s c program cs trivial ha rfl hcs⟩

end StoredProgram
