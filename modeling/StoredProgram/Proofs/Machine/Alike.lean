import Mathlib.Control.Monad.Basic
import StoredProgram.Proofs.Except
import StoredProgram.Proofs.Machine.Rest

/-! What decides how a machine goes on: its phase, program counter, instruction register and
accumulator, whether it has halted, and what its cells hold. The other registers, the signals, the
bus, the marks and regions of the cells, the driver's fields and the lines that have been put out
are there to be seen, and do not influence it. -/

namespace StoredProgram

namespace Memory

def contents (memory : Memory) : List (Int × Content) :=
  memory.map fun c => (c.address, c.content)

theorem contents_highlight (memory : Memory) (a : Option Int) :
    (memory.highlight a).contents = memory.contents := by
  simp only [contents, highlight, List.map_map, Function.comp_def]

theorem contents_write (memory : Memory) (a : Int) (v : Content) :
    (memory.write a v).contents =
      memory.contents.map fun e => if e.1 = a then (e.1, v) else e := by
  simp only [contents, write, List.map_map]
  refine List.map_congr_left fun c _ => ?_
  simp only [Function.comp_apply]
  split_ifs <;> rfl

theorem read?_eq_find? (memory : Memory) (a : Int) :
    memory.read? a = (memory.contents.find? fun e => e.1 = a).map (·.2) := by
  simp only [read?, cell?, contents, List.find?_map, Option.map_map, Function.comp_def]

end Memory

namespace Machine
variable {m m' p p' : Machine}

/-- Agreement in all that decides how a machine goes on. -/
structure Alike (m m' : Machine) : Prop where
  contents : m.memory.contents = m'.memory.contents
  phase : m.phase = m'.phase
  pc : m.pc = m'.pc
  ir : m.ir = m'.ir
  acc : m.acc = m'.acc
  halted : m.halted = m'.halted

/-- Computations from two machines that fail in the same way, or that end in machines which are
alike and have put out the same lines on the way. -/
inductive Together (m m' : Machine) : Except Fault Machine → Except Fault Machine → Prop
  | fail (e : Fault) : Together m m' (.error e) (.error e)
  | ok {p p' : Machine} (lines : List String) : Alike p p' → p.output = m.output ++ lines →
      p'.output = m'.output ++ lines → Together m m' (.ok p) (.ok p')

namespace Alike

theorem symm (h : Alike m m') : Alike m' m :=
  ⟨h.contents.symm, h.phase.symm, h.pc.symm, h.ir.symm, h.acc.symm, h.halted.symm⟩

theorem read? (h : Alike m m') (a : Int) : m.memory.read? a = m'.memory.read? a := by
  rw [Memory.read?_eq_find?, Memory.read?_eq_find?, h.contents]

theorem number (h : Alike m m') (a : Int) : m.memory.number a = m'.memory.number a :=
  congrArg Content.value (h.read? a)

theorem highlight (h : Alike m m') (a b : Option Int) :
    (m.memory.highlight a).contents = (m'.memory.highlight b).contents := by
  rw [Memory.contents_highlight, Memory.contents_highlight, h.contents]

theorem write (h : Alike m m') (a : Int) (b c : Option Int) :
    ((m.memory.write a (.number m.acc)).highlight b).contents =
      ((m'.memory.write a (.number m'.acc)).highlight c).contents := by
  rw [Memory.contents_highlight, Memory.contents_highlight, Memory.contents_write,
    Memory.contents_write, h.contents, h.acc]

theorem next (h : Alike m m') : m.pc + 1 = m'.pc + 1 := by rw [h.pc]

theorem fetch (h : Alike m m') : Alike m.fetch m'.fetch := by
  have hi : m.fetch.ir = m'.fetch.ir := by
    have hr : m.memory.read? m.pc = m'.memory.read? m'.pc := by rw [h.pc, h.read?]
    unfold Machine.fetch
    rw [hr]
    rcases m'.memory.read? m'.pc with _ | _ | i
    · exact h.ir
    · exact h.ir
    · rfl
  rw [m.fetch_eq, m'.fetch_eq]
  exact ⟨h.highlight _ _, rfl, h.pc, hi, h.acc, h.halted⟩

theorem branch (h : Alike m m') {taken taken' : Bool} (ht : taken = taken') (name : String)
    (a : Int) : Alike (branch name taken m a) (Machine.branch name taken' m' a) := by
  subst ht
  cases taken
  · exact ⟨h.contents, rfl, h.next, h.ir, h.acc, h.halted⟩
  · exact ⟨h.contents, rfl, rfl, h.ir, h.acc, h.halted⟩

theorem stopped (h : Alike m m') : Alike m.stopped m'.stopped :=
  ⟨h.contents, rfl, h.pc, h.ir, h.acc, rfl⟩

theorem perform {op : Operation} (h : Alike m m') (hp : m.perform op = .ok p)
    (hp' : m'.perform op = .ok p') : Alike p p' := by
  have hz : decide (m.acc = 0) = decide (m'.acc = 0) := by rw [h.acc]
  have hn : decide (m.acc ≠ 0) = decide (m'.acc ≠ 0) := by rw [h.acc]
  cases op with
  | halt =>
    obtain rfl := eq_stopped_of_perform hp
    obtain rfl := eq_stopped_of_perform hp'
    exact h.stopped
  | load a =>
    obtain rfl := Except.ok.inj hp
    obtain rfl := Except.ok.inj hp'
    exact ⟨h.highlight _ _, rfl, h.next, h.ir, h.number a, h.halted⟩
  | store a =>
    obtain rfl := Except.ok.inj hp
    obtain rfl := Except.ok.inj hp'
    exact ⟨h.write a _ _, rfl, h.next, h.ir, h.acc, h.halted⟩
  | add a =>
    obtain rfl := Except.ok.inj hp
    obtain rfl := Except.ok.inj hp'
    have hr : m.acc + m.memory.number a = m'.acc + m'.memory.number a := by
      rw [h.acc, h.number]
    exact ⟨h.highlight _ _, rfl, h.next, h.ir, hr, h.halted⟩
  | sub a =>
    obtain rfl := Except.ok.inj hp
    obtain rfl := Except.ok.inj hp'
    have hr : m.acc - m.memory.number a = m'.acc - m'.memory.number a := by
      rw [h.acc, h.number]
    exact ⟨h.highlight _ _, rfl, h.next, h.ir, hr, h.halted⟩
  | jump a =>
    obtain rfl := Except.ok.inj hp
    obtain rfl := Except.ok.inj hp'
    exact ⟨h.contents, rfl, rfl, h.ir, h.acc, h.halted⟩
  | jumpZero a =>
    obtain rfl := Except.ok.inj hp
    obtain rfl := Except.ok.inj hp'
    exact h.branch hz "JZ" a
  | jumpNonzero a =>
    obtain rfl := Except.ok.inj hp
    obtain rfl := Except.ok.inj hp'
    exact h.branch hn "JNZ" a

theorem execute (h : Alike m m') (hp : m.execute = .ok p) (hp' : m'.execute = .ok p') :
    Alike p p' := by
  unfold Machine.execute at hp hp'
  rw [← h.ir] at hp'
  cases ho : m.ir.operation? with
  | none =>
    rw [ho] at hp hp'
    obtain rfl := Except.ok.inj hp
    obtain rfl := Except.ok.inj hp'
    exact ⟨h.contents, rfl, h.next, h.ir, h.acc, h.halted⟩
  | some op =>
    rw [ho] at hp hp'
    exact h.perform hp hp'

theorem of_step (h : Alike m m') (hp : m.step = .ok p) (hp' : m'.step = .ok p') :
    Alike p p' := by
  cases stepped hp with
  | halted hh =>
    rw [step_of_halted (h.halted.symm.trans hh)] at hp'
    obtain rfl := Except.ok.inj hp'
    exact h
  | idle hh hi =>
    rw [step_of_phase_idle (h.halted.symm.trans hh) (h.phase.symm.trans hi)] at hp'
    obtain rfl := Except.ok.inj hp'
    exact ⟨h.contents, rfl, h.pc, h.ir, h.acc, h.halted⟩
  | fetch hh hf =>
    rw [step_of_phase_fetch (h.halted.symm.trans hh) (h.phase.symm.trans hf)] at hp'
    obtain rfl := Except.ok.inj hp'
    exact h.fetch
  | decode hh hd =>
    rw [step_of_phase_decode (h.halted.symm.trans hh) (h.phase.symm.trans hd)] at hp'
    obtain rfl := Except.ok.inj hp'
    exact ⟨h.contents, rfl, h.pc, h.ir, h.acc, h.halted⟩
  | execute hh hx he =>
    rw [step_of_phase_execute (h.halted.symm.trans hh) (h.phase.symm.trans hx)] at hp'
    exact h.execute he hp'

theorem halting (h : Alike m m') (hm : m.Halting) : m'.Halting := by
  obtain ⟨hh, hp, ho⟩ := hm
  exact ⟨h.halted ▸ hh, h.phase ▸ hp, h.ir ▸ ho⟩

end Alike

theorem eq_or_goesOn (hm : ¬ m.Halting) (h : m.step = .ok p) : p = m ∨ GoesOn m p := by
  by_cases hh : m.halted = true
  · exact .inl (Except.ok.inj ((step_of_halted hh).symm.trans h)).symm
  · exact .inr ((step_ok (Bool.eq_false_iff.mpr hh) h).resolve_right fun hs => hm hs.1)

theorem output_of_step (hm : ¬ m.Halting) (h : m.step = .ok p) : p.output = m.output := by
  rcases eq_or_goesOn hm h with rfl | hg
  · rfl
  · exact hg.output

theorem running_of_step (h : m.step = .ok p) :
    p.running = if m.Halting then false else m.running := by
  by_cases hm : m.Halting
  · rw [step_of_halting hm] at h
    split_ifs at h
    obtain rfl := Except.ok.inj h
    exact (if_pos hm).symm
  · rw [if_neg hm]
    rcases eq_or_goesOn hm h with rfl | hg
    · rfl
    · exact hg.running

theorem Alike.step (h : Alike m m') : Together m m' m.step m'.step := by
  by_cases hm : m.Halting
  · have hs : m.stopped.output = m.output ++ [haltMessage (Numeral.text m'.acc)] := by
      rw [← h.acc]
      rfl
    rw [step_of_halting hm, step_of_halting (h.halting hm), h.acc]
    split_ifs
    · exact .fail _
    · exact .ok _ h.stopped hs rfl
  · have hm' : ¬ m'.Halting := fun hn => hm (h.symm.halting hn)
    obtain ⟨p, hp⟩ := exists_step fun hs => hm hs.1
    obtain ⟨p', hp'⟩ := exists_step fun hs => hm' hs.1
    have ho := output_of_step hm hp
    have ho' := output_of_step hm' hp'
    rw [hp, hp']
    exact .ok [] (h.of_step hp hp') (by simpa using ho) (by simpa using ho')

theorem Together.after {lines : List String} {x x' : Except Fault Machine}
    (ho : p.output = m.output ++ lines) (ho' : p'.output = m'.output ++ lines)
    (h : Together p p' x x') : Together m m' x x' := by
  cases h with
  | fail e => exact .fail e
  | ok more ha hx hx' =>
    refine .ok (lines ++ more) ha ?_ ?_
    · rw [hx, ho, List.append_assoc]
    · rw [hx', ho', List.append_assoc]

theorem Alike.steps (h : Alike m m') (n : Nat) : Together m m' (m.steps n) (m'.steps n) := by
  induction n generalizing m m' with
  | zero => exact .ok [] h (List.append_nil _).symm (List.append_nil _).symm
  | succ n ih =>
    have hs := h.step
    rw [steps_succ, steps_succ]
    generalize m.step = x, m'.step = x' at hs
    cases hs with
    | fail e => exact .fail e
    | ok lines ha ho ho' => exact (ih ha).after ho ho'

/-- Machines that are alike stay so for any number of steps and put out the same lines, or they fail
at the same step. A step leaves the speed alone, and also the run flag unless it halts. -/
theorem alike_steps (h : Alike m m') (n : Nat) :
    Together m m' (m.steps n) (m'.steps n) ∧
    ∀ q r : Machine, q.step = .ok r →
      r.speed = q.speed ∧ r.running = if q.Halting then false else q.running :=
  ⟨h.steps n, fun _ _ hs => ⟨step_speed hs, running_of_step hs⟩⟩

theorem alike_steps_overwriting :
    let m : Machine :=
      { memory := [⟨0, .instruction ⟨"STORE", some 1⟩, .instruction, false⟩,
          ⟨1, .instruction ⟨"ADD", some 0⟩, .instruction, false⟩,
          ⟨2, .instruction ⟨"HALT", none⟩, .instruction, false⟩]
        phase := .fetch
        acc := 7 }
    let m' : Machine :=
      { memory := [⟨0, .instruction ⟨"STORE", some 1⟩, .data, true⟩,
          ⟨1, .instruction ⟨"ADD", some 0⟩, .data, false⟩,
          ⟨2, .instruction ⟨"HALT", none⟩, .data, true⟩]
        phase := .fetch
        signals := ["Decode"]
        mar := -3
        mdr := .instruction ⟨"JUMP", some 0⟩
        acc := 7
        alu := ⟨1, 2, 4, "ADD"⟩
        bus := .transfer none memoryPort "MDR"
        running := true
        speed := 90
        output := ["seen"] }
    let top : Int := Nat.pow 10 4300
    Alike m m' ∧ (∃ p p', m.steps 9 = .ok p ∧ m'.steps 9 = .ok p' ∧ Alike p p' ∧
      p.halted = true ∧ p.output = ["Program halted. Final ACC value: 7"] ∧
      p'.output = ["seen", "Program halted. Final ACC value: 7"]) ∧
    Alike { m with pc := 2, acc := top } { m' with pc := 2, acc := top } ∧
    ∃ e, { m with pc := 2, acc := top }.steps 3 = .error e ∧
      { m' with pc := 2, acc := top }.steps 3 = .error e := by
  intro m m' top
  have h : Alike m m' := ⟨rfl, rfl, rfl, rfl, rfl, rfl⟩
  have hp : (m.steps 9).map (fun p => (p.halted, p.output)) =
      .ok (true, ["Program halted. Final ACC value: 7"]) := by decide +kernel
  obtain ⟨p, hp, ho⟩ := Except.map_eq_ok_iff.mp hp
  obtain ⟨hh, ho⟩ := Prod.mk.inj ho
  have hs := (alike_steps h 9).1
  rw [hp] at hs
  have ht : Alike { m with pc := 2, acc := top } { m' with pc := 2, acc := top } :=
    ⟨rfl, rfl, rfl, rfl, rfl, rfl⟩
  have he : { m with pc := 2, acc := top }.steps 3 = .error (.numeral .unwritable) := by
    decide +kernel
  have hf := (alike_steps ht 3).1
  rw [he] at hf
  refine ⟨h, ?_, ht, _, he, ?_⟩
  · generalize hx : m'.steps 9 = x at hs
    cases hs with
    | ok lines ha hl hl' =>
      obtain rfl : lines = p.output := hl.symm
      exact ⟨p, _, hp, rfl, ha, hh, ho, hl'.trans (congrArg ("seen" :: ·) ho)⟩
  · generalize { m' with pc := 2, acc := top }.steps 3 = x at hf
    cases hf
    rfl

end Machine
end StoredProgram
