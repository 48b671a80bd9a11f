import StoredProgram.Proofs.Session.Invariant
import StoredProgram.Proofs.Session.Refusal
import StoredProgram.Proofs.Session.Undo

/-! What the speed of a session is. Each machine runs at the speed that was set last before it, as
far as no step back has undone that, or else at the speed of the settings. -/

namespace StoredProgram.Session
variable {settings : Settings} {s s' t : Session} {c : Command} {cs : List Command}
  {kept : List (Nat × Int)} {n : Int}

/-- The speed that an operation sets, which is not yet brought into range. -/
def Command.speed? : Command → Option Int
  | .setSpeed v => v.int?.filter (0 < ·)
  | _ => none

/-- The speeds that were set, the latest first, each with the length of the past at that time,
after an operation. A step back undoes those that were set behind the step; a new start has no steps
behind it, so that all of them stand before the first. -/
def settingsBy (s : Session) (kept : List (Nat × Int)) (c : Command) : List (Nat × Int) :=
  let place := (s.perform c).session.past.length
  match c, c.speed? with
  | .stepBack, _ => kept.filter (·.1 ≤ place)
  | _, some n => (place, n) :: kept
  | _, none => kept.map fun e => (min e.1 place, e.2)

def settingsSince (s : Session) (kept : List (Nat × Int)) : List Command → List (Nat × Int)
  | [] => kept
  | c :: cs => (s.perform c).session.settingsSince (s.settingsBy kept c) cs

def speedInForce? (s : Session) (cs : List Command) : Option Int :=
  (s.settingsSince [] cs).head?.map (·.2)

def NeverBack : Session → List Command → Prop
  | _, [] => True
  | s, c :: cs => (c = .stepBack → s.past = []) ∧ (s.perform c).session.NeverBack cs

def speedAt (settings : Settings) (kept : List (Nat × Int)) (place : Nat) : Int :=
  settings.clampSpeed
    (((kept.filter (·.1 ≤ place)).head?.map (·.2)).getD settings.executionSpeed)

theorem Command.speed?_eq_some_iff :
    c.speed? = some n ↔ ∃ v, c = .setSpeed v ∧ v.int? = some n ∧ 0 < n := by
  cases c with
  | setSpeed v =>
    rw [speed?, Option.filter_eq_some_iff, decide_eq_true_eq]
    constructor
    · intro h
      exact ⟨v, rfl, h⟩
    · rintro ⟨_, ⟨⟩, h⟩
      exact h
  | _ => exact iff_of_false nofun fun ⟨_, h, _⟩ => nomatch h

theorem exists_speed?_iff (s : Session) (c : Command) :
    (∃ n, c.speed? = some n) ↔ (∃ v, c = .setSpeed v) ∧ (s.perform c).accepted = true := by
  simp only [Command.speed?_eq_some_iff]
  constructor
  · rintro ⟨n, v, rfl, h⟩
    exact ⟨⟨v, rfl⟩, (accepted_setSpeed_iff v).mpr ⟨n, h⟩⟩
  · rintro ⟨⟨v, rfl⟩, ha⟩
    obtain ⟨n, h⟩ := (accepted_setSpeed_iff v).mp ha
    exact ⟨n, v, rfl, h⟩

theorem session_of_speed?_eq_some (h : c.speed? = some n) (s : Session) :
    (s.perform c).session =
      { s with machine := withSpeed s.machine (s.settings.clampSpeed n) } := by
  obtain ⟨v, rfl, hv, hn⟩ := Command.speed?_eq_some_iff.mp h
  simp only [perform, setSpeed, hv, if_pos hn]
  rfl

theorem session_of_speed?_eq_none {v : Value} (h : (Command.setSpeed v).speed? = none)
    (s : Session) : (s.perform (.setSpeed v)).session = s := by
  have ha : ¬ (s.perform (.setSpeed v)).accepted = true := by
    intro ha
    obtain ⟨n, hn⟩ := (exists_speed?_iff s _).mpr ⟨⟨v, rfl⟩, ha⟩
    cases h.symm.trans hn
  obtain ⟨e, he⟩ := error_of_not_accepted (Bool.eq_false_iff.mpr ha)
  rw [perform, he]
  rfl

/-- The speed stays, also in what comes to the past, and nothing goes from the past. -/
structure KeepsSpeed (s s' : Session) : Prop where
  machine : s'.machine.speed = s.machine.speed
  past : ∃ ms, s'.past = ms ++ s.past ∧ ∀ m ∈ ms, m.speed = s.machine.speed

namespace KeepsSpeed

theorem of_past (hm : s'.machine.speed = s.machine.speed) (hp : s'.past = s.past) :
    KeepsSpeed s s' := ⟨hm, [], hp, List.forall_mem_nil _⟩

theorem refl (s : Session) : KeepsSpeed s s := .of_past rfl rfl

theorem trans (h : KeepsSpeed s s') (h' : KeepsSpeed s' t) : KeepsSpeed s t := by
  obtain ⟨ms, hp, hs⟩ := h.past
  obtain ⟨ms', hp', hs'⟩ := h'.past
  refine ⟨h'.machine.trans h.machine, ms' ++ ms, ?_, List.forall_mem_append.mpr ⟨?_, hs⟩⟩
  · rw [hp', hp, List.append_assoc]
  · intro m hm
    exact (hs' m hm).trans h.machine

theorem length_le (h : KeepsSpeed s s') : s.past.length ≤ s'.past.length := by
  obtain ⟨ms, hp, _⟩ := h.past
  rw [hp, List.length_append]
  exact Nat.le_add_left _ _

theorem advance {log : Log} (h : s.advance = .ok (s', log)) : KeepsSpeed s s' := by
  rcases advance_ok h with ⟨_, rfl | rfl⟩ | ⟨_, m, hs, rfl⟩
  · exact .refl _
  · exact .of_past rfl rfl
  · refine ⟨?_, [s.machine], rfl, List.forall_mem_singleton.mpr rfl⟩
    rw [← Machine.step_speed hs]
    split_ifs <;> rfl

theorem step {log : Log} (h : s.step = .ok (s', log)) : KeepsSpeed s s' := by
  unfold Session.step at h
  split_ifs at h
  · obtain ⟨rfl, _⟩ := Prod.mk.inj (Except.ok.inj h)
    exact .refl s
  · exact advance h

theorem tick {log : Log} (h : s.tick = .ok (s', log)) : KeepsSpeed s s' := by
  unfold Session.tick at h
  split_ifs at h
  · exact advance h
  · obtain ⟨rfl, _⟩ := Prod.mk.inj (Except.ok.inj h)
    exact .refl s

theorem setRunning (s : Session) (b : Bool) : KeepsSpeed s (s.setRunning b) := by
  refine .of_past ?_ (s.past_setRunning b)
  unfold Session.setRunning
  split_ifs <;> rfl

theorem run (s : Session) (limit : Option Int) : KeepsSpeed s (s.run limit).session :=
  (setRunning s true).trans (runFor_carries refl trans (fun s => setRunning s false) tick _ _ _)

theorem ofResult {r : Except Fault (Session × Log)}
    (h : ∀ s' log, r = .ok (s', log) → KeepsSpeed s s') :
    KeepsSpeed s (Progress.ofResult s r).session := by
  cases r with
  | error e => exact .refl s
  | ok p => exact h p.1 p.2 rfl

end KeepsSpeed

theorem keepsSpeed_perform (s : Session) (hc : c.speed? = none) (hb : c ≠ .stepBack) :
    s.Restarts c ∧ (s.perform c).session.machine.speed = s.machine.speed ∨
      KeepsSpeed s (s.perform c).session := by
  by_cases hr : s.Restarts c
  · refine .inl ⟨hr, ?_⟩
    obtain ⟨hl | rfl, ha⟩ := hr
    · exact (anew_of_loads hl ha).2.2.1
    · rcases s.perform_reset with ⟨hf, _⟩ | ⟨_, m, _, hs⟩
      · exact absurd (hf.symm.trans ha) Bool.false_ne_true
      · rw [hs]
        rfl
  refine .inr ?_
  cases c with
  | loadProgram | loadSource | loadExample =>
    rw [session_of_not_restarts hr (.inl trivial)]
    exact .refl s
  | reset =>
    rw [session_of_not_restarts hr (.inr rfl)]
    exact .refl s
  | stepBack => exact absurd rfl hb
  | step => exact .ofResult fun _ _ => .step
  | tick => exact .ofResult fun _ _ => .tick
  | run limit => exact .run s limit
  | setRunning b => exact .setRunning s b
  | toggleRun => exact .setRunning s _
  | pause => exact .setRunning s false
  | setSpeed v =>
    rw [session_of_speed?_eq_none hc]
    exact .refl s
  | edit a v =>
    unfold perform editMemory
    split_ifs
    · exact .refl s
    · exact .of_past rfl rfl
  | addBreakpoint b => exact .of_past rfl rfl
  | removeBreakpoint b => exact .of_past rfl rfl

theorem speed_perform (s : Session) (hc : c.speed? = none) (hb : c ≠ .stepBack) :
    (s.perform c).session.machine.speed = s.machine.speed := by
  rcases s.keepsSpeed_perform hc hb with ⟨_, h⟩ | h
  · exact h
  · exact h.machine

section SpeedAt
variable {i j : Nat}

theorem filter_of_within (h : ∀ e ∈ kept, e.1 ≤ i) : kept.filter (·.1 ≤ i) = kept :=
  List.filter_eq_self.mpr fun e he => decide_eq_true (h e he)

theorem speedAt_of_within (h : ∀ e ∈ kept, e.1 ≤ i) :
    speedAt settings kept i =
      settings.clampSpeed ((kept.head?.map (·.2)).getD settings.executionSpeed) := by
  rw [speedAt, filter_of_within h]

theorem speedAt_filter (h : i ≤ j) :
    speedAt settings (kept.filter (·.1 ≤ j)) i = speedAt settings kept i := by
  have hf : (kept.filter (·.1 ≤ j)).filter (·.1 ≤ i) = kept.filter (·.1 ≤ i) := by
    rw [List.filter_filter]
    refine List.filter_congr fun e _ => ?_
    rw [← Bool.decide_and]
    exact decide_eq_decide.mpr (and_iff_left_of_imp fun hi => Nat.le_trans hi h)
  rw [speedAt, hf, speedAt]

theorem speedAt_cons_of_lt (h : i < j) :
    speedAt settings ((j, n) :: kept) i = speedAt settings kept i := by
  rw [speedAt, List.filter_cons_of_neg (by simpa using h), speedAt]

theorem speedAt_cons_self : speedAt settings ((i, n) :: kept) i = settings.clampSpeed n := by
  rw [speedAt, List.filter_cons_of_pos (by simp)]
  rfl

theorem lt_length_of_reverse {ms : List Machine} {m : Machine} (h : ms.reverse[i]? = some m) :
    i < ms.length := by
  rw [← List.length_reverse]
  exact (List.getElem?_eq_some_iff.mp h).1

theorem map_min_eq_self (h : ∀ e ∈ kept, e.1 ≤ i) :
    (kept.map fun e => (min e.1 i, e.2)) = kept := by
  have hm : ∀ e ∈ kept, (min e.1 i, e.2) = id e := by
    intro e he
    rw [Nat.min_eq_left (h e he)]
    rfl
  rw [List.map_congr_left hm, List.map_id]

end SpeedAt

/-- Every machine has the speed of its place, and no speed was set beyond the current one. -/
structure Timed (kept : List (Nat × Int)) (s : Session) : Prop where
  within : ∀ e ∈ kept, e.1 ≤ s.past.length
  current : s.machine.speed = speedAt s.settings kept s.past.length
  past : ∀ i m, s.past.reverse[i]? = some m → m.speed = speedAt s.settings kept i

namespace Timed

theorem of_past_nil (hp : s.past = []) (h : ∀ e ∈ kept, e.1 = 0)
    (hm : s.machine.speed =
      s.settings.clampSpeed ((kept.head?.map (·.2)).getD s.settings.executionSpeed)) :
    Timed kept s := by
  have hw : ∀ e ∈ kept, e.1 ≤ s.past.length := fun e he => by rw [h e he]; exact Nat.zero_le _
  refine ⟨hw, hm.trans (speedAt_of_within hw).symm, fun i m hi => ?_⟩
  rw [hp] at hi
  cases hi

theorem speed (h : Timed kept s) :
    s.machine.speed =
      s.settings.clampSpeed ((kept.head?.map (·.2)).getD s.settings.executionSpeed) :=
  h.current.trans (speedAt_of_within h.within)

theorem restart (h : Timed kept s) (hs : s'.settings = s.settings) (hp : s'.past = [])
    (hm : s'.machine.speed = s.machine.speed) :
    Timed (kept.map fun e => (min e.1 s'.past.length, e.2)) s' := by
  refine .of_past_nil hp (fun e he => ?_) ?_
  · obtain ⟨e, _, rfl⟩ := List.mem_map.mp he
    rw [hp]
    exact Nat.min_zero _
  · rw [hm, h.speed, hs, List.head?_map, Option.map_map]
    rfl

theorem keeps (h : Timed kept s) (hs : s'.settings = s.settings) (hk : KeepsSpeed s s') :
    Timed kept s' := by
  have hw : ∀ e ∈ kept, e.1 ≤ s'.past.length := fun e he =>
    Nat.le_trans (h.within e he) hk.length_le
  -- what is new stands behind all settings, where the speed is that of the machine before
  have hnew : ∀ {i : Nat}, s.past.length ≤ i → speedAt s'.settings kept i = s.machine.speed := by
    intro i hi
    rw [speedAt_of_within fun e he => Nat.le_trans (h.within e he) hi, h.speed, hs]
  refine ⟨hw, hk.machine.trans (hnew hk.length_le).symm, fun i m hi => ?_⟩
  obtain ⟨ms, hp, hms⟩ := hk.past
  rw [hp, List.reverse_append, List.getElem?_append, List.length_reverse] at hi
  split_ifs at hi with hl
  · rw [hs]
    exact h.past i m hi
  · rw [hnew (Nat.le_of_not_lt hl)]
    exact hms m (List.mem_reverse.mp (List.mem_of_getElem? hi))

theorem set (h : Timed kept s) :
    Timed ((s.past.length, n) :: kept)
      { s with machine := withSpeed s.machine (s.settings.clampSpeed n) } where
  within := List.forall_mem_cons.mpr ⟨Nat.le_refl _, h.within⟩
  current := speedAt_cons_self.symm
  past i m hi := by
    rw [speedAt_cons_of_lt (lt_length_of_reverse hi)]
    exact h.past i m hi

theorem back {m : Machine} {past : List Machine} (h : Timed kept s) (hp : s.past = m :: past) :
    Timed (kept.filter (·.1 ≤ past.length)) { s with machine := m.paused, past := past } where
  within e he := of_decide_eq_true (List.mem_filter.mp he).2
  current := by
    rw [speedAt_filter (Nat.le_refl _)]
    refine h.past past.length m ?_
    rw [hp, List.reverse_cons, getElem?_concat_iff, List.length_reverse]
    exact .inr ⟨rfl, rfl⟩
  past i p hi := by
    rw [speedAt_filter (Nat.le_of_lt (lt_length_of_reverse hi))]
    refine h.past i p ?_
    rw [hp, List.reverse_cons, getElem?_concat_iff]
    exact .inl hi

theorem filter (h : Timed kept s) : Timed (kept.filter (·.1 ≤ s.past.length)) s := by
  rwa [filter_of_within h.within]

theorem perform (h : Timed kept s) (c : Command) :
    Timed (s.settingsBy kept c) (s.perform c).session := by
  by_cases hb : c = .stepBack
  · subst hb
    unfold settingsBy
    cases hp : s.past with
    | nil =>
      rw [perform_stepBack_of_nil hp]
      exact h.filter
    | cons m past =>
      rw [perform_stepBack hp]
      exact h.back hp
  cases hc : c.speed? with
  | some n =>
    have hs : s.settingsBy kept c = (s.past.length, n) :: kept := by
      obtain ⟨v, rfl, _⟩ := Command.speed?_eq_some_iff.mp hc
      simp only [settingsBy, hc, session_of_speed?_eq_some hc]
    rw [hs, session_of_speed?_eq_some hc]
    exact h.set
  | none =>
    have hs : s.settingsBy kept c =
        kept.map fun e => (min e.1 (s.perform c).session.past.length, e.2) := by
      unfold settingsBy
      split
      · exact absurd rfl hb
      · next hn => cases hc.symm.trans hn
      · rfl
    rw [hs]
    rcases s.keepsSpeed_perform hc hb with ⟨hr, hm⟩ | hk
    · exact h.restart (s.perform_settings c) hr.past_eq_nil hm
    · have ht := h.keeps (s.perform_settings c) hk
      rwa [map_min_eq_self ht.within]

theorem performAll (h : Timed kept s) (cs : List Command) :
    Timed (s.settingsSince kept cs) (s.performAll cs) := by
  induction cs generalizing s kept with
  | nil => exact h
  | cons c cs ih => exact ih (h.perform c)

end Timed

theorem settingsSince_of_neverBack (h : Timed kept s) (hn : s.NeverBack cs) :
    (s.settingsSince kept cs).head?.map (·.2) =
      (cs.filterMap Command.speed?).getLast?.or (kept.head?.map (·.2)) := by
  induction cs generalizing s kept with
  | nil => rfl
  | cons c cs ih =>
    have hk : (s.settingsBy kept c).head?.map (·.2) = c.speed?.or (kept.head?.map (·.2)) := by
      unfold settingsBy
      split
      · have hp : s.past = [] := hn.1 rfl
        rw [perform_stepBack_of_nil hp, filter_of_within h.within]
        rfl
      · next hc => rw [hc]; rfl
      · next hc =>
        rw [hc, List.head?_map, Option.map_map]
        rfl
    have hl : ((c :: cs).filterMap Command.speed?).getLast? =
        (cs.filterMap Command.speed?).getLast?.or c.speed? := by
      cases hc : c.speed? with
      | none => rw [List.filterMap_cons_none hc, Option.or_none]
      | some n =>
        rw [List.filterMap_cons_some hc, List.getLast?_cons]
        cases (cs.filterMap Command.speed?).getLast? <;> rfl
    rw [settingsSince, ih (h.perform c) hn.2, hk, hl, Option.or_assoc]

/-- The speed is always the last that was set and not undone, or else that of the settings, brought
into range. Steps, runs, loads, resets, edits and all else leave it as it is, but for a step back,
which brings back the speed at which the step was made: only without one is it the last that was set
at all. -/
theorem performAll_speed (h : start settings = .ok s) (cs : List Command) :
    let t := s.performAll cs
    t.machine.speed =
      settings.clampSpeed ((s.speedInForce? cs).getD settings.executionSpeed) ∧
    (s.NeverBack cs → t.machine.speed =
      settings.clampSpeed
        ((cs.filterMap Command.speed?).getLast?.getD settings.executionSpeed)) ∧
    (∀ c, (∃ n, c.speed? = some n) ↔ (∃ v, c = .setSpeed v) ∧ (t.perform c).accepted = true) ∧
    (∀ c, c ≠ .stepBack → (t.perform c).session.machine.speed =
      (c.speed?.map settings.clampSpeed).getD t.machine.speed) ∧
    ∀ m past, t.past = m :: past → (t.perform .stepBack).session.machine.speed = m.speed := by
  intro t
  obtain ⟨hf, rfl, hp⟩ := start_ok h
  have h₀ : Timed [] s := by
    obtain ⟨_, hm⟩ := freshMachine_ok hf
    refine .of_past_nil hp (List.forall_mem_nil _) ?_
    rw [hm]
    rfl
  have hs : t.settings = s.settings := s.performAll_settings cs
  have ht : t.machine.speed =
      s.settings.clampSpeed ((s.speedInForce? cs).getD s.settings.executionSpeed) := by
    rw [← hs]
    exact (h₀.performAll cs).speed
  refine ⟨ht, fun hn => ?_, exists_speed?_iff t, fun c hc => ?_, fun m past hm => ?_⟩
  · rw [ht, speedInForce?, settingsSince_of_neverBack h₀ hn]
    exact congrArg (fun o => s.settings.clampSpeed (Option.getD o _)) (Option.or_none)
  · cases hn : c.speed? with
    | none => exact t.speed_perform hn hc
    | some n =>
      rw [session_of_speed?_eq_some hn, hs]
      rfl
  · rw [perform_stepBack hm]
    rfl

theorem performAll_speed_undone :
    let s : Session := { settings := {}, machine := withSpeed (Machine.fresh 20) 500 }
    let cs : List Command := [.loadSource "HALT" (.items []), .setSpeed (.int 50), .step,
      .setSpeed (.int 0), .setSpeed (.int 900)]
    let t := s.performAll cs
    start {} = .ok s ∧ s.NeverBack cs ∧ t.machine.speed = 900 ∧
      ((s.performAll (cs ++ [Command.stepBack])).machine.speed = 100 ∧
        ((cs ++ [Command.stepBack]).filterMap Command.speed?).getLast? = some 900) := by
  intro s cs t
  have hs : start {} = .ok s := rfl
  have hn : s.NeverBack cs := ⟨nofun, nofun, nofun, nofun, nofun, trivial⟩
  have hf : s.speedInForce? (cs ++ [Command.stepBack]) = some 50 := by decide +kernel
  obtain ⟨_, hl, _⟩ := performAll_speed hs cs
  obtain ⟨hb, _⟩ := performAll_speed hs (cs ++ [Command.stepBack])
  refine ⟨hs, hn, hl hn, ?_, rfl⟩
  rw [hb, hf]
  rfl

end StoredProgram.Session
