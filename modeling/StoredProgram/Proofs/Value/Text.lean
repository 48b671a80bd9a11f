import Mathlib.Tactic.SplitIfs
import StoredProgram.Proofs.Except
import StoredProgram.Proofs.Numeral
import StoredProgram.Value.Text

/-! Which values can be shown. A value is gone through in the order of its text, with the depth of
each value within: the first that stands too deep or is too long an integer is why it is not shown. -/

namespace StoredProgram.Value
variable {v : Value} {p : Nat × Value} {limit depth n : Nat} {e : Fault}

mutual

/-- The names are those of the lists and maps around. -/
def tour (names : List Nat) (depth : Nat) : Value → List (Nat × Value)
  | .list xs => (depth, .list xs) :: tourAll names (depth + 1) xs
  | .pair a b => (depth, .pair a b) :: (tour names (depth + 1) a ++ tour names (depth + 1) b)
  | .set xs => (depth, .set xs) :: tourAll names (depth + 2) xs
  | .map es => (depth, .map es) :: tourEntries names (depth + 1) es
  | .named n v => if n ∈ names then [(depth, .again n)] else tour (n :: names) depth v
  | v => [(depth, v)]

def tourAll (names : List Nat) (depth : Nat) : List Value → List (Nat × Value)
  | [] => []
  | x :: xs => tour names depth x ++ tourAll names depth xs

def tourEntries (names : List Nat) (depth : Nat) : List (Value × Value) → List (Nat × Value)
  | [] => []
  | (k, v) :: es => tour names depth k ++ (tour names depth v ++ tourEntries names depth es)

end

def Fits (limit : Nat) (p : Nat × Value) : Prop :=
  p.1 < limit ∧ ∀ n, p.2 = .int n → ¬ Numeral.Unwritable n

/-- Some value within is too deep to be shown, and all that come before it can be. -/
def Buried (v : Value) : Prop :=
  ∃ before p after, v.tour [] 0 = before ++ p :: after ∧ depthLimit ≤ p.1 ∧
    ∀ q ∈ before, Fits depthLimit q

def obstacle? (limit : Nat) (p : Nat × Value) : Option Fault :=
  if limit ≤ p.1 then some .nesting
  else match p.2 with
    | .int n => if Numeral.Unwritable n then some (.numeral .unwritable) else none
    | _ => none

theorem obstacle?_eq_nesting_iff : obstacle? limit p = some .nesting ↔ limit ≤ p.1 := by
  unfold obstacle?
  split_ifs with h
  · exact iff_of_true rfl h
  · refine iff_of_false ?_ h
    split
    · split_ifs <;> exact nofun
    · exact nofun

theorem obstacle?_eq_none_iff : obstacle? limit p = none ↔ Fits limit p := by
  unfold obstacle? Fits
  split_ifs with h
  · exact iff_of_false nofun fun hp => Nat.not_le.mpr hp.1 h
  rw [and_iff_right (Nat.not_le.mp h)]
  split
  · next n hp =>
    rw [hp]
    split_ifs with hn
    · exact iff_of_false nofun fun hf => hf n rfl hn
    · refine iff_of_true rfl ?_
      rintro _ ⟨⟩
      exact hn
  · next hp => exact iff_of_true rfl fun n hn => absurd hn (hp n)

theorem exists_tour (names : List Nat) (depth : Nat) :
    ∀ v, ∃ w rest, tour names depth v = (depth, w) :: rest
  | .named n v => by
    rw [tour]
    split_ifs
    · exact ⟨_, _, rfl⟩
    · exact exists_tour (n :: names) depth v
  | .null | .bool _ | .int _ | .float _ | .text _ | .points _ | .bytes _ | .list _ | .pair _ _ | .set _
  | .map _ | .day _ | .moment _ | .again _ => ⟨_, _, rfl⟩

section Shown
variable {names : List (Nat × String)}

theorem error?_of_atom {w : Value} {x : Except Fault String} (hd : depth < limit)
    (hw : ∀ n, w ≠ .int n) (hx : x.error? = none) :
    x.error? = [(depth, w)].findSome? (obstacle? limit) := by
  rw [hx, List.findSome?_singleton, obstacle?_eq_none_iff.mpr ⟨hd, fun n hn => absurd hn (hw n)⟩]

theorem findSome?_tour_cons {w : Value} (hd : depth < limit) (hw : ∀ n, w ≠ .int n)
    (ps : List (Nat × Value)) :
    ((depth, w) :: ps).findSome? (obstacle? limit) = ps.findSome? (obstacle? limit) := by
  rw [List.findSome?_cons, obstacle?_eq_none_iff.mpr ⟨hd, fun n hn => absurd hn (hw n)⟩]

mutual

theorem error?_literalWithin (limit : Nat) (v : Value) (names : List (Nat × String)) (depth : Nat) :
    (literalWithin names (limit - depth) v).error? =
      (tour (names.map (·.1)) depth v).findSome? (obstacle? limit) := by
  by_cases hd : limit ≤ depth
  · obtain ⟨w, rest, hw⟩ := exists_tour (names.map (·.1)) depth v
    rw [hw, List.findSome?_cons, obstacle?_eq_nesting_iff.mpr hd, Nat.sub_eq_zero_of_le hd,
      literalWithin]
    rfl
  · have hd := Nat.not_le.mp hd
    obtain ⟨r, hr⟩ : ∃ r, limit - depth = r + 1 := ⟨limit - depth - 1, by omega⟩
    have hr₁ : r = limit - (depth + 1) := by omega
    have hr₂ : r - 1 = limit - (depth + 2) := by omega
    rw [hr]
    cases v with
    | int n =>
      have ht : tour (names.map (·.1)) depth (.int n) = [(depth, .int n)] := rfl
      rw [literalWithin, Numeral.write_eq, ht, List.findSome?_singleton, obstacle?,
        if_neg (Nat.not_le.mpr hd)]
      by_cases hn : Numeral.Unwritable n
      · rw [if_pos hn]
        exact (if_pos hn).symm
      · rw [if_neg hn]
        exact (if_neg hn).symm
    | list xs =>
      rw [tour, findSome?_tour_cons (w := .list xs) hd nofun, literalWithin, hr₁,
        ← error?_literals limit xs names (depth + 1)]
      exact Except.error?_bind_ok _ _
    | pair a b =>
      rw [tour, findSome?_tour_cons (w := .pair a b) hd nofun, literalWithin, hr₁,
        List.findSome?_append, ← error?_literalWithin limit a names (depth + 1),
        ← error?_literalWithin limit b names (depth + 1)]
      exact Except.error?_bind fun _ => Except.error?_bind_ok _ _
    | set xs =>
      rw [tour, findSome?_tour_cons (w := .set xs) hd nofun]
      cases xs with
      | nil => rfl
      | cons x xs =>
        rw [literalWithin, hr₂, tourAll, List.findSome?_append,
          ← error?_literalWithin limit x names (depth + 2),
          ← error?_literals limit xs names (depth + 2)]
        exact Except.error?_bind fun _ => Except.error?_bind_ok _ _
    | map es =>
      rw [tour, findSome?_tour_cons (w := .map es) hd nofun, literalWithin, hr₁,
        ← error?_entryLiterals limit es names (depth + 1)]
      exact Except.error?_bind_ok _ _
    | named n v =>
      rw [literalWithin, tour]
      cases hn : names.lookup n with
      | some shown =>
        have hm : n ∈ names.map (·.1) := by
          obtain ⟨p, hp, he⟩ := List.lookup_isSome_iff.mp (Option.isSome_of_eq_some hn)
          rw [eq_of_beq he]
          exact List.mem_map_of_mem hp
        rw [if_pos hm]
        exact error?_of_atom hd nofun rfl
      | none =>
        have hm : n ∉ names.map (·.1) := by
          intro hm
          obtain ⟨p, hp, rfl⟩ := List.mem_map.mp hm
          exact bne_iff_ne.mp (List.lookup_eq_none_iff.mp hn p hp) rfl
        have ih := error?_literalWithin limit v ((n, ellipsis v) :: names) depth
        rw [hr] at ih
        rw [if_neg hm]
        exact ih
    | _ => exact error?_of_atom hd nofun rfl

theorem error?_literals (limit : Nat) (xs : List Value) (names : List (Nat × String)) (depth : Nat) :
    (literals names (limit - depth) xs).error? =
      (tourAll (names.map (·.1)) depth xs).findSome? (obstacle? limit) := by
  cases xs with
  | nil => rfl
  | cons x xs =>
    rw [literals, tourAll, List.findSome?_append, ← error?_literalWithin limit x names depth,
      ← error?_literals limit xs names depth]
    exact Except.error?_bind fun _ => Except.error?_bind_ok _ _

theorem error?_entryLiterals (limit : Nat) (es : List (Value × Value)) (names : List (Nat × String))
    (depth : Nat) :
    (entryLiterals names (limit - depth) es).error? =
      (tourEntries (names.map (·.1)) depth es).findSome? (obstacle? limit) := by
  cases es with
  | nil => rfl
  | cons e es =>
    obtain ⟨k, v⟩ := e
    rw [entryLiterals, tourEntries, List.findSome?_append, List.findSome?_append,
      ← error?_literalWithin limit k names depth, ← error?_literalWithin limit v names depth,
      ← error?_entryLiterals limit es names depth]
    exact Except.error?_bind fun _ => Except.error?_bind fun _ => Except.error?_bind_ok _ _

end

end Shown

end StoredProgram.Value
