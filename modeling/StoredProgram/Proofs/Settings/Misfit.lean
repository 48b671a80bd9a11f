import StoredProgram.Proofs.Fault
import StoredProgram.Proofs.Settings.Integer
import StoredProgram.Proofs.Value

/-! What settings and the programs in them must be like, and how data that are not are turned down.
Programs and their initial data are looked into whatever they are: what cannot be gone through, or has
no members where they are asked for, gives the fault of that access. What is refused is shown, which
fails where it goes too deep. -/

namespace StoredProgram

namespace Settings
open Value
variable {v p c : Value} {es : List (Value × Value)} {k : Fault.Kind} {s : Settings}

def ProperSection (P : Value → Prop) (v : Value) : Prop := ∃ xs, v.elements = .ok xs ∧ ∀ x ∈ xs, P x

/-- A section that cannot be gone through, or in which proper items are followed by one that does not
fit. -/
inductive MisfitSection (P : Value → Prop) (Q : Value → Fault.Kind → Prop) (v : Value) :
    Fault.Kind → Prop
  | atom : v.unfold.isIterable = false → MisfitSection P Q v .type
  | item {before x after k} : v.elements = .ok (before ++ x :: after) → (∀ b ∈ before, P b) →
      Q x k → MisfitSection P Q v k

/-- The first of the values that is no number goes too deep to be shown. -/
def BuriedAmong (vs : List Value) : Prop :=
  ∃ before v after, vs = before ++ v :: after ∧ (∀ b ∈ before, ∃ n, readInteger b = .ok n) ∧ v.Buried

def cellNumbers (es : List (Value × Value)) : List Value :=
  [memberOr .null "address" es, memberOr .null "value" es]

def ProperCell (c : Value) : Prop :=
  ∃ es, c.unfold = .map es ∧ ∀ v ∈ cellNumbers es, ∃ n, readInteger v = .ok n

inductive MisfitCell (c : Value) : Fault.Kind → Prop
  | notMap : (∀ es, c.unfold ≠ .map es) → MisfitCell c .member
  | number {es : List (Value × Value)} : c.unfold = .map es → BuriedAmong (cellNumbers es) →
      MisfitCell c .nesting

def Complete (es : List (Value × Value)) : Prop :=
  (lookup? "name" es).isSome = true ∧ (lookup? "code" es).isSome = true

instance (es : List (Value × Value)) : Decidable (Complete es) :=
  inferInstanceAs (Decidable (_ ∧ _))

/-- The initial data of a program, which may be left out but not be null. -/
def setupOf (es : List (Value × Value)) : Value := memberOr (.list []) "memory_setup" es

def ProperEntry (p : Value) : Prop :=
  ∃ es, p.unfold = .map es ∧ Complete es ∧ ProperSection ProperCell (setupOf es)

/-- An entry of the programs that does not fit: one in which nothing can be looked for, one that lacks
a name or code and goes too deep to be shown, a list or text that has both words in it, or a program
with initial data that do not fit. -/
inductive MisfitEntry (p : Value) : Fault.Kind → Prop
  | atom : p.unfold.isCollection = false → MisfitEntry p .type
  | lacking {named coded : Bool} : contains "name" p = .ok named → contains "code" p = .ok coded →
      (named && coded) = false → p.Buried → MisfitEntry p .nesting
  | words : contains "name" p = .ok true → contains "code" p = .ok true →
      (∀ es, p.unfold ≠ .map es) → MisfitEntry p .member
  | setup {es : List (Value × Value)} {k : Fault.Kind} : p.unfold = .map es → Complete es →
      MisfitSection ProperCell MisfitCell (setupOf es) k → MisfitEntry p k

/-- The numbers of settings as they are given or by default, in the order in which they are read. -/
def numbersOf (es : List (Value × Value)) : List Value :=
  [memberOr (.int 20) "memory_size" es, memberOr (.int 500) "execution_speed" es,
    memberOr (.int 100) "min_speed" es, memberOr (.int 1000) "max_speed" es,
    memberOr (.int 10000) "max_run_steps" es]

structure Numbers (es : List (Value × Value)) (s : Settings) : Prop where
  numbers : (numbersOf es).map readInteger =
    [s.memorySize, s.executionSpeed, s.minSpeed, s.maxSpeed, s.maxRunSteps].map .ok
  programs : s.programs = []

def programsOf (es : List (Value × Value)) : Value := memberOr (.list []) "programs" es

/-- Data with a number that goes too deep to be shown, or with numbers in order and programs that do
not fit. -/
inductive Misfit (v : Value) : Fault.Kind → Prop
  | number {es : List (Value × Value)} : v.unfold = .map es → BuriedAmong (numbersOf es) →
      Misfit v .nesting
  | programs {es : List (Value × Value)} {s : Settings} {k : Fault.Kind} : v.unfold = .map es →
      Numbers es s → (programsOf es).isEmpty = false →
      MisfitSection ProperEntry MisfitEntry (programsOf es) k → Misfit v k

section Access

end Access

section Numbers
variable {α : Type} {vs : List Value}

end Numbers

section Sections
variable {α : Type} {f : Value → Except Fault α} {P : Value → Prop} {Q : Value → Fault.Kind → Prop}

end Sections

section Cell

end Cell

section Entry

end Entry

section Kinds
variable {P : Value → Prop} {Q : Value → Fault.Kind → Prop}

theorem MisfitSection.kinds (hq : ∀ x k, Q x k → k ∈ [.type, .member, .nesting])
    (h : MisfitSection P Q v k) : k ∈ [.type, .member, .nesting] := by
  cases h with
  | atom _ => decide
  | item _ _ hx => exact hq _ _ hx

theorem MisfitCell.kinds (h : MisfitCell c k) : k ∈ [.type, .member, .nesting] := by
  cases h <;> decide

theorem MisfitEntry.kinds (h : MisfitEntry p k) : k ∈ [.type, .member, .nesting] := by
  cases h with
  | setup _ _ h => exact h.kinds fun _ _ => MisfitCell.kinds
  | _ => decide

theorem Misfit.kinds (h : Misfit v k) : k ∈ [.type, .member, .nesting] := by
  cases h with
  | number _ _ => decide
  | programs _ _ _ h => exact h.kinds fun _ _ => MisfitEntry.kinds

end Kinds

end Settings
end StoredProgram
