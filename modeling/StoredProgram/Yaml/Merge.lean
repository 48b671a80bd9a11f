import StoredProgram.Yaml.Node

/-! Merge keys. The entries of the mappings that such a key names come before those of its own
mapping, from which the key is gone then for good. -/

namespace StoredProgram.Yaml

abbrev Nodes := Array Node

def Nodes.at (ns : Nodes) (n : Nat) : Node := ns.getD n Node.absent

def Nodes.entries (ns : Nodes) (n : Nat) : List (Nat × Nat) :=
  match ns.at n with
  | .mapping _ es => es
  | _ => []

def Nodes.setEntries (ns : Nodes) (n : Nat) (es : List (Nat × Nat)) : Nodes :=
  match ns.at n with
  | .mapping tag _ => ns.set! n (.mapping tag es)
  | _ => ns

namespace Merge

abbrev Merging := StateT Nodes (Except Fault)

def isMerge (ns : Nodes) (entry : Nat × Nat) : Bool := (ns.at entry.1).tag = .merge

/-- As a key, the mark of a default value is a plain text. -/
def settleKey (key : Nat) : Merging Unit := modify fun ns =>
  match ns.at key with
  | .scalar .value text => ns.set! key (.scalar .text text)
  | .sequence .value items => ns.set! key (.sequence .text items)
  | .mapping .value es => ns.set! key (.mapping .text es)
  | _ => ns

def isMapping : Node → Bool
  | .mapping .. => true
  | _ => false

mutual

def flatten (n : Nat) : Nat → Merging Unit
  | 0 => throw .document
  | fuel + 1 => do
    let merged ← gather n fuel
    let own := (← get).entries n
    own.forM fun e => settleKey e.1
    modify fun ns => ns.setEntries n (merged ++ own)

def gather (n : Nat) : Nat → Merging (List (Nat × Nat))
  | 0 => throw .document
  | fuel + 1 => do
    let ns ← get
    let es := ns.entries n
    match es.find? (isMerge ns) with
    | none => return []
    | some e =>
      set (ns.setEntries n (es.eraseP (isMerge ns)))
      let merged ← named e.2 fuel
      return merged ++ (← gather n fuel)

def named (n : Nat) : Nat → Merging (List (Nat × Nat))
  | 0 => throw .document
  | fuel + 1 => do
    match (← get).at n with
    | .mapping .. =>
      flatten n fuel
      return (← get).entries n
    | .sequence _ items => return (← namedAll items fuel).reverse.flatten
    | .scalar .. => throw .document

def namedAll (ns : List Nat) : Nat → Merging (List (List (Nat × Nat)))
  | 0 => throw .document
  | fuel + 1 => do
    match ns with
    | [] => return []
    | n :: ns =>
      if isMapping ((← get).at n) then
        flatten n fuel
        let es := (← get).entries n
        return es :: (← namedAll ns fuel)
      else throw .document

end

def extent : Node → Nat
  | .scalar .. => 1
  | .sequence _ items => items.length + 1
  | .mapping _ es => es.length + 1

/-- Each merge key is taken once, and all lists are parts of the table. -/
def fuel (ns : Nodes) : Nat := 4 * ns.foldl (fun n x => n + extent x) 0 + 4

end Merge

end StoredProgram.Yaml
