import StoredProgram.Yaml.Merge
import StoredProgram.Yaml.Scalar

/-! Values of documents. The nodes are taken level by level from the root: a collection is made when
it is met, and filled when its turn comes. So a collection can hold itself, and of several faults
the one nearest to the root is found, and of those the first. -/

namespace StoredProgram.Yaml

open Text (Point)

/-- What a node stands for; its parts are known by their nodes. -/
inductive Thing where
  | atom (v : Value) (commonNan : Bool)
  | list (items : List Nat)
  | pairs (entries : List (Nat × Nat))
  | set (items : List Nat)
  | map (entries : List (Nat × Nat))

structure Making where
  nodes : Nodes
  things : Array (Option Thing)
  waiting : List Nat := []

abbrev Make := StateT Making (Except Fault)

namespace Make

def refuse {α : Type} : Make α := throw .document

def node (n : Nat) : Make Node := return (← get).nodes.at n

def thing? (n : Nat) : Make (Option Thing) := return ((← get).things[n]?).join

def put (n : Nat) (t : Thing) : Make Unit :=
  modify fun m => { m with things := m.things.set! n (some t) }

def scalarText (n : Nat) : Nat → Make (List Point)
  | 0 => throw .nesting
  | fuel + 1 => do
    match ← node n with
    | .scalar _ text => return text
    | .sequence .. => refuse
    | .mapping _ es =>
      let nodes := (← get).nodes
      match es.find? fun e => (nodes.at e.1).tag = .value with
      | some e => scalarText e.2 fuel
      | none => refuse

def isScalar : Node → Bool
  | .scalar .. => true
  | _ => false

def atom (n : Nat) (tag : Tag) : Make Thing := do
  let text ← scalarText n ((← get).nodes.size + 1)
  if tag = .timestamp && !isScalar (← node n) then throw .wrongKind
  match scalarValue tag text with
  | .ok v => return .atom v (tag = .float && isCommonNan text)
  | .error e => throw e

def emptyThing? : Tag → Option Thing
  | .sequence => some (.list [])
  | .orderedMap | .pairs => some (.pairs [])
  | .set => some (.set [])
  | .mapping => some (.map [])
  | _ => none

def isScalarTag : Tag → Bool
  | .null | .bool | .int | .float | .timestamp | .text | .binary => true
  | _ => false

/-- A node is made once, however often it is named. -/
def make (n : Nat) : Make Unit := do
  if (← thing? n).isNone then
    let tag := (← node n).tag
    match emptyThing? tag with
    | some t =>
      put n t
      modify fun m => { m with waiting := n :: m.waiting }
    | none => if isScalarTag tag then put n (← atom n tag) else refuse

def makeKey (n : Nat) : Make Unit := do
  make n
  match ← thing? n with
  | some (.atom ..) => return ()
  | _ => refuse

def sameKey (n m : Nat) : Make Bool := do
  if n = m then return true
  else
    match ← thing? n, ← thing? m with
    | some (.atom v common), some (.atom w common') =>
      return v.equal w || (common && common')
    | _, _ => return false

def insert (k v : Nat) : List (Nat × Nat) → Make (List (Nat × Nat))
  | [] => return [(k, v)]
  | (l, w) :: es => do
    if ← sameKey k l then return (l, v) :: es else return (l, w) :: (← insert k v es)

def insertAll (es : List (Nat × Nat)) : List (Nat × Nat) → Make (List (Nat × Nat))
  | [] => return es
  | (k, v) :: rest => do
    makeKey k
    make v
    insertAll (← insert k v es) rest

def flatten (n : Nat) : Make Unit := do
  let m ← get
  match (Merge.flatten n (Merge.fuel m.nodes)).run m.nodes with
  | .ok ((), nodes) => set { m with nodes }
  | .error e => throw e

def entries (n : Nat) : Make (List (Nat × Nat)) := do
  if Merge.isMapping (← node n) then
    flatten n
    insertAll [] ((← get).nodes.entries n)
  else refuse

def items (n : Nat) : Make (List Nat) := do
  match ← node n with
  | .sequence _ ns => return ns
  | _ => refuse

def single (n : Nat) : Make (Nat × Nat) := do
  match ← node n with
  | .mapping _ [(k, v)] =>
    make k
    make v
    return (k, v)
  | _ => refuse

def fill (n : Nat) : Make Unit := do
  match (← node n).tag with
  | .sequence =>
    let ns ← items n
    ns.forM make
    put n (.list ns)
  | .orderedMap | .pairs => put n (.pairs (← (← items n).mapM single))
  | .set => put n (.set ((← entries n).map (·.1)))
  | _ => put n (.map (← entries n))

def fillAll : Nat → Make Unit
  | 0 => refuse
  | fuel + 1 => do
    let level := (← get).waiting.reverse
    if !level.isEmpty then
      modify fun m => { m with waiting := [] }
      level.forM fill
      fillAll fuel

end Make

abbrev Things := Array (Option Thing)

namespace Thing

def parts : Thing → List Nat
  | .atom .. => []
  | .list ns | .set ns => ns
  | .pairs es | .map es => es.flatMap fun e => [e.1, e.2]

def reach (ts : Things) : Nat → List Nat → List Nat → List Nat
  | 0, _, seen => seen
  | fuel + 1, ns, seen =>
    let new := ((ns.flatMap fun n => ((ts[n]?.join).map parts).getD []).filter
      fun n => !seen.contains n).eraseDups
    if new.isEmpty then seen else reach ts fuel new (new ++ seen)

def holdsItself (ts : Things) (n : Nat) : Bool := (reach ts (ts.size + 1) [n] []).contains n

def isNumber : Value → Bool
  | .int _ | .bool _ => true
  | _ => false

def setOrder (vs : List Value) : List Value :=
  if vs.all isNumber then
    vs.mergeSort fun v w => v.int?.getD 0 ≤ w.int?.getD 0
  else vs

/-- The value of a node. `around` are the nodes of `cycles`, the collections that hold themselves,
that this node stands within. -/
def value (ts : Things) (cycles : List Nat) (around : List Nat) (n : Nat) : Nat → Value
  | 0 => .null
  | fuel + 1 =>
    if around.contains n then .again n
    else
      let named := cycles.contains n
      let part (m : Nat) := value ts cycles (if named then n :: around else around) m fuel
      let v := match ts[n]?.join with
        | none => .null
        | some (.atom v _) => v
        | some (.list ns) => .list (ns.map part)
        | some (.pairs es) => .list (es.map fun e => .pair (part e.1) (part e.2))
        | some (.set ns) => .set (setOrder (ns.map part))
        | some (.map es) => .map (es.map fun e => (part e.1, part e.2))
      if named then .named n v else v

end Thing

def Document.value (d : Document) : Except Fault Value := do
  let things : Things := d.nodes.map fun _ => none
  let work : Make Unit := do
    Make.make d.root
    Make.fillAll (d.nodes.size + 1)
  let (_, m) ← work.run { nodes := d.nodes, things }
  -- without an alias no collection holds itself
  let cycles := if d.aliased then (List.range m.things.size).filter (Thing.holdsItself m.things) else []
  return Thing.value m.things cycles [] d.root (d.nodes.size + 1)

def read (s : Source) : Except Fault Value := do
  match ← Document.read s with
  | some d => d.value
  | none => return .null

def readText (text : String) : Except Fault Value :=
  let s := text.toList
  if s.all isPermitted then read { text := s } else .error .document

end StoredProgram.Yaml
