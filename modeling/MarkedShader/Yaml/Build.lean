import MarkedShader.Data.Store
import MarkedShader.Yaml.Merge
import MarkedShader.Yaml.Value

/-! Data from nodes. The collections of one level are begun before any of them is filled, and those
of the next level after that, so that the faults of one level come before those of the next, and a
collection can stand in itself. -/
namespace MarkedShader.Yaml

/-- The collections that the values of a kind are. A set is filled as a mapping is. -/
def Kind.shape? : Kind → Option Shape
  | list | pairs => some .list
  | mapping | set => some .mapping
  | _ => none

/-- How many nodes the text of a scalar can be looked up through. -/
def scalarLimit : Nat := 970

/-- The text that a node has as a scalar: its own one, or that of the default value of a mapping. -/
def Nodes.textOf (ns : Nodes) : Nat → Nat → Except Fault Text
  | 0, _ => .error .tooDeep
  | depth+1, n => match ns.content n with
    | .scalar t => .ok t
    | .sequence _ => .error .invalid
    | .mapping es => match es.find? fun (key, _) => ns.kind key = .default with
      | some (_, value) => ns.textOf depth value
      | none => .error .invalid

/-- The value of a node that is no collection. A moment is to be written in the node itself. -/
def Nodes.scalarOf (ns : Nodes) (n : Nat) : Except Fault Data := do
  let kind := ns.kind n
  if kind = .merge || kind = .default || kind = .unknown then throw .invalid
  let t ← ns.textOf scalarLimit n
  match ns.content n, kind with
  | .mapping _, .moment => .error .noText
  | _, kind => match ← kind.value t with
    | .real (.nan (some _)) => .ok (.real (.nan (some n)))
    | d => .ok d

/-- What has been built of some nodes. -/
structure Building where
  nodes : Nodes
  /-- The value of each node that has one. -/
  values : Array (Option Data)
  /-- The collections that have been filled, under the numbers of their nodes, and then rows. -/
  cells : Array (Option Data)
  /-- The collections that have been begun and are to be filled, the last one first. -/
  begun : List Nat := []

abbrev Build := StateT Building (Except Fault)

namespace Build

/-- The value of a node, which is built once. -/
def value (n : Nat) : Build Data := do
  match (← get).values[n]?.join with
  | some d => return d
  | none =>
    match ((← get).nodes.kind n).shape? with
    | some shape =>
      modify fun b => { b with begun := n :: b.begun
                               values := b.values.setIfInBounds n (some (.shared shape n)) }
      return .shared shape n
    | none =>
      let d ← ((← get).nodes.scalarOf n : Except Fault Data)
      modify fun b => { b with values := b.values.setIfInBounds n (some d) }
      return d

/-- An entry of a mapping, the key of which can be looked up. -/
def entry (e : Nat × Nat) : Build (Data × Data) := do
  let key ← value e.1
  if !key.isFixed then throw .invalid
  return (key, ← value e.2)

/-- A row of two values, which is written as a mapping of one entry. -/
def row (n : Nat) : Build Data := do
  match (← get).nodes.content n with
  | .mapping [(first, second)] =>
    let items := [← value first, ← value second]
    modifyGet fun b =>
      (.shared .row b.cells.size, { b with cells := b.cells.push (some (.tuple items)) })
  | _ => throw .invalid

/-- Whatever a collection holds. -/
def contents (n : Nat) : Build Data := do
  let kind := (← get).nodes.kind n
  match (← get).nodes.content n with
  | .scalar _ => throw .invalid
  | .sequence items =>
    match kind with
    | .list => return .list (← items.mapM value)
    | .pairs => return .list (← items.mapM row)
    | _ => throw .invalid
  | .mapping _ =>
    if kind = .list || kind = .pairs then throw .invalid
    let nodes ← ((← get).nodes.merge mergeLimit n : Except Fault Nodes)
    modify fun b => { b with nodes }
    let es ← (nodes.entries n).mapM entry
    return if kind = .set then Data.ofMembers (es.map (·.1)) else .ofEntries es

def fill (n : Nat) : Build Unit := do
  let d ← contents n
  modify fun b => { b with cells := b.cells.setIfInBounds n (some d) }

/-- Fill what has been begun, level by level. Each node is begun once, so that there are no more
levels than nodes. -/
def levels : Nat → Build Unit
  | 0 => return
  | fuel+1 => do
    match (← get).begun with
    | [] => return
    | begun =>
      modify fun b => { b with begun := [] }
      begun.reverse.forM fill
      levels fuel

end Build

namespace Building

/-- The values in a collection. -/
def partsOf : Data → List Data
  | .list items | .tuple items => items
  | .mapping entries => entries.map (·.2)
  | _ => []

/-- The serials of the collections that stand in one of a serial. -/
def serialsIn (b : Building) (n : Nat) : List Nat :=
  (((b.cells[n]?.join).map partsOf).getD []).filterMap Data.serial?

/-- How often each collection stands in others, or is the whole. -/
def uses (b : Building) (root : Data) : Array Nat :=
  (root.serial?.toList ++ (List.range b.cells.size).flatMap b.serialsIn).foldl
    (fun counts n => counts.modify n (· + 1)) (Array.replicate b.cells.size 0)

/-- Mark what is pending and whatever stands in it, where it is not marked. -/
def markFrom (b : Building) : Nat → List Nat → Array Bool → Array Bool
  | fuel+1, n :: pending, marks =>
    if marks[n]?.getD true then b.markFrom fuel pending marks
    else b.markFrom fuel (b.serialsIn n ++ pending) (marks.setIfInBounds n true)
  | _, _, marks => marks

/-- The collections that stand in several places, and whatever stands in them. Among them are all
that stand in themselves. Each use of a collection is pending twice at most. -/
def aliased (b : Building) (root : Data) : Array Bool :=
  let uses := b.uses root
  let starts := (List.range uses.size).filter fun n => 2 ≤ uses[n]?.getD 0
  b.markFrom (2 * uses.foldl (· + ·) 0) starts (Array.replicate uses.size false)

/-- The collections to be kept: lists and mappings that can be come to in several ways, and rows. -/
def kept (b : Building) (root : Data) : Array Bool :=
  (b.aliased root).zipWith (fun isAliased cell => match cell with
    | some (.set _) | none => false
    | some (.tuple _) => true
    | some _ => isAliased) b.cells

/-- A value with the collections that are not kept in their places. -/
def settle (b : Building) (kept : Array Bool) : Nat → Data → Data
  | fuel+1, .shared shape n =>
    if kept[n]?.getD false then .shared shape n
    else ((b.cells[n]?.join).map (·.mapLeaves (b.settle kept fuel))).getD .null
  | _, d => d

/-- The whole value, and the store of what is kept of it. -/
def settled (b : Building) (root : Data) : Data × Store :=
  let kept := b.kept root
  let settle := b.settle kept b.cells.size
  (settle root, ⟨(List.range kept.size).filterMap fun n =>
    if kept[n]?.getD false then (b.cells[n]?.join).map fun d => (n, d.mapLeaves settle) else none⟩)

end Building

def Document.value (d : Document) : Except Fault (Data × Store) := do
  let count := d.nodes.size
  let start : Building :=
    { nodes := d.nodes, values := Array.replicate count none, cells := Array.replicate count none }
  let (root, b) ← (do
    let root ← Build.value d.root
    Build.levels (count+1)
    return root : Build Data).run start
  .ok (b.settled root)

/-- The data of a YAML text, with the store of what stands in several places; an empty document is a
null. -/
def read (t : Text) : Except Fault (Data × Store) := do
  match ← Document.ofText t with
  | none => .ok (.null, {})
  | some d => d.value

end MarkedShader.Yaml
