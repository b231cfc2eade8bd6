import MarkedShader.Calendar
import MarkedShader.Number
import MarkedShader.Text.Blank

/-! Plain data: mappings, sequences and scalars, and when two of them are the same value. -/
namespace MarkedShader

/-- The kinds of collections that can be kept apart from the values they stand in. -/
inductive Shape
  | list | row | mapping
  deriving DecidableEq, Repr

/-- The entries of a mapping are in order, and any scalar can be a key. -/
inductive Data
  | null
  | bool (value : Bool)
  | int (value : Int)
  | real (value : Binary64)
  | text (value : Text)
  | bytes (value : List UInt8)
  | date (value : Date)
  | moment (value : Moment)
  | list (items : List Data)
  /-- A row of fixed length. -/
  | tuple (items : List Data)
  | set (items : List Data)
  | mapping (entries : List (Data × Data))
  /-- An identity that was made up. It has no name yet, and no given text equals it. -/
  | madeUp (serial : Nat)
  /-- A collection that is kept elsewhere under its serial, as it stands in several places or in
  itself. -/
  | shared (shape : Shape) (serial : Nat)
  deriving Repr, Inhabited

namespace Data

def ofString (s : String) : Data := .text s.toList

/-- The serial of a collection that is kept elsewhere. -/
def serial? : Data → Option Nat
  | shared _ serial => some serial
  | _ => none

/-- The number that a value is. The truth values are numbers as well. -/
def number? : Data → Option Number
  | bool value => some (.int (if value then 1 else 0))
  | int value => some (.int value)
  | real value => some (.real value)
  | _ => none

/-- Whether a value counts as true: not null, false, zero or empty. -/
def isTrue : Data → Bool
  | null => false
  | bool value => value
  | int value => value != 0
  | real value => !value.sameValue (.zero false)
  | text value => !value.isEmpty
  | bytes value => !value.isEmpty
  | list items | tuple items | set items => !items.isEmpty
  | mapping entries => !entries.isEmpty
  | date _ | moment _ | madeUp _ | shared _ _ => true

/-- How many items a value has, if it is one that has items. -/
def count? : Data → Option Nat
  | text value => some value.length
  | bytes value => some value.length
  | list items | tuple items | set items => some items.length
  | mapping entries => some entries.length
  | _ => none

/-- The items gone over in a loop: those of a sequence, the characters of a text, the keys of a
mapping. -/
def items? : Data → Option (List Data)
  | list items | tuple items | set items => some items
  | text t => some (t.map fun c => .text [c])
  | bytes bs => some (bs.map fun b => .int b.toNat)
  | mapping entries => some (entries.map (·.1))
  | _ => none

mutual
/-- A value with something else in the place of each leaf, that is, of each part that has no further
parts. The members of a set cannot be replaced one by one, so that a set is a leaf. -/
def replaceLeaves {m : Type → Type} [Monad m] (f : Data → m Data) : Data → m Data
  | list items => do return .list (← replaceInItems f items)
  | tuple items => do return .tuple (← replaceInItems f items)
  | mapping entries => do return .mapping (← replaceInEntries f entries)
  | d => f d
def replaceInItems {m : Type → Type} [Monad m] (f : Data → m Data) : List Data → m (List Data)
  | [] => return []
  | d :: ds => do
    let e ← replaceLeaves f d
    return e :: (← replaceInItems f ds)
def replaceInEntries {m : Type → Type} [Monad m] (f : Data → m Data) :
    List (Data × Data) → m (List (Data × Data))
  | [] => return []
  | (key, d) :: es => do
    let newKey ← replaceLeaves f key
    let e ← replaceLeaves f d
    return (newKey, e) :: (← replaceInEntries f es)
end

def mapLeaves (f : Data → Data) (d : Data) : Data := Id.run (d.replaceLeaves fun d => pure (f d))

/-- A value in which each part that is not a number has a serial of its own, so that no two of them
are the same. -/
def distinguish (d : Data) : Data :=
  ((d.replaceLeaves (m := StateM Nat) fun
    | .real (.nan (some _)) => modifyGet fun n => (.real (.nan (some n)), n+1)
    | leaf => pure leaf).run 0).1

mutual
/-- Whether two values are equal. Numbers are compared by value, and mappings and sets without
regard to order. What is not a number equals itself only as a part of something, or with `isPart`.
`meet` compares where one value is kept elsewhere. -/
def equalWith {m : Type → Type} [Monad m] (meet : Data → Data → m Bool) (isPart : Bool) :
    Data → Data → m Bool
  | shared shape serial, b => meet (.shared shape serial) b
  | a, shared shape serial => meet a (.shared shape serial)
  | null, null => return true
  | text a, text b => return a == b
  | bytes a, bytes b => return a == b
  | date a, date b => return a == b
  | moment a, moment b => return a.same b
  | list as, list bs => if as.length = bs.length then equalItems meet as bs else return false
  | tuple as, tuple bs => equalItems meet as bs
  | set as, set bs => if as.length = bs.length then equalMembers meet as bs else return false
  | mapping es, mapping fs =>
    if es.length = fs.length then equalEntries meet es fs else return false
  | madeUp a, madeUp b => return a == b
  | a, b => match a.number?, b.number? with
    | some x, some y => return x.sameValue y || (isPart && x == y)
    | _, _ => return false
def equalItems {m : Type → Type} [Monad m] (meet : Data → Data → m Bool) :
    List Data → List Data → m Bool
  | [], [] => return true
  | a :: as, b :: bs => do if ← equalWith meet true a b then equalItems meet as bs else return false
  | _, _ => return false
def equalMembers {m : Type → Type} [Monad m] (meet : Data → Data → m Bool) :
    List Data → List Data → m Bool
  | [], _ => return true
  | a :: as, bs => do
    if ← bs.anyM fun b => equalWith meet true a b then equalMembers meet as bs else return false
def equalEntries {m : Type → Type} [Monad m] (meet : Data → Data → m Bool) :
    List (Data × Data) → List (Data × Data) → m Bool
  | [], _ => return true
  | (key, a) :: es, fs => do
    let found ← fs.anyM fun (other, b) => do
      if ← equalWith meet true key other then equalWith meet true a b else return false
    if found then equalEntries meet es fs else return false
end

/-- Whether two parts are the same, where collections that are kept elsewhere are told apart by
their serials. -/
def same (a b : Data) : Bool :=
  Id.run (equalWith (fun a b => pure (a.serial? == b.serial?)) true a b)

def isText (d : Data) (t : Text) : Bool :=
  match d with
  | text value => value == t
  | _ => false

/-- Whether a text is among the items of a value, or a part of a text; `none` for what has no
items. -/
def holds? (d : Data) (t : Text) : Option Bool :=
  match d with
  | list items | tuple items | set items => some (items.any (·.isText t))
  | text whole => some (whole.holds t)
  | mapping entries => some (entries.any fun (key, _) => key.isText t)
  | _ => none

mutual
/-- Whether a value can be looked up: one that can change cannot. -/
def isFixed : Data → Bool
  | list _ | set _ | mapping _ | shared _ _ => false
  | tuple items => areFixed items
  | _ => true
def areFixed : List Data → Bool
  | [] => true
  | d :: ds => isFixed d && areFixed ds
end

/-- The value of a named entry. -/
def lookup? (name : String) : List (Data × Data) → Option Data
  | [] => none
  | (key, d) :: es => if key.isText name.toList then some d else lookup? name es

/-- Add an entry. A key keeps its first place and takes its last value. -/
def insert (key value : Data) : List (Data × Data) → List (Data × Data)
  | [] => [(key, value)]
  | (k, v) :: es => if k.same key then (k, value) :: es else (k, v) :: insert key value es

def ofEntries (es : List (Data × Data)) : Data :=
  .mapping (es.foldl (fun fs (key, d) => insert key d fs) [])

end Data
end MarkedShader
