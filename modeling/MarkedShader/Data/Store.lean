import MarkedShader.Data.Members
import MarkedShader.Data.Spelling

/-! Collections that are kept under serials, because they stand in several places or in themselves.
A value with such collections in it is read, spelled, copied and compared along with the store that
keeps them. -/
namespace MarkedShader

/-- Why something cannot be done with a whole value. -/
inductive Data.Fault
  /-- Its collections stand too deep in each other, or in themselves. -/
  | tooDeep
  /-- It has an integer of too many digits. -/
  | integerTooLong
  deriving DecidableEq, Repr

/-- Whether a leaf has an integer that cannot be written in digits. -/
def Data.isTooLong : Data → Bool
  | int i => Numeral.isTooLong i
  | set items => items.any fun
    | int i => Numeral.isTooLong i
    | _ => false
  | _ => false

/-- The collections that are kept, by serial. They are lists, rows and mappings. -/
structure Store where
  cells : List (Nat × Data) := []

namespace Store

/-- What a value is, be it kept here or not. -/
def view (s : Store) : Data → Data
  | .shared _ serial => (s.cells.lookup serial).getD .null
  | d => d

/-- Put a collection in the place of one that is kept. -/
def replace (s : Store) (serial : Nat) (d : Data) : Store :=
  ⟨s.cells.map fun (n, old) => (n, if n = serial then d else old)⟩

def isTrue (s : Store) (d : Data) : Bool := (s.view d).isTrue

def items? (s : Store) (d : Data) : Option (List Data) := (s.view d).items?

def isFixed (s : Store) (d : Data) : Bool := (s.view d).isFixed

/-- How many kept collections can stand in each other where a whole value is needed. -/
def depthLimit : Nat := 480

/-- How deep values can be that are spelled or compared. -/
def spellingLimit : Nat := 940

/-- A value with the kept collections in their places, and each other leaf as `leaf` gives it. -/
def expandWith (s : Store) (leaf : Data → Except Data.Fault Data) :
    Nat → Data → Except Data.Fault Data
  | 0, _ => .error .tooDeep
  | depth+1, d => d.replaceLeaves fun
    | .shared shape serial => expandWith s leaf depth (s.view (.shared shape serial))
    | d => leaf d

/-- A copy of a value. Nothing in it is kept any more. -/
def copy (s : Store) (d : Data) : Except Data.Fault Data :=
  expandWith s (fun
    | .set items => .ok (Data.remade items)
    | d => .ok d) depthLimit d

/-- The whole value, all of whose integers can be written in digits. -/
def whole (s : Store) (d : Data) : Except Data.Fault Data :=
  expandWith s (fun d => if d.isTooLong then .error .integerTooLong else .ok d) depthLimit d

/-- A value with the kept collections in their places, except those in which the place is. -/
def unfold (s : Store) : Nat → List Nat → Data → Except Data.Fault Data
  | 0, _, _ => .error .tooDeep
  | depth+1, within, d => d.replaceLeaves fun
    | .shared shape serial =>
      if within.contains serial then .ok (.shared shape serial)
      else unfold s depth (serial :: within) (s.view (.shared shape serial))
    | d => if d.isTooLong then .error .integerTooLong else .ok d

/-- A value as it is spelled: a collection within itself stands there by its brackets. -/
def shown (s : Store) (d : Data) : Except Data.Fault Data := s.unfold spellingLimit [] d

theorem shown_int (s : Store) (i : Int) :
    s.shown (.int i) = if Numeral.isTooLong i then .error .integerTooLong else .ok (.int i) := by
  cases h : Numeral.isTooLong i
    <;> simp [shown, spellingLimit, unfold, Data.replaceLeaves, Data.isTooLong, h]

def spellPlain (s : Store) (d : Data) : Except Data.Fault Text := (s.shown d).map (·.spellPlain)

/-- Equality of values of two stores. With `isOne`, a serial means the same collection in both. -/
def equalWith (s t : Store) (isOne : Bool) : Nat → Bool → Data → Data → Except Data.Fault Bool
  | 0, _, _, _ => .error .tooDeep
  | depth+1, isPart, a, b =>
    Data.equalWith (fun a b =>
      if isOne && a.serial?.isSome && a.serial? == b.serial? then .ok true
      else equalWith s t isOne depth true (s.view a) (t.view b)) isPart (s.view a) (t.view b)

/-- Whether two values of one store are equal. -/
def equal (s : Store) (a b : Data) : Except Data.Fault Bool :=
  equalWith s s true spellingLimit false a b

/-- Whether two parts of one store are the same. -/
def same (s : Store) (a b : Data) : Except Data.Fault Bool :=
  equalWith s s true spellingLimit true a b

end Store
end MarkedShader
