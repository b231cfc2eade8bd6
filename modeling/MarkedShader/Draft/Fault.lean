import MarkedShader.Draft

/-! What cannot be done with a leaf of a draft. -/
namespace MarkedShader.Draft

inductive Fault
  /-- A text is needed, and the value has nothing of a text. -/
  | notText
  /-- The value is of a kind that does not fit. -/
  | wrongKind
  | notANumber
  /-- A whole value cannot be had. -/
  | value (fault : Data.Fault)
  deriving DecidableEq, Repr

variable (s : Store)

/-- The text in which characters are to be replaced. Bytes and dates have parts that can be
replaced, but not these. -/
def textIn (d : Data) : Except Fault Text :=
  match s.view d with
  | .text t => .ok t
  | .bytes _ | .date _ | .moment _ => .error .wrongKind
  | _ => .error .notText

/-- As `textIn`, but nothing stands for a value that does not count as true. -/
def textIfTrue (d : Data) : Except Fault Text := if s.isTrue d then textIn s d else .ok []

/-- A value as it is spelled, a text as it is. -/
def spelled (d : Data) : Except Fault Text := (s.spellPlain d).mapError .value

theorem spelled_text (t : Text) : spelled s (.text t) = .ok t := rfl

theorem spelled_int (i : Int) :
    spelled s (.int i) = if Numeral.isTooLong i then .error (.value .integerTooLong)
      else .ok (Decimal.integer i) := by
  rw [spelled, Store.spellPlain, Store.shown_int]
  split <;> rfl

theorem spelled_real (x : Binary64) : spelled s (.real x) = .ok (Data.spellReal x) := rfl

/-- The spelling of a value that counts as true, else nothing. -/
def spelledIfTrue (d : Data) : Except Fault Text := if s.isTrue d then spelled s d else .ok []

def itemsIn (d : Data) : Except Fault (List Data) :=
  match s.items? d with
  | some ds => .ok ds
  | none => .error .wrongKind

def holds (d : Data) (t : Text) : Except Fault Bool :=
  match (s.view d).holds? t with
  | some found => .ok found
  | none => .error .wrongKind

/-- Whether two values are equal. -/
def equal (a b : Data) : Except Fault Bool := (s.equal a b).mapError .value

/-- A comparison, which only numbers can take part in. -/
def compare (relation : Number → Number → Bool) (a b : Data) : Except Fault Bool :=
  match a.number?, b.number? with
  | some x, some y => .ok (relation x y)
  | _, _ => .error .wrongKind

/-- Both answers, the second one only if the first is yes. -/
def both (first : Except Fault Bool) (second : Except Fault Bool) : Except Fault Bool := do
  if ← first then second else .ok false

/-- The first place at which a test succeeds; a test that fails before that is a fault. -/
def findIdx? {α : Type} (test : α → Except Fault Bool) : List α → Except Fault (Option Nat)
  | [] => .ok none
  | a :: as => do
    if ← test a then return some 0
    .ok ((← findIdx? test as).map (·+1))

end MarkedShader.Draft
