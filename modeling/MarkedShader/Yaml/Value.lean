import MarkedShader.Text.Base64
import MarkedShader.Text.Lowercase
import MarkedShader.Yaml.Fault
import MarkedShader.Yaml.Resolve

/-! The values of scalars. -/
namespace MarkedShader.Yaml
open Text

def withoutUnderscores (t : Text) : Text := t.filter (· != '_')

def integerIn (base : Nat) (t : Text) : Except Fault Int :=
  (Numeral.integerIn base t).mapError (.badInteger base)

/-- The value of parts counted in sixties, the last part first. -/
def sixties (parts : List Int) : Int := parts.foldr (fun part sum => part + 60*sum) 0

def integerOf (t : Text) : Except Fault Int := do
  let t := withoutUnderscores t
  if t.isEmpty then throw .emptyNumber
  let (negative, r) := Numeral.sign t
  let size ← match r with
    | [] => throw .emptyNumber
    | ['0'] => pure 0
    | '0' :: 'b' :: s => integerIn 2 s
    | '0' :: 'x' :: s => integerIn 16 s
    | '0' :: _ => integerIn 8 r
    | _ =>
      if r.contains ':' then (sixties ∘ List.reverse) <$> (r.splitOn ':').mapM (integerIn 10)
        else integerIn 10 r
  .ok (if negative then -size else size)

def real (t : Text) : Except Fault Binary64 :=
  match Numeral.real? t with
  | some x => .ok x
  | none => .error (.badReal t)

def ofInteger (n : Nat) : Binary64 := .ofScaled false n 0

/-- The sum of parts counted in sixties, the last part first, rounded at each step. -/
def realSixties (base : Nat) (sum : Binary64) : List Binary64 → Except Fault Binary64
  | [] => .ok sum
  | x :: xs =>
    let weight := ofInteger base
    if weight = .infinite false then .error .tooLarge
      else realSixties (60*base) (sum.add (x.mul weight)) xs

def realOf (t : Text) : Except Fault Binary64 := do
  let t := (withoutUnderscores t).lower
  if t.isEmpty then throw .emptyNumber
  let (negative, r) := Numeral.sign t
  let size ←
    if r = ".inf".toList then pure (.infinite false)
    else if r = ".nan".toList then pure (.nan none)
    else if r.contains ':' then do
      let parts ← (r.splitOn ':').mapM real
      realSixties 1 (.zero false) parts.reverse
    else real r
  .ok (if negative then size.neg else size)

def truthOf (t : Text) : Except Fault Bool :=
  let word := t.lower
  if isOneOf ["yes", "true", "on"] word then .ok true
  else if isOneOf ["no", "false", "off"] word then .ok false
  else .error (.unknownTruth word)

def calendarOf (t : Text) : Except Fault Data :=
  match calendar? (withoutBreak t) with
  | none => .error .badMoment
  | some (.inl date) => (date.check.mapError .badCalendar).map fun _ => .date date
  | some (.inr moment) => (moment.check.mapError .badCalendar).map fun _ => .moment moment

def bytesOf (t : Text) : Except Fault Data :=
  if t.any fun c => 128 ≤ c.toNat then .error .invalid
  else match Base64.decode? t with
    | some bs => .ok (.bytes bs)
    | none => .error .invalid

/-- The value of a scalar. What is made of others is no scalar. -/
def Kind.value (kind : Kind) (t : Text) : Except Fault Data :=
  match kind with
  | null => .ok .null
  | bool => (truthOf t).map .bool
  | int => (integerOf t).map .int
  | real => (realOf t).map .real
  | bytes => bytesOf t
  | moment => calendarOf t
  | text => .ok (.text t)
  | list | mapping | set | pairs | merge | default | unknown => .error .invalid

end MarkedShader.Yaml
