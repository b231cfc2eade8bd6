import MarkedShader.Data

/-! Names for made-up identities, for the time that data are a text. No text among the data begins
as the names do. -/
namespace MarkedShader.Data

mutual
/-- All texts among some data. -/
def texts : Data → List Text
  | text t => [t]
  | list items | tuple items | set items => itemTexts items
  | mapping entries => entryTexts entries
  | _ => []
def itemTexts : List Data → List Text
  | [] => []
  | d :: ds => d.texts ++ itemTexts ds
def entryTexts : List (Data × Data) → List Text
  | [] => []
  | (key, d) :: es => key.texts ++ d.texts ++ entryTexts es
end

/-- The beginning of the names of one attempt. -/
def attempt (n : Nat) : Text := "fresh-".toList ++ Decimal.natural n ++ ['-']

/-- A beginning that none of some texts has. A text rules out one attempt at most. -/
def freePrefix (ts : List Text) : Text :=
  attempt
    (((List.range (ts.length+1)).find? fun n => !ts.any fun t => t.startsWith (attempt n)).getD 0)

/-- The data with a name for each made-up identity. -/
def named (lead : Text) (d : Data) : Data := d.mapLeaves fun
  | .madeUp serial => .text (lead ++ Decimal.natural serial)
  | d => d

/-- The serial that a name stands for. -/
def namedSerial? (lead t : Text) : Option Nat := do
  let digits ← Text.after? lead t
  if digits.all Char.isDigit then
    some (digits.foldl (fun n c => 10*n + (c.toNat - '0'.toNat)) 0) else none

/-- The data with identities for their names. -/
def unnamed (lead : Text) (d : Data) : Data := d.mapLeaves fun
  | .text t => match namedSerial? lead t with
    | some serial => .madeUp serial
    | none => .text t
  | d => d

end MarkedShader.Data
