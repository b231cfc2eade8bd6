import MarkedShader.Data

/-! The members of a set. Numbers stand in the order of a table in which each has its place by its
residue, and so does the empty text. Where there are other members, all stand as they came. -/
namespace MarkedShader.Data

/-- One less than the sixty-first power of two. -/
def residueModulus : Nat := 2305843009213693951

/-- A residue with its sign; minus one is left out. -/
def signedResidue (negative : Bool) (r : Nat) : Int :=
  let r := Binary64.signed negative r
  if r = -1 then -2 else r

/-- The residue of a number, which equal numbers share. By the choice of the modulus an exponent of
two counts by its remainder of 61. -/
def residue? : Number → Option Int
  | .int i => some (signedResidue (i < 0) (i.natAbs % residueModulus))
  | .real (.finite negative m q) =>
    some (signedResidue negative (m * Nat.pow 2 (q % 61).toNat % residueModulus))
  | .real (.infinite negative) => some (signedResidue negative 314159)
  | .real (.nan _) => none

/-- A table has as many places as a power of two, and what stands in a place has its residue beside
it. -/
abbrev Table := Array (Option (Nat × Data))

namespace Table

/-- Residues in a table are not negative. -/
def residueBound : Nat := 18446744073709551616

/-- The number of places above some bound; there are eight at least. -/
def sizeAbove (bound : Nat) : Nat := if bound < 8 then 8 else Nat.pow 2 (Nat.log2 bound + 1)

/-- How many places are looked at side by side. -/
def runLength : Nat := 10

/-- The first free place from one on. The further places are picked by what is left of the
residue. -/
def freePlace? (table : Table) : Nat → Nat → Nat → Option Nat
  | 0, _, _ => none
  | fuel+1, start, rest =>
    let run := if start + runLength ≤ table.size then runLength else 1
    match (List.range run).find? fun k => table[start+k]?.any (·.isNone) with
    | some k => some (start+k)
    | none => freePlace? table fuel ((5*start + 1 + rest/32) % table.size) (rest/32)

def put (table : Table) (e : Nat × Data) : Table :=
  match freePlace? table (table.size+16) (e.1 % table.size) e.1 with
  | some place => table.setIfInBounds place (some e)
  | none => table

def entries (table : Table) : List (Nat × Data) := table.toList.filterMap id

def ofEntries (size : Nat) (es : List (Nat × Data)) : Table :=
  es.foldl put (Array.replicate size none)

/-- A table for entries that come all at once. -/
def ofAll (es : List (Nat × Data)) : Table :=
  ofEntries (if 5*es.length < 21 then 8 else sizeAbove (2*es.length)) es

/-- A table for entries that come one by one: it grows before three fifths of it are taken. -/
def ofEach (es : List (Nat × Data)) : Table :=
  es.foldl (fun table e =>
    let table := put table e
    let es := entries table
    if 5*es.length < 3*(table.size-1) then table
      else ofEntries (sizeAbove (4*es.length)) es) (Array.replicate 8 none)

end Table

def memberResidue? : Data → Option Int
  | text [] | bytes [] => some 0
  | d => d.number?.bind residue?

/-- Members with their residues, if all of them have one. -/
def withResidues? (ds : List Data) : Option (List (Nat × Data)) :=
  ds.mapM fun d => (memberResidue? d).map fun r => ((r % (Table.residueBound : Int)).toNat, d)

def inTable (tableOf : List (Nat × Data) → Table) (ds : List Data) : List Data :=
  match withResidues? ds with
  | some es => (tableOf es).entries.map (·.2)
  | none => ds

/-- A set of values that come all at once. Of equal ones the first is a member. -/
def ofMembers (ds : List Data) : Data :=
  .set (inTable Table.ofAll
    (ds.foldl (fun kept d => if kept.any (same d) then kept else kept ++ [d]) []))

/-- A set made anew from the members of another one, in their order. -/
def remade (ds : List Data) : Data := .set (inTable Table.ofEach ds)

end MarkedShader.Data
