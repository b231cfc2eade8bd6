import MarkedShader.Text.Basic

/-! Bytes as text of 64 characters, three bytes in four of them. -/
namespace MarkedShader.Text.Base64

/-- The characters in the order of their values. -/
def alphabet : Text := "ABCDEFGHIJKLMNOPQRSTUVWXYZabcdefghijklmnopqrstuvwxyz0123456789+/".toList

def character (n : Nat) : Char := alphabet.getD n 'A'

def value? (c : Char) : Option Nat := alphabet.findIdx? (· == c)

/-- Equals signs fill the last group. -/
def encode : List UInt8 → Text
  | a :: b :: c :: r =>
    let n := (a.toNat*256 + b.toNat)*256 + c.toNat
    character (n/262144) :: character (n/4096%64) :: character (n/64%64) ::
      character (n%64) :: encode r
  | [a, b] =>
    let n := (a.toNat*256 + b.toNat)*4
    [character (n/4096), character (n/64%64), character (n%64), '=']
  | [a] => [character (a.toNat/4), character (a.toNat%4*16), '=', '=']
  | [] => []

/-- Read characters with `phase` of a group already read and `pads` fillers met since. Characters
outside the alphabet are passed over; a group has to be complete. -/
def decodeFrom (phase left pads : Nat) : Text → Option (List UInt8)
  | [] => if phase = 0 then some [] else none
  | c :: r =>
    if c = '=' then
      if 2 ≤ phase then if 4 ≤ phase+pads+1 then some [] else decodeFrom phase left (pads+1) r
      else decodeFrom phase left pads r
    else match value? c with
      | none => decodeFrom phase left pads r
      | some v => match phase with
        | 0 => decodeFrom 1 v 0 r
        | 1 => (decodeFrom 2 (v%16) 0 r).map (UInt8.ofNat (left*4 + v/16) :: ·)
        | 2 => (decodeFrom 3 (v%4) 0 r).map (UInt8.ofNat (left*16 + v/4) :: ·)
        | _ => (decodeFrom 0 0 0 r).map (UInt8.ofNat (left*64 + v) :: ·)

def decode? (t : Text) : Option (List UInt8) := decodeFrom 0 0 0 t

end MarkedShader.Text.Base64
