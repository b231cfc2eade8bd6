import MarkedShader.Text.Basic

/-! Names by which blocks and passes are told apart. -/
namespace MarkedShader

/-- An identity is given from outside, or made up for a new item; a made-up one never equals a given
one. -/
inductive Identity
  | given (text : Text)
  | fresh (serial : Nat)
  deriving DecidableEq, Repr

namespace Identity

/-- One more than the serial of a made-up identity. -/
def bound : Identity → Nat
  | .given _ => 0
  | .fresh serial => serial+1

/-- An identity that none of the listed ones equals. -/
def unlike (ids : List Identity) : Identity := .fresh ((ids.map bound).foldl max 0)

theorem bound_le_foldl (ids : List Identity) (id : Identity) (n : Nat)
    (h : id.bound ≤ n ∨ id ∈ ids) : id.bound ≤ (ids.map bound).foldl max n := by
  induction ids generalizing n with
  | nil => simpa using h
  | cons i is ih =>
    apply ih
    rcases h with h | h
    · exact .inl (by omega)
    · rcases List.mem_cons.mp h with rfl | h
      · exact .inl (by omega)
      · exact .inr h

theorem unlike_not_mem (ids : List Identity) : unlike ids ∉ ids := by
  intro h
  have := bound_le_foldl ids _ 0 (.inr h)
  simp only [unlike, bound] at this
  omega

end Identity
end MarkedShader
