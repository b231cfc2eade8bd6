/-! Texts are lists of characters. This module holds the cutting, joining and searching that
the readers and writers of the library share. -/
namespace MarkedShader

abbrev Text := List Char

namespace Text

-- What holds of the characters of a text is decided on them alone, and not on all characters there
-- are.
section
variable (p : Char → Prop) [DecidablePred p]

instance (priority := high) decidableForallMem (t : Text) : Decidable (∀ c ∈ t, p c) :=
  List.decidableBAll p t

instance (priority := high) decidableExistsMem (t : Text) : Decidable (∃ c ∈ t, p c) :=
  List.decidableBEx p t

instance (priority := high) decidableForallMemOption (o : Option Char) : Decidable (∀ c ∈ o, p c) :=
  Option.decidableForallMem o

end

def joinLines (ls : List Text) : Text := List.intercalate ['\n'] ls

/-- What follows a literal beginning of the text. -/
def after? (lead t : Text) : Option Text := lead.isPrefixOf? t

theorem after?_eq_some_iff {lead t r : Text} : after? lead t = some r ↔ t = lead ++ r := by
  induction lead generalizing t with
  | nil => exact Option.some_inj
  | cons c lead ih => cases t with
    | nil => exact ⟨nofun, nofun⟩
    | cons d t =>
      change (if c == d then after? lead t else none) = some r ↔ _
      by_cases h : c = d <;> simp [h, ih, Ne.symm]

@[simp] theorem after?_append (lead t : Text) : after? lead (lead ++ t) = some t :=
  after?_eq_some_iff.mpr rfl

def startsWith (t lead : Text) : Bool := lead.isPrefixOf t

/-- The first answer met when a reader is tried at every place of the text, from left to right. -/
def search {α : Type} (reader : Text → Option α) : Text → Option α
  | [] => reader []
  | c :: r => match reader (c :: r) with
    | some a => some a
    | none => search reader r

def holds (t part : Text) : Bool := (search (after? part) t).isSome

/-- Drop the longest tail made of characters of a class. -/
def trimEnd (p : Char → Bool) (t : Text) : Text := (t.reverse.dropWhile p).reverse

/-- Drop the characters of a class at both ends. -/
def trimBoth (p : Char → Bool) (t : Text) : Text := trimEnd p (t.dropWhile p)

/-- The text before the first `d` and the text after it. -/
def upTo? (d : Char) : Text → Option (Text × Text)
  | [] => none
  | c :: r => if c = d then some ([], r) else (upTo? d r).map fun (a, b) => (c :: a, b)

theorem upTo?_eq_some_iff {d : Char} {t a r : Text} :
    upTo? d t = some (a, r) ↔ t = a ++ d :: r ∧ d ∉ a := by
  induction t generalizing a with
  | nil => simp [upTo?]
  | cons c t ih =>
    by_cases h : c = d <;> cases a with
    | nil => simp [upTo?, h]
    | cons x a => simp only [upTo?, h, ↓reduceIte, Option.map_eq_some_iff, Prod.exists]; grind

/-- The text before the last `d`. -/
def beforeLast? (d : Char) : Text → Option Text
  | [] => none
  | c :: r => match beforeLast? d r with
    | some t => some (c :: t)
    | none => if c = d then some [] else none

theorem beforeLast?_eq_none {d : Char} {t : Text} (h : d ∉ t) : beforeLast? d t = none := by
  induction t with
  | nil => rfl
  | cons c t ih =>
    rw [List.mem_cons, not_or] at h
    simp [beforeLast?, ih h.2, Ne.symm h.1]

theorem beforeLast?_append {d : Char} (t : Text) {r : Text} (h : d ∉ r) :
    beforeLast? d (t ++ d :: r) = some t := by
  induction t with
  | nil => simp [beforeLast?, beforeLast?_eq_none h]
  | cons c t ih => simp [beforeLast?, ih]

/-- The text after the last `d`, the whole text if there is none. -/
def afterLast (d : Char) (t : Text) : Text := (t.splitOn d).getLast?.getD []

/-- A non-empty run of characters of a class, as long as it can be, and what follows it. -/
def run? (p : Char → Bool) (t : Text) : Option (Text × Text) :=
  if (t.takeWhile p).isEmpty then none else some (t.takeWhile p, t.dropWhile p)

/-- A text between two double quotes and what follows the second one. -/
def quoted? : Text → Option (Text × Text)
  | '"' :: r => upTo? '"' r
  | _ => none

/-- As `quoted?`, but the text between the quotes must not be empty. -/
def quotedName? (t : Text) : Option (Text × Text) :=
  (quoted? t).filter fun (name, _) => !name.isEmpty

/-- Non-overlapping answers of a reader, from left to right. The reader sees the character before
the place it is tried at and says how many characters it takes; `skip` characters are still to be
passed over. -/
def scan {α : Type} (reader : Option Char → Text → Option (α × Nat)) (before : Option Char)
    (skip : Nat) : Text → List α
  | [] => []
  | c :: r => match skip with
    | skip+1 => scan reader (some c) skip r
    | 0 => match reader before (c :: r) with
      | some (a, taken) => a :: scan reader (some c) (taken-1) r
      | none => scan reader (some c) 0 r

end Text
end MarkedShader
