import MarkedShader.Text.Basic

/-! Members of the stage structs, and values that need no declaration. -/
namespace MarkedShader

inductive Stage
  | input | output | global
  deriving DecidableEq, Repr

namespace Stage

def all : List Stage := [.input, .output, .global]

def name : Stage → Text
  | .input => "INPUT".toList
  | .output => "OUTPUT".toList
  | .global => "GLOBAL".toList

def ofName? (t : Text) : Option Stage := all.find? fun s => s.name = t

@[simp] theorem ofName?_name (s : Stage) : ofName? s.name = some s := by cases s <;> rfl

end Stage

structure Field where
  name : Text
  dataType : Text
  /-- Empty when the writer is to assign one. -/
  semantic : Text := []
  displayName : Text := []
  stage : Stage := .input
  isRequired : Bool := false
  isActive : Bool := false
  annotation : Text := []
  deriving DecidableEq, Repr

namespace Field

/-- An empty display name becomes the name, and a required field is active. -/
def normalize (f : Field) : Field :=
  { f with
    displayName := if f.displayName.isEmpty then f.name else f.displayName
    isActive := f.isRequired || f.isActive }

@[simp] theorem normalize_normalize (f : Field) : f.normalize.normalize = f.normalize := by
  simp only [normalize, ← Bool.or_assoc, Bool.or_self]
  split <;> simp_all

/-- What holds of a field as it is made: a required one is active, and only a field without a name
has no display name. -/
structure IsNormal (f : Field) : Prop where
  active : f.isRequired → f.isActive
  label : f.displayName = [] → f.name = []

theorem normalize_eq_self_iff (f : Field) : f.normalize = f ↔ f.IsNormal := by
  obtain ⟨name, dataType, semantic, label, stage, isRequired, isActive, note⟩ := f
  constructor
  · intro h
    simp only [normalize, Field.mk.injEq, true_and, and_true] at h
    obtain ⟨hlabel, hactive⟩ := h
    refine ⟨fun hr => ?_, fun hl => ?_⟩
    · simp only at hr ⊢
      rw [← hactive, hr, Bool.true_or]
    · simp only at hl ⊢
      simpa [hl] using hlabel
  · rintro ⟨hactive, hlabel⟩
    simp only [normalize, Field.mk.injEq, true_and, and_true]
    refine ⟨?_, ?_⟩
    · split
      · rename_i hnone
        have hl := List.isEmpty_iff.mp hnone
        rw [hl]
        exact hlabel hl
      · rfl
    · cases isRequired with
      | false => rfl
      | true => exact (hactive rfl).symm

theorem isNormal_normalize (f : Field) : f.normalize.IsNormal :=
  (normalize_eq_self_iff _).mp (normalize_normalize f)

instance (f : Field) : Decidable f.IsNormal := decidable_of_iff _ (normalize_eq_self_iff f)

def find? (name : Text) (fs : List Field) : Option Field := List.find? (fun f => f.name = name) fs

/-- Change the first field of a name. -/
def modifyFirst (name : Text) (change : Field → Field) : List Field → List Field
  | [] => []
  | f :: fs => if f.name = name then change f :: fs else f :: modifyFirst name change fs

def active (fs : List Field) : List Field := fs.filter (·.isActive)

end Field
end MarkedShader
