import MarkedShader.Text.Basic

/-! Named values in order. A name keeps its first place and takes its last value. -/
namespace MarkedShader

abbrev Entries (α : Type) := List (Text × α)

namespace Entries

variable {α : Type}

def get? (es : Entries α) (name : String) : Option α := es.lookup name.toList

def getD (es : Entries α) (name : String) (default : α) : α := (es.get? name).getD default

def insert (name : Text) (value : α) : Entries α → Entries α
  | [] => [(name, value)]
  | (n, v) :: es => if n = name then (n, value) :: es else (n, v) :: insert name value es

def ofPairs (ps : List (Text × α)) : Entries α := ps.foldl (fun es (n, v) => insert n v es) []

end Entries
end MarkedShader
