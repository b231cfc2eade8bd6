import MarkedShader.Entries
import MarkedShader.Text.Lowercase
import MarkedShader.Text.Word

/-! The attributes of a marker: `key="value"` pairs. -/
namespace MarkedShader

abbrev Attributes := Entries Text

namespace Attributes

/-- One pair that begins the text, and the number of its characters. -/
def pair? (t : Text) : Option ((Text × Text) × Nat) := do
  let (key, r) ← Text.word? t
  let (value, _) ← Text.quoted? (← Text.after? ['='] r)
  some ((key, value), key.length + value.length + 3)

/-- The pairs found in a text, whatever stands between them, with keys in lower case. -/
def read (t : Text) : Attributes :=
  .ofPairs ((t.scan (fun _ => pair?) none 0).map fun (k, v) => (k.lower, v))

/-- Fit a value between double quotes: a double quote becomes a single one and a line break a
space. -/
def quote (value : Text) : Text :=
  value.map fun c => if c = '"' then '\'' else if c = '\n' then ' ' else c

def write (as : Attributes) : Text :=
  List.intercalate [' '] (as.map fun (k, v) => k ++ "=\"".toList ++ quote v ++ ['"'])

end Attributes
end MarkedShader
