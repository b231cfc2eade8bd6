import MarkedShader.Data.Naming
import MarkedShader.Record.Read
import MarkedShader.Yaml.Build
import MarkedShader.Yaml.Write

/-! Records as YAML texts. -/
namespace MarkedShader
namespace Record

/-- The beginning of the names that stand for made-up identities: none of the texts in a record
begins as they do. -/
def nameLead (s : Store) (d : Data) : Text :=
  Data.freePrefix (d.texts ++ s.cells.flatMap fun (_, d) => d.texts)

def toYaml (s : Store) (d : Data) : Except Data.Fault Text := Yaml.write s (d.named (nameLead s d))

def ofYaml (t : Text) : Except RecordFault (Data × Store) := (Yaml.read t).mapError .yaml

/-- A record that is written as YAML and read again. Its made-up identities stay what they are. -/
def throughYaml (s : Store) (d : Data) : Except RecordFault (Data × Store) := do
  let (e, t) ← ofYaml (← (toYaml s d).mapError .unspellable)
  .ok (e.unnamed (nameLead s d), t)

end Record

def Draft.toYaml (d : Draft) : Except Data.Fault Text := do Record.toYaml d.store (← d.toRecord)

def Draft.ofYaml (t : Text) : Except RecordFault Draft := do
  let (d, s) ← Record.ofYaml t
  Draft.ofRecord s d

/-- A draft that is made into a record and read again. -/
def Draft.throughRecord (d : Draft) : Except RecordFault Draft := do
  Draft.ofRecord d.store (← d.toRecord.mapError .unspellable)

def Draft.throughYaml (d : Draft) : Except RecordFault Draft := do
  let (e, s) ← Record.throughYaml d.store (← d.toRecord.mapError .unspellable)
  Draft.ofRecord s e

/-- The YAML text of a document; there is none if a bound has too many digits. -/
def Document.toYaml (d : Document) : Except Data.Fault Text := Record.toYaml {} d.toRecord

def Document.ofYaml (t : Text) : Except RecordFault Document := do
  match (← Draft.ofYaml t).document? with
  | some document => .ok document
  | none => .error .wrongShape

def Document.throughYaml (d : Document) : Except RecordFault Document := do
  match (← (Draft.ofDocument d).throughYaml).document? with
  | some document => .ok document
  | none => .error .wrongShape

end MarkedShader
