import MarkedShader.Yaml.Node

/-! Merge keys. A mapping takes over the entries of the mappings that stand at its merge keys, and
what has been taken over stays in its node, wherever else that node stands. -/
namespace MarkedShader.Yaml

/-- How many mappings can be taken over from each other. -/
def mergeLimit : Nat := 970

namespace Nodes

/-- The value at the first merge key of a mapping, and the other entries. -/
def nextMerge? (ns : Nodes) (n : Nat) : Option (Nat × List (Nat × Nat)) :=
  let es := ns.entries n
  (es.find? fun (key, _) => ns.kind key = .merge).map fun (_, value) =>
    (value, es.eraseP fun (key, _) => ns.kind key = .merge)

/-- Keys that name a default value are texts in a mapping that is read as one. -/
def withTextKeys (ns : Nodes) (n : Nat) : Nodes :=
  (ns.entries n).foldl
    (fun ns (key, _) => if ns.kind key = .default then ns.withKind key .text else ns) ns

/-- A mapping with the entries of its merge keys before its own. Of several mappings at one merge
key the earlier ones win, so that their entries come last. -/
def merge : Nat → Nat → Nodes → Except Fault Nodes
  | 0, _, _ => .error .tooDeep
  | depth+1, n, ns => do
    let mergeKeys := (ns.entries n).countP fun (key, _) => ns.kind key = .merge
    let (added, ns) ← (List.range mergeKeys).foldlM (fun (added, ns) _ =>
      match ns.nextMerge? n with
      | none => .ok (added, ns)
      | some (value, rest) =>
        let ns := ns.withContent n (.mapping rest)
        match ns.content value with
        | .mapping _ => do
          let ns ← merge depth value ns
          .ok (added ++ ns.entries value, ns)
        | .sequence items => do
          let (parts, ns) ← items.foldlM (fun (parts, ns) item =>
            match ns.content item with
            | .mapping _ => do
              let ns ← merge depth item ns
              .ok (ns.entries item :: parts, ns)
            | _ => .error .invalid) ([], ns)
          .ok (added ++ parts.flatten, ns)
        | .scalar _ => .error .invalid) ([], ns.withTextKeys n)
    .ok (if added.isEmpty then ns else ns.withContent n (.mapping (added ++ ns.entries n)))

end Nodes
end MarkedShader.Yaml
