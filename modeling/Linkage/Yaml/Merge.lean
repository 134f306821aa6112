import Linkage.Yaml.Node
/-!
Merge keys. A mapping with a merge key takes over the entries of another mapping, or of several, as if
they stood before its own, so that its own win. Since mappings may be shared, the nodes themselves are
changed. A key that is written as an equals sign becomes a text at the same time.
-/

namespace Linkage.Yaml.Nodes

def pairsOf (nodes : Nodes) (ref : Ref) : List (Ref × Ref) :=
  match (nodes.at ref).body with
  | .mapping pairs => pairs
  | _ => []

def isMapping (nodes : Nodes) (ref : Ref) : Bool :=
  match (nodes.at ref).body with
  | .mapping _ => true
  | _ => false

def setPairs (ref : Ref) (pairs : List (Ref × Ref)) (nodes : Nodes) : Nodes :=
  nodes.setIfInBounds ref { nodes.at ref with body := .mapping pairs }

def setTag (ref : Ref) (tag : Tag) (nodes : Nodes) : Nodes :=
  nodes.setIfInBounds ref { nodes.at ref with tag }

/-- The first merge key of a mapping, and the entries without it. -/
def takeMerge? (nodes : Nodes) (ref : Ref) : Option ((Ref × Ref) × List (Ref × Ref)) :=
  let pairs := nodes.pairsOf ref
  let before := pairs.takeWhile (fun pair => (nodes.at pair.1).tag != .merge)
  match pairs.drop before.length with
  | pair :: after => some (pair, before ++ after)
  | [] => none

def nameKeys (ref : Ref) (nodes : Nodes) : Nodes :=
  (nodes.pairsOf ref).foldl (fun nodes pair =>
    if (nodes.at pair.1).tag = .equals then nodes.setTag pair.1 .str else nodes) nodes

/-- The mappings that the value of a merge key names: itself, or its items. -/
def sources (nodes : Nodes) (value : Ref) : Except Fault (List Ref) :=
  match (nodes.at value).body with
  | .mapping _ => .ok [value]
  | .sequence items =>
    if items.all nodes.isMapping then .ok items else .error .malformed
  | .scalar _ => .error .malformed

mutual

def flattenWithin : Nat → Ref → Nodes → Except Fault Nodes
  | 0, _, nodes => .ok nodes
  | bound + 1, ref, nodes => do
    let (brought, nodes) ← gather bound ref nodes
    let nodes := nodes.nameKeys ref
    if brought.isEmpty then return nodes
    return nodes.setPairs ref (brought ++ nodes.pairsOf ref)

/-- Removes the merge keys of a mapping one by one, and gives the entries they bring in. -/
def gather : Nat → Ref → Nodes → Except Fault (List (Ref × Ref) × Nodes)
  | 0, _, nodes => .ok ([], nodes)
  | bound + 1, ref, nodes =>
    match nodes.takeMerge? ref with
    | none => .ok ([], nodes)
    | some ((_, value), others) => do
      let nodes := nodes.setPairs ref others
      let sources ← nodes.sources value
      let (lists, nodes) ← flattenAll bound sources nodes
      let (more, nodes) ← gather bound ref nodes
      return (lists.reverse.flatten ++ more, nodes)

def flattenAll : Nat → List Ref → Nodes → Except Fault (List (List (Ref × Ref)) × Nodes)
  | 0, _, nodes => .ok ([], nodes)
  | _, [], nodes => .ok ([], nodes)
  | bound + 1, source :: others, nodes => do
    let nodes ← flattenWithin bound source nodes
    let here := nodes.pairsOf source
    let (lists, nodes) ← flattenAll bound others nodes
    return (here :: lists, nodes)

end

def extent (nodes : Nodes) : Nat × Nat :=
  nodes.foldl (fun (pairs, items) node =>
    match node.body with
    | .scalar _ => (pairs, items)
    | .sequence found => (pairs, items + found.length)
    | .mapping found => (pairs + found.length, items)) (0, 0)

/-- A mapping without merge keys. Every step removes a merge key and goes once through the mappings it
names, so the entries times the items bound the steps. -/
def flatten (ref : Ref) (nodes : Nodes) : Except Fault Nodes :=
  if (nodes.takeMerge? ref).isNone then .ok (nodes.nameKeys ref)
  else
    let (pairs, items) := nodes.extent
    flattenWithin ((pairs + 1) * (items + 4)) ref nodes

end Linkage.Yaml.Nodes
