import Linkage.Yaml.Merge
import Linkage.Yaml.Scalar
/-!
The values of a document. Scalars are looked at when they are met, collections are filled later, in
the order in which they were met; so of several faults the outermost comes first, and among equally
deep ones the first in the text.
-/

namespace Linkage.Yaml

/-- A value as it stands in a collection, which is only named by its node. -/
inductive Item where
  | scalar (scalar : Scalar)
  | list (ref : Ref)
  | mapping (ref : Ref)
  | set (ref : Ref)

/-- What a collection holds. Of a mapping only the entries with text keys are kept, of a set nothing,
and of the pairs in a list only their number. -/
inductive Content where
  | nothing
  | items (items : List Item)
  | fields (fields : List (String × Item))

/-- Where building stands: the nodes, the values of those that have been met, what is in the
collections that have been filled, and those still to be filled, the last one first. -/
structure Builder where
  nodes : Nodes
  items : Array (Option Item)
  contents : Array Content
  waiting : List Ref := []

namespace Builder

def start (nodes : Nodes) : Builder :=
  { nodes
    items := Array.replicate nodes.size none
    contents := Array.replicate nodes.size .nothing }

/-- The text of a scalar. That of a mapping is the text of the value whose key is an equals sign. The
bound is the number of nodes: a longer way goes in circles. -/
def textOf (nodes : Nodes) : Nat → Ref → Except Fault String
  | 0, _ => .error .nesting
  | bound + 1, ref =>
    match (nodes.at ref).body with
    | .scalar text => .ok text
    | .sequence _ => .error .malformed
    | .mapping pairs =>
      match pairs.find? (fun pair => (nodes.at pair.1).tag = .equals) with
      | some (_, value) => textOf nodes bound value
      | none => .error .malformed

/-- The value of a node under the tag of a scalar. The text of a timestamp is read off the node
itself. -/
def scalarOf (nodes : Nodes) (ref : Ref) : Except Fault Scalar := do
  let tag := (nodes.at ref).tag
  if tag = .other || tag = .merge || tag = .equals then throw .malformed
  let text ← textOf nodes (nodes.size + 1) ref
  if tag = .timestamp && nodes.isMapping ref then throw .notText
  Scalar.ofText tag text

def collection? (ref : Ref) : Tag → Option Item
  | .seq | .omap | .pairs => some (.list ref)
  | .map => some (.mapping ref)
  | .set => some (.set ref)
  | _ => none

/-- The value of a node. A collection that is met for the first time has to wait. -/
def item (ref : Ref) (builder : Builder) : Except Fault (Item × Builder) := do
  match builder.items.getD ref none with
  | some item => return (item, builder)
  | none =>
    match collection? ref (builder.nodes.at ref).tag with
    | some item =>
      return (item, { builder with
        items := builder.items.setIfInBounds ref (some item)
        waiting := ref :: builder.waiting })
    | none =>
      let item := Item.scalar (← scalarOf builder.nodes ref)
      return (item, { builder with items := builder.items.setIfInBounds ref (some item) })

def itemsOf : List Ref → Builder → Except Fault (List Item × Builder)
  | [], builder => .ok ([], builder)
  | ref :: refs, builder => do
    let (first, builder) ← builder.item ref
    let (rest, builder) ← itemsOf refs builder
    return (first :: rest, builder)

/-- The name of a field, if the key is a text. No collection can be a key. -/
def nameOf : Item → Except Fault (Option String)
  | .scalar (.text name) => .ok (some name)
  | .scalar _ => .ok none
  | _ => .error .malformed

def fieldsOf : List (Ref × Ref) → Builder → Except Fault (List (String × Item) × Builder)
  | [], builder => .ok ([], builder)
  | (key, value) :: pairs, builder => do
    let (key, builder) ← builder.item key
    let name ← nameOf key
    let (value, builder) ← builder.item value
    let (fields, builder) ← fieldsOf pairs builder
    return ((name.map (·, value)).toList ++ fields, builder)

def singles : List Ref → Builder → Except Fault Builder
  | [], builder => .ok builder
  | ref :: refs, builder =>
    match (builder.nodes.at ref).body with
    | .mapping [(key, value)] => do
      let (_, builder) ← builder.item key
      let (_, builder) ← builder.item value
      singles refs builder
    | _ => .error .malformed

def mappingOf (ref : Ref) (builder : Builder) : Except Fault (List (String × Item) × Builder) := do
  if !builder.nodes.isMapping ref then throw .malformed
  let nodes ← builder.nodes.flatten ref
  fieldsOf (nodes.pairsOf ref) { builder with nodes }

def put (ref : Ref) (content : Content) (builder : Builder) : Builder :=
  { builder with contents := builder.contents.setIfInBounds ref content }

def fill (builder : Builder) (ref : Ref) : Except Fault Builder := do
  let node := builder.nodes.at ref
  match node.tag, node.body with
  | .seq, .sequence items =>
    let (items, builder) ← itemsOf items builder
    return builder.put ref (.items items)
  | .omap, .sequence items | .pairs, .sequence items => singles items builder
  | .map, _ =>
    let (fields, builder) ← builder.mappingOf ref
    return builder.put ref (.fields (Assoc.ofList fields))
  | .set, _ =>
    let (_, builder) ← builder.mappingOf ref
    return builder
  | _, _ => throw .malformed

/-- Fills all collections. Each waits once, so the number of nodes bounds the rounds. -/
def fillAll : Nat → Builder → Except Fault Builder
  | 0, builder => .ok builder
  | bound + 1, builder => do
    match builder.waiting with
    | [] => return builder
    | waiting =>
      let builder ← waiting.reverse.foldlM fill { builder with waiting := [] }
      fillAll bound builder

end Builder

/-! ### Trees -/

inductive Value where
  | scalar (scalar : Scalar)
  | list (items : List Value)
  | mapping (fields : List (String × Value))
  | set
  deriving Inhabited

mutual

def Value.same : Value → Value → Bool
  | .scalar left, .scalar right => left = right
  | .list left, .list right => sameItems left right
  | .mapping left, .mapping right => sameFields left right
  | .set, .set => true
  | _, _ => false

def sameItems : List Value → List Value → Bool
  | [], [] => true
  | left :: lefts, right :: rights => left.same right && sameItems lefts rights
  | _, _ => false

def sameFields : List (String × Value) → List (String × Value) → Bool
  | [], [] => true
  | (name, left) :: lefts, (other, right) :: rights =>
    name = other && left.same right && sameFields lefts rights
  | _, _ => false

end

mutual

theorem Value.same_iff : (left right : Value) → (left.same right = true ↔ left = right)
  | .scalar _, right => by cases right <;> simp [Value.same]
  | .list items, right => by
    cases right with
    | list others => simp [Value.same, sameItems_iff items others]
    | _ => simp [Value.same]
  | .mapping fields, right => by
    cases right with
    | mapping others => simp [Value.same, sameFields_iff fields others]
    | _ => simp [Value.same]
  | .set, right => by cases right <;> simp [Value.same]

theorem sameItems_iff : (left right : List Value) → (sameItems left right = true ↔ left = right)
  | [], right => by cases right <;> simp [sameItems]
  | item :: items, right => by
    cases right with
    | nil => simp [sameItems]
    | cons other others => simp [sameItems, Value.same_iff item other, sameItems_iff items others]

theorem sameFields_iff : (left right : List (String × Value)) →
    (sameFields left right = true ↔ left = right)
  | [], right => by cases right <;> simp [sameFields]
  | (name, value) :: fields, right => by
    cases right with
    | nil => simp [sameFields]
    | cons other others =>
      simp [sameFields, Value.same_iff value other.2, sameFields_iff fields others, Prod.ext_iff]

end

instance : DecidableEq Value := fun left right => decidable_of_iff _ (Value.same_iff left right)

/-- The tree of a value down to the given depth, below which collections show empty. A document that
contains itself has no full tree. -/
def Builder.tree (builder : Builder) : Nat → Item → Value
  | _, .scalar scalar => .scalar scalar
  | _, .set _ => .set
  | 0, .list _ => .list []
  | 0, .mapping _ => .mapping []
  | depth + 1, .list ref =>
    match builder.contents.getD ref .nothing with
    | .items items => .list (items.map (builder.tree depth))
    | _ => .list []
  | depth + 1, .mapping ref =>
    match builder.contents.getD ref .nothing with
    | .fields fields => .mapping (fields.map (fun (name, item) => (name, builder.tree depth item)))
    | _ => .mapping []

/-- The value of a text down to the given depth; a text without a document is a null. -/
def Value.parse (depth : Nat) (text : String) : Except Fault Value := do
  match ← Document.ofTokens? (Token.scan text) with
  | none => return .scalar .null
  | some document =>
    let (item, builder) ← (Builder.start document.nodes).item document.root
    let builder ← builder.fillAll (document.nodes.size + 1)
    return builder.tree depth item

end Linkage.Yaml
