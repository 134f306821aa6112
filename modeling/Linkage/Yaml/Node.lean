import Linkage.Yaml.Tag
import Linkage.Yaml.Token
/-!
The nodes of a document: scalars, sequences and mappings with their tags. Nodes refer to each other by
number, because an alias makes one node stand at several places, even inside itself.
-/

namespace Linkage.Yaml

abbrev Ref := Nat

inductive Body where
  | scalar (text : String)
  | sequence (items : List Ref)
  | mapping (pairs : List (Ref × Ref))
  deriving DecidableEq, Repr

structure Node where
  tag : Tag
  body : Body
  deriving DecidableEq, Repr

def Node.missing : Node := ⟨.null, .scalar ""⟩

abbrev Nodes := Array Node

def Nodes.at (nodes : Nodes) (ref : Ref) : Node := nodes.getD ref Node.missing

/-! ### Parsing -/

/-- Where parsing stands: the tokens left, the tag handles, the nodes and the anchors met so far. A
collection has its number as soon as it is opened. -/
structure Parser where
  tokens : List Token
  handles : List (String × String)
  nodes : Nodes := #[]
  anchors : List (String × Ref) := []
  /-- The number of collections that are open. -/
  depth : Nat := 0

namespace Parser

def depthLimit : Nat := 490

/-- The next token. Where the text is broken there is none. -/
def peek (parser : Parser) : Except Fault Token :=
  match parser.tokens with
  | .broken fault :: _ => .error fault
  | token :: _ => .ok token
  | [] => .ok .streamEnd

def next (parser : Parser) : Parser := { parser with tokens := parser.tokens.tail }

def enter (parser : Parser) : Parser := { parser with depth := parser.depth + 1 }

def leave (parser : Parser) : Parser := { parser with depth := parser.depth - 1 }

def expect (token : Token) (parser : Parser) : Except Fault Parser := do
  if (← parser.peek) = token then return parser.next else throw .malformed

/-! ### Nodes -/

def add (node : Node) (parser : Parser) : Ref × Parser :=
  (parser.nodes.size, { parser with nodes := parser.nodes.push node })

def fill (ref : Ref) (tag : Tag) (body : Body) (parser : Parser) : Parser :=
  { parser with nodes := parser.nodes.setIfInBounds ref ⟨tag, body⟩ }

def name (anchor : Option String) (ref : Ref) (parser : Parser) : Parser :=
  match anchor with
  | none => parser
  | some name => { parser with anchors := Assoc.put name ref parser.anchors }

def checkAnchor (anchor : Option String) (parser : Parser) : Except Fault Unit :=
  match anchor with
  | none => .ok ()
  | some name => if Assoc.has name parser.anchors then .error .malformed else .ok ()

/-! ### Properties -/

/-- What may stand before a node: an anchor and a tag, in either order. -/
structure Properties where
  anchor : Option String := none
  tag : Option (Option String × String) := none

def Properties.isEmpty (properties : Properties) : Bool :=
  properties.anchor.isNone && properties.tag.isNone

def properties (parser : Parser) : Except Fault (Properties × Parser) := do
  match ← parser.peek with
  | .anchor name =>
    match ← parser.next.peek with
    | .tag handle suffix => return (⟨some name, some (handle, suffix)⟩, parser.next.next)
    | _ => return (⟨some name, none⟩, parser.next)
  | .tag handle suffix =>
    match ← parser.next.peek with
    | .anchor name => return (⟨some name, some (handle, suffix)⟩, parser.next.next)
    | _ => return (⟨none, some (handle, suffix)⟩, parser.next)
  | _ => return ({}, parser)

/-- The full text of a tag. The tag `!` asks for no particular one. -/
def fullTag (parser : Parser) : Option (Option String × String) → Except Fault (Option String)
  | none => .ok none
  | some (none, suffix) => .ok (if suffix = "!" then none else some suffix)
  | some (some handle, suffix) =>
    match Assoc.get? handle parser.handles with
    | some lead => .ok (some (lead ++ suffix))
    | none => .error .malformed

def collectionTag (usual : Tag) (tag : Option String) : Tag := (tag.map Tag.ofText).getD usual

/-- The node of a scalar, whose text may give it a tag. -/
def scalarNode (tag : Option String) (resolves : Bool) (text : String) : Node :=
  match tag with
  | some tag => ⟨.ofText tag, .scalar text⟩
  | none => ⟨if resolves then Tag.ofPlain text else .str, .scalar text⟩

inductive Kind where
  | scalar (text : String) (plain : Bool)
  | flowSequence
  | flowMapping
  | blockSequence
  | blockMapping
  | indentlessSequence
  /-- There is no content: the node is an empty scalar. -/
  | nothing

/-- The kind of content that a token starts. Block collections are allowed where `block` says so, and
sequences without their own indentation where `indentless` does. -/
def kindOf (block indentless : Bool) : Token → Kind
  | .scalar text plain => .scalar text plain
  | .flowSequenceStart => .flowSequence
  | .flowMappingStart => .flowMapping
  | .blockSequenceStart => if block then .blockSequence else .nothing
  | .blockMappingStart => if block then .blockMapping else .nothing
  | .blockEntry => if indentless then .indentlessSequence else .nothing
  | _ => .nothing

def addMissing (parser : Parser) : Except Fault (Ref × Parser) := .ok (parser.add .missing)

/-! ### Collections -/

mutual

/-- Reads a node. The bound counts nested calls. -/
def node (block indentless : Bool) : Nat → Parser → Except Fault (Ref × Parser)
  | 0, _ => .error .malformed
  | bound + 1, parser => do
    if depthLimit < parser.depth then throw .nesting
    match ← parser.peek with
    | .reference name =>
      match Assoc.get? name parser.anchors with
      | some ref => return (ref, parser.next)
      | none => throw .malformed
    | _ =>
      let (found, parser) ← parser.properties
      let tag ← parser.fullTag found.tag
      let kind := kindOf block indentless (← parser.peek)
      if found.isEmpty && kind matches .nothing then throw .malformed
      parser.checkAnchor found.anchor
      let sequence (parser : Parser) (read : Parser → Except Fault (List Ref × Parser)) :
          Except Fault (Ref × Parser) := do
        let tag := collectionTag .seq tag
        let (ref, parser) := parser.add ⟨tag, .sequence []⟩
        let (items, parser) ← read (parser.enter.name found.anchor ref)
        return (ref, parser.leave.fill ref tag (.sequence items))
      let mapping (parser : Parser) (read : Parser → Except Fault (List (Ref × Ref) × Parser)) :
          Except Fault (Ref × Parser) := do
        let tag := collectionTag .map tag
        let (ref, parser) := parser.add ⟨tag, .mapping []⟩
        let (pairs, parser) ← read (parser.enter.name found.anchor ref)
        return (ref, parser.leave.fill ref tag (.mapping pairs))
      match kind with
      | .scalar text plain =>
        let (ref, parser) := parser.next.add (scalarNode tag (plain || found.tag.isSome) text)
        return (ref, parser.name found.anchor ref)
      | .nothing =>
        let (ref, parser) := parser.add (scalarNode tag true "")
        return (ref, parser.name found.anchor ref)
      | .flowSequence => sequence parser.next (flowItems true bound)
      | .flowMapping => mapping parser.next (flowPairs true bound)
      | .blockSequence => sequence parser.next (blockItems bound)
      | .blockMapping => mapping parser.next (blockPairs bound)
      | .indentlessSequence => sequence parser (indentlessItems bound)

def blockItems : Nat → Parser → Except Fault (List Ref × Parser)
  | 0, _ => .error .malformed
  | bound + 1, parser => do
    match ← parser.peek with
    | .blockEntry =>
      let parser := parser.next
      let (item, parser) ←
        match ← parser.peek with
        | .blockEntry | .blockEnd => parser.addMissing
        | _ => node true false bound parser
      let (items, parser) ← blockItems bound parser
      return (item :: items, parser)
    | .blockEnd => return ([], parser.next)
    | _ => throw .malformed

/-- Reads the entries of a sequence that shares the indentation of its mapping. -/
def indentlessItems : Nat → Parser → Except Fault (List Ref × Parser)
  | 0, _ => .error .malformed
  | bound + 1, parser => do
    match ← parser.peek with
    | .blockEntry =>
      let parser := parser.next
      let (item, parser) ←
        match ← parser.peek with
        | .blockEntry | .key | .value | .blockEnd => parser.addMissing
        | _ => node true false bound parser
      let (items, parser) ← indentlessItems bound parser
      return (item :: items, parser)
    | _ => return ([], parser)

/-- Reads the entries of a block mapping and its end. Keys and values may be missing. -/
def blockPairs : Nat → Parser → Except Fault (List (Ref × Ref) × Parser)
  | 0, _ => .error .malformed
  | bound + 1, parser => do
    match ← parser.peek with
    | .blockEnd => return ([], parser.next)
    | .key =>
      let parser := parser.next
      let (key, parser) ←
        match ← parser.peek with
        | .key | .value | .blockEnd => parser.addMissing
        | _ => node true true bound parser
      let (value, parser) ← blockValue bound parser
      let (pairs, parser) ← blockPairs bound parser
      return ((key, value) :: pairs, parser)
    | _ => throw .malformed

def blockValue : Nat → Parser → Except Fault (Ref × Parser)
  | 0, _ => .error .malformed
  | bound + 1, parser => do
    match ← parser.peek with
    | .value =>
      let parser := parser.next
      match ← parser.peek with
      | .key | .value | .blockEnd => parser.addMissing
      | _ => node true true bound parser
    | _ => parser.addMissing

def flowKey (closing : Token) : Nat → Parser → Except Fault (Ref × Parser)
  | 0, _ => .error .malformed
  | bound + 1, parser => do
    let token ← parser.peek
    if token = .value || token = .flowEntry || token = closing then parser.addMissing
    else node false false bound parser

def flowValue (closing : Token) : Nat → Parser → Except Fault (Ref × Parser)
  | 0, _ => .error .malformed
  | bound + 1, parser => do
    match ← parser.peek with
    | .value =>
      let parser := parser.next
      let token ← parser.peek
      if token = .flowEntry || token = closing then parser.addMissing
      else node false false bound parser
    | _ => parser.addMissing

/-- Reads the entries of a flow sequence and its end. A key in it makes a mapping of one entry. -/
def flowItems (first : Bool) : Nat → Parser → Except Fault (List Ref × Parser)
  | 0, _ => .error .malformed
  | bound + 1, parser => do
    if (← parser.peek) = .flowSequenceEnd then return ([], parser.next)
    let parser ← if first then pure parser else parser.expect .flowEntry
    match ← parser.peek with
    | .flowSequenceEnd => return ([], parser.next)
    | .key =>
      let (ref, parser) := parser.next.enter.add ⟨.map, .mapping []⟩
      let (key, parser) ← flowKey .flowSequenceEnd bound parser
      let (value, parser) ← flowValue .flowSequenceEnd bound parser
      let (items, parser) ← flowItems false bound
        (parser.leave.fill ref .map (.mapping [(key, value)]))
      return (ref :: items, parser)
    | _ =>
      let (item, parser) ← node false false bound parser
      let (items, parser) ← flowItems false bound parser
      return (item :: items, parser)

/-- Reads the entries of a flow mapping and its end. An entry without a key mark has no value. -/
def flowPairs (first : Bool) :
    Nat → Parser → Except Fault (List (Ref × Ref) × Parser)
  | 0, _ => .error .malformed
  | bound + 1, parser => do
    if (← parser.peek) = .flowMappingEnd then return ([], parser.next)
    let parser ← if first then pure parser else parser.expect .flowEntry
    match ← parser.peek with
    | .flowMappingEnd => return ([], parser.next)
    | .key =>
      let (key, parser) ← flowKey .flowMappingEnd bound parser.next
      let (value, parser) ← flowValue .flowMappingEnd bound parser
      let (pairs, parser) ← flowPairs false bound parser
      return ((key, value) :: pairs, parser)
    | _ =>
      let (key, parser) ← node false false bound parser
      let _ ← parser.peek
      let (value, parser) ← parser.addMissing
      let (pairs, parser) ← flowPairs false bound parser
      return ((key, value) :: pairs, parser)

end

/-! ### Documents -/

/-- Reads directives. Only one may give the version, which must be of the first edition, and no
handle may be declared twice. -/
def directives (versioned : Bool) (declared : List (String × String)) :
    Nat → Parser → Except Fault Parser
  | 0, _ => .error .malformed
  | bound + 1, parser => do
    match ← parser.peek with
    | .versionDirective major =>
      if versioned || major != 1 then throw .malformed
      directives true declared bound parser.next
    | .tagDirective handle lead =>
      if Assoc.has handle declared then throw .malformed
      directives versioned (declared ++ [(handle, lead)]) bound parser.next
    | .otherDirective => directives versioned declared bound parser.next
    | _ => return { parser with handles := declared ++ parser.handles }

def isBoundary : Token → Bool
  | .versionDirective _ | .tagDirective _ _ | .otherDirective => true
  | .documentStart | .documentEnd | .streamEnd => true
  | _ => false

def explicitStart (parser : Parser) : Except Fault Parser := do
  let parser ← directives false [] (parser.tokens.length + 1) parser
  parser.expect .documentStart

/-- Reads the start of the document: none, or directives and a marker. Says whether the document is
empty. -/
def documentStart (parser : Parser) : Except Fault (Bool × Parser) := do
  match ← parser.peek with
  | .versionDirective _ | .tagDirective _ _ | .otherDirective | .documentStart =>
    let parser ← parser.explicitStart
    return (isBoundary (← parser.peek), parser)
  | _ => return (false, parser)

/-- Nothing may follow the document but markers of its end. -/
def documentEnd (parser : Parser) : Except Fault Unit := do
  let parser := { parser with tokens := parser.tokens.dropWhile (· = Token.documentEnd) }
  if (← parser.peek) = .streamEnd then return
  let _ ← parser.explicitStart
  throw .malformed

end Parser

def defaultHandles : List (String × String) := [("!", "!"), ("!!", Tag.lead)]

structure Document where
  nodes : Nodes
  root : Ref

/-- The only document in the tokens, or `none` when there is no document. -/
def Document.ofTokens? (tokens : List Token) : Except Fault (Option Document) := do
  let parser : Parser := { tokens, handles := defaultHandles }
  if (← parser.peek) = .streamEnd then return none
  let (hollow, parser) ← parser.documentStart
  let (root, parser) ←
    if hollow then parser.addMissing else parser.node true false (4 * tokens.length + 4)
  parser.documentEnd
  return some ⟨parser.nodes, root⟩

end Linkage.Yaml
