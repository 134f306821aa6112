import Linkage.Text.Utf8
import Linkage.Yaml.Block
import Linkage.Yaml.Plain
import Linkage.Yaml.Quoted
/-!
The tokens of a settings text. Indentation shows in tokens that open and close block collections. A
scalar before a colon is a key, which is known only at the colon: the scanner remembers where a key
could have started and puts the key token there afterwards. Until then no token from there on can be
handed on, so where the text cannot be read any further they are lost.
-/

namespace Linkage.Yaml

inductive Token where
  | versionDirective (major : Nat)
  | tagDirective (handle lead : String)
  | otherDirective
  | documentStart
  | documentEnd
  | streamEnd
  | blockSequenceStart
  | blockMappingStart
  | blockEnd
  | flowSequenceStart
  | flowSequenceEnd
  | flowMappingStart
  | flowMappingEnd
  | flowEntry
  | blockEntry
  | key
  | value
  | reference (name : String)
  | anchor (name : String)
  | tag (handle : Option String) (suffix : String)
  | scalar (text : String) (plain : Bool)
  /-- The text cannot be read beyond this place. -/
  | broken (fault : Fault)
  deriving DecidableEq, Repr

/-! ### Names, tags and directives -/

def isNameChar (c : Char) : Bool :=
  ('0' ≤ c && c ≤ '9') || ('A' ≤ c && c ≤ 'Z') || ('a' ≤ c && c ≤ 'z') || c = '-' || c = '_'

def scanName (cursor : Cursor) : Except Fault (String × Cursor) :=
  let (name, cursor) := cursor.next.takeWhile isNameChar
  let c := cursor.peek
  if name.isEmpty then .error .malformed
  else if isSeparator c || "?:,]\x7d%@`".toList.contains c then .ok (String.ofList name, cursor)
  else .error .malformed

def isUriChar (c : Char) : Bool :=
  isNameChar c || ";/?:@&=+$,.!~*'()[]%".toList.contains c

def percentBytes : List Char → Option (List UInt8)
  | '%' :: a :: b :: rest =>
    match Json.hexValue? a, Json.hexValue? b, percentBytes rest with
    | some high, some low, some bytes => some (UInt8.ofNat (high * 16 + low) :: bytes)
    | _, _, _ => none
  | ['%'] => none
  | ['%', _] => none
  | _ => some []

def percentDecode (chars : List Char) : Except Fault (List Char × Nat) :=
  match percentBytes chars with
  | none => .error .malformed
  | some bytes =>
    match Text.Utf8.decode bytes with
    | .ok text => .ok (text.toList, 3 * bytes.length)
    | .error _ => .error .malformed

def scanUri : Nat → Cursor → Except Fault (List Char × Cursor)
  | 0, cursor => .ok ([], cursor)
  | bound + 1, cursor => do
    let (text, cursor) := cursor.takeWhile (fun c => isUriChar c && c != '%')
    if cursor.peek = '%' then
      let (decoded, length) ← percentDecode cursor.rest
      let (more, cursor) ← scanUri bound (cursor.advance length)
      return (text ++ decoded ++ more, cursor)
    else return (text, cursor)

def uri (cursor : Cursor) : Except Fault (String × Cursor) := do
  let (text, after) ← scanUri (cursor.rest.length + 1) cursor
  if after.index = cursor.index then throw .malformed
  return (String.ofList text, after)

/-- Reads a tag's handle: one mark, or a name between two. -/
def scanHandle (cursor : Cursor) : Except Fault (String × Cursor) :=
  if cursor.peek != '!' then .error .malformed
  else if cursor.peekAt 1 = ' ' then .ok ("!", cursor.next)
  else
    let (name, after) := cursor.next.takeWhile isNameChar
    if after.peek = '!' then .ok (String.ofList ('!' :: name ++ ['!']), after.next)
    else .error .malformed

def hasHandle (cursor : Cursor) : Bool :=
  (cursor.next.rest.takeWhile (fun c => c != ' ' && !isBreak c)).contains '!'

def scanTag (cursor : Cursor) : Except Fault (Token × Cursor) := do
  let (tag, cursor) ←
    if cursor.peekAt 1 = '<' then do
      let (text, cursor) ← uri (cursor.advance 2)
      if cursor.peek = '>' then pure (Token.tag none text, cursor.next) else throw .malformed
    else if isSeparator (cursor.peekAt 1) then pure (Token.tag none "!", cursor.next)
    else do
      let (handle, cursor) ←
        if hasHandle cursor then scanHandle cursor else pure ("!", cursor.next)
      let (text, cursor) ← uri cursor
      pure (Token.tag (some handle) text, cursor)
  if cursor.peek = ' ' || isBreakOrEnd cursor.peek then return (tag, cursor)
  else throw .malformed

def scanNumber (cursor : Cursor) : Except Fault (Nat × Cursor) :=
  let (digits, cursor) := cursor.takeWhile Json.isDigit
  if digits.isEmpty then .error .malformed
  else if Text.digitLimit < digits.length then .error (.digits digits.length)
  else .ok (Json.naturalOfDigits digits, cursor)

def scanDirective (cursor : Cursor) : Except Fault (Token × Cursor) := do
  let (name, cursor) := cursor.next.takeWhile isNameChar
  if name.isEmpty || !(cursor.peek = ' ' || isBreakOrEnd cursor.peek) then throw .malformed
  let (token, cursor) ←
    if name = "YAML".toList then do
      let (major, cursor) ← scanNumber (cursor.skipWhile (· = ' '))
      if cursor.peek != '.' then throw .malformed
      let (_, cursor) ← scanNumber cursor.next
      if !(cursor.peek = ' ' || isBreakOrEnd cursor.peek) then throw .malformed
      pure (Token.versionDirective major, cursor)
    else if name = "TAG".toList then do
      let (handle, cursor) ← scanHandle (cursor.skipWhile (· = ' '))
      if cursor.peek != ' ' then throw .malformed
      let (lead, cursor) ← uri (cursor.skipWhile (· = ' '))
      if !(cursor.peek = ' ' || isBreakOrEnd cursor.peek) then throw .malformed
      pure (Token.tagDirective handle lead, cursor)
    else pure (Token.otherDirective, cursor.skipWhile (fun c => !isBreak c))
  let cursor ← Block.restOfLine cursor
  return (token, cursor)

/-! ### The scanner -/

/-- A place where a key could have started. A required one must turn out to be a key. -/
structure KeyPlace where
  level : Nat
  number : Nat
  required : Bool
  index : Nat
  line : Nat
  column : Nat

/-- Where scanning stands. Tokens are newest first; indentations are innermost first. -/
structure Scanner where
  cursor : Cursor
  tokens : List Token := []
  level : Nat := 0
  indent : Int := -1
  outerIndents : List Int := []
  keyAllowed : Bool := true
  places : List KeyPlace := []

namespace Scanner

def inFlow (scanner : Scanner) : Bool := scanner.level > 0

def emit (token : Token) (scanner : Scanner) : Scanner :=
  { scanner with tokens := token :: scanner.tokens }

/-- Passes blanks, comments and line ends. Outside flow collections a key may follow a line end. -/
def skip : Nat → Scanner → Scanner
  | 0, scanner => scanner
  | bound + 1, scanner =>
    let cursor := (scanner.cursor.skipWhile (· = ' ')).skipComment
    if isBreak cursor.peek then
      skip bound { scanner with
        cursor := cursor.lineBreak.2
        keyAllowed := scanner.keyAllowed || !scanner.inFlow }
    else { scanner with cursor }

def isStale (scanner : Scanner) (place : KeyPlace) : Bool :=
  place.line != scanner.cursor.line || scanner.cursor.index - place.index > 1024

def dropStale (scanner : Scanner) : Except Fault Scanner :=
  if scanner.places.any (fun place => scanner.isStale place && place.required) then
    .error .malformed
  else
    .ok { scanner with places := scanner.places.filter (fun place => !scanner.isStale place) }

def dropPlace (scanner : Scanner) : Except Fault Scanner :=
  let here (place : KeyPlace) : Bool := place.level = scanner.level
  if scanner.places.any (fun place => here place && place.required) then .error .malformed
  else .ok { scanner with places := scanner.places.filter (fun place => !here place) }

def savePlace (scanner : Scanner) : Except Fault Scanner := do
  if scanner.keyAllowed then
    let required := !scanner.inFlow && scanner.indent = (scanner.cursor.column : Int)
    let cleared ← scanner.dropPlace
    return { cleared with
      places := ⟨scanner.level, scanner.tokens.length, required, scanner.cursor.index,
        scanner.cursor.line, scanner.cursor.column⟩ :: cleared.places }
  else return scanner

/-- Closes the block collections that are indented more than the column. -/
def unwind (column : Int) : Nat → Scanner → Scanner
  | 0, scanner => scanner
  | bound + 1, scanner =>
    if !scanner.inFlow && scanner.indent > column then
      match scanner.outerIndents with
      | outer :: rest =>
        unwind column bound ({ scanner with indent := outer, outerIndents := rest }.emit .blockEnd)
      | [] => scanner
    else scanner

def unwindTo (column : Int) (scanner : Scanner) : Scanner :=
  unwind column (scanner.outerIndents.length + 1) scanner

/-- Opens an indentation, and says whether it is a new one. -/
def addIndent (column : Nat) (scanner : Scanner) : Bool × Scanner :=
  if scanner.indent < (column : Int) then
    (true, { scanner with
      indent := column
      outerIndents := scanner.indent :: scanner.outerIndents })
  else (false, scanner)

def advance (count : Nat) (scanner : Scanner) : Scanner :=
  { scanner with cursor := scanner.cursor.advance count }

/-- Ends all block collections and the pending key, before a marker or directive. -/
def endBlocks (scanner : Scanner) : Except Fault Scanner := do
  let scanner ← (scanner.unwindTo (-1)).dropPlace
  return { scanner with keyAllowed := false }

def openFlow (token : Token) (scanner : Scanner) : Except Fault Scanner := do
  let scanner ← scanner.savePlace
  return ({ scanner with level := scanner.level + 1, keyAllowed := true }.emit token).advance 1

/-- Closes a flow collection. One that is not open can never be closed. -/
def closeFlow (token : Token) (scanner : Scanner) : Except Fault Scanner := do
  if !scanner.inFlow then throw .malformed
  let scanner ← scanner.dropPlace
  return ({ scanner with level := scanner.level - 1, keyAllowed := false }.emit token).advance 1

def flowEntry (scanner : Scanner) : Except Fault Scanner := do
  let scanner ← { scanner with keyAllowed := true }.dropPlace
  return (scanner.emit .flowEntry).advance 1

def openBlock (token : Token) (scanner : Scanner) : Scanner :=
  let (opened, scanner) := scanner.addIndent scanner.cursor.column
  if opened then scanner.emit token else scanner

def blockEntry (scanner : Scanner) : Except Fault Scanner := do
  if !scanner.inFlow && !scanner.keyAllowed then throw .malformed
  let scanner := if scanner.inFlow then scanner else scanner.openBlock .blockSequenceStart
  let scanner ← { scanner with keyAllowed := true }.dropPlace
  return (scanner.emit .blockEntry).advance 1

def explicitKey (scanner : Scanner) : Except Fault Scanner := do
  if !scanner.inFlow && !scanner.keyAllowed then throw .malformed
  let scanner := if scanner.inFlow then scanner else scanner.openBlock .blockMappingStart
  let scanner ← { scanner with keyAllowed := !scanner.inFlow }.dropPlace
  return (scanner.emit .key).advance 1

/-- Puts tokens where the token of the given number stands. -/
def insertAt (number : Nat) (inserted : List Token) (scanner : Scanner) : Scanner :=
  let recent := scanner.tokens.length - number
  { scanner with
    tokens := scanner.tokens.take recent ++ inserted ++ scanner.tokens.drop recent }

/-- A colon: what stands before it on this level becomes a key, if it can be one. -/
def valueMark (scanner : Scanner) : Except Fault Scanner := do
  let scanner ←
    match scanner.places.find? (fun place => place.level = scanner.level) with
    | some place =>
      let (opened, indented) :=
        if scanner.inFlow then (false, scanner) else scanner.addIndent place.column
      pure { indented.insertAt place.number
          (if opened then [.key, .blockMappingStart] else [.key]) with
        places := scanner.places.filter (fun place => place.level != scanner.level)
        keyAllowed := false }
    | none =>
      if !scanner.inFlow && !scanner.keyAllowed then throw .malformed
      let scanner := if scanner.inFlow then scanner else scanner.openBlock .blockMappingStart
      { scanner with keyAllowed := !scanner.inFlow }.dropPlace
  return (scanner.emit .value).advance 1

def keyToken (scan : Cursor → Except Fault (Token × Cursor)) (scanner : Scanner) :
    Except Fault Scanner := do
  let scanner ← scanner.savePlace
  let (token, cursor) ← scan scanner.cursor
  return { scanner with cursor, keyAllowed := false }.emit token

def quotedScalar (style : Quoted.Style) (cursor : Cursor) : Except Fault (Token × Cursor) := do
  let (text, cursor) ← Quoted.scan style cursor
  return (.scalar (String.ofList text) false, cursor)

def plainScalar (scanner : Scanner) : Except Fault Scanner := do
  let scanner ← scanner.savePlace
  let (text, lineEnded, cursor) := Plain.scan scanner.inFlow (scanner.indent + 1) scanner.cursor
  return { scanner with cursor, keyAllowed := lineEnded }.emit (.scalar (String.ofList text) true)

def blockScalar (folded : Bool) (scanner : Scanner) : Except Fault Scanner := do
  let scanner ← { scanner with keyAllowed := true }.dropPlace
  let (text, cursor) ← Block.scan folded scanner.indent scanner.cursor
  return { scanner with cursor }.emit (.scalar (String.ofList text) false)

/-- Characters that start no plain scalar, unless a hyphen, question mark or colon has text behind
it. -/
def startsPlain (scanner : Scanner) : Bool :=
  let c := scanner.cursor.peek
  let after := scanner.cursor.peekAt 1
  !(isSeparator c || "-?:,[]\x7b\x7d#&*!|>'\"%@`".toList.contains c)
    || (!isSeparator after && (c = '-' || (!scanner.inFlow && (c = '?' || c = ':'))))

/-- Reads the next token, and those that indentation calls for before it. -/
def fetch (scanner : Scanner) : Except Fault Scanner := do
  let scanner ← (scanner.skip (scanner.cursor.rest.length + 1)).dropStale
  let scanner := if scanner.inFlow then scanner else scanner.unwindTo scanner.cursor.column
  let cursor := scanner.cursor
  let c := cursor.peek
  let spaced := isSeparator (cursor.peekAt 1)
  if cursor.rest.isEmpty then
    let scanner ← scanner.endBlocks
    return scanner.emit .streamEnd
  else if c = '%' && cursor.column = 0 then
    let scanner ← scanner.endBlocks
    let (token, cursor) ← scanDirective cursor
    return { scanner with cursor }.emit token
  else if cursor.column = 0 && cursor.isMarker '-' then
    let scanner ← scanner.endBlocks
    return (scanner.emit .documentStart).advance 3
  else if cursor.column = 0 && cursor.isMarker '.' then
    let scanner ← scanner.endBlocks
    return (scanner.emit .documentEnd).advance 3
  else if c = '[' then scanner.openFlow .flowSequenceStart
  else if c = '\x7b' then scanner.openFlow .flowMappingStart
  else if c = ']' then scanner.closeFlow .flowSequenceEnd
  else if c = '\x7d' then scanner.closeFlow .flowMappingEnd
  else if c = ',' then scanner.flowEntry
  else if c = '-' && spaced then scanner.blockEntry
  else if c = '?' && (scanner.inFlow || spaced) then scanner.explicitKey
  else if c = ':' && (scanner.inFlow || spaced) then scanner.valueMark
  else if c = '*' then
    scanner.keyToken (fun cursor => do
      let (name, cursor) ← scanName cursor
      return (.reference name, cursor))
  else if c = '&' then
    scanner.keyToken (fun cursor => do
      let (name, cursor) ← scanName cursor
      return (.anchor name, cursor))
  else if c = '!' then scanner.keyToken scanTag
  else if c = '|' && !scanner.inFlow then scanner.blockScalar false
  else if c = '>' && !scanner.inFlow then scanner.blockScalar true
  else if c = Text.singleQuote then scanner.keyToken (quotedScalar .single)
  else if c = Text.doubleQuote then scanner.keyToken (quotedScalar .double)
  else if scanner.startsPlain then scanner.plainScalar
  else throw .malformed

/-- How many tokens can be handed on: a token that may still turn out to start a key must wait. -/
def ready (scanner : Scanner) : Nat :=
  (scanner.places.map KeyPlace.number).foldl min scanner.tokens.length

def breakOff (fault : Fault) (scanner : Scanner) : List Token :=
  .broken fault :: scanner.tokens.drop (scanner.tokens.length - scanner.ready)

def run : Nat → Scanner → List Token
  | 0, scanner => scanner.tokens
  | bound + 1, scanner =>
    match scanner.dropStale with
    | .error fault => scanner.breakOff fault
    | .ok scanner =>
      match scanner.fetch with
      | .error fault => scanner.breakOff fault
      | .ok next => if next.tokens.head? = some .streamEnd then next.tokens else run bound next

end Scanner

/-- The tokens of a text. A byte order mark at its start is passed over. -/
def Token.scan (text : String) : List Token :=
  let chars := text.toList
  if !chars.all isReadable then [.broken .malformed]
  else
    let cursor : Cursor := ⟨chars, 0, 0, 0⟩
    let start := if cursor.peek = byteOrderMark then cursor.next else cursor
    (Scanner.run (chars.length + 2) { cursor := start }).reverse

end Linkage.Yaml
