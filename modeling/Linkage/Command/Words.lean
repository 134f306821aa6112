import Linkage.Command.Misuse
import Linkage.Text.Integer
/-!
Sorting the words of a command line into switches and operands. Long names may be shortened as long
as they stay unambiguous, short switches may be joined, and a value may be attached to its switch.
After `--` no word is a switch; attached as a value, `--` stands for no word at all.
-/

namespace Linkage.Command

/-- A switch that a word names, and the text attached to it. -/
structure Hit where
  switch : Switch
  name : String
  attached : Option (List Char) := none
  deriving DecidableEq, Repr

inductive Mark where
  | operand
  | dashes
  | switch (hit : Hit)
  /-- A word that starts like a switch and names none. -/
  | unknown
  deriving DecidableEq, Repr

def Mark.isSwitch : Mark → Bool
  | switch _ | unknown => true
  | operand | dashes => false

/-! ### Single words -/

def splitEquals (chars : List Char) : List Char × Option (List Char) :=
  let before := chars.takeWhile (· != '=')
  match chars.drop before.length with
  | [] => (before, none)
  | _ :: after => (before, some after)

def isDigitOfAnyScript (c : Char) : Bool := (Text.digitValue? c).isSome

/-- Whether a text is made of digits; a line end may follow. -/
def isNumeral (chars : List Char) : Bool :=
  let rest := chars.dropWhile isDigitOfAnyScript
  rest.length < chars.length && (rest.isEmpty || rest = ['\n'])

/-- A negative number: digits, or a fraction. -/
def isNegativeNumber (word : List Char) : Bool :=
  match word with
  | '-' :: rest =>
    isNumeral rest
      || match rest.dropWhile isDigitOfAnyScript with
        | '.' :: fraction => isNumeral fraction
        | _ => false
  | _ => false

/-- The switches that a shortened or joined word may name. -/
def candidates (grammar : Grammar) (word : List Char) : List Hit :=
  match word with
  | '-' :: '-' :: _ =>
    let (start, value) := splitEquals word
    (grammar.names.filter (fun entry => start.isPrefixOf entry.1.toList)).map
      (fun entry => ⟨entry.2, entry.1, value⟩)
  | _ =>
    (grammar.names.filter (fun entry => entry.1.toList = word.take 2)).map
      (fun entry => ⟨entry.2, entry.1, some (word.drop 2)⟩)

/-- The switch whose full name stands before an equals sign. -/
def signed? (grammar : Grammar) (word : List Char) : Option Hit :=
  match splitEquals word with
  | (name, some value) =>
    (grammar.switch? (String.ofList name)).map (⟨·, String.ofList name, some value⟩)
  | (_, none) => none

def markOf (grammar : Grammar) (word : String) : Except Misuse Mark :=
  let chars := word.toList
  if chars.head? != some '-' then .ok .operand
  else
    match grammar.switch? word with
    | some switch => .ok (.switch ⟨switch, word, none⟩)
    | none =>
      if chars.length = 1 then .ok .operand
      else
        match signed? grammar chars with
        | some hit => .ok (.switch hit)
        | none =>
          match candidates grammar chars with
          | [hit] => .ok (.switch hit)
          | [] =>
            if isNegativeNumber chars || chars.contains ' ' then .ok .operand else .ok .unknown
          | hits => .error (.ambiguous word (hits.map Hit.name))

def marks (grammar : Grammar) : List String → Except Misuse (List (String × Mark))
  | [] => .ok []
  | word :: rest =>
    if word = "--" then .ok ((word, .dashes) :: rest.map (·, .operand))
    else do
      let mark ← markOf grammar word
      return (word, mark) :: (← marks grammar rest)

/-! ### Switches -/

/-- What one word with switches amounts to: the switches with the words of their values, and whether
the next word was used as a value. -/
structure Reading where
  given : List (Switch × List String) := []
  usesNext : Bool := false
  deriving DecidableEq, Repr

def attachedWords (value : List Char) : List String :=
  if value = ['-', '-'] then [] else [String.ofList value]

/-- Reads a switch, and those joined to it. Each letter joined to a short switch names another one,
whether or not an equals sign stands before the first. The bound counts joined switches. -/
def read (grammar : Grammar) (next : Option (String × Mark)) : Nat → Hit → Except Misuse Reading
  | 0, _ => .ok {}
  | bound + 1, hit =>
    match hit.attached with
    | none =>
      if hit.switch.takesValue then
        match next with
        | some (value, .operand) => .ok { given := [(hit.switch, [value])], usesNext := true }
        | _ => .error (.missingValue hit.switch)
      else .ok { given := [(hit.switch, [])] }
    | some value =>
      if hit.switch.takesValue then .ok { given := [(hit.switch, attachedWords value)] }
      else
        let refused : Except Misuse Reading := .error (.ignoredValue hit.switch (String.ofList value))
        match value with
        | [] => refused
        | first :: rest =>
          if hit.name.startsWith "--" then refused
          else
            let name := String.ofList ['-', first]
            match grammar.switch? name with
            | none => refused
            | some switch => do
              let attached := if rest.isEmpty then none else some rest
              let joined ← read grammar next bound ⟨switch, name, attached⟩
              return { joined with given := (hit.switch, []) :: joined.given }

/-! ### Whole lines -/

/-- Why reading ends early: a misuse, or a wish for help. -/
inductive Stop where
  | misuse (fault : Misuse)
  | help
  deriving DecidableEq, Repr

/-- What has been read: switches with their values, the words of each operand, the operands still
expected, and words that belong nowhere. -/
structure Parsed where
  given : List (Switch × List String) := []
  operands : List (List String) := []
  expected : List Operand
  extra : List String := []
  deriving DecidableEq, Repr

namespace Parsed

def give (parsed : Parsed) : Switch × List String → Except Stop Parsed
  | (.help, _) => .error .help
  | (.port, words) =>
    match words.find? (fun word => (Text.integer? word).isNone) with
    | some word => .error (.misuse (.notNumber .port word))
    | none => .ok { parsed with given := parsed.given ++ [(.port, words)] }
  | entry => .ok { parsed with given := parsed.given ++ [entry] }

/-- The words of one operand at the start, `--` around it included, and what follows. -/
def splitOperand? (takesRest : Bool) (words : List (String × Mark)) :
    Option (List String × List (String × Mark)) :=
  let isDashes (word : String × Mark) : Bool := word.2 = .dashes
  let before := words.takeWhile isDashes
  match words.drop before.length with
  | (word, .operand) :: rest =>
    if takesRest then some ((words.map Prod.fst), [])
    else
      let after := rest.takeWhile isDashes
      some ((before ++ (word, .operand) :: after).map Prod.fst, rest.drop after.length)
  | _ => none

def takeOperands (words : List (String × Mark)) :
    List Operand → List (List String) → List (List String) × List Operand × List (String × Mark)
  | [], taken => (taken, [], words)
  | operand :: expected, taken =>
    match splitOperand? operand.takesRest words with
    | some (found, rest) => takeOperands rest expected (taken ++ [found])
    | none => (taken, operand :: expected, words)

def operandsFrom (parsed : Parsed) (words : List (String × Mark)) :
    Parsed × List (String × Mark) :=
  let (operands, expected, rest) := takeOperands words parsed.expected parsed.operands
  ({ parsed with operands, expected }, rest)

/-- Reads on. Operands before a switch are taken first; words that are not expected are extra. -/
def readOn (grammar : Grammar) : Nat → Parsed → List (String × Mark) → Except Stop Parsed
  | 0, parsed, _ => .ok parsed
  | bound + 1, parsed, words =>
    let before := words.takeWhile (fun word => !word.2.isSwitch)
    match words.drop before.length with
    | [] =>
      let (parsed, rest) := parsed.operandsFrom words
      .ok { parsed with extra := parsed.extra ++ rest.map Prod.fst }
    | (word, mark) :: following =>
      if before.isEmpty then
        match mark with
        | .switch hit => do
          let found ← (read grammar following.head? (word.length + 1) hit).mapError Stop.misuse
          let parsed ← found.given.foldlM give parsed
          readOn grammar bound parsed (if found.usesNext then following.tail else following)
        | _ => readOn grammar bound { parsed with extra := parsed.extra ++ [word] } following
      else
        let (taken, rest) := parsed.operandsFrom words
        if rest.length < words.length then readOn grammar bound taken rest
        else
          readOn grammar bound { parsed with extra := parsed.extra ++ before.map Prod.fst }
            ((word, mark) :: following)

/-- Reads the words of one level. Every expected operand must be there. -/
def ofWords (grammar : Grammar) (words : List String) : Except Stop Parsed := do
  let marked ← (marks grammar words).mapError Stop.misuse
  let parsed ← readOn grammar (2 * words.length + 1) { expected := grammar.operands } marked
  if parsed.expected.isEmpty then return parsed
  else throw (.misuse (.missingOperands (parsed.expected.map Operand.name)))

def has (parsed : Parsed) (switch : Switch) : Bool := parsed.given.any (fun entry => entry.1 = switch)

/-- The words of a switch's value; the last one counts. -/
def words? (parsed : Parsed) (switch : Switch) : Option (List String) :=
  (parsed.given.reverse.find? (fun entry => entry.1 = switch)).map Prod.snd

end Parsed

end Linkage.Command
