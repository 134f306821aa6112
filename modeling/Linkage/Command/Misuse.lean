import Linkage.Command.Grammar
import Linkage.Text.Quoted
/-!
What can be wrong with the words of a command line.
-/

namespace Linkage.Command

inductive Misuse where
  | ambiguous (word : String) (candidates : List String)
  | ignoredValue (switch : Switch) (value : String)
  | missingValue (switch : Switch)
  | notNumber (switch : Switch) (value : String)
  | unknownVerb (word : String)
  | missingOperands (names : List String)
  | unrecognized (words : List String)
  | verboseAndQuiet
  deriving DecidableEq, Repr

def Misuse.message : Misuse → String
  | ambiguous word candidates =>
    "ambiguous option: " ++ word ++ " could match " ++ String.intercalate ", " candidates
  | ignoredValue switch value =>
    "argument " ++ switch.label ++ ": ignored explicit argument " ++ Text.quoted value
  | missingValue switch => "argument " ++ switch.label ++ ": expected one argument"
  | notNumber switch value =>
    "argument " ++ switch.label ++ ": invalid int value: " ++ Text.quoted value
  | unknownVerb word =>
    "argument command: invalid choice: " ++ Text.quoted word ++ " (choose from "
      ++ String.intercalate ", " (Verb.all.map (fun verb => Text.quoted verb.name)) ++ ")"
  | missingOperands names =>
    "the following arguments are required: " ++ String.intercalate ", " names
  | unrecognized words => "unrecognized arguments: " ++ String.intercalate " " words
  | verboseAndQuiet => "--verbose and --quiet cannot be combined"

end Linkage.Command
