import Linkage.Project
/-!
Questions about a repo map on disk. The answers are JSON documents.
-/

namespace Linkage

inductive Question where
  | unused
  | orphans
  | cycles
  | graph
  | usages (file name : String)
  | dependents (file : String)
  deriving DecidableEq, Repr

/-- What is asked for: the full report, or an answer to one question. -/
inductive Query where
  | report
  | about (question : Question)
  deriving DecidableEq, Repr

def Question.answerOn (map : RepoMap) (settings : Settings) : Question → Logged Json
  | graph => pure (Graph.ofRepoMap map settings.extensions).toJson
  | cycles => do
    let cycles ← Analysis.cycles (.ofRepoMap map settings.extensions)
    return Report.cyclesJson cycles
  | unused => do
    let index ← Analysis.index map settings.extensions
    let findings ← Analysis.unused map (some index) settings.extensions settings.entryPoints
    return Finding.listJson (keepIncluded settings.excluded findings)
  | orphans => do
    let index ← Analysis.index map settings.extensions
    let findings ← Analysis.orphans map (some index) settings.extensions settings.suffixes
      settings.beginnings
    return Finding.listJson (keepIncluded settings.excluded findings)
  | usages file name => do
    let index ← Analysis.index map settings.extensions
    return .ofStrings (index.usages file name)
  | dependents file => do
    let index ← Analysis.index map settings.extensions
    return .ofStrings (index.dependents file)

def Query.answer (map : String) (settings : Option String) : Query → Action Json
  | report => return (← Project.report map settings).toJson
  | about question => do
    let (map, settings) ← Project.load map settings
    Action.logged (question.answerOn map settings)

end Linkage
