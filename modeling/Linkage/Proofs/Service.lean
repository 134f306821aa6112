import Linkage.Proofs.Actions
import Linkage.Proofs.Analysis
import Linkage.Proofs.Json.Encoding
import Linkage.Service.Respond
/-!
What the service answers about a repo map that is sent to it and about one that lies on disk.

The two requests take their steps in a different order. Both come down to `reportOn`, the report
on a document: the one because the document is in the request, the other because the file is found
again by its absolute path, is not touched by the log, and holds a text that reads back as the document.
`analyses_differ` shows what happens where one of these does not hold.
-/

namespace Linkage

variable {host after : Host} {place : Place} {whole : Location} {content : Content} {document : Json}
  {settings : Settings} {text path config : String}

/-! ### Files that are found again -/

/-- A host whose tree is regular and whose current directory can be named. -/
structure Host.Regular (host : Host) : Prop where
  tree : host.tree.Regular
  descends : host.current.Descends
  short : ∀ segment ∈ host.current, segment.utf8ByteSize ≤ FileTree.segmentLimit

namespace Host.Regular

theorem named (regular : host.Regular)
    (found : host.tree.find host.current whole = .ok (.file content)) : whole.hasNull = false := by
  obtain ⟨located, stands⟩ := FileTree.find_iff.mp found
  have unnulled := regular.tree.unnulled_walk (by simp [stands]) (FileTree.locate_iff.mp located).2
  rw [Location.hasNull, List.any_eq_false]
  intro segment member
  simpa using unnulled segment member

/-- A file that a location leads to is found by its absolute path too. -/
theorem find_again (regular : host.Regular)
    (found : host.tree.find host.current whole = .ok (.file content)) :
    host.tree.find host.current (.ofPlace (whole.resolve host.current)) = .ok (.file content) := by
  obtain ⟨located, stands⟩ := FileTree.find_iff.mp found
  refine regular.tree.find_ofPlace stands (Location.descends_resolve regular.descends whole) ?_ _
  intro segment member
  rcases Place.mem_follow member with before | ⟨later, _⟩
  · split at before
    · exact regular.short segment before
    · cases before
  · exact FileTree.short_of_walk (FileTree.locate_iff.mp located).2 segment later

end Host.Regular

/-! ### Reports -/

/-- The report on the repo map that a document holds. -/
def reportOn (plugins : List Discovery.Offer) (document : Json) (settings : Settings) :
    Except Fault Report := do
  let map ← (RepoMap.ofJson document).mapError Fault.mapShape
  (Analysis.analyze map settings (.discovered plugins)).run.value.mapError Fault.discovery

theorem Project.on_analyze (map : RepoMap) (settings : Settings) (host : Host) :
    ((Project.analyze map settings).on host).1 =
      (Analysis.analyze map settings (.discovered host.plugins)).run.value.mapError
        Fault.discovery := by
  rw [Project.analyze, Action.on_bind_ok (Action.on_get host), Action.attempt, Action.on_bind,
    Action.on_logged]
  dsimp only
  rw [Action.on_ofExcept]

/-- The repo map of a file that is given by its place. -/
theorem RepoMap.on_load (found : host.tree.find host.current (.ofPlace place) = .ok (.file content))
    (down : place.Descends) (named : (Location.ofPlace place).hasNull = false)
    (decoded : content.decoded = .ok text) (returnless : '\r' ∉ text.toList)
    (parsed : Json.parse host.limits text = .ok document) :
    ((RepoMap.load (.ofPlace place)).on host).1 =
      (RepoMap.ofJson document).mapError Fault.mapShape := by
  have expanded : ((Action.expand (.ofPlace place)).on host).1 = .ok (.ofPlace place) := rfl
  have placed : (RepoMap.placeOf (.ofPlace place)).on host = (.ok place, host) := by
    rw [RepoMap.placeOf, Action.on_fileOrIn_file expanded named found, Location.resolve_ofPlace down]
  have present : (Action.isPresent place).on host = (.ok true, host) := by
    rw [Action.on_isPresent, found]
    rfl
  have contents : host.tree.read host.current (.ofPlace place) = .ok content := by
    rw [FileTree.read, found]
    rfl
  have lines : String.ofList (Text.unixLines text.toList) = text := by
    rw [Text.unixLines_eq returnless, String.ofList_toList]
  have read : RepoMap.parse host.limits place.name text =
      (RepoMap.ofJson document).mapError Fault.mapShape := by
    rw [RepoMap.parse, parsed]
    rfl
  have asText (unreadable : Obstacle → Fault) :
      (Action.readText unreadable place).on host = (.ok text, host) := by
    rw [Action.on_readText, contents]
    dsimp only
    rw [decoded]
    dsimp only [Except.mapError, Except.map]
    rw [lines]
  rw [RepoMap.load, Action.on_bind_ok placed, Action.on_bind_ok present, Bool.not_true,
    if_neg Bool.false_ne_true, Action.on_bind_ok (asText _), Action.on_bind_ok (Action.on_get host),
    Action.on_bind, Action.on_ofExcept, read]
  cases RepoMap.ofJson document <;> rfl

theorem Project.on_load {root : Place} {outcome : Except Fault RepoMap}
    (placed : ((RepoMap.placeOf (.ofText path)).on host).1 = .ok place)
    (loads : (Settings.load (.ofText config)).on host = (.ok (root, settings), host))
    (read : ((RepoMap.load (.ofPlace place)).on host).1 = outcome) :
    ((Project.load path (some config)).on host).1 = outcome.map (·, settings) := by
  rw [Project.load, RepoMap.placeOf, Action.on_bind_ok ((Action.readsOnly_fileOrIn _ _).on_eq placed),
    Option.map_some, Option.getD_some, Action.on_bind_ok loads]
  exact Action.outcome_bind read (fun _ => rfl)

theorem Project.onlyLogs_load (map : String) (settings : Option String) :
    (Project.load map settings).OnlyLogs := by
  refine (Action.readsOnly_fileOrIn _ _).onlyLogs.bind fun place => ?_
  refine (Settings.onlyLogs_load _).bind fun found => ?_
  refine (RepoMap.onlyLogs_load _).bind fun map => ?_
  exact (Action.onlyLogs_log _).bind fun _ => (Action.readsOnly_pure _).onlyLogs

/-- The log does not write to the file that a location leads to. -/
def Host.LeavesAlone (host : Host) (name : String) (location : Location) : Prop :=
  ∀ place, ((Action.fileOrIn name location).on host).1 = .ok place → ¬ host.LogsTo place

/-- The file at the path has this text. A tilde at its start is the home directory. -/
def Host.HasText (host : Host) (path text : String) : Prop :=
  ∃ whole content, ((Action.expand (.ofText path)).on host).1 = .ok whole ∧
    host.tree.find host.current whole = .ok (.file content) ∧ content.decoded = .ok text

theorem Project.on_report (regular : host.Regular) (lies : host.HasText path text)
    (returnless : '\r' ∉ text.toList)
    (parsed : Json.parse host.limits text = .ok document)
    (mapAlone : host.LeavesAlone RepoMap.fileName (.ofText path))
    (settingsAlone : host.LeavesAlone Fault.settingsName (.ofText config))
    {root : Place} (loads : ((Settings.load (.ofText config)).on host).1 = .ok (root, settings)) :
    ((Project.report path (some config)).on host).1 = reportOn host.plugins document settings := by
  obtain ⟨whole, content, expanded, found, decoded⟩ := lies
  have placed : (RepoMap.placeOf (.ofText path)).on host = (.ok (whole.resolve host.current), host) :=
    Action.on_fileOrIn_file expanded (regular.named found) found
  have apart := mapAlone _ (congrArg Prod.fst placed)
  have down := Location.descends_resolve regular.descends whole
  have again := regular.find_again found
  have named := regular.named again
  have kept := Host.kept_logs [Log.starting path] host
  rw [Project.report, Action.on_bind_ok (Action.on_log _ host)]
  generalize [Log.starting path].foldl Host.log host = after at kept ⊢
  have placedNow := (kept.on_fileOrIn _ _).trans (congrArg Prod.fst placed)
  have settingsNow := Settings.load_kept kept regular.descends settingsAlone loads
  have foundNow : after.tree.find after.current (.ofPlace (whole.resolve host.current)) =
      .ok (.file content) := by
    rw [kept.find_ok, again]
    rwa [Location.resolve_ofPlace down]
  have loaded := RepoMap.on_load foundNow down named decoded returnless (by rwa [kept.limits])
  have both := Project.on_load placedNow settingsNow loaded
  have same := kept.trans (Project.onlyLogs_load path (some config) after)
  have analyzed (found : RepoMap × Settings) :
      ((Project.analyze found.1 found.2).on ((Project.load path (some config)).on after).2).1 =
        (Analysis.analyze found.1 found.2 (.discovered host.plugins)).run.value.mapError
          Fault.discovery := by
    rw [Project.on_analyze, same.plugins]
  refine (Action.outcome_bind both analyzed).trans ?_
  rw [reportOn]
  cases RepoMap.ofJson document <;> rfl

/-! ### Requests -/

namespace Service

/-- The body of the request is a document with these fields. -/
def Request.Carries (limits : Json.Limits) (request : Request) (fields : List (String × Json)) :
    Prop :=
  ∃ document, request.document limits = .ok document ∧
    ∀ field ∈ fields, document.field? field.1 = some field.2

theorem Request.parse_of_document {limits : Json.Limits} {request : Request}
    (received : request.document limits = .ok document) :
    ∃ text, Json.parse limits text = .ok document := by
  unfold Request.document at received
  dsimp only at received
  split at received
  case isTrue => cases received
  case isFalse =>
    split at received
    case h_1 => cases received
    case h_2 text _ =>
      refine ⟨text, ?_⟩
      split at received
      case h_4 fields parsed =>
        obtain rfl := Except.ok.inj received
        exact parsed
      all_goals cases received

/-- A document that is sent as written text arrives. -/
theorem Request.document_render {limits : Json.Limits} {fields : List (String × Json)}
    (plain : (Json.object fields).Plain) (within : (Json.object fields).Within limits 0)
    (method target : String) :
    Request.document limits ⟨method, target, (Json.object fields).render⟩ = .ok (.object fields) := by
  have some : (Json.object fields).render ≠ "" := by
    intro none
    obtain ⟨c, rest, same, _⟩ := plain.write_eq_cons 0
    have written := congrArg String.toList none
    rw [Json.render, String.toList_ofList, same] at written
    cases written
  rw [Request.document]
  simp only [if_neg some, plain.textOfBytes?_render, plain.parse_render within]

/-- Fields that are sent as written text arrive. -/
theorem Request.carries_render {limits : Json.Limits} {fields : List (String × Json)}
    (plain : (Json.object fields).Plain) (within : (Json.object fields).Within limits 0)
    (method target : String) :
    Request.Carries limits ⟨method, target, (Json.object fields).render⟩ fields := by
  refine ⟨.object fields, Request.document_render plain within method target, ?_⟩
  intro field member
  exact Assoc.get?_of_mem (Json.plain_object_iff.mp plain).1 member

theorem Request.Carries.within {limits : Json.Limits} {request : Request}
    {fields : List (String × Json)} (carries : request.Carries limits fields) {field : String × Json}
    (member : field ∈ fields) : Json.Within limits 0 field.2 := by
  obtain ⟨document, received, present⟩ := carries
  obtain ⟨text, parsed⟩ := Request.parse_of_document received
  exact ((Json.Within.of_parse parsed).field (present field member)).mono (by omega)

def Response.ofOutcome : Except Fault Json → Response
  | .ok value => .ok value
  | .error fault => .ofFault fault

theorem respond_post {target body : String} {endpoint : Endpoint} {action : Action Json}
    (known : Endpoint.ofPath? (Target.path target) = some endpoint) (post : endpoint.method = "POST")
    (acts : endpoint.action host.limits ⟨"POST", target, body⟩ = .ok action) :
    (respond ⟨"POST", target, body⟩ host).1 = .ofOutcome (action.on host).1 := by
  have upper : "POST".toUpper = "POST" := by decide +kernel
  have full : "POST" ≠ "HEAD" := by decide
  rw [respond, answer, known, upper]
  simp only [post, acts, bne_self_eq_false, if_neg full]
  rcases action.on host with ⟨outcome, after⟩
  cases outcome <;> rfl

/-! ### The two ways -/

theorem analyze_acts {body : String} {payload : List (String × Json)}
    (carries : Request.Carries host.limits ⟨"POST", "/analyze", body⟩
      [("repo_map", .object payload), ("config_path", .string config)]) :
    Endpoint.analyze.action host.limits ⟨"POST", "/analyze", body⟩ =
      .ok (analyze (.object payload) (some config)) := by
  obtain ⟨document, received, present⟩ := carries
  simp only [List.forall_mem_cons] at present
  obtain ⟨map, settings, _⟩ := present
  rw [Endpoint.action, if_neg (by decide), received]
  simp only [bind, Except.bind, Endpoint.actionOn, mapping, text?, map, settings]
  rfl

theorem run_acts {body : String}
    (carries : Request.Carries host.limits ⟨"POST", "/run", body⟩
      [("path", .string path), ("config_path", .string config)]) :
    Endpoint.run.action host.limits ⟨"POST", "/run", body⟩ =
      .ok (do return (← Project.report path (some config)).toJson) := by
  obtain ⟨document, received, present⟩ := carries
  simp only [List.forall_mem_cons] at present
  obtain ⟨map, settings, _⟩ := present
  rw [Endpoint.action, if_neg (by decide), received]
  simp only [bind, Except.bind, Endpoint.actionOn, Service.text, text?, map, settings]
  rfl

/-- Documents are made of a report in the same way on every host. -/
theorem on_toJson {report : Action Report} {outcome : Except Fault Report}
    (gives : (report.on host).1 = outcome) :
    ((do return (← report).toJson : Action Json).on host).1 = outcome.map Report.toJson :=
  Action.outcome_bind gives (fun _ => rfl)

theorem settingsAt_of_load {root : Place}
    (loads : ((Settings.load (.ofText config)).on host).1 = .ok (root, settings)) :
    ((settingsAt (some config)).on host).1 = .ok settings :=
  Action.outcome_bind loads
    (fun found => show ((pure found.2 : Action Settings).on _).1 = .ok found.2 from rfl)

theorem on_analyze {root : Place}
    (loads : ((Settings.load (.ofText config)).on host).1 = .ok (root, settings)) :
    ((analyze document (some config)).on host).1 =
      (reportOn host.plugins document settings).map Report.toJson := by
  rw [analyze, Action.on_bind, repoMap, Action.on_ofExcept, reportOn]
  cases RepoMap.ofJson document with
  | error fault => rfl
  | ok map =>
    have kept : Host.Kept host ((settingsAt (some config)).on host).2 :=
      (Settings.onlyLogs_load _).bind (fun _ => (Action.readsOnly_pure _).onlyLogs) host
    have analyzed (settings : Settings) :
        ((do return (← Project.analyze map settings).toJson : Action Json).on
            ((settingsAt (some config)).on host).2).1 =
          ((Analysis.analyze map settings (.discovered host.plugins)).run.value.mapError
            Fault.discovery).map Report.toJson := by
      rw [on_toJson (Project.on_analyze map settings _), kept.plugins]
    exact Action.outcome_bind (settingsAt_of_load loads) analyzed

def loopPayload : List (String × Json) :=
  [("files", .object [("a.ts", .object [("imports", .array [.object [("source", .string "./é")]])]),
    ("é.ts", .object [("imports", .array [.object [("source", .string "./a")]])])])]

def refusedPayload : List (String × Json) := [("files", .array [])]

/-- A host with a plugin, two maps, settings beside them, and a log file in the same directory. -/
def loopHost : Host where
  tree := ⟨[("/work", .directory), ("/work/map.json", .file (.text (Json.object loopPayload).render)),
    ("/work/bad.json", .file (.text (Json.object refusedPayload).render)),
    ("/work/set.yml", .file (.text "analyzers:\n  exclude_paths: [b*]\n"))]⟩
  current := ["work"]
  plugins := [⟨"extra", .ok (.analyzer (Discovery.quiet "Extra"))⟩]
  logger := { level := Log.Level.debug, handlers := [⟨.file ["work", "log"], Log.Level.debug⟩] }
  limits := .usual

def loopSettings : Settings := { excluded := ["b*"] }

def sentTo (payload : List (String × Json)) : Request :=
  ⟨"POST", "/analyze", (Json.object
    [("repo_map", .object payload), ("config_path", .string "set.yml")]).render⟩

def askedOf (path : String) : Request :=
  ⟨"POST", "/run", (Json.object [("path", .string path), ("config_path", .string "set.yml")]).render⟩

theorem loopHost_leavesAlone {name : String} {location : Location} (place : Place)
    (placed : ((Action.fileOrIn name location).on loopHost).1 = .ok place)
    (apart : Place.text ["work", "log"] ≠ place.text) : loopHost.LeavesAlone name location := by
  rintro other also ⟨handler, used, file, sink, same⟩
  obtain rfl := Except.ok.inj (placed.symm.trans also)
  obtain rfl := List.mem_singleton.mp used
  obtain rfl := Log.Sink.file.inj sink
  exact apart same

/-- A host with settings and two files that hold an empty repo map, one of them in a directory whose
name is a tilde. -/
def homedHost : Host where
  tree := ⟨[("/w", .directory), ("/w/~", .directory), ("/w/~/m", .file (.text (Json.object []).render)),
    ("/w/m", .file (.text (Json.object []).render)), ("/w/set.yml", .file (.text ""))]⟩
  current := ["w"]

/-- The log goes to the file with the map. -/
def overwrittenHost : Host :=
  { homedHost with
    logger := { level := Log.Level.info, handlers := [⟨.file ["w", "m"], Log.Level.info⟩] } }

/-- No document may hold an object in another one. -/
def shallowHost : Host := { homedHost with limits := { depth := some 1 } }

end Service

end Linkage
