import Linkage.Proofs.FileTree
import Linkage.Settings.Load
import Linkage.RepoMap.Load
/-!
What the actions give on a host in terms of its file tree, and what stays the same on a host
while its log is written: all that is not read from a file of the log.
-/

namespace Linkage

variable {host after : Host} {place : Place} {location whole : Location} {content : Content}
  {name text : String}

namespace Action

variable {α β ε : Type} {action : Action α} {next : α → Action β} {value : α}

@[simp] theorem on_get (host : Host) : (get : Action Host).on host = (.ok host, host) := rfl

@[simp] theorem on_ofExcept (wrap : ε → Fault) (outcome : Except ε α) (host : Host) :
    (ofExcept wrap outcome).on host = (outcome.mapError wrap, host) := by
  cases outcome <;> rfl

@[simp] theorem on_log (records : List Log.Record) (host : Host) :
    (log records).on host = (.ok (), records.foldl Host.log host) := rfl

theorem on_bind_ok (ran : action.on host = (.ok value, after)) :
    (action >>= next).on host = (next value).on after := by
  rw [on_bind, ran]

theorem ok_of_on_bind {result : β} (done : (action >>= next).on host = (.ok result, after)) :
    ∃ value between, action.on host = (.ok value, between) ∧
      (next value).on between = (.ok result, after) := by
  rw [on_bind] at done
  cases ran : action.on host with
  | mk outcome between =>
    rw [ran] at done
    cases outcome with
    | error fault => cases done
    | ok value => exact ⟨value, between, rfl, done⟩

theorem ok_of_ofExcept {wrap : ε → Fault} {outcome : Except ε α}
    (done : (ofExcept wrap outcome).on host = (.ok value, after)) :
    outcome = .ok value ∧ after = host := by
  rw [on_ofExcept] at done
  cases outcome with
  | error fault => cases done
  | ok result =>
    obtain ⟨same, rfl⟩ := Prod.mk.inj done
    exact ⟨by rw [Except.ok.inj same], rfl⟩

/-- What follows need only be known on the host that the first action leaves. -/
theorem outcome_bind {outcome : Except Fault α} {result : α → Except Fault β}
    (gives : (action.on host).1 = outcome)
    (follows : ∀ value, ((next value).on (action.on host).2).1 = result value) :
    ((action >>= next).on host).1 = outcome >>= result := by
  rw [on_bind]
  generalize action.on host = ran at gives follows ⊢
  obtain ⟨first, after⟩ := ran
  obtain rfl : first = outcome := gives
  cases first with
  | error fault => rfl
  | ok value => exact follows value

/-- An action that leaves the host as it is. -/
def ReadsOnly (action : Action α) : Prop := ∀ host, (action.on host).2 = host

theorem ReadsOnly.host_eq (reads : ReadsOnly action) {outcome : Except Fault α}
    (ran : action.on host = (outcome, after)) : after = host := by
  rw [← reads host, ran]

theorem ReadsOnly.on_eq (reads : ReadsOnly action) {outcome : Except Fault α}
    (gives : (action.on host).1 = outcome) : action.on host = (outcome, host) :=
  Prod.ext gives (reads host)

theorem toOption_iff {outcome : Except ε α} : outcome.toOption = some value ↔ outcome = .ok value := by
  cases outcome <;> simp [Except.toOption]

theorem on_expand (location : Location) (host : Host) :
    (expand location).on host =
      (if location.hasNullName then .error .nullCharacter
      else ((location.expand? host.home host.homes).map Except.ok).getD (.error .homeUnknown), host) := by
  unfold expand
  split
  case isTrue => rfl
  case isFalse =>
    rw [on_bind_ok (on_get host)]
    cases location.expand? host.home host.homes <;> rfl

theorem on_entryAt (location : Location) (host : Host) :
    (entryAt location).on host =
      (if host.tree.find host.current location = .error .tooLong then
        .error (.file .tooLong location.text)
      else .ok (host.tree.find host.current location).toOption, host) := by
  rw [entryAt, on_bind_ok (on_get host)]
  cases host.tree.find host.current location with
  | ok entry => rfl
  | error obstacle => cases obstacle <;> rfl

theorem readsOnly_expand (location : Location) : ReadsOnly (expand location) := by
  intro host
  rw [on_expand]

theorem on_fileOrIn (expanded : ((expand location).on host).1 = .ok whole)
    (named : whole.hasNull = false) :
    (fileOrIn name location).on host =
      (if host.tree.find host.current whole = .error .tooLong then .error (.file .tooLong whole.text)
      else .ok ((if host.tree.find host.current whole = .ok .directory then whole.child name
        else whole).resolve host.current), host) := by
  rw [fileOrIn, on_bind_ok ((readsOnly_expand location).on_eq expanded), named,
    if_neg Bool.false_ne_true, on_bind, on_entryAt]
  by_cases long : host.tree.find host.current whole = .error .tooLong
  · rw [if_pos long, if_pos long]
  · rw [if_neg long, if_neg long]
    simp only [← toOption_iff]
    rfl

theorem on_fileOrIn_null (expanded : ((expand location).on host).1 = .ok whole)
    (null : whole.hasNull = true) :
    (fileOrIn name location).on host = (.error .nullCharacter, host) := by
  rw [fileOrIn, on_bind_ok ((readsOnly_expand location).on_eq expanded), null]
  rfl

theorem on_fileOrIn_error {fault : Fault} (refused : ((expand location).on host).1 = .error fault) :
    (fileOrIn name location).on host = (.error fault, host) := by
  rw [fileOrIn, on_bind, (readsOnly_expand location).on_eq refused]

/-- A file that is given by itself. -/
theorem on_fileOrIn_file (expanded : ((expand location).on host).1 = .ok whole)
    (named : whole.hasNull = false)
    (found : host.tree.find host.current whole = .ok (.file content)) :
    (fileOrIn name location).on host = (.ok (whole.resolve host.current), host) := by
  rw [on_fileOrIn expanded named, found]
  rfl

theorem resolve_of_fileOrIn (done : ((fileOrIn name location).on host).1 = .ok place) :
    ∃ named : Location, place = named.resolve host.current := by
  cases expanded : ((expand location).on host).1 with
  | error fault =>
    rw [on_fileOrIn_error expanded] at done
    cases done
  | ok whole =>
    cases null : whole.hasNull with
    | true =>
      rw [on_fileOrIn_null expanded null] at done
      cases done
    | false =>
      rw [on_fileOrIn expanded null] at done
      dsimp only at done
      split at done
      case isTrue => cases done
      case isFalse => exact ⟨_, (Except.ok.inj done).symm⟩

theorem readsOnly_fileOrIn (name : String) (location : Location) :
    ReadsOnly (fileOrIn name location) := by
  intro host
  cases expanded : ((expand location).on host).1 with
  | error fault => rw [on_fileOrIn_error expanded]
  | ok whole =>
    cases null : whole.hasNull with
    | true => rw [on_fileOrIn_null expanded null]
    | false => rw [on_fileOrIn expanded null]

theorem on_isPresent (place : Place) (host : Host) :
    (isPresent place).on host =
      (if host.tree.find host.current (.ofPlace place) = .error .tooLong then
        .error (.file .tooLong place.text)
      else .ok (host.tree.find host.current (.ofPlace place)).toOption.isSome, host) := by
  rw [isPresent, on_bind, on_entryAt, Location.text_ofPlace]
  by_cases long : host.tree.find host.current (.ofPlace place) = .error .tooLong
  · rw [if_pos long, if_pos long]
  · rw [if_neg long, if_neg long]
    rfl

theorem readsOnly_isPresent (place : Place) : ReadsOnly (isPresent place) := by
  intro host
  rw [on_isPresent]

theorem found_of_isPresent (present : ((isPresent place).on host).1 = .ok true) :
    ∃ entry, host.tree.find host.current (.ofPlace place) = .ok entry := by
  rw [on_isPresent] at present
  dsimp only at present
  split at present
  case isTrue => cases present
  case isFalse =>
    obtain ⟨entry, found⟩ := Option.isSome_iff_exists.mp (Except.ok.inj present)
    exact ⟨entry, toOption_iff.mp found⟩

end Action

def Content.decoded : Content → Except Text.Utf8.Fault String
  | .text value => .ok value
  | .bytes values => Text.Utf8.decode values

namespace Action

theorem on_readText (unreadable : Obstacle → Fault) (place : Place) (host : Host) :
    (readText unreadable place).on host =
      (match host.tree.read host.current (.ofPlace place) with
      | .error obstacle => .error (unreadable obstacle)
      | .ok content => (content.decoded.mapError Fault.encoding).map
          (fun text => String.ofList (Text.unixLines text.toList)), host) := by
  rw [readText, on_bind_ok (on_get host), on_bind, on_ofExcept]
  cases host.tree.read host.current (.ofPlace place) with
  | error obstacle => rfl
  | ok content =>
    cases content with
    | text value => rfl
    | bytes values =>
      have decoded : (Content.bytes values).decoded = Text.Utf8.decode values := rfl
      simp only [Except.mapError, decoded]
      rw [on_bind, on_ofExcept]
      cases Text.Utf8.decode values <;> rfl

theorem readsOnly_readText (unreadable : Obstacle → Fault) (place : Place) :
    ReadsOnly (readText unreadable place) := by
  intro host
  rw [on_readText]

end Action

namespace Host

/-! ### Logs -/

/-- The log may write to the file at the place. -/
def LogsTo (host : Host) (place : Place) : Prop :=
  ∃ handler ∈ host.logger.handlers, ∃ file : Place, handler.sink = .file file ∧ file.text = place.text

/-- What the log leaves as it is: all but its own files, and these it never makes directories. -/
structure Kept (host after : Host) : Prop where
  current : after.current = host.current
  home : after.home = host.home
  homes : after.homes = host.homes
  plugins : after.plugins = host.plugins
  logger : after.logger = host.logger
  limits : after.limits = host.limits
  directory (place : Place) :
    after.tree.entry? place = some .directory ↔ host.tree.entry? place = some .directory
  entry {place : Place} (apart : ¬ host.LogsTo place) :
    after.tree.entry? place = host.tree.entry? place

theorem Kept.refl (host : Host) : Kept host host :=
  ⟨rfl, rfl, rfl, rfl, rfl, rfl, fun _ => Iff.rfl, fun _ => rfl⟩

theorem Kept.trans {between : Host} (first : Kept host between) (second : Kept between after) :
    Kept host after where
  current := second.current.trans first.current
  home := second.home.trans first.home
  homes := second.homes.trans first.homes
  plugins := second.plugins.trans first.plugins
  logger := second.logger.trans first.logger
  limits := second.limits.trans first.limits
  directory place := (second.directory place).trans (first.directory place)
  entry apart := (second.entry (by rwa [LogsTo, first.logger])).trans (first.entry apart)

theorem kept_writeTo {sink : Log.Sink} (record : Log.Record)
    (known : ∀ place, sink = .file place → host.LogsTo place) :
    Kept host (writeTo record host sink) := by
  cases sink with
  | console => exact ⟨rfl, rfl, rfl, rfl, rfl, rfl, fun _ => Iff.rfl, fun _ => rfl⟩
  | file place =>
    refine ⟨rfl, rfl, rfl, rfl, rfl, rfl, fun other => FileTree.directory_append place other _, ?_⟩
    intro other apart
    obtain ⟨handler, used, file, sink, same⟩ := known place rfl
    exact FileTree.entry_append_other
      (fun equal => apart ⟨handler, used, file, sink, same.trans equal⟩) _

theorem kept_log (host : Host) (record : Log.Record) : Kept host (host.log record) := by
  have written : ∀ (sinks : List Log.Sink) (host : Host),
      (∀ sink ∈ sinks, ∀ place, sink = .file place → host.LogsTo place) →
        Kept host (sinks.foldl (writeTo record) host) := by
    intro sinks
    induction sinks with
    | nil => exact fun host _ => .refl host
    | cons sink sinks ih =>
      intro host known
      have first := kept_writeTo record (known sink List.mem_cons_self)
      refine first.trans (ih _ ?_)
      intro other member place same
      have here := known other (List.mem_cons_of_mem _ member) place same
      rwa [LogsTo, first.logger]
  apply written
  rintro sink member place rfl
  unfold Log.Logger.sinks at member
  split at member
  case isTrue =>
    obtain ⟨handler, chosen, sink⟩ := List.mem_map.mp member
    exact ⟨handler, List.mem_of_mem_filter chosen, place, sink, rfl⟩
  case isFalse => cases member

theorem kept_logs (records : List Log.Record) (host : Host) : Kept host (records.foldl log host) := by
  induction records generalizing host with
  | nil => exact .refl host
  | cons record records ih => exact (kept_log host record).trans (ih _)

namespace Kept

theorem find_long (kept : Kept host after) (location : Location) :
    after.tree.find after.current location = .error .tooLong ↔
      host.tree.find host.current location = .error .tooLong := by
  rw [kept.current, FileTree.find_long_congr kept.directory]

theorem find_ok (kept : Kept host after) (location : Location)
    (apart : ¬ host.LogsTo (location.resolve host.current)) (entry : Entry) :
    after.tree.find after.current location = .ok entry ↔
      host.tree.find host.current location = .ok entry := by
  rw [kept.current, FileTree.find_iff, FileTree.find_iff, FileTree.locate_congr kept.directory,
    kept.entry apart]

theorem find_directory (kept : Kept host after) (location : Location) :
    after.tree.find after.current location = .ok .directory ↔
      host.tree.find host.current location = .ok .directory := by
  rw [kept.current, FileTree.find_iff, FileTree.find_iff, FileTree.locate_congr kept.directory,
    kept.directory]

theorem on_expand (kept : Kept host after) (location : Location) :
    ((Action.expand location).on after).1 = ((Action.expand location).on host).1 := by
  rw [Action.on_expand, Action.on_expand, kept.home, kept.homes]

theorem on_fileOrIn (kept : Kept host after) (name : String) (location : Location) :
    ((Action.fileOrIn name location).on after).1 = ((Action.fileOrIn name location).on host).1 := by
  have same := kept.on_expand location
  cases expanded : ((Action.expand location).on host).1 with
  | error fault =>
    rw [Action.on_fileOrIn_error expanded, Action.on_fileOrIn_error (same.trans expanded)]
  | ok whole =>
    cases null : whole.hasNull with
    | true =>
      rw [Action.on_fileOrIn_null expanded null, Action.on_fileOrIn_null (same.trans expanded) null]
    | false =>
      rw [Action.on_fileOrIn expanded null, Action.on_fileOrIn (same.trans expanded) null]
      simp only [kept.find_long, kept.find_directory]
      rw [kept.current]

theorem read_eq (kept : Kept host after) (apart : ¬ host.LogsTo (location.resolve host.current))
    {entry : Entry} (found : host.tree.find host.current location = .ok entry) :
    after.tree.read after.current location = host.tree.read host.current location := by
  rw [FileTree.read, FileTree.read, found, (kept.find_ok location apart entry).mpr found]

theorem on_isPresent (kept : Kept host after) (down : place.Descends) (apart : ¬ host.LogsTo place) :
    ((Action.isPresent place).on after).1 = ((Action.isPresent place).on host).1 := by
  have found := kept.find_ok (.ofPlace place) (by rwa [Location.resolve_ofPlace down])
  have same : (after.tree.find after.current (.ofPlace place)).toOption =
      (host.tree.find host.current (.ofPlace place)).toOption := by
    apply Option.ext
    intro entry
    rw [Action.toOption_iff, Action.toOption_iff, found]
  rw [Action.on_isPresent, Action.on_isPresent]
  simp only [kept.find_long, same]

theorem on_readText (kept : Kept host after) (down : place.Descends) (apart : ¬ host.LogsTo place)
    {entry : Entry} (found : host.tree.find host.current (.ofPlace place) = .ok entry)
    (unreadable : Obstacle → Fault) :
    ((Action.readText unreadable place).on after).1 =
      ((Action.readText unreadable place).on host).1 := by
  rw [Action.on_readText, Action.on_readText,
    kept.read_eq (by rwa [Location.resolve_ofPlace down]) found]

end Kept

end Host

/-! ### Actions that leave no more than a log -/

namespace Action

variable {α β : Type} {action : Action α} {next : α → Action β}

/-- An action that leaves the host as it is, apart from what it logs. -/
def OnlyLogs (action : Action α) : Prop := ∀ host, Host.Kept host (action.on host).2

theorem ReadsOnly.onlyLogs (reads : ReadsOnly action) : OnlyLogs action := by
  intro host
  rw [reads host]
  exact .refl host

theorem onlyLogs_log (records : List Log.Record) : OnlyLogs (log records) :=
  fun host => Host.kept_logs records host

theorem OnlyLogs.bind (first : OnlyLogs action) (second : ∀ value, OnlyLogs (next value)) :
    OnlyLogs (action >>= next) := by
  intro host
  have kept := first host
  rw [on_bind]
  generalize action.on host = ran at kept ⊢
  obtain ⟨outcome, after⟩ := ran
  cases outcome with
  | error fault => exact kept
  | ok value => exact kept.trans (second value after)

theorem readsOnly_throw (fault : Fault) : ReadsOnly (throw fault : Action α) := fun _ => rfl

theorem readsOnly_pure (value : α) : ReadsOnly (pure value) := fun _ => rfl

theorem readsOnly_ofExcept {ε : Type} (wrap : ε → Fault) (outcome : Except ε α) :
    ReadsOnly (ofExcept wrap outcome) := by
  intro host
  rw [on_ofExcept]

end Action

theorem RepoMap.onlyLogs_load (location : Location) : (load location).OnlyLogs := by
  refine (Action.readsOnly_fileOrIn _ _).onlyLogs.bind fun place => ?_
  refine (Action.readsOnly_isPresent place).onlyLogs.bind fun present => ?_
  split
  case isTrue => exact (Action.readsOnly_throw _).onlyLogs
  case isFalse =>
    refine (Action.readsOnly_readText _ place).onlyLogs.bind fun text => ?_
    refine Action.ReadsOnly.onlyLogs (fun _ => rfl) |>.bind fun host => ?_
    refine (Action.readsOnly_ofExcept _ _).onlyLogs.bind fun map => ?_
    exact (Action.onlyLogs_log _).bind fun _ => (Action.readsOnly_pure map).onlyLogs

namespace Settings

theorem onlyLogs_load (location : Location) : (load location).OnlyLogs := by
  refine (Action.readsOnly_fileOrIn _ _).onlyLogs.bind fun place => ?_
  refine (Action.readsOnly_isPresent place).onlyLogs.bind fun present => ?_
  split
  case isTrue => exact (Action.readsOnly_pure _).onlyLogs
  case isFalse =>
    refine (Action.readsOnly_readText _ place).onlyLogs.bind fun text => ?_
    exact (Action.readsOnly_ofExcept _ _).onlyLogs.bind fun _ => (Action.readsOnly_pure _).onlyLogs

/-- Settings that can be loaded stay the same while the log is written to other files. -/
theorem load_kept (kept : Host.Kept host after) (down : host.current.Descends)
    (apart : ∀ place, ((Action.fileOrIn Fault.settingsName location).on host).1 = .ok place →
      ¬ host.LogsTo place)
    {found : Place × Settings} (loads : ((load location).on host).1 = .ok found) :
    (load location).on after = (.ok found, after) := by
  have ran : (load location).on host = (.ok found, ((load location).on host).2) := Prod.ext loads rfl
  rw [load] at ran ⊢
  obtain ⟨place, _, placed, ran⟩ := Action.ok_of_on_bind ran
  obtain rfl := (Action.readsOnly_fileOrIn _ _).host_eq placed
  obtain ⟨named, resolved⟩ := Action.resolve_of_fileOrIn (congrArg Prod.fst placed)
  have below : place.Descends := resolved ▸ Location.descends_resolve down named
  have away := apart place (congrArg Prod.fst placed)
  have same := (kept.on_fileOrIn Fault.settingsName location).trans (congrArg Prod.fst placed)
  rw [Action.on_bind_ok ((Action.readsOnly_fileOrIn _ _).on_eq same)]
  obtain ⟨present, _, asked, ran⟩ := Action.ok_of_on_bind ran
  obtain rfl := (Action.readsOnly_isPresent _).host_eq asked
  have same := (kept.on_isPresent below away).trans (congrArg Prod.fst asked)
  rw [Action.on_bind_ok ((Action.readsOnly_isPresent _).on_eq same)]
  cases present with
  | false =>
    obtain rfl := Except.ok.inj (congrArg Prod.fst ran)
    rfl
  | true =>
    obtain ⟨text, _, read, ran⟩ := Action.ok_of_on_bind ran
    obtain rfl := (Action.readsOnly_readText _ _).host_eq read
    obtain ⟨entry, found⟩ := Action.found_of_isPresent (congrArg Prod.fst asked)
    have same := (kept.on_readText below away found _).trans (congrArg Prod.fst read)
    rw [Bool.not_true, if_neg Bool.false_ne_true,
      Action.on_bind_ok ((Action.readsOnly_readText _ _).on_eq same)]
    rw [Action.on_bind, Action.on_ofExcept] at ran ⊢
    cases parsed : parse place.name text with
    | error fault =>
      rw [parsed] at ran
      cases ran
    | ok settings =>
      rw [parsed] at ran
      obtain rfl := Except.ok.inj (congrArg Prod.fst ran)
      rfl

end Settings

end Linkage
