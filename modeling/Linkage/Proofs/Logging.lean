import Linkage.Log.Configure
import Linkage.Proofs.Actions
import Linkage.Proofs.Json.Encoding
/-!
Runs of the log: calls that set it up, of which some are rejected and some name a file that cannot be
opened, with records in between. `log_exact`: a rejected call changes nothing, any other call closes
what was there and leaves a console and at most one file, and each record is written once to each of
the two that the last call which was not rejected asked for.
-/

namespace Linkage

theorem Content.add_empty (content : Content) : content.add "" = content := by
  cases content with
  | text value => rw [Content.add, String.append_empty]
  | bytes values => simp [Content.add]

theorem Content.add_add (content : Content) (first second : String) :
    (content.add first).add second = content.add (first ++ second) := by
  cases content with
  | text value => exact congrArg Content.text (String.append_assoc ..)
  | bytes values => simp [Content.add, String.toByteArray_append, toList_append]

namespace FileTree

variable {tree : FileTree} {place : Place}

/-- What the file at a path holds. Where there is none, nothing. -/
def contentAt (tree : FileTree) (path : String) : Content :=
  match Assoc.get? path tree.entries with
  | some (.file content) => content
  | _ => .text ""

theorem contentAt_put (tree : FileTree) (place : Place) (content : Content) (path : String) :
    (tree.put place (.file content)).contentAt path =
      if place.text = path then content else tree.contentAt path := by
  unfold contentAt put
  by_cases same : place.text = path
  · rw [if_pos same, ← same, Assoc.get?_put_self]
  · rw [if_neg same, Assoc.get?_put_other same]

theorem contentAt_append (file : tree.entry? place ≠ some .directory) (text path : String) :
    (tree.append place text).contentAt path =
      if place.text = path then (tree.contentAt path).add text else tree.contentAt path := by
  have listed : tree.entry? place = Assoc.get? place.text tree.entries :=
    if_neg (by simpa using ne_nil_of_file file)
  have extended : tree.append place text =
      tree.put place (.file ((tree.contentAt place.text).add text)) := by
    rw [append, contentAt, ← listed]
    cases stands : tree.entry? place with
    | none =>
      have start : (Content.text "").add text = .text text :=
        congrArg Content.text String.empty_append
      exact congrArg (fun content => tree.put place (.file content)) start.symm
    | some entry =>
      cases entry with
      | file content => rfl
      | directory => exact absurd stands file
  rw [extended, contentAt_put]
  split
  case isTrue same => rw [same]
  case isFalse => rfl

end FileTree

namespace Log

variable {host : Host} {location : Location} {file : Option Location} {verbosity : Verbosity}
  {level : Level} {place : Place}

/-- What a call sets up: the least level on the console, and the file if one was opened. -/
structure Setup where
  level : Level
  file : Option Place
  deriving DecidableEq

def Setup.handlers (setup : Setup) : List Handler :=
  ⟨.console, setup.level⟩ :: setup.file.toList.map (fun place => ⟨.file place, Level.debug⟩)

def opened? (host : Host) (file : Option Location) : Option Place :=
  file.bind (fun location =>
    if location.hasNull then none
    else (host.tree.target host.current (.ofPlace (placeOf host.current location))).toOption)

inductive Event where
  | configure (verbosity : Verbosity) (file : Option Location)
  | emit (record : Record)

/-- A record with the set-up that was the last when it was made. -/
structure Emission where
  setup : Setup
  record : Record

namespace Event

def after (host : Host) : Event → Host
  | configure verbosity file => ((Log.configure verbosity file).on host).2
  | emit record => host.log record

def setup? (host : Host) : Event → Option Setup
  | configure verbosity file => verbosity.level?.map (fun level => ⟨level, opened? host file⟩)
  | emit _ => none

def emitted (setup : Setup) : Event → List Emission
  | configure .. => []
  | emit record => [⟨setup, record⟩]

end Event

def setups (host : Host) : List Event → List Setup
  | [] => []
  | event :: events => (event.setup? host).toList ++ setups (event.after host) events

def emissions (host : Host) (setup : Setup) : List Event → List Emission
  | [] => []
  | event :: events =>
    event.emitted setup ++ emissions (event.after host) ((event.setup? host).getD setup) events

def consoleLines (emissions : List Emission) : List String :=
  (emissions.filter (fun emission => emission.setup.level ≤ emission.record.level)).map
    (fun emission => emission.record.consoleLine)

def fileLines (stamp path : String) (emissions : List Emission) : List String :=
  (emissions.filter (fun emission => emission.setup.file.map Place.text = some path ∧
    Level.debug ≤ emission.record.level)).map (fun emission => emission.record.fileLine stamp)

/-! ### Calls -/

theorem on_openFile_some (found : opened? host (some location) = some place) :
    (openFile location).on host =
      (.ok place, { host with tree := host.tree.append place "" }) := by
  rw [opened?, Option.bind_some] at found
  split at found
  case isTrue => cases found
  case isFalse named =>
    rw [openFile, if_neg named, Action.on_bind_ok (Action.on_get host), Action.on_bind,
      Action.on_ofExcept, Action.toOption_iff.mp found]
    rfl

theorem on_openFile_none (missing : opened? host (some location) = none) :
    ∃ fault, (openFile location).on host = (.error fault, host) := by
  rw [opened?, Option.bind_some] at missing
  rw [openFile]
  split at missing
  case isTrue null =>
    rw [if_pos null]
    exact ⟨_, rfl⟩
  case isFalse named =>
    rw [if_neg named, Action.on_bind_ok (Action.on_get host), Action.on_bind, Action.on_ofExcept]
    cases aim : host.tree.target host.current (.ofPlace (placeOf host.current location)) with
    | error obstacle => exact ⟨_, rfl⟩
    | ok place =>
      rw [aim] at missing
      cases missing

theorem file_of_opened (found : opened? host file = some place) :
    host.tree.entry? place ≠ some .directory := by
  obtain ⟨location, _, found⟩ := Option.bind_eq_some_iff.mp found
  split at found
  case isTrue => cases found
  case isFalse => exact (FileTree.locate_of_target (Action.toOption_iff.mp found)).2

def Setup.install (setup : Setup) (host : Host) : Host :=
  { host with
    tree := setup.file.elim host.tree (fun place => host.tree.append place "")
    logger :=
      { level := if setup.file.isSome then Level.debug else setup.level
        propagates := false
        handlers := setup.handlers
        closed := host.logger.closed ++ host.logger.handlers } }

/-- A file that cannot be opened makes the call fail; the rest is set up all the same. -/
theorem on_configure (asked : verbosity.level? = some level) (file : Option Location) (host : Host) :
    ((configure verbosity file).on host).2 = Setup.install ⟨level, opened? host file⟩ host ∧
      (((configure verbosity file).on host).1 = .ok () ↔
        file.isSome = (opened? host file).isSome) := by
  unfold configure
  rw [asked]
  dsimp only
  cases file with
  | none => exact ⟨rfl, iff_of_true rfl rfl⟩
  | some location =>
    let console : Host := { host with logger := host.logger.toConsole level }
    have began : (modify (fun host => { host with logger := host.logger.toConsole level }) :
        Action Unit).on host = (.ok (), console) := rfl
    rw [Action.on_bind_ok began]
    cases opens : opened? host (some location) with
    | none =>
      have missing : opened? console (some location) = none := opens
      obtain ⟨fault, failed⟩ := on_openFile_none missing
      rw [Action.on_bind, failed]
      exact ⟨rfl, iff_of_false nofun nofun⟩
    | some place =>
      have found : opened? console (some location) = some place := opens
      rw [Action.on_bind_ok (on_openFile_some found)]
      exact ⟨rfl, iff_of_true rfl rfl⟩

/-- A file that is opened stays as it is, or is made empty. -/
theorem contentAt_install (level : Level) (file : Option Location) (host : Host) (path : String) :
    (Setup.install ⟨level, opened? host file⟩ host).tree.contentAt path =
      host.tree.contentAt path := by
  rw [Setup.install]
  cases opens : opened? host file with
  | none => rfl
  | some place =>
    rw [Option.elim_some, FileTree.contentAt_append (file_of_opened opens), Content.add_empty,
      ite_self]

theorem on_configure_rejected (refused : verbosity.level? = none) (file : Option Location)
    (host : Host) : (configure verbosity file).on host = (.error .conflictingFlags, host) := by
  unfold configure
  rw [refused]
  rfl

/-- What an event can do to the host. -/
theorem after_cases {P : Option Setup → Host → Prop} (host : Host) (event : Event)
    (emit : ∀ record, event = .emit record → P none (host.log record))
    (reject : ∀ verbosity file, event = .configure verbosity file →
      verbosity.level? = none → P none host)
    (accept : ∀ verbosity file level, event = .configure verbosity file →
      verbosity.level? = some level →
        P (some ⟨level, opened? host file⟩) (Setup.install ⟨level, opened? host file⟩ host)) :
    P (event.setup? host) (event.after host) := by
  cases event with
  | emit record => exact emit record rfl
  | configure verbosity file =>
    unfold Event.setup? Event.after
    dsimp only
    cases asked : verbosity.level? with
    | none =>
      rw [on_configure_rejected asked]
      exact reject verbosity file rfl asked
    | some level =>
      rw [(on_configure asked file host).1]
      exact accept verbosity file level rfl asked

/-! ### Records -/

structure InForce (setup : Setup) (host : Host) : Prop where
  propagates : host.logger.propagates = false
  handlers : host.logger.handlers = setup.handlers
  level : host.logger.level = if setup.file.isSome then Level.debug else setup.level
  least : Level.debug ≤ setup.level
  file : ∀ place, setup.file = some place → host.tree.entry? place ≠ some .directory

variable {setup : Setup}

theorem debug_le_of_level? (asked : verbosity.level? = some level) : Level.debug ≤ level := by
  unfold Verbosity.level? at asked
  split at asked <;> cases asked <;> decide

theorem inForce_install (asked : verbosity.level? = some level) (file : Option Location)
    (host : Host) :
    InForce ⟨level, opened? host file⟩ (Setup.install ⟨level, opened? host file⟩ host) := by
  refine ⟨rfl, rfl, rfl, debug_le_of_level? asked, ?_⟩
  intro place opens
  dsimp only at opens
  rw [Setup.install, opens]
  exact (FileTree.directory_append place place "").not.mpr (file_of_opened opens)

theorem InForce.log (force : InForce setup host) (record : Record) :
    InForce setup (host.log record) := by
  have kept := Host.kept_log host record
  refine ⟨?_, ?_, ?_, force.least, ?_⟩
  · rw [kept.logger, force.propagates]
  · rw [kept.logger, force.handlers]
  · rw [kept.logger, force.level]
  · intro place opens
    exact (kept.directory place).not.mpr (force.file place opens)

/-- A logger that looks at all that its handlers take leaves the choice to them. -/
theorem sinks_of_least {logger : Logger}
    (least : ∀ handler ∈ logger.handlers, 0 < handler.level ∧ logger.level ≤ handler.level)
    (record : Record) :
    logger.sinks record =
      (logger.handlers.filter (fun handler => handler.level ≤ record.level)).map Handler.sink := by
  unfold Logger.sinks
  split
  case isTrue => rfl
  case isFalse hidden =>
    rw [List.filter_eq_nil_iff.mpr, List.map_nil]
    intro handler used takes
    obtain ⟨positive, looked⟩ := least handler used
    have takes : handler.level ≤ record.level := of_decide_eq_true takes
    apply hidden
    rw [Bool.and_eq_true, decide_eq_true_iff, decide_eq_true_iff]
    exact ⟨Int.lt_of_lt_of_le positive takes, Int.le_trans looked takes⟩

theorem InForce.looks (force : InForce setup host) :
    ∀ handler ∈ host.logger.handlers, 0 < handler.level ∧ host.logger.level ≤ handler.level := by
  have positive : 0 < Level.debug := by decide
  rw [force.handlers, force.level, Setup.handlers]
  cases setup.file with
  | none =>
    rintro handler (_ | ⟨_, ⟨⟩⟩)
    exact ⟨Int.lt_of_lt_of_le positive force.least, Int.le_refl _⟩
  | some place =>
    rintro handler (_ | ⟨_, _ | ⟨_, ⟨⟩⟩⟩)
    · exact ⟨Int.lt_of_lt_of_le positive force.least, force.least⟩
    · exact ⟨positive, Int.le_refl _⟩

/-- The console takes a record by its level. The file takes all but those below every level that has
a name, whatever the console does. -/
theorem InForce.log_eq (force : InForce setup host) (record : Record) :
    host.log record =
      { host with
        console :=
          if setup.level ≤ record.level then host.console ++ record.consoleLine else host.console
        tree :=
          if Level.debug ≤ record.level then
            setup.file.elim host.tree (fun place =>
              host.tree.append place (record.fileLine host.stamp))
          else host.tree } := by
  rw [Host.log, sinks_of_least force.looks, force.handlers, Setup.handlers]
  cases setup.file <;> by_cases shown : setup.level ≤ record.level <;>
    by_cases filed : Level.debug ≤ record.level <;> simp [shown, filed, Host.writeTo]

/-! ### Events -/

theorem InForce.after (force : InForce setup host) (event : Event) :
    InForce ((event.setup? host).getD setup) (event.after host) := by
  apply after_cases (P := fun made after => InForce (made.getD setup) after)
  case emit => exact fun record _ => force.log record
  case reject => exact fun _ _ _ _ => force
  case accept => exact fun _ file _ _ asked => inForce_install asked file host

theorem InForce.stamp_after (force : InForce setup host) (event : Event) :
    (event.after host).stamp = host.stamp := by
  apply after_cases (P := fun _ after => after.stamp = host.stamp)
  case emit => exact fun record _ => by rw [force.log_eq]
  case reject => exact fun _ _ _ _ => rfl
  case accept => exact fun _ _ _ _ _ => rfl

theorem InForce.console_after (force : InForce setup host) (event : Event) :
    (event.after host).console =
      host.console ++ String.join (consoleLines (event.emitted setup)) := by
  apply after_cases (P := fun _ after => after.console =
    host.console ++ String.join (consoleLines (event.emitted setup)))
  case emit =>
    rintro record rfl
    rw [force.log_eq]
    by_cases shown : setup.level ≤ record.level <;> simp [Event.emitted, consoleLines, shown]
  case reject =>
    rintro verbosity file rfl _
    exact String.append_empty.symm
  case accept =>
    rintro verbosity file level rfl _
    exact String.append_empty.symm

theorem InForce.contentAt_after (force : InForce setup host) (event : Event) (path : String) :
    (event.after host).tree.contentAt path =
      (host.tree.contentAt path).add
        (String.join (fileLines host.stamp path (event.emitted setup))) := by
  apply after_cases (P := fun _ after => after.tree.contentAt path =
    (host.tree.contentAt path).add (String.join (fileLines host.stamp path (event.emitted setup))))
  case emit =>
    rintro record rfl
    rw [force.log_eq]
    by_cases taken : Level.debug ≤ record.level
    · cases opens : setup.file with
      | none => simp [Event.emitted, fileLines, opens, Content.add_empty]
      | some place =>
        have appended := FileTree.contentAt_append (force.file place opens)
        by_cases same : place.text = path <;>
          simp [Event.emitted, fileLines, opens, taken, appended, same, Content.add_empty]
    · simp [Event.emitted, fileLines, taken, Content.add_empty]
  case reject =>
    rintro verbosity file rfl _
    exact (Content.add_empty _).symm
  case accept =>
    rintro verbosity file level rfl _
    exact (contentAt_install level file host path).trans (Content.add_empty _).symm

/-- A handler that a set-up leaves out is closed, and none is lost. -/
theorem closed_after (host : Host) (event : Event) :
    (event.after host).logger.closed ++ (event.after host).logger.handlers =
      host.logger.closed ++ host.logger.handlers ++
        (event.setup? host).toList.flatMap Setup.handlers := by
  apply after_cases (P := fun made after => after.logger.closed ++ after.logger.handlers =
    host.logger.closed ++ host.logger.handlers ++ made.toList.flatMap Setup.handlers)
  case emit =>
    intro record _
    rw [(Host.kept_log host record).logger]
    exact (List.append_nil _).symm
  case reject => exact fun _ _ _ _ => (List.append_nil _).symm
  case accept =>
    intro verbosity file level _ _
    simp [Setup.install]

/-! ### Runs -/

theorem InForce.run (force : InForce setup host) (events : List Event) :
    InForce ((setups host events).getLast?.getD setup) (events.foldl Event.after host) := by
  induction events generalizing host setup with
  | nil => exact force
  | cons event events ih =>
    have last : (setups host (event :: events)).getLast?.getD setup =
        (setups (event.after host) events).getLast?.getD ((event.setup? host).getD setup) := by
      rw [setups, List.getLast?_append]
      cases event.setup? host <;> cases (setups (event.after host) events).getLast? <;> rfl
    rw [last]
    exact ih (force.after event)

theorem closed_run (host : Host) (events : List Event) :
    (events.foldl Event.after host).logger.closed ++ (events.foldl Event.after host).logger.handlers =
      host.logger.closed ++ host.logger.handlers ++ (setups host events).flatMap Setup.handlers := by
  induction events generalizing host with
  | nil => exact (List.append_nil _).symm
  | cons event events ih =>
    rw [List.foldl_cons, ih, closed_after, setups, List.flatMap_append, List.append_assoc]

/-- All set-ups but the last are closed. -/
theorem InForce.logger_run (force : InForce setup host) {events : List Event} {earlier : List Setup}
    {current : Setup} (made : setup :: setups host events = earlier ++ [current]) :
    InForce current (events.foldl Event.after host) ∧
      (events.foldl Event.after host).logger.closed =
        host.logger.closed ++ earlier.flatMap Setup.handlers := by
  have latest : (setups host events).getLast?.getD setup = current := by
    have ends := congrArg List.getLast? made
    rw [List.getLast?_cons, List.getLast?_concat] at ends
    exact Option.some.inj ends
  have used : InForce current (events.foldl Event.after host) := latest ▸ force.run events
  refine ⟨used, (List.append_left_inj current.handlers).mp ?_⟩
  calc (events.foldl Event.after host).logger.closed ++ current.handlers
    _ = host.logger.closed ++ host.logger.handlers ++
        (setups host events).flatMap Setup.handlers := by
      rw [← used.handlers, closed_run]
    _ = host.logger.closed ++ (setup :: setups host events).flatMap Setup.handlers := by
      rw [force.handlers, List.flatMap_cons, List.append_assoc]
    _ = host.logger.closed ++ earlier.flatMap Setup.handlers ++ current.handlers := by
      rw [made, List.flatMap_append, List.flatMap_singleton, List.append_assoc]

theorem InForce.console_run (force : InForce setup host) (events : List Event) :
    (events.foldl Event.after host).console =
      host.console ++ String.join (consoleLines (emissions host setup events)) := by
  induction events generalizing host setup with
  | nil => exact String.append_empty.symm
  | cons event events ih =>
    rw [List.foldl_cons, ih (force.after event), force.console_after event, emissions]
    simp [consoleLines, String.append_assoc]

theorem InForce.contentAt_run (force : InForce setup host) (events : List Event) (path : String) :
    (events.foldl Event.after host).tree.contentAt path =
      (host.tree.contentAt path).add
        (String.join (fileLines host.stamp path (emissions host setup events))) := by
  induction events generalizing host setup with
  | nil => exact (Content.add_empty _).symm
  | cons event events ih =>
    rw [List.foldl_cons, ih (force.after event), force.contentAt_after event,
      force.stamp_after event, Content.add_add, emissions]
    simp [fileLines]

/-- A call with both flags does nothing. From any other call on, however many calls and records
follow: only the handlers of the last call that was not rejected are in use and all earlier ones are
closed, and the console and the files get the lines of the records they are to take, once and in
order. -/
theorem log_exact (host : Host) (file : Option Location) :
    (configure ⟨true, true⟩ file).on host = (.error .conflictingFlags, host) ∧
    ∀ verbosity level, Verbosity.level? verbosity = some level →
      let setup : Setup := ⟨level, opened? host file⟩
      let after := ((configure verbosity file).on host).2
      (((configure verbosity file).on host).1 = .ok () ↔ file.isSome = setup.file.isSome) ∧
      ∀ events : List Event,
        let last := events.foldl Event.after after
        let written := emissions after setup events
        (∀ earlier current, setup :: setups after events = earlier ++ [current] →
          last.logger.propagates = false ∧ last.logger.handlers = current.handlers ∧
          last.logger.closed =
            host.logger.closed ++ host.logger.handlers ++ earlier.flatMap Setup.handlers) ∧
        last.console = host.console ++ String.join (consoleLines written) ∧
        ∀ path, last.tree.contentAt path =
          (host.tree.contentAt path).add (String.join (fileLines host.stamp path written)) := by
  refine ⟨on_configure_rejected rfl file host, ?_⟩
  intro verbosity level asked setup after
  refine ⟨(on_configure asked file host).2, ?_⟩
  intro events last written
  have installed : after = setup.install host := (on_configure asked file host).1
  have force : InForce setup after := installed ▸ inForce_install asked file host
  refine ⟨?_, ?_, ?_⟩
  · intro earlier current made
    obtain ⟨used, closed⟩ := force.logger_run made
    have before : after.logger.closed = host.logger.closed ++ host.logger.handlers := by
      rw [installed]
      rfl
    exact ⟨used.propagates, used.handlers, before ▸ closed⟩
  · have same : after.console = host.console := by
      rw [installed]
      rfl
    exact same ▸ force.console_run events
  · intro path
    have same : after.tree.contentAt path = host.tree.contentAt path := by
      rw [installed]
      exact contentAt_install level file host path
    have stamp : after.stamp = host.stamp := by
      rw [installed]
      rfl
    rw [← same, ← stamp]
    exact force.contentAt_run events path

def desk : Host where
  tree := ⟨[("/logs", .directory), ("/logs/old", .file (.text "old\n"))]⟩
  stamp := "now"

/-- Records under a quiet set-up, after a call that is rejected, after one whose file cannot be
opened, and under a verbose set-up with the first file again. -/
def mixed : List Event :=
  [.emit ⟨"usagegraph", Level.info, "a"⟩, .emit ⟨"usagegraph", Level.warning, "b"⟩,
    .configure ⟨true, true⟩ none, .emit ⟨"usagegraph.graph", Level.debug, "c"⟩,
    .configure ⟨false, false⟩ (some (.ofPlace ["none", "new"])),
    .emit ⟨"usagegraph", Level.info, "d"⟩,
    .configure ⟨true, false⟩ (some (.ofPlace ["logs", "new"])),
    .emit ⟨"usagegraph", 5, "e"⟩, .emit ⟨"usagegraph", Level.debug, "f"⟩]

theorem log_exact_mixed :
    let after := ((configure ⟨false, true⟩ (some (.ofPlace ["logs", "new"]))).on desk).2
    let last := mixed.foldl Event.after after
    Verbosity.level? ⟨false, true⟩ = some Level.warning ∧
    last.logger.handlers = [⟨.console, Level.debug⟩, ⟨.file ["logs", "new"], Level.debug⟩] ∧
    last.logger.closed = [⟨.console, Level.warning⟩, ⟨.file ["logs", "new"], Level.debug⟩,
      ⟨.console, Level.info⟩] ∧
    last.console = "[usagegraph] WARNING b\n[usagegraph] INFO d\n[usagegraph] DEBUG f\n" ∧
    last.tree.contentAt "/logs/new" = .text
      ("now INFO usagegraph: a\nnow WARNING usagegraph: b\nnow DEBUG usagegraph.graph: c\n" ++
        "now DEBUG usagegraph: f\n") ∧
    last.tree.contentAt "/logs/old" = .text "old\n" := by
  obtain ⟨_, calls⟩ := log_exact desk (some (.ofPlace ["logs", "new"]))
  obtain ⟨_, runs⟩ := calls ⟨false, true⟩ Level.warning rfl
  obtain ⟨logger, console, files⟩ := runs mixed
  obtain ⟨_, handlers, closed⟩ := logger
    [⟨Level.warning, some ["logs", "new"]⟩, ⟨Level.info, none⟩]
    ⟨Level.debug, some ["logs", "new"]⟩ (by decide +kernel)
  refine ⟨rfl, handlers, closed, ?_, ?_, ?_⟩
  · rw [console]
    decide +kernel
  · rw [files]
    decide +kernel
  · rw [files]
    decide +kernel

end Log

end Linkage
