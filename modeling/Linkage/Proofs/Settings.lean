import Linkage.Proofs.Actions
import Linkage.Proofs.Json.Limits
/-!
Settings of the wrong type. Each of the six settings lists texts. Main statement: a value that lists
none, or a section that is no mapping, is loaded as if it were not there, except that a list of
analyzers to run then names none, where without it all of them run.
-/

namespace Linkage

open Yaml (Value)

/-- A value of the wrong type for a setting: neither null nor a text nor a list. Binary data is a list
of numbers. -/
def Yaml.Value.Misfit : Value → Prop
  | .scalar .null | .scalar (.text _) | .scalar (.bytes _) | .list _ => False
  | _ => True

namespace Settings

variable {fields : List (String × Value)} {value : Value}

/-! ### Settings by name -/

inductive Setting where
  | extensions
  | entryPoints
  | suffixes
  | beginnings
  | enabled
  | excluded
  deriving DecidableEq

namespace Setting

def key : Setting → String
  | extensions => "extensions"
  | entryPoints => "entry_points"
  | suffixes => "suffixes"
  | beginnings => "factory_prefixes"
  | enabled => "enabled"
  | excluded => "exclude_paths"

def holder? : Setting → Option String
  | extensions => some "resolver"
  | entryPoints => none
  | suffixes | beginnings => some "infrastructure"
  | enabled | excluded => some "analyzers"

def value? (setting : Setting) (fields : List (String × Value)) : Option Value :=
  match setting.holder? with
  | none => Assoc.get? setting.key fields
  | some name => Assoc.get? setting.key (fieldsOf (Assoc.get? name fields))

def removeIn (key : String) : Value → Value
  | .mapping fields => .mapping (Assoc.erase key fields)
  | value => value

/-- The document without the setting. The section that held it stays, if only as an empty one. -/
def remove (setting : Setting) (fields : List (String × Value)) : List (String × Value) :=
  match setting.holder? with
  | none => Assoc.erase setting.key fields
  | some name => fields.map fun field =>
    (field.1, if field.1 = name then removeIn setting.key field.2 else field.2)

theorem fieldsOf_removeIn (key : String) (value : Option Value) :
    fieldsOf (value.map (removeIn key)) = Assoc.erase key (fieldsOf value) := by
  cases value with
  | none => rfl
  | some value => cases value <;> rfl

theorem key_injective {setting other : Setting} (same : setting.key = other.key) :
    setting = other := by
  cases setting <;> cases other <;> first | rfl | exact absurd same (by decide)

/-- A key of the root names no section. -/
theorem key_ne_holder {setting other : Setting} {name : String} (root : setting.holder? = none)
    (held : other.holder? = some name) : setting.key ≠ name := by
  cases setting <;> cases root
  cases other <;> cases held <;> decide

/-- Removing a setting leaves all others as they are. -/
theorem value?_remove (setting other : Setting) (fields : List (String × Value)) :
    other.value? (setting.remove fields) =
      if other = setting then none else other.value? fields := by
  have keys : (other.key = setting.key) = (other = setting) :=
    propext ⟨key_injective, congrArg key⟩
  have apart (differ : other.holder? ≠ setting.holder?) : other ≠ setting :=
    fun same => differ (congrArg holder? same)
  unfold value? remove
  cases held : setting.holder? with
  | none =>
    cases also : other.holder? with
    | none => simp only [Assoc.get?_erase, keys]
    | some name =>
      have other_ne : other ≠ setting := apart (by simp [held, also])
      simp only [Assoc.get?_erase, if_neg (key_ne_holder held also).symm, if_neg other_ne]
  | some holder =>
    simp only [Assoc.get?_map fun name value =>
      if name = holder then removeIn setting.key value else value]
    cases also : other.holder? with
    | none =>
      have other_ne : other ≠ setting := apart (by simp [held, also])
      simp [if_neg (key_ne_holder also held), other_ne]
    | some name =>
      -- In one section the keys tell the settings apart, in two the sections do.
      by_cases same : name = holder
      · simp only [same, if_true, fieldsOf_removeIn, Assoc.get?_erase, keys]
      · have other_ne : other ≠ setting := apart (by simpa [held, also] using same)
        simp [same, other_ne]

/-- A section that is no mapping holds no settings. -/
theorem value?_erase_section {name : String}
    (known : ∃ setting : Setting, setting.holder? = some name)
    (found : Assoc.get? name fields = some value) (shapeless : ∀ inner, value ≠ .mapping inner)
    (setting : Setting) : setting.value? (Assoc.erase name fields) = setting.value? fields := by
  obtain ⟨owner, owned⟩ := known
  unfold value?
  cases held : setting.holder? with
  | none => simp only [Assoc.get?_erase, if_neg (key_ne_holder held owned)]
  | some holder =>
    simp only [Assoc.get?_erase]
    by_cases same : holder = name
    · have none_held : fieldsOf (some value) = [] := by
        cases value with
        | mapping inner => exact absurd rfl (shapeless inner)
        | _ => rfl
      rw [if_pos same, same, found, none_held]
      rfl
    · rw [if_neg same]

end Setting

/-! ### Decoding, setting by setting -/

def texts (fields : List (String × Value)) : Except Yaml.Fault (Setting → List String) := do
  let extensions ← textsOf (Setting.extensions.value? fields)
  let entryPoints ← textsOf (Setting.entryPoints.value? fields)
  let suffixes ← textsOf (Setting.suffixes.value? fields)
  let beginnings ← textsOf (Setting.beginnings.value? fields)
  let enabled ← textsOf (Setting.enabled.value? fields)
  let excluded ← textsOf (Setting.excluded.value? fields)
  return fun
    | .extensions => extensions
    | .entryPoints => entryPoints
    | .suffixes => suffixes
    | .beginnings => beginnings
    | .enabled => enabled
    | .excluded => excluded

def choosesAnalyzers (fields : List (String × Value)) : Bool :=
  match Setting.enabled.value? fields with
  | none | some (.scalar .null) => false
  | _ => true

def orDefault (default : List String) : List String → List String
  | [] => default
  | texts => texts

def ofTexts (chosen : Bool) (texts : Setting → List String) : Settings where
  extensions := orDefault Resolution.defaultExtensions ((texts .extensions).map withDot)
  entryPoints := orDefault Unused.defaultEntryPoints (texts .entryPoints)
  suffixes := orDefault Naming.defaultSuffixes (texts .suffixes)
  beginnings := orDefault Naming.defaultBeginnings (texts .beginnings)
  enabled := if chosen then some (texts .enabled) else none
  excluded := texts .excluded

theorem textsOr_eq (default : List String) (key : String) (fields : List (String × Value)) :
    textsOr default key fields = (textsOf (Assoc.get? key fields)).map (orDefault default) := by
  rw [textsOr]
  cases textsOf (Assoc.get? key fields) with
  | error fault => rfl
  | ok texts => cases texts <;> rfl

theorem enabledOf_eq (fields : List (String × Value)) :
    enabledOf (fieldsOf (Assoc.get? "analyzers" fields)) =
      (textsOf (Setting.enabled.value? fields)).map
        (fun texts => if choosesAnalyzers fields then some texts else none) := by
  have looked : Setting.enabled.value? fields =
      Assoc.get? "enabled" (fieldsOf (Assoc.get? "analyzers" fields)) := rfl
  rw [enabledOf, choosesAnalyzers, looked]
  split
  case h_1 absent => simp [absent, textsOf, Except.map]
  case h_2 null => simp [null, textsOf, Except.map]
  case h_3 => split <;> simp_all

theorem orDefault_map (default : List String) (change : String → String) (texts : List String) :
    (if texts.isEmpty then default else texts.map change) = orDefault default (texts.map change) := by
  cases texts <;> rfl

/-- The settings depend on a document through the texts it lists, and through whether it says which
analyzers to run. -/
theorem ofFields_eq (fields : List (String × Value)) :
    ofFields fields = (texts fields).map (ofTexts (choosesAnalyzers fields)) := by
  simp only [ofFields, textsOr_eq, enabledOf_eq, texts, Setting.value?, Setting.holder?, Setting.key,
    orDefault_map]
  -- The settings are read in the order of the fields, so the first fault is the same on both sides.
  cases textsOf (Assoc.get? "extensions" (fieldsOf (Assoc.get? "resolver" fields))) with
  | error fault => rfl
  | ok extensions =>
    cases textsOf (Assoc.get? "entry_points" fields) with
    | error fault => rfl
    | ok entryPoints =>
      cases textsOf (Assoc.get? "suffixes" (fieldsOf (Assoc.get? "infrastructure" fields))) with
      | error fault => rfl
      | ok suffixes =>
        cases textsOf (Assoc.get? "factory_prefixes"
            (fieldsOf (Assoc.get? "infrastructure" fields))) with
        | error fault => rfl
        | ok beginnings =>
          cases textsOf (Assoc.get? "enabled" (fieldsOf (Assoc.get? "analyzers" fields))) with
          | error fault => rfl
          | ok enabled =>
            cases textsOf (Assoc.get? "exclude_paths"
                (fieldsOf (Assoc.get? "analyzers" fields))) with
            | error fault => rfl
            | ok excluded => rfl

theorem texts_congr {others : List (String × Value)}
    (same : ∀ setting : Setting,
      textsOf (setting.value? fields) = textsOf (setting.value? others)) :
    texts fields = texts others := by
  simp only [texts, same]

theorem textsOf_of_texts {listed : Setting → List String} (read : texts fields = .ok listed)
    (setting : Setting) : textsOf (setting.value? fields) = .ok (listed setting) := by
  obtain ⟨_, extensions, read⟩ := ok_of_bind read
  obtain ⟨_, entryPoints, read⟩ := ok_of_bind read
  obtain ⟨_, suffixes, read⟩ := ok_of_bind read
  obtain ⟨_, beginnings, read⟩ := ok_of_bind read
  obtain ⟨_, enabled, read⟩ := ok_of_bind read
  obtain ⟨_, excluded, read⟩ := ok_of_bind read
  obtain rfl := Except.ok.inj read
  cases setting <;> assumption

/-! ### Values that list nothing -/

theorem textsOf_misfit (misfit : value.Misfit) : textsOf (some value) = .ok [] := by
  cases value with
  | list items => cases misfit
  | mapping fields => rfl
  | set => rfl
  | scalar scalar =>
    cases scalar with
    | null | text _ | bytes _ => cases misfit
    | bool _ | int _ | real _ | timestamp _ => rfl

theorem choosesAnalyzers_misfit (found : Setting.enabled.value? fields = some value)
    (misfit : value.Misfit) : choosesAnalyzers fields = true := by
  rw [choosesAnalyzers, found]
  split
  case h_1 absent => cases absent
  case h_2 null =>
    obtain rfl := Option.some.inj null
    cases misfit
  case h_3 => rfl

theorem choosesAnalyzers_remove : choosesAnalyzers (Setting.enabled.remove fields) = false := by
  rw [choosesAnalyzers, Setting.value?_remove, if_pos rfl]

variable {setting : Setting}

theorem texts_remove (found : setting.value? fields = some value) (misfit : value.Misfit) :
    texts (setting.remove fields) = texts fields := by
  apply texts_congr
  intro other
  rw [Setting.value?_remove]
  by_cases same : other = setting
  · rw [if_pos same, same, found, textsOf_misfit misfit]
    rfl
  · rw [if_neg same]

theorem ofFields_remove (found : setting.value? fields = some value) (misfit : value.Misfit)
    (other : setting ≠ .enabled) : ofFields (setting.remove fields) = ofFields fields := by
  have chosen : choosesAnalyzers (setting.remove fields) = choosesAnalyzers fields := by
    rw [choosesAnalyzers, choosesAnalyzers, Setting.value?_remove, if_neg other.symm]
  rw [ofFields_eq, ofFields_eq, texts_remove found misfit, chosen]

def withoutAnalyzers (settings : Settings) : Settings := { settings with enabled := some [] }

theorem ofFields_enabled (found : Setting.enabled.value? fields = some value)
    (misfit : value.Misfit) :
    ofFields fields = (ofFields (Setting.enabled.remove fields)).map withoutAnalyzers := by
  rw [ofFields_eq, ofFields_eq, texts_remove found misfit, choosesAnalyzers_remove,
    choosesAnalyzers_misfit found misfit]
  cases read : texts fields with
  | error fault => rfl
  | ok listed =>
    have none_listed : listed .enabled = [] := by
      have enabled := textsOf_of_texts read .enabled
      rw [found, textsOf_misfit misfit] at enabled
      exact (Except.ok.inj enabled).symm
    simp [Except.map, ofTexts, withoutAnalyzers, none_listed]

theorem enabled_of_ofFields {settings : Settings}
    (read : ofFields (Setting.enabled.remove fields) = .ok settings) : settings.enabled = none := by
  rw [ofFields_eq, choosesAnalyzers_remove] at read
  cases listed : texts (Setting.enabled.remove fields) with
  | error fault =>
    rw [listed] at read
    cases read
  | ok texts =>
    rw [listed] at read
    obtain rfl := Except.ok.inj read
    rfl

theorem ofFields_erase_section {name : String}
    (known : ∃ setting : Setting, setting.holder? = some name)
    (found : Assoc.get? name fields = some value) (shapeless : ∀ inner, value ≠ .mapping inner) :
    ofFields (Assoc.erase name fields) = ofFields fields := by
  have same := Setting.value?_erase_section known found shapeless
  rw [ofFields_eq, ofFields_eq, choosesAnalyzers, choosesAnalyzers, same,
    texts_congr fun setting => congrArg textsOf (same setting)]

/-! ### Settings files -/

/-- The fields of a settings text. Blank text and a null have none. -/
def fieldsIn? (text : String) : Option (List (String × Value)) :=
  if (Text.strip text.toList).isEmpty then some []
  else match Value.parse depth text with
    | .ok (.mapping fields) => some fields
    | .ok (.scalar .null) => some []
    | _ => none

theorem parse_of_fieldsIn? {text : String} (held : fieldsIn? text = some fields) (name : String) :
    parse name text = (ofFields fields).mapError (faultOf name) := by
  rw [fieldsIn?] at held
  rw [parse]
  by_cases blank : (Text.strip text.toList).isEmpty
  · rw [if_pos blank] at held
    obtain rfl := Option.some.inj held
    rw [if_pos blank]
    rfl
  · rw [if_neg blank] at held
    rw [if_neg blank]
    split at held
    case h_1 parsed =>
      obtain rfl := Option.some.inj held
      rw [parsed]
      rfl
    case h_2 parsed =>
      obtain rfl := Option.some.inj held
      rw [parsed]
      rfl
    case h_3 => cases held

end Settings

/-- The settings at a location stand in the file at a place, which holds a document with these
fields. -/
structure Host.Configures (host : Host) (location : Location) (place : Place)
    (fields : List (String × Value)) : Prop where
  placed : ((Action.fileOrIn Fault.settingsName location).on host).1 = .ok place
  present : ((Action.isPresent place).on host).1 = .ok true
  held : ∃ text,
    ((Action.readText (.settingsUnreadable place.name · place.text) place).on host).1 = .ok text ∧
      Settings.fieldsIn? text = some fields

namespace Settings

variable {host : Host} {location : Location} {place : Place} {fields : List (String × Value)}

theorem load_configured (configured : host.Configures location place fields) :
    ((load location).on host).1 =
      ((ofFields fields).mapError (faultOf place.name)).map (place.parent, ·) := by
  obtain ⟨text, read, held⟩ := configured.held
  rw [load, Action.on_bind_ok ((Action.readsOnly_fileOrIn _ _).on_eq configured.placed),
    Action.on_bind_ok ((Action.readsOnly_isPresent _).on_eq configured.present), Bool.not_true,
    if_neg Bool.false_ne_true, Action.on_bind_ok ((Action.readsOnly_readText _ _).on_eq read),
    Action.on_bind, Action.on_ofExcept, parse_of_fieldsIn? held]
  cases ofFields fields <;> rfl

/-- A section that is no mapping is loaded as if it were not there. So is a setting of the wrong type,
but for the analyzers to run: such a value asks for none of them, where without it all are run. The
two then differ unless the rest of the document cannot be loaded. -/
theorem load_misfit (here : host.Configures location place fields) :
    (∀ (name : String) (value : Value) (other : Host),
      (∃ setting : Setting, setting.holder? = some name) →
      Assoc.get? name fields = some value → (∀ inner, value ≠ .mapping inner) →
      other.Configures location place (Assoc.erase name fields) →
        ((load location).on host).1 = ((load location).on other).1) ∧
    ∀ (setting : Setting) (value : Value) (other : Host),
      setting.value? fields = some value → value.Misfit →
      other.Configures location place (setting.remove fields) →
        (((load location).on host).1 = ((load location).on other).1 ↔
          setting ≠ .enabled ∨ ∃ fault, ((load location).on other).1 = .error fault) ∧
        (setting = .enabled → ((load location).on host).1 =
          ((load location).on other).1.map fun found => (found.1, found.2.withoutAnalyzers)) := by
  refine ⟨?_, ?_⟩
  · intro name value other known found shapeless there
    rw [load_configured here, load_configured there, ofFields_erase_section known found shapeless]
  · intro setting value other found misfit there
    rw [load_configured here, load_configured there]
    -- Only the analyzers to run are taken from a value that lists nothing.
    by_cases analyzers : setting = .enabled
    · subst analyzers
      rw [ofFields_enabled found misfit]
      cases read : ofFields (Setting.enabled.remove fields) with
      | error fault => exact ⟨⟨fun _ => .inr ⟨_, rfl⟩, fun _ => rfl⟩, fun _ => rfl⟩
      | ok settings =>
        refine ⟨⟨?_, ?_⟩, fun _ => rfl⟩
        · intro same
          have chosen := congrArg (fun found => found.2.enabled) (Except.ok.inj same)
          rw [enabled_of_ofFields read] at chosen
          cases chosen
        · rintro (apart | ⟨fault, failed⟩)
          · exact absurd rfl apart
          · cases failed
    · rw [ofFields_remove found misfit analyzers]
      exact ⟨⟨fun _ => .inl analyzers, fun _ => rfl⟩, fun same => absurd same analyzers⟩

def configuredHost (text : String) : Host :=
  { tree := ⟨[("/.usagegraph.yml", .file (.text text))]⟩ }

theorem configures_configuredHost {text : String}
    (held : fieldsIn? (String.ofList (Text.unixLines text.toList)) = some fields) :
    (configuredHost text).Configures (.ofText "/") [".usagegraph.yml"] fields :=
  ⟨rfl, rfl, _, rfl, held⟩

def misfitFields : List (String × Value) :=
  [("resolver", .scalar (.int 1)), ("entry_points", .scalar (.text "go")),
    ("infrastructure", .mapping [("suffixes", .scalar (.int 2))]),
    ("analyzers", .mapping [("enabled", .scalar (.int 3))])]

theorem load_misfit_mixed :
    ∃ host sectionless suffixless chooseless : Host,
      host.Configures (.ofText "/") [".usagegraph.yml"] misfitFields ∧
      sectionless.Configures (.ofText "/") [".usagegraph.yml"] (Assoc.erase "resolver" misfitFields) ∧
      suffixless.Configures (.ofText "/") [".usagegraph.yml"] (Setting.suffixes.remove misfitFields) ∧
      chooseless.Configures (.ofText "/") [".usagegraph.yml"] (Setting.enabled.remove misfitFields) ∧
      ((load (.ofText "/")).on host).1 = ((load (.ofText "/")).on sectionless).1 ∧
      ((load (.ofText "/")).on host).1 = ((load (.ofText "/")).on suffixless).1 ∧
      ((load (.ofText "/")).on host).1 = ((load (.ofText "/")).on chooseless).1.map
        fun found => (found.1, found.2.withoutAnalyzers) := by
  have here : (configuredHost
      "resolver: 1\nentry_points: go\ninfrastructure:\n suffixes: 2\nanalyzers:\n enabled: 3").Configures
        (.ofText "/") [".usagegraph.yml"] misfitFields :=
    configures_configuredHost (by decide +kernel)
  have sectionless : (configuredHost
      "entry_points: go\ninfrastructure:\n suffixes: 2\nanalyzers:\n enabled: 3").Configures
        (.ofText "/") [".usagegraph.yml"] (Assoc.erase "resolver" misfitFields) :=
    configures_configuredHost (by decide +kernel)
  have suffixless : (configuredHost
      "resolver: 1\nentry_points: go\ninfrastructure: {}\nanalyzers:\n enabled: 3").Configures
        (.ofText "/") [".usagegraph.yml"] (Setting.suffixes.remove misfitFields) :=
    configures_configuredHost (by decide +kernel)
  have chooseless : (configuredHost
      "resolver: 1\nentry_points: go\ninfrastructure:\n suffixes: 2\nanalyzers: {}").Configures
        (.ofText "/") [".usagegraph.yml"] (Setting.enabled.remove misfitFields) :=
    configures_configuredHost (by decide +kernel)
  obtain ⟨sections, settings⟩ := load_misfit here
  refine ⟨_, _, _, _, here, sectionless, suffixless, chooseless, ?_, ?_, ?_⟩
  · exact sections "resolver" _ _ ⟨.extensions, rfl⟩ rfl (fun _ => nofun) sectionless
  · exact (settings .suffixes _ _ rfl trivial suffixless).1.mpr (.inl (by decide))
  · exact (settings .enabled _ _ rfl trivial chooseless).2 rfl

/-- A number where the analyzers to run should be listed keeps all of them from running. -/
theorem load_enabled_misfit :
    ∃ (host other : Host) (fields : List (String × Value)) (value : Value),
      host.Configures (.ofText "/") [".usagegraph.yml"] fields ∧
      Setting.enabled.value? fields = some value ∧ value.Misfit ∧
      other.Configures (.ofText "/") [".usagegraph.yml"] (Setting.enabled.remove fields) ∧
      ((load (.ofText "/")).on other).1 = .ok ([], {}) ∧
      ((load (.ofText "/")).on host).1 = .ok ([], { enabled := some [] }) := by
  have here : (configuredHost "analyzers:\n  enabled: 42\n").Configures (.ofText "/")
      [".usagegraph.yml"] [("analyzers", .mapping [("enabled", .scalar (.int 42))])] :=
    configures_configuredHost (by decide +kernel)
  have there : (configuredHost "analyzers: {}\n").Configures (.ofText "/") [".usagegraph.yml"]
      (Setting.enabled.remove [("analyzers", .mapping [("enabled", .scalar (.int 42))])]) :=
    configures_configuredHost (by decide +kernel)
  refine ⟨_, _, _, _, here, rfl, trivial, there, ?_, ?_⟩
  · rw [load_configured there]
    rfl
  · rw [load_configured here]
    rfl

end Settings
end Linkage
