import Linkage.Analyzer.Discovery
import Linkage.Proofs.Multimap
import Mathlib.Data.List.Induction
import Mathlib.Data.List.Nodup
/-!
Which analyzers discovery takes, and how it fails. `leading` says it without a state: of the
candidates for each name that is asked for, the first. What has been taken, what has been seen and
what is still asked for are all read off it, so one step of discovery fails or goes on as the candidate
and the ones before it say (`consider_of_fails`, `consider_of_passes`), and a whole run fails at the
first candidate that does.
-/

namespace Linkage.Discovery

variable {enabled : Option (List String)} {settings : Settings} {state : State}
  {offer other : Offer} {before offers : List Offer} {analyzers : List Analyzer} {analyzer : Analyzer}
  {fault : Fault} {name : String}

/-- No names are given at all, or one of them is the name, whatever the case. -/
def Asked (enabled : Option (List String)) (name : String) : Prop :=
  ∀ names, enabled = some names → ∃ asked ∈ names, Text.lower asked = Text.lower name

instance (enabled : Option (List String)) (name : String) : Decidable (Asked enabled name) :=
  match enabled with
  | none => isTrue (fun _ given => nomatch given)
  | some names => decidable_of_iff (∃ asked ∈ names, Text.lower asked = Text.lower name)
      ⟨fun found _ given => Option.some.inj given ▸ found, fun asked => asked names rfl⟩

/-! ### Candidates -/

def Offer.key (offer : Offer) : String := Text.lower offer.name

def Object.analyzer? : Object → Option Analyzer
  | .analyzer found | .type (.ok (.analyzer found)) | .function (.ok (.analyzer found)) => some found
  | _ => none

def Offer.analyzer? (offer : Offer) : Option Analyzer := offer.loaded.toOption.bind Object.analyzer?

def Object.IsForeign (object : Object) : Prop := ∀ analyzer, object ≠ .analyzer analyzer

/-- What is wrong with an object that is to give the analyzer of a name. What a call raises is passed
on. A type of analyzers that gives something else is found out later than any other object. -/
inductive Object.Wrong (name : String) : Object → Fault → Prop where
  | typeRaises (raised : Raised) : Wrong name (.type (.error raised)) (.raised raised)
  | functionRaises (raised : Raised) : Wrong name (.function (.error raised)) (.raised raised)
  | typeGives {object : Object} (foreign : object.IsForeign) :
    Wrong name (.type (.ok object)) (.notInstance name)
  | functionGives {object : Object} (foreign : object.IsForeign) :
    Wrong name (.function (.ok object)) .notAnalyzer
  | other : Wrong name .other .notAnalyzer

theorem Object.call_cases (call : Except Raised Object) :
    (∃ raised, call = .error raised) ∨ (∃ analyzer, call = .ok (.analyzer analyzer)) ∨
      ∃ object : Object, object.IsForeign ∧ call = .ok object := by
  cases call with
  | error raised => exact .inl ⟨raised, rfl⟩
  | ok object =>
    by_cases foreign : object.IsForeign
    · exact .inr (.inr ⟨object, foreign, rfl⟩)
    · obtain ⟨analyzer, rfl⟩ : ∃ analyzer, object = .analyzer analyzer := by
        simpa [IsForeign] using foreign
      exact .inr (.inl ⟨analyzer, rfl⟩)

/-- An object gives an analyzer, or something is wrong with it. -/
theorem Object.gives_or_wrong (name : String) (object : Object) :
    (∃ analyzer, object.analyzer? = some analyzer) ∨ ∃ fault, object.Wrong name fault := by
  cases object with
  | analyzer found => exact .inl ⟨found, rfl⟩
  | other => exact .inr ⟨_, .other⟩
  | type call =>
    rcases call_cases call with ⟨raised, rfl⟩ | ⟨analyzer, rfl⟩ | ⟨object, foreign, rfl⟩
    · exact .inr ⟨_, .typeRaises raised⟩
    · exact .inl ⟨analyzer, rfl⟩
    · exact .inr ⟨_, .typeGives foreign⟩
  | function call =>
    rcases call_cases call with ⟨raised, rfl⟩ | ⟨analyzer, rfl⟩ | ⟨object, foreign, rfl⟩
    · exact .inr ⟨_, .functionRaises raised⟩
    · exact .inl ⟨analyzer, rfl⟩
    · exact .inr ⟨_, .functionGives foreign⟩

theorem add_of_gives {object : Object} (wants : wanted state name = true)
    (gives : object.analyzer? = some analyzer) :
    add state name object.make = .ok (take name analyzer state) := by
  rw [add, if_pos wants]
  unfold Object.analyzer? at gives
  split at gives <;> cases gives <;> rfl

theorem add_of_wrong {object : Object} (wants : wanted state name = true)
    (wrong : object.Wrong name fault) : add state name object.make = .error fault := by
  rw [add, if_pos wants]
  cases wrong with
  | typeRaises | functionRaises | other => rfl
  | @typeGives object foreign | @functionGives object foreign =>
    cases object with
    | analyzer found => exact absurd rfl (foreign found)
    | _ => rfl

def Offer.IsFirst (before : List Offer) (offer : Offer) : Prop :=
  ∀ other ∈ before, other.key ≠ offer.key

instance (before : List Offer) (offer : Offer) : Decidable (offer.IsFirst before) :=
  inferInstanceAs (Decidable (∀ other ∈ before, other.key ≠ offer.key))

/-- What is wrong with a candidate that comes after the others. Not to load is wrong in any case; to
yield no analyzer only in the first candidate for a name that is asked for. -/
inductive Fails (enabled : Option (List String)) (before : List Offer) (offer : Offer) :
    Fault → Prop where
  | load {raised : Raised} (failed : offer.loaded = .error raised) (usual : raised.kind ≠ .exit) :
    Fails enabled before offer (.notLoaded offer.name raised.text)
  | exit {raised : Raised} (failed : offer.loaded = .error raised) (ending : raised.kind = .exit) :
    Fails enabled before offer (.raised raised)
  | make {object : Object} {fault : Fault} (loaded : offer.loaded = .ok object)
    (wrong : object.Wrong offer.name fault) (first : offer.IsFirst before)
    (asked : Asked enabled offer.name) : Fails enabled before offer fault

/-- None of the candidates that come after the others fails. -/
def Passes (enabled : Option (List String)) (before offers : List Offer) : Prop :=
  ∀ earlier offer later, offers = earlier ++ offer :: later →
    ∀ fault, ¬Fails enabled (before ++ earlier) offer fault

def FailsFirst (enabled : Option (List String)) (before offers : List Offer) (fault : Fault) : Prop :=
  ∃ passed offer later, offers = passed ++ offer :: later ∧ Passes enabled before passed ∧
    Fails enabled (before ++ passed) offer fault

/-- The first candidate for each name that is asked for, in order. -/
def leading (enabled : Option (List String)) (candidates : List Offer) : List Offer :=
  (candidates.zipIdx.filter (fun entry =>
    Asked enabled entry.1.name ∧ entry.1.IsFirst (candidates.take entry.2))).map Prod.fst

theorem Asked.congr (same : offer.key = other.key) :
    Asked enabled offer.name ↔ Asked enabled other.name := by
  have lowered : Text.lower offer.name = Text.lower other.name := same
  rw [Asked, Asked, lowered]

theorem leading_concat (enabled : Option (List String)) (before : List Offer) (offer : Offer) :
    leading enabled (before ++ [offer]) =
      leading enabled before ++
        if Asked enabled offer.name ∧ offer.IsFirst before then [offer] else [] := by
  have earlier : before.zipIdx.filter (fun entry =>
        Asked enabled entry.1.name ∧ entry.1.IsFirst ((before ++ [offer]).take entry.2)) =
      before.zipIdx.filter (fun entry =>
        Asked enabled entry.1.name ∧ entry.1.IsFirst (before.take entry.2)) := by
    apply List.filter_congr
    intro entry member
    have inside : entry.2 ≤ before.length := Nat.le_of_lt (List.snd_lt_of_mem_zipIdx member)
    rw [List.take_append_of_le_length inside]
  unfold leading
  rw [List.zipIdx_append, List.filter_append, List.map_append, earlier]
  by_cases leads : Asked enabled offer.name ∧ offer.IsFirst before <;> simp [leads]

theorem mem_keys_leading {key : String} :
    key ∈ (leading enabled before).map Offer.key ↔
      ∃ offer ∈ before, Asked enabled offer.name ∧ offer.key = key := by
  induction before using List.reverseRecOn with
  | nil => simp [leading]
  | append_singleton before offer ih =>
    rw [leading_concat, List.map_append, List.mem_append, ih]
    simp only [List.mem_append, List.mem_singleton]
    constructor
    · rintro (⟨other, member, found⟩ | here)
      · exact ⟨other, .inl member, found⟩
      · split at here
        case isTrue leads => exact ⟨offer, .inr rfl, leads.1, (List.mem_singleton.mp here).symm⟩
        case isFalse => cases here
    · rintro ⟨other, member | rfl, asked, same⟩
      · exact .inl ⟨other, member, asked, same⟩
      · by_cases first : other.IsFirst before
        · exact .inr (by simp [asked, first, same])
        · -- Some earlier candidate has the name, and so it was asked for there already.
          simp only [Offer.IsFirst, not_forall, not_not] at first
          obtain ⟨earlier, member, equal⟩ := first
          exact .inl ⟨earlier, member, (Asked.congr equal).mpr asked, equal.trans same⟩

theorem nodup_keys_leading (enabled : Option (List String)) (before : List Offer) :
    ((leading enabled before).map Offer.key).Nodup := by
  induction before using List.reverseRecOn with
  | nil => exact List.nodup_nil
  | append_singleton before offer ih =>
    rw [leading_concat, List.map_append]
    split
    case isTrue leads =>
      refine List.nodup_append.mpr ⟨ih, List.nodup_singleton _, ?_⟩
      rintro _ earlier _ here rfl
      obtain ⟨other, member, _, same⟩ := mem_keys_leading.mp earlier
      exact leads.2 other member (same.trans (List.mem_singleton.mp here))
    case isFalse => simpa using ih

/-- What leads among more candidates is what led before, and candidates with new names. -/
theorem leading_append (enabled : Option (List String)) (before offers : List Offer) :
    ∃ added, leading enabled (before ++ offers) = leading enabled before ++ added ∧
      added.Sublist offers ∧ ∀ offer ∈ added, offer.IsFirst before := by
  induction offers using List.reverseRecOn with
  | nil => exact ⟨[], by simp⟩
  | append_singleton offers offer ih =>
    obtain ⟨added, same, listed, first⟩ := ih
    rw [← List.append_assoc, leading_concat, same]
    split
    case isTrue leads =>
      refine ⟨added ++ [offer], List.append_assoc .., listed.append (List.Sublist.refl _), ?_⟩
      intro other member
      rcases List.mem_append.mp member with earlier | here
      · exact first other earlier
      · obtain rfl := List.mem_singleton.mp here
        exact fun earlier present => leads.2 earlier (List.mem_append_left _ present)
    case isFalse =>
      exact ⟨added, List.append_nil _, listed.trans (List.sublist_append_left _ _), first⟩

/-- Candidates with different names all lead that are asked for. -/
theorem leading_of_distinct (distinct : (before.map Offer.key).Nodup) :
    leading enabled before = before.filter (fun offer => Asked enabled offer.name) := by
  induction before using List.reverseRecOn with
  | nil => rfl
  | append_singleton before offer ih =>
    rw [List.map_append] at distinct
    obtain ⟨earlier, _, apart⟩ := List.nodup_append.mp distinct
    have first : offer.IsFirst before := fun other member same =>
      apart other.key (List.mem_map_of_mem member) offer.key List.mem_cons_self same
    rw [leading_concat, ih earlier, List.filter_append]
    by_cases asked : Asked enabled offer.name <;> simp [asked, first]

/-! ### Runs -/

structure Reached (enabled : Option (List String)) (before : List Offer) (state : State) : Prop where
  taken : (leading enabled before).map Offer.analyzer? = state.taken.map some
  seen : state.seen = (leading enabled before).map Offer.key
  /-- What is still asked for are the names that were not seen. -/
  unmet : state.unmet = enabled.map (fun names =>
    (TextSet.ofList (names.map Text.lower)).filter (· ∉ state.seen))

theorem Reached.initial (enabled : Option (List String)) : Reached enabled [] (.initial enabled) := by
  refine ⟨rfl, rfl, ?_⟩
  simp [State.initial]

theorem Reached.wanted_iff (reached : Reached enabled before state) :
    wanted state offer.name = true ↔ Asked enabled offer.name ∧ offer.IsFirst before := by
  have asks : wanted state offer.name = true ↔ Asked enabled offer.name ∧ offer.key ∉ state.seen := by
    unfold wanted Asked Offer.key
    rw [reached.unmet]
    cases enabled with
    | none => simp
    | some names => simp [TextSet.mem_ofList]
  rw [asks, reached.seen]
  refine and_congr_right (fun asked => ?_)
  constructor
  · intro unseen other member same
    exact unseen (mem_keys_leading.mpr ⟨other, member, (Asked.congr same).mpr asked, same⟩)
  · intro first seen
    obtain ⟨other, member, _, same⟩ := mem_keys_leading.mp seen
    exact first other member same

/-- Taking a name takes it off those that are still asked for. -/
theorem Reached.take (reached : Reached enabled before state)
    (leads : Asked enabled offer.name ∧ offer.IsFirst before)
    (gives : offer.analyzer? = some analyzer) :
    Reached enabled (before ++ [offer]) (take offer.name analyzer state) where
  taken := by
    rw [leading_concat, if_pos leads, List.map_append, reached.taken, List.map_singleton, gives,
      Discovery.take, List.map_append, List.map_singleton]
  seen := by
    rw [leading_concat, if_pos leads, Discovery.take, reached.seen, List.map_append,
      List.map_singleton]
    rfl
  unmet := by
    have fewer (names : List String) :
        (names.filter (· ∉ state.seen)).filter (· != Text.lower offer.name) =
          names.filter (· ∉ state.seen ++ [Text.lower offer.name]) := by
      rw [List.filter_filter]
      apply List.filter_congr
      intro name _
      simp [bne, Bool.and_comm, beq_eq_decide]
    simp only [Discovery.take, reached.unmet, Option.map_map, Function.comp_def, fewer]

theorem Reached.skip (reached : Reached enabled before state)
    (skipped : ¬(Asked enabled offer.name ∧ offer.IsFirst before)) :
    Reached enabled (before ++ [offer]) state where
  taken := by rw [leading_concat, if_neg skipped, List.append_nil, reached.taken]
  seen := by rw [leading_concat, if_neg skipped, List.append_nil, reached.seen]
  unmet := reached.unmet

theorem consider_of_fails (reached : Reached enabled before state)
    (fails : Fails enabled before offer fault) : consider state offer = .error fault := by
  unfold consider
  cases fails with
  | load failed usual =>
    rw [failed]
    exact if_neg usual
  | exit failed ending =>
    rw [failed]
    exact if_pos ending
  | make loaded wrong first asked =>
    rw [loaded]
    exact add_of_wrong (reached.wanted_iff.mpr ⟨asked, first⟩) wrong

theorem consider_of_passes (reached : Reached enabled before state)
    (passes : ∀ fault, ¬Fails enabled before offer fault) :
    ∃ after, consider state offer = .ok after ∧ Reached enabled (before ++ [offer]) after := by
  unfold consider
  cases loaded : offer.loaded with
  | error raised =>
    by_cases ending : raised.kind = .exit
    · exact absurd (.exit loaded ending) (passes _)
    · exact absurd (.load loaded ending) (passes _)
  | ok object =>
    by_cases leads : Asked enabled offer.name ∧ offer.IsFirst before
    · rcases object.gives_or_wrong offer.name with ⟨analyzer, gives⟩ | ⟨fault, wrong⟩
      · have yields : offer.analyzer? = some analyzer := by
          rw [Offer.analyzer?, loaded]
          exact gives
        exact ⟨_, add_of_gives (reached.wanted_iff.mpr leads) gives, reached.take leads yields⟩
      · exact absurd (.make loaded wrong leads.2 leads.1) (passes _)
    · exact ⟨state, if_neg (mt reached.wanted_iff.mp leads), reached.skip leads⟩

theorem passes_cons :
    Passes enabled before (offer :: offers) ↔
      (∀ fault, ¬Fails enabled before offer fault) ∧ Passes enabled (before ++ [offer]) offers := by
  constructor
  · intro passes
    refine ⟨fun fault => ?_, fun earlier other later same fault => ?_⟩
    · simpa using passes [] offer offers rfl fault
    · simpa using passes (offer :: earlier) other later (by rw [same]; rfl) fault
  · rintro ⟨first, rest⟩ earlier other later same fault
    cases earlier with
    | nil =>
      obtain ⟨rfl, rfl⟩ := List.cons.inj same
      simpa using first fault
    | cons _ earlier =>
      obtain ⟨rfl, others⟩ := List.cons.inj same
      simpa using rest earlier other later others fault

theorem run_of_passes (reached : Reached enabled before state)
    (passes : Passes enabled before offers) :
    ∃ after, offers.foldlM consider state = .ok after ∧
      Reached enabled (before ++ offers) after := by
  -- `before` grows with each candidate: whether one fails depends on those that it comes after.
  induction offers generalizing before state with
  | nil => exact ⟨state, rfl, by rwa [List.append_nil]⟩
  | cons offer offers ih =>
    obtain ⟨here, later⟩ := passes_cons.mp passes
    obtain ⟨next, stepped, reached⟩ := consider_of_passes reached here
    obtain ⟨after, ran, reached⟩ := ih reached later
    refine ⟨after, ?_, by rwa [List.append_assoc] at reached⟩
    rw [List.foldlM_cons, stepped]
    exact ran

theorem run_of_fails (reached : Reached enabled before state)
    (fails : FailsFirst enabled before offers fault) :
    offers.foldlM consider state = .error fault := by
  obtain ⟨passed, offer, later, rfl, passes, fails⟩ := fails
  obtain ⟨between, ran, reached⟩ := run_of_passes reached passes
  rw [List.foldlM_append, ran]
  change (offer :: later).foldlM consider between = .error fault
  rw [List.foldlM_cons, consider_of_fails reached fails]
  rfl

theorem passes_or_fails (enabled : Option (List String)) (before offers : List Offer) :
    Passes enabled before offers ∨ ∃ fault, FailsFirst enabled before offers fault := by
  induction offers generalizing before with
  | nil =>
    refine .inl (fun earlier offer later same => ?_)
    cases earlier <;> cases same
  | cons offer offers ih =>
    by_cases here : ∃ fault, Fails enabled before offer fault
    · obtain ⟨fault, fails⟩ := here
      refine .inr ⟨fault, [], offer, offers, rfl, ?_, by simpa using fails⟩
      intro earlier other later same
      cases earlier <;> cases same
    · have passes := not_exists.mp here
      rcases ih (before ++ [offer]) with rest | ⟨fault, passed, other, later, rfl, between, fails⟩
      · exact .inl (passes_cons.mpr ⟨passes, rest⟩)
      · exact .inr ⟨fault, offer :: passed, other, later, rfl, passes_cons.mpr ⟨passes, between⟩,
          by simpa using fails⟩

/-! ### Outcomes -/

def builtIns (settings : Settings) : List Offer := (Analyzer.builtIn settings).map .builtIn

theorem candidates_eq : candidates settings offers = builtIns settings ++ offers := rfl

theorem nodup_keys_builtIns (settings : Settings) : ((builtIns settings).map Offer.key).Nodup := by
  have apart : Text.lower Analyzer.unusedExportsName ≠ Text.lower Analyzer.orphansName := by decide
  simpa [builtIns, Analyzer.builtIn, Offer.builtIn, Offer.key, Analyzer.name] using apart

theorem passes_builtIns (enabled : Option (List String)) (settings : Settings) :
    Passes enabled [] (builtIns settings) := by
  intro earlier offer later same fault fails
  have member : offer ∈ builtIns settings := by
    rw [same]
    exact List.mem_append_right _ List.mem_cons_self
  obtain ⟨analyzer, _, rfl⟩ := List.mem_map.mp member
  cases fails with
  | load failed => cases failed
  | exit failed => cases failed
  | make loaded wrong =>
    obtain rfl := Except.ok.inj loaded
    cases wrong

def Unmet (enabled : Option (List String)) (candidates : List Offer) (name : String) : Prop :=
  (∃ names, enabled = some names ∧ name ∈ names.map Text.lower) ∧
    ∀ offer ∈ candidates, offer.key ≠ name

/-- How discovery may end. The first plugin that fails ends it. Otherwise the names that nobody has
are told, in order, or else the first candidate for each name that is asked for is taken. -/
inductive Outcome (enabled : Option (List String)) (settings : Settings) (offers : List Offer) :
    Except Fault (List Analyzer) → Prop where
  | fails {fault : Fault} (first : FailsFirst enabled (builtIns settings) offers fault) :
    Outcome enabled settings offers (.error fault)
  | unknown {names : List String} (passes : Passes enabled (builtIns settings) offers)
    (unmet : ∀ name, name ∈ names ↔ Unmet enabled (candidates settings offers) name)
    (ascending : names.Pairwise (· < ·)) (some : names ≠ []) :
    Outcome enabled settings offers (.error (.unknown names))
  | found {analyzers : List Analyzer} (passes : Passes enabled (builtIns settings) offers)
    (met : ∀ name, ¬Unmet enabled (candidates settings offers) name)
    (taken : (leading enabled (candidates settings offers)).map Offer.analyzer? =
      analyzers.map some) :
    Outcome enabled settings offers (.ok analyzers)

theorem Reached.mem_unmet (reached : Reached enabled before state) :
    name ∈ state.unmet.getD [] ↔ Unmet enabled before name := by
  rw [reached.unmet, Unmet]
  cases enabled with
  | none => simp
  | some names =>
    simp only [Option.map_some, Option.getD_some, Option.some.injEq, exists_eq_left',
      List.mem_filter, TextSet.mem_ofList, decide_eq_true_eq]
    refine and_congr_right (fun asked => ?_)
    rw [reached.seen]
    constructor
    · rintro unseen offer member rfl
      refine unseen (mem_keys_leading.mpr ⟨offer, member, ?_, rfl⟩)
      rintro _ ⟨⟩
      exact List.mem_map.mp asked
    · intro absent seen
      obtain ⟨offer, member, _, same⟩ := mem_keys_leading.mp seen
      exact absent offer member same

theorem Reached.unmet_ascend (reached : Reached enabled before state) :
    (state.unmet.getD []).Pairwise (· < ·) := by
  rw [reached.unmet]
  cases enabled with
  | none => exact List.Pairwise.nil
  | some names => exact (TextSet.pairwise_ofList _).filter _

theorem reached_builtIns (enabled : Option (List String)) (settings : Settings) :
    ∃ state, (builtIns settings).foldlM consider (.initial enabled) = .ok state ∧
      Reached enabled (builtIns settings) state :=
  run_of_passes (.initial enabled) (passes_builtIns enabled settings)

theorem discover_of_passes (passes : Passes enabled (builtIns settings) offers) :
    ∃ state, Reached enabled (candidates settings offers) state ∧
      discover enabled settings offers =
        match state.unmet.getD [] with
        | [] => .ok state.taken
        | names => .error (.unknown names) := by
  obtain ⟨start, started, reached⟩ := reached_builtIns enabled settings
  obtain ⟨state, ran, reached⟩ := run_of_passes reached passes
  refine ⟨state, reached, ?_⟩
  rw [discover, candidates_eq, List.foldlM_append, started]
  change (offers.foldlM consider start >>= _) = _
  rw [ran]
  rfl

theorem discover_of_outcome {outcome : Except Fault (List Analyzer)}
    (ends : Outcome enabled settings offers outcome) : discover enabled settings offers = outcome := by
  cases ends with
  | fails first =>
    obtain ⟨start, started, reached⟩ := reached_builtIns enabled settings
    rw [discover, candidates_eq, List.foldlM_append, started]
    change (offers.foldlM consider start >>= _) = _
    rw [run_of_fails reached first]
    rfl
  | @unknown names passes unmet ascending some =>
    obtain ⟨state, reached, ends⟩ := discover_of_passes passes
    have same : state.unmet.getD [] = names := by
      refine TextSet.eq_of_mem_iff reached.unmet_ascend ascending (fun name => ?_)
      rw [unmet]
      exact reached.mem_unmet
    rw [ends, same]
    cases names with
    | nil => exact absurd rfl some
    | cons name names => rfl
  | found passes met taken =>
    obtain ⟨state, reached, ends⟩ := discover_of_passes passes
    have none : state.unmet.getD [] = [] :=
      List.eq_nil_iff_forall_not_mem.mpr (fun name => mt reached.mem_unmet.mp (met name))
    have same := List.map_inj_right (fun _ _ => Option.some.inj) |>.mp (reached.taken.symm.trans taken)
    rw [ends, none, same]

theorem outcome_discover (enabled : Option (List String)) (settings : Settings)
    (offers : List Offer) : Outcome enabled settings offers (discover enabled settings offers) := by
  rcases passes_or_fails enabled (builtIns settings) offers with passes | ⟨fault, fails⟩
  · obtain ⟨state, reached, ends⟩ := discover_of_passes passes
    rw [ends]
    split
    case h_1 none =>
      refine .found passes (fun name unmet => ?_) reached.taken
      have member := reached.mem_unmet.mpr unmet
      rw [none] at member
      cases member
    case h_2 names some =>
      exact .unknown passes (fun name => reached.mem_unmet) reached.unmet_ascend some
  · rw [discover_of_outcome (.fails fails)]
    exact .fails fails

/-- The built-in analyzers that are asked for come first, and plugins that bear none of their names
follow. -/
theorem found_split (found : discover enabled settings offers = .ok analyzers) :
    ∃ (chosen : List Offer) (added : List Analyzer),
      analyzers = (Analyzer.builtIn settings).filter (fun analyzer => Asked enabled analyzer.name) ++
        added ∧
      chosen.map Offer.analyzer? = added.map some ∧ chosen.Sublist offers ∧
      ∀ offer ∈ chosen, offer.IsFirst (builtIns settings) := by
  have ends := outcome_discover enabled settings offers
  rw [found] at ends
  cases ends with
  | found passes met taken =>
    obtain ⟨chosen, split, listed, first⟩ := leading_append enabled (builtIns settings) offers
    have own : ((builtIns settings).filter (fun offer => Asked enabled offer.name)).map
          Offer.analyzer? =
        ((Analyzer.builtIn settings).filter (fun analyzer => Asked enabled analyzer.name)).map some := by
      rw [builtIns, List.filter_map, List.map_map]
      rfl
    rw [candidates_eq, split, leading_of_distinct (nodup_keys_builtIns settings), List.map_append,
      own] at taken
    obtain ⟨asked, added, rfl, same, yielded⟩ := List.map_eq_append_iff.mp taken.symm
    obtain rfl := (List.map_inj_right (fun _ _ => Option.some.inj)).mp same
    exact ⟨chosen, added, rfl, yielded.symm, listed, first⟩

/-- Where every name is met, one candidate leads for each. -/
theorem keys_leading_perm {names : List String}
    (met : ∀ name, ¬Unmet (some names) before name) :
    ((leading (some names) before).map Offer.key).Perm (TextSet.ofList (names.map Text.lower)) := by
  have ascending := TextSet.pairwise_ofList (names.map Text.lower)
  refine (List.perm_ext_iff_of_nodup (nodup_keys_leading _ _) (ascending.imp ne_of_lt)).mpr ?_
  intro key
  rw [mem_keys_leading, TextSet.mem_ofList, List.mem_map]
  constructor
  · rintro ⟨offer, _, asked, rfl⟩
    exact asked names rfl
  · rintro ⟨name, member, rfl⟩
    by_contra alone
    refine met (Text.lower name) ⟨⟨names, rfl, List.mem_map_of_mem member⟩, ?_⟩
    intro offer listed same
    refine alone ⟨offer, listed, ?_, same⟩
    rintro _ ⟨⟩
    exact ⟨name, member, same.symm⟩

/-- Discovery ends as its outcomes say and in no other way. The analyzers it finds are the built-in
ones that are asked for and plugins that bear none of their names, and where names are given, one for
each, whatever its case. What is made for a name is an analyzer, unless a type of analyzers gave
something else. -/
theorem discover_exact (enabled : Option (List String)) (settings : Settings) (offers : List Offer) :
    (∀ outcome, discover enabled settings offers = outcome ↔
      Outcome enabled settings offers outcome) ∧
    (∀ analyzers, discover enabled settings offers = .ok analyzers →
      (∃ (chosen : List Offer) (added : List Analyzer),
        analyzers = (Analyzer.builtIn settings).filter (fun analyzer => Asked enabled analyzer.name) ++
          added ∧
        chosen.map Offer.analyzer? = added.map some ∧ chosen.Sublist offers ∧
        ∀ offer ∈ chosen, ∀ analyzer ∈ Analyzer.builtIn settings,
          Text.lower offer.name ≠ Text.lower analyzer.name) ∧
      ∀ names, enabled = some names →
        ((leading enabled (candidates settings offers)).map Offer.key).Perm
          (TextSet.ofList (names.map Text.lower)) ∧
        analyzers.length = (TextSet.ofList (names.map Text.lower)).length) ∧
    ∀ name, discover enabled settings offers = .error (.notInstance name) →
      ∃ offer ∈ offers, offer.name = name ∧ Asked enabled name ∧
        ∃ object, offer.loaded = .ok (.type (.ok object)) ∧ ∀ analyzer, object ≠ .analyzer analyzer := by
  refine ⟨fun outcome => ⟨fun ends => ends ▸ outcome_discover _ _ _, discover_of_outcome⟩, ?_, ?_⟩
  · intro analyzers found
    refine ⟨?_, ?_⟩
    · obtain ⟨chosen, added, same, yielded, listed, first⟩ := found_split found
      refine ⟨chosen, added, same, yielded, listed, fun offer member analyzer own equal => ?_⟩
      exact first offer member (.builtIn analyzer) (List.mem_map_of_mem own) equal.symm
    · rintro names rfl
      have ends := outcome_discover (some names) settings offers
      rw [found] at ends
      cases ends with
      | found _ met taken =>
        have keys := keys_leading_perm met
        refine ⟨keys, ?_⟩
        have counted := congrArg List.length taken
        rw [List.length_map, List.length_map] at counted
        rw [← counted, ← keys.length_eq, List.length_map]
  · intro name fails
    have ends := outcome_discover enabled settings offers
    rw [fails] at ends
    cases ends with
    | fails first =>
      obtain ⟨passed, offer, later, rfl, _, fails⟩ := first
      cases fails with
      | make loaded wrong _ asked =>
        -- Every other object that gives no analyzer is found out where it is made.
        cases wrong with
        | typeGives foreign => exact ⟨offer, by simp, rfl, asked, _, loaded, foreign⟩

def quiet (typeName : String) : Analyzer := .plugin { typeName, analyze := fun _ _ => [] }

/-- A plugin under the name of a built-in analyzer, one that is not asked for and is no analyzer, and
two under one name, of which the second raises when called. -/
def crowd : List Offer :=
  [⟨"UNUSED-EXPORTS", .ok (.type (.ok (.analyzer (quiet "Shadow"))))⟩, ⟨"bogus", .ok .other⟩,
    ⟨"Extra", .ok (.function (.ok (.analyzer (quiet "Extra"))))⟩,
    ⟨"extra", .ok (.function (.error ⟨"late", .other⟩))⟩]

/-- A type of analyzers that gives an object of another type. -/
def impostor : Offer := ⟨"Impostor", .ok (.type (.ok .other))⟩

theorem discover_exact_crowd :
    discover (some ["extra", "Unused-Exports", "EXTRA"]) {} crowd =
        .ok [.unusedExports Unused.defaultEntryPoints, quiet "Extra"] ∧
      [Analyzer.unusedExports Unused.defaultEntryPoints, quiet "Extra"].length =
        (TextSet.ofList (["extra", "Unused-Exports", "EXTRA"].map Text.lower)).length ∧
      Passes (some ["extra", "Unused-Exports", "EXTRA"]) (builtIns {}) crowd ∧
      discover none {} (crowd.take 1 ++ [impostor]) = .error (.notInstance "Impostor") ∧
      ∃ offer ∈ crowd.take 1 ++ [impostor], offer.name = "Impostor" ∧
        ∃ object, offer.loaded = .ok (.type (.ok object)) := by
  have found : discover (some ["extra", "Unused-Exports", "EXTRA"]) {} crowd =
      .ok [.unusedExports Unused.defaultEntryPoints, quiet "Extra"] := rfl
  have refused : discover none {} (crowd.take 1 ++ [impostor]) = .error (.notInstance "Impostor") :=
    rfl
  obtain ⟨outcomes, taken, _⟩ :=
    discover_exact (some ["extra", "Unused-Exports", "EXTRA"]) {} crowd
  obtain ⟨offer, member, named, _, object, loaded, _⟩ :=
    (discover_exact none {} (crowd.take 1 ++ [impostor])).2.2 "Impostor" refused
  refine ⟨found, ((taken _ found).2 _ rfl).2, ?_, refused, offer, member, named, object, loaded⟩
  cases (outcomes _).mp found with
  | found passes => exact passes

/-- A type of analyzers may give something else, which is found out only after it was made. What is
raised when an object is called is passed on, and so is what ends the run while a plugin is loaded.
Names that differ in their case are one name. -/
theorem discover_beyond_analyzers :
    discover none {} [impostor] = .error (.notInstance "Impostor") ∧
      discover none {} [⟨"a", .ok (.type (.error ⟨"broken", .other⟩))⟩] =
        .error (.raised ⟨"broken", .other⟩) ∧
      discover none {} [⟨"a", .ok (.function (.error ⟨"broken", .other⟩))⟩] =
        .error (.raised ⟨"broken", .other⟩) ∧
      discover (some []) {} [⟨"a", .error ⟨"stop", .exit⟩⟩] = .error (.raised ⟨"stop", .exit⟩) ∧
      discover (some ["unused-exports", "UNUSED-EXPORTS"]) {} [] =
        .ok [.unusedExports Unused.defaultEntryPoints] :=
  ⟨rfl, rfl, rfl, rfl, rfl⟩

/-! ### Without plugins -/

theorem discover_builtIn (found : discover enabled settings [] = .ok analyzers) :
    analyzers = (Analyzer.builtIn settings).filter (fun analyzer => Asked enabled analyzer.name) := by
  obtain ⟨chosen, added, same, yielded, listed, _⟩ := found_split found
  obtain rfl := List.sublist_nil.mp listed
  obtain rfl := List.map_eq_nil_iff.mp yielded.symm
  rw [same, List.append_nil]

/-- Candidates are taken in order, each at most once. -/
theorem discover_sublist (found : discover enabled settings [] = .ok analyzers) :
    analyzers.Sublist (Analyzer.builtIn settings) :=
  discover_builtIn found ▸ List.filter_sublist

theorem mem_discover (found : discover enabled settings [] = .ok analyzers) :
    analyzer ∈ analyzers ↔ analyzer ∈ Analyzer.builtIn settings ∧ Asked enabled analyzer.name := by
  rw [discover_builtIn found, List.mem_filter, decide_eq_true_eq]

end Linkage.Discovery
