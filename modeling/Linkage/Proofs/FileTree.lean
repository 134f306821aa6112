import Linkage.FileTree
import Mathlib.Data.List.Induction
import Mathlib.Data.String.Basic
/-!
Walking a tree. A walk that succeeds ends where its segments lead on paper, a file that was written
can be read at the same location, and in a regular tree what a location leads to can be found by its
place alone.
-/

namespace Linkage

variable {place start last target other : Place} {segments rest : List String} {segment : String}

/-! ### Places -/

theorem Place.follow_cons (place : Place) (segment : String) (segments : List String) :
    place.follow (segment :: segments) = (place.follow [segment]).follow segments := rfl

theorem Place.follow_segment (down : segment ≠ "..") : place.follow [segment] = place ++ [segment] :=
  if_neg down

def Place.Descends (place : Place) : Prop := ".." ∉ place

instance (place : Place) : Decidable place.Descends := inferInstanceAs (Decidable (".." ∉ place))

theorem Place.follow_descends (descends : Place.Descends segments) :
    place.follow segments = place ++ segments := by
  induction segments generalizing place with
  | nil => simp [Place.follow]
  | cons segment segments ih =>
    obtain ⟨up, later⟩ := List.ne_and_not_mem_of_not_mem_cons descends
    rw [follow_cons, follow_segment (Ne.symm up), ih later, List.append_assoc, List.singleton_append]

/-- A segment of the place that is reached was there at the start or leads down. -/
theorem Place.mem_follow (member : segment ∈ start.follow segments) :
    segment ∈ start ∨ segment ∈ segments ∧ segment ≠ ".." := by
  induction segments generalizing start with
  | nil => exact .inl member
  | cons next segments ih =>
    rw [follow_cons] at member
    rcases ih member with before | ⟨later, down⟩
    · by_cases up : next = ".."
      · subst up
        exact .inl (List.dropLast_subset _ before)
      · rw [follow_segment up] at before
        rcases List.mem_append.mp before with before | here
        · exact .inl before
        · obtain rfl := List.mem_singleton.mp here
          exact .inr ⟨List.mem_cons_self, up⟩
    · exact .inr ⟨List.mem_cons_of_mem _ later, down⟩

theorem Location.descends_resolve {current : Place} (down : current.Descends) (location : Location) :
    (location.resolve current).Descends := by
  intro up
  rcases Place.mem_follow up with before | ⟨_, other⟩
  · split at before
    · exact down before
    · cases before
  · exact other rfl

theorem Place.subset_text (member : segment ∈ place) : segment.toList ⊆ place.text.toList := by
  have joined : ∀ pieces : List (List Char), segment.toList ∈ pieces →
      segment.toList ⊆ ['/'].intercalate pieces := by
    intro pieces piece
    induction pieces with
    | nil => cases piece
    | cons first pieces ih =>
      cases pieces with
      | nil =>
        rw [List.mem_singleton.mp piece, List.intercalate_singleton]
        exact List.Subset.refl _
      | cons second pieces =>
        rw [List.intercalate_cons_cons]
        rcases List.mem_cons.mp piece with same | later
        · rw [same, List.append_assoc]
          exact List.subset_append_left _ _
        · exact List.subset_append_of_subset_right _ (ih later)
  rw [Place.text, String.toList_append, String.toList_intercalate]
  exact List.subset_append_of_subset_right _ (joined _ (List.mem_map_of_mem member))

theorem Place.text_child (below : place ≠ []) (name : String) :
    Place.text (place ++ [name]) = place.text ++ "/" ++ name := by
  have joined : ∀ pieces : List (List Char), pieces ≠ [] →
      ['/'].intercalate (pieces ++ [name.toList]) = ['/'].intercalate pieces ++ '/' :: name.toList := by
    intro pieces some
    induction pieces with
    | nil => exact absurd rfl some
    | cons first pieces ih =>
      cases pieces with
      | nil => simp [List.intercalate_cons_cons, List.intercalate_singleton]
      | cons second pieces =>
        have later := ih (List.cons_ne_nil _ _)
        simp only [List.cons_append, List.intercalate_cons_cons] at later ⊢
        simp [later]
  apply String.toList_inj.mp
  have split := joined (place.map String.toList) (by simpa using below)
  simp [Place.text, String.toList_intercalate, split]

theorem Location.text_ofPlace (place : Place) : (Location.ofPlace place).text = place.text := by
  simp [Location.text, Location.ofPlace, Place.text]

theorem Location.resolve_ofPlace (down : place.Descends) (current : Place) :
    (Location.ofPlace place).resolve current = place :=
  Place.follow_descends down

namespace FileTree

variable {tree after : FileTree} {current : Place} {location : Location} {entry : Entry} {text : String}

/-! ### Walks -/

theorem enter_iff : tree.enter place = .ok () ↔ tree.entry? place = some .directory := by
  unfold enter
  split <;> simp_all

theorem walk_cons_iff :
    tree.walk place (segment :: rest) = .ok last ↔
      tree.entry? place = some .directory ∧ segment.utf8ByteSize ≤ segmentLimit ∧
        tree.walk (place.follow [segment]) rest = .ok last := by
  rw [walk, ← enter_iff]
  cases tree.enter place with
  | error obstacle => simp [bind, Except.bind]
  | ok =>
    by_cases long : segmentLimit < segment.utf8ByteSize
    · simp [bind, Except.bind, long, Nat.not_le.mpr long, throw, throwThe, MonadExceptOf.throw]
    · simp [bind, Except.bind, long, Nat.not_lt.mp long]

theorem walk_follow (walked : tree.walk place segments = .ok last) : last = place.follow segments := by
  induction segments generalizing place with
  | nil => exact (Except.ok.inj walked).symm
  | cons segment rest ih => exact ih (walk_cons_iff.mp walked).2.2

theorem locate_iff :
    tree.locate current location = .ok place ↔
      location.text.utf8ByteSize ≤ locationLimit ∧
        tree.walk (if location.slashes = 0 then current else []) location.segments = .ok place := by
  rw [locate]
  by_cases long : locationLimit < location.text.utf8ByteSize
  · simp [bind, Except.bind, long, Nat.not_le.mpr long, throw, throwThe, MonadExceptOf.throw]
  · simp [long, Nat.not_lt.mp long]

theorem locate_resolve (located : tree.locate current location = .ok place) :
    place = location.resolve current :=
  walk_follow (locate_iff.mp located).2

/-- What is found at a location stands at the place it names. -/
theorem find_iff :
    tree.find current location = .ok entry ↔
      tree.locate current location = .ok (location.resolve current) ∧
        tree.entry? (location.resolve current) = some entry := by
  rw [find]
  cases located : tree.locate current location with
  | error obstacle => simp [bind, Except.bind]
  | ok place =>
    obtain rfl := locate_resolve located
    cases stands : tree.entry? (location.resolve current) with
    | none => simp [bind, Except.bind, stands, throw, throwThe, MonadExceptOf.throw]
    | some found => simp [bind, Except.bind, stands, pure, Except.pure]

/-! ### Entries that are put -/

theorem entry_put_self (below : place ≠ []) : FileTree.entry? (tree.put place entry) place = some entry := by
  rw [ entry?, if_neg (by simpa using below)]
  exact Assoc.get?_put_self

theorem entry_put_other (apart : place.text ≠ other.text) :
    FileTree.entry? (tree.put place entry) other = tree.entry? other := by
  unfold entry? put
  split
  · rfl
  · exact Assoc.get?_put_other apart

theorem entry_congr (same : place.text = other.text) (below : place ≠ []) (beneath : other ≠ []) :
    tree.entry? place = tree.entry? other := by
  rw [ entry?, entry?, if_neg (by simpa using below), if_neg (by simpa using beneath), same]

theorem ne_nil_of_file (file : tree.entry? place ≠ some .directory) : place ≠ [] := by
  rintro rfl
  exact file rfl

theorem directory_put {content : Content} (file : tree.entry? target ≠ some .directory)
    (place : Place) :
    FileTree.entry? (tree.put target (.file content)) place = some .directory ↔
      tree.entry? place = some .directory := by
  have below := ne_nil_of_file file
  by_cases root : place = []
  · rw [root]
    exact Iff.rfl
  · by_cases same : target.text = place.text
    · have replaced : FileTree.entry? (tree.put target (.file content)) place = some (.file content) := by
        rw [← entry_congr same below root, entry_put_self below]
      rw [replaced, ← entry_congr same below root]
      simp [file]
    · rw [entry_put_other same]

theorem directory_append (target place : Place) (text : String) :
    FileTree.entry? (tree.append target text) place = some .directory ↔
      tree.entry? place = some .directory := by
  unfold append
  split
  case h_1 content stands => exact directory_put (by simp [stands]) place
  case h_2 => exact Iff.rfl
  case h_3 missing => exact directory_put (by simp [missing]) place

theorem entry_append_other (apart : target.text ≠ place.text) (text : String) :
    FileTree.entry? (tree.append target text) place = tree.entry? place := by
  unfold append
  split
  case h_1 => exact entry_put_other apart
  case h_2 => rfl
  case h_3 => exact entry_put_other apart

/-! ### Trees with the same directories -/

theorem walk_long_iff :
    tree.walk place (segment :: rest) = .error .tooLong ↔
      tree.entry? place = some .directory ∧ (segment.utf8ByteSize ≤ segmentLimit →
        tree.walk (place.follow [segment]) rest = .error .tooLong) := by
  rw [walk, enter]
  cases tree.entry? place with
  | none => simp [bind, Except.bind]
  | some entry =>
    cases entry with
    | file content => simp [bind, Except.bind]
    | directory =>
      by_cases long : segmentLimit < segment.utf8ByteSize
      · simp [bind, Except.bind, long, Nat.not_le.mpr long, throw, throwThe, MonadExceptOf.throw]
      · simp [bind, Except.bind, long, Nat.not_lt.mp long]

theorem find_long_iff :
    tree.find current location = .error .tooLong ↔
      (location.text.utf8ByteSize ≤ locationLimit →
        tree.walk (if location.slashes = 0 then current else []) location.segments =
          .error .tooLong) := by
  rw [find, locate]
  by_cases long : locationLimit < location.text.utf8ByteSize
  · simp [bind, Except.bind, long, Nat.not_le.mpr long, throw, throwThe, MonadExceptOf.throw]
  · cases tree.walk (if location.slashes = 0 then current else []) location.segments with
    | error obstacle => simp [bind, Except.bind, long, Nat.not_lt.mp long]
    | ok place =>
      cases stands : tree.entry? place <;>
        simp [bind, Except.bind, long, Nat.not_lt.mp long, stands, throw, throwThe,
          MonadExceptOf.throw, pure, Except.pure]

section
variable (same : ∀ place, after.entry? place = some .directory ↔ tree.entry? place = some .directory)
include same

theorem walk_congr : after.walk place segments = .ok last ↔ tree.walk place segments = .ok last := by
  induction segments generalizing place with
  | nil => exact Iff.rfl
  | cons segment rest ih => rw [walk_cons_iff, walk_cons_iff, same, ih]

theorem walk_long_congr :
    after.walk place segments = .error .tooLong ↔ tree.walk place segments = .error .tooLong := by
  induction segments generalizing place with
  | nil => simp [walk]
  | cons segment rest ih => rw [walk_long_iff, walk_long_iff, same, ih]

theorem locate_congr :
    after.locate current location = .ok place ↔ tree.locate current location = .ok place := by
  rw [locate_iff, locate_iff, walk_congr same]

theorem find_long_congr :
    after.find current location = .error .tooLong ↔ tree.find current location = .error .tooLong := by
  rw [find_long_iff, find_long_iff, walk_long_congr same]

end

/-! ### Written files -/

theorem locate_of_target (aim : tree.target current location = .ok place) :
    tree.locate current location = .ok place ∧ tree.entry? place ≠ some .directory := by
  rw [FileTree.target] at aim
  cases located : tree.locate current location with
  | error obstacle =>
    rw [located] at aim
    cases aim
  | ok found =>
    rw [located] at aim
    simp only [bind, Except.bind] at aim
    split at aim
    case h_1 => cases aim
    case h_2 file =>
      obtain rfl := Except.ok.inj aim
      exact ⟨rfl, file⟩

/-- A file that was written can be read at the same location. -/
theorem read_write (written : tree.write current location text = .ok after) :
    after.read current location = .ok (.text text) := by
  cases aim : tree.target current location with
  | error obstacle =>
    rw [write, aim] at written
    cases written
  | ok place =>
    rw [write, aim] at written
    obtain rfl := Except.ok.inj written
    obtain ⟨located, file⟩ := locate_of_target aim
    obtain rfl := locate_resolve located
    have found : (tree.put (location.resolve current) (.file (.text text))).find current location =
        .ok (.file (.text text)) :=
      find_iff.mpr ⟨(locate_congr (directory_put file)).mpr located,
        entry_put_self (ne_nil_of_file file)⟩
    rw [read, found]
    rfl

/-! ### Regular trees -/

/-- A tree as a file system has it: what stands before a slash in the path of an entry is a directory,
and paths are short and without null characters. -/
structure Regular (tree : FileTree) : Prop where
  nested : ∀ entry ∈ tree.entries, ∀ size < entry.1.toList.length, 0 < size →
    entry.1.toList[size]? = some '/' →
      Assoc.get? (String.ofList (entry.1.toList.take size)) tree.entries = some .directory
  short : ∀ entry ∈ tree.entries, entry.1.utf8ByteSize ≤ locationLimit
  named : ∀ entry ∈ tree.entries, Char.ofNat 0 ∉ entry.1.toList

theorem listed_of_present (below : place ≠ []) (present : tree.entry? place ≠ none) :
    ∃ entry ∈ tree.entries, entry.1 = place.text := by
  rw [ entry?, if_neg (by simpa using below)] at present
  obtain ⟨entry, found⟩ := Option.ne_none_iff_exists'.mp present
  exact ⟨_, Assoc.mem_of_get? found, rfl⟩

namespace Regular

theorem above (regular : Regular tree) {name : String} (present : tree.entry? (place ++ [name]) ≠ none) :
    tree.entry? place = some .directory := by
  by_cases root : place = []
  · rw [root]
    rfl
  · obtain ⟨entry, listed, same⟩ := listed_of_present (by simp) present
    rw [Place.text_child root] at same
    have chars : entry.1.toList = place.text.toList ++ '/' :: name.toList := by
      simp [same]
    have leading : 0 < place.text.toList.length := by
      simp [Place.text]
    have directory := regular.nested entry listed place.text.toList.length
      (by simp [chars]) leading (by simp [chars])
    rw [chars, List.take_left, String.ofList_toList] at directory
    rw [ entry?, if_neg (by simpa using root), directory]

theorem directory_above (regular : Regular tree) (present : tree.entry? (place ++ segments) ≠ none)
    (more : segments ≠ []) : tree.entry? place = some .directory := by
  induction segments using List.reverseRecOn with
  | nil => exact absurd rfl more
  | append_singleton segments name ih =>
    rw [← List.append_assoc] at present
    have directory := regular.above present
    by_cases none_left : segments = []
    · rwa [none_left, List.append_nil] at directory
    · exact ih (by simp [directory]) none_left

theorem unnulled (regular : Regular tree) (present : tree.entry? place ≠ none) :
    ∀ segment ∈ place, Char.ofNat 0 ∉ segment.toList := by
  intro segment member null
  obtain ⟨entry, listed, same⟩ := listed_of_present (List.ne_nil_of_mem member) present
  exact regular.named entry listed (same ▸ Place.subset_text member null)

theorem walk_down (regular : Regular tree) (present : tree.entry? (place ++ segments) ≠ none)
    (descends : Place.Descends segments)
    (short : ∀ segment ∈ segments, segment.utf8ByteSize ≤ segmentLimit) :
    tree.walk place segments = .ok (place ++ segments) := by
  induction segments generalizing place with
  | nil => simp [walk]
  | cons segment rest ih =>
    obtain ⟨up, later⟩ := List.ne_and_not_mem_of_not_mem_cons descends
    obtain ⟨first, others⟩ := List.forall_mem_cons.mp short
    have directory := regular.directory_above present (List.cons_ne_nil _ _)
    have split : place ++ segment :: rest = (place ++ [segment]) ++ rest := by simp
    rw [split] at present ⊢
    refine walk_cons_iff.mpr ⟨directory, first, ?_⟩
    rw [Place.follow_segment (Ne.symm up)]
    exact ih present later others

/-- What stands at a place is found by its absolute path. -/
theorem find_ofPlace (regular : Regular tree) (stands : tree.entry? place = some entry)
    (descends : place.Descends) (short : ∀ segment ∈ place, segment.utf8ByteSize ≤ segmentLimit)
    (current : Place) : tree.find current (.ofPlace place) = .ok entry := by
  have present : tree.entry? ([] ++ place) ≠ none := by simp [stands]
  have fits : (Location.ofPlace place).text.utf8ByteSize ≤ locationLimit := by
    rw [Location.text_ofPlace]
    by_cases root : place = []
    · rw [root]
      decide
    · obtain ⟨entry, listed, same⟩ := listed_of_present root present
      rw [← same]
      exact regular.short entry listed
  refine find_iff.mpr ?_
  rw [Location.resolve_ofPlace descends]
  exact ⟨locate_iff.mpr ⟨fits, regular.walk_down present descends short⟩, stands⟩

end Regular

theorem short_of_walk (walked : tree.walk place segments = .ok last) :
    ∀ segment ∈ segments, segment.utf8ByteSize ≤ segmentLimit := by
  induction segments generalizing place with
  | nil => simp
  | cons segment rest ih =>
    obtain ⟨_, short, later⟩ := walk_cons_iff.mp walked
    exact List.forall_mem_cons.mpr ⟨short, ih later⟩

/-- A location that leads to something has no null characters. -/
theorem Regular.unnulled_walk (regular : Regular tree) (present : tree.entry? last ≠ none)
    (walked : tree.walk place segments = .ok last) :
    ∀ segment ∈ segments, Char.ofNat 0 ∉ segment.toList := by
  induction segments generalizing place with
  | nil => simp
  | cons segment rest ih =>
    obtain ⟨_, _, later⟩ := walk_cons_iff.mp walked
    refine List.forall_mem_cons.mpr ⟨?_, ih later⟩
    by_cases up : segment = ".."
    · rw [up]
      decide
    · rw [Place.follow_segment up] at later
      have reached : tree.entry? (place ++ [segment]) ≠ none := by
        cases rest with
        | nil =>
          obtain rfl := Except.ok.inj later
          exact present
        | cons next rest => simp [(walk_cons_iff.mp later).1]
      exact regular.unnulled reached segment (by simp)

end FileTree

end Linkage
