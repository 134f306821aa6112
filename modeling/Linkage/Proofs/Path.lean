import Linkage.Path
import Mathlib.Data.List.TakeWhile
import Mathlib.Data.String.Basic
/-!
Paths under a directory. A relative path is normalised by walking along its segments, and a walk that
never climbs above its start does the same from any other start. So putting a directory in front of a
path goes along with normalising it and with taking its directory part.
-/

namespace Linkage.Path

variable {chars front rest : List Char} {segment : List Char} {segments walked : List (List Char)}

/-! ### Splitting and joining -/

theorem split_ne_nil (chars : List Char) : split chars ≠ [] := by
  cases chars with
  | nil => simp [split]
  | cons c rest =>
    unfold split
    split
    · simp
    · split <;> simp

theorem split_append (front rest : List Char) :
    split (front ++ '/' :: rest) = split front ++ split rest := by
  induction front with
  | nil => simp [split]
  | cons c front ih =>
    by_cases slash : c = '/'
    · simp [split, slash, ih]
    · obtain ⟨segment, segments, same⟩ := List.exists_cons_of_ne_nil (split_ne_nil front)
      simp [split, slash, ih, same]

theorem split_plain (plain : '/' ∉ segment) : split segment = [segment] := by
  induction segment with
  | nil => rfl
  | cons c segment ih =>
    obtain ⟨other, plain⟩ := List.ne_and_not_mem_of_not_mem_cons plain
    simp [split, Ne.symm other, ih plain]

theorem plain_of_mem_split (member : segment ∈ split chars) : '/' ∉ segment := by
  induction chars generalizing segment with
  | nil =>
    rw [List.mem_singleton.mp member]
    exact List.not_mem_nil
  | cons c rest ih =>
    by_cases slash : c = '/'
    · rw [split, if_pos slash] at member
      rcases List.mem_cons.mp member with rfl | later
      · exact List.not_mem_nil
      · exact ih later
    · obtain ⟨first, segments, same⟩ := List.exists_cons_of_ne_nil (split_ne_nil rest)
      rw [split, if_neg slash, same] at member
      rcases List.mem_cons.mp member with rfl | later
      · have first_plain : '/' ∉ first := ih (same ▸ List.mem_cons_self)
        simp [Ne.symm slash, first_plain]
      · exact ih (same ▸ List.mem_cons_of_mem _ later)

theorem ne_nil_of_split (parts : [] ∉ split chars) : chars ≠ [] := by
  rintro rfl
  exact parts (List.mem_singleton_self _)

theorem head_of_split (parts : [] ∉ split chars) : chars.head? ≠ some '/' := by
  intro slash
  obtain ⟨rest, rfl⟩ := List.head?_eq_some_iff.mp slash
  exact parts (by simp [split])

theorem join_append {front rest : List (List Char)} (some_front : front ≠ []) (some_rest : rest ≠ []) :
    join (front ++ rest) = join front ++ '/' :: join rest := by
  induction front with
  | nil => exact absurd rfl some_front
  | cons first front ih =>
    cases front with
    | nil =>
      obtain ⟨next, rest, rfl⟩ := List.exists_cons_of_ne_nil some_rest
      rfl
    | cons next front =>
      have later := ih (List.cons_ne_nil _ _)
      simp only [List.cons_append, join] at later ⊢
      rw [later, List.append_assoc, List.cons_append]

theorem join_split (chars : List Char) : join (split chars) = chars := by
  induction chars with
  | nil => rfl
  | cons c rest ih =>
    obtain ⟨first, segments, same⟩ := List.exists_cons_of_ne_nil (split_ne_nil rest)
    rw [same] at ih
    by_cases slash : c = '/'
    · simp [split, slash, same, join, ih]
    · rw [split, if_neg slash, same, ← ih]
      cases segments <;> rfl

theorem split_join (some : segments ≠ []) (plain : ∀ segment ∈ segments, '/' ∉ segment) :
    split (join segments) = segments := by
  induction segments with
  | nil => exact absurd rfl some
  | cons first segments ih =>
    obtain ⟨first_plain, rest_plain⟩ := List.forall_mem_cons.mp plain
    cases segments with
    | nil => exact split_plain first_plain
    | cons next segments =>
      rw [join, split_append, split_plain first_plain, ih (List.cons_ne_nil _ _) rest_plain]
      · rfl
      · simp

/-! ### Walks -/

/-- Where following the segments from those walked so far leads, when there is no root to stop at. -/
def walk (walked segments : List (List Char)) : List (List Char) :=
  segments.foldl (follow false) walked

theorem walk_append (walked front rest : List (List Char)) :
    walk walked (front ++ rest) = walk (walk walked front) rest :=
  List.foldl_append

theorem follow_parent_cons (last : List Char) (before : List (List Char)) :
    follow false (last :: before) parent =
      if last = parent then parent :: last :: before else before := rfl

/-- A segment is skipped, leads above the start, leads back from the last one, or leads on. -/
theorem follow_cases (walked : List (List Char)) (segment : List Char) :
    (segment = [] ∨ segment = ['.']) ∧ follow false walked segment = walked ∨
    segment = parent ∧ (walked = [] ∨ parent ∈ walked) ∧
      follow false walked segment = parent :: walked ∨
    segment = parent ∧ (∃ last before, walked = last :: before ∧ last ≠ parent ∧
      follow false walked segment = before) ∨
    segment ≠ [] ∧ segment ≠ parent ∧ ∀ start, follow false start segment = segment :: start := by
  by_cases skipped : segment = [] ∨ segment = ['.']
  · exact Or.inl ⟨skipped, by simp [follow, skipped]⟩
  · obtain ⟨nonempty, other⟩ := not_or.mp skipped
    by_cases up : segment = parent
    · subst up
      cases walked with
      | nil => exact Or.inr (Or.inl ⟨rfl, Or.inl rfl, rfl⟩)
      | cons last before =>
        by_cases above : last = parent
        · subst above
          exact Or.inr (Or.inl ⟨rfl, Or.inr List.mem_cons_self, rfl⟩)
        · exact Or.inr (Or.inr (Or.inl ⟨rfl, last, before, rfl, above,
            by rw [follow_parent_cons, if_neg above]⟩))
    · exact Or.inr (Or.inr (Or.inr ⟨nonempty, up, fun start => by simp [follow, nonempty, other, up]⟩))

/-- A root only keeps a walk from going further up. -/
theorem follow_subset (rooted : Bool) (walked : List (List Char)) (segment : List Char) :
    follow rooted walked segment ⊆ follow false walked segment := by
  cases rooted with
  | false => exact List.Subset.refl _
  | true =>
    unfold follow
    split
    · exact List.Subset.refl _
    · split
      · cases walked with
        | nil => exact List.nil_subset _
        | cons => exact List.Subset.refl _
      · exact List.Subset.refl _

theorem mem_follow {rooted : Bool} {named : List Char}
    (member : named ∈ follow rooted walked segment) :
    named ∈ walked ∨ named = segment ∧ segment ≠ [] := by
  replace member := follow_subset rooted walked segment member
  rcases follow_cases walked segment with ⟨_, same⟩ | ⟨rfl, _, same⟩ |
    ⟨rfl, last, before, rfl, _, same⟩ | ⟨nonempty, _, same⟩
  · exact Or.inl (same ▸ member)
  · rcases List.mem_cons.mp (same ▸ member) with rfl | before
    · exact Or.inr ⟨rfl, by decide⟩
    · exact Or.inl before
  · exact Or.inl (List.mem_cons_of_mem _ (same ▸ member))
  · rcases List.mem_cons.mp (same walked ▸ member) with rfl | before
    · exact Or.inr ⟨rfl, nonempty⟩
    · exact Or.inl before

theorem mem_walk {named : List Char} (member : named ∈ walk walked segments) :
    named ∈ walked ∨ named ∈ segments ∧ named ≠ [] := by
  induction segments generalizing walked with
  | nil => exact Or.inl member
  | cons segment segments ih =>
    rcases ih member with before | ⟨later, nonempty⟩
    · rcases mem_follow before with before | ⟨rfl, nonempty⟩
      · exact Or.inl before
      · exact Or.inr ⟨List.mem_cons_self, nonempty⟩
    · exact Or.inr ⟨List.mem_cons_of_mem _ later, nonempty⟩

theorem nil_not_mem_walk (segments : List (List Char)) : [] ∉ walk [] segments := by
  intro member
  rcases mem_walk member with before | ⟨_, nonempty⟩
  · cases before
  · exact nonempty rfl

theorem split_join_walk (some : walk [] (split chars) ≠ []) :
    split (join (walk [] (split chars)).reverse) = (walk [] (split chars)).reverse := by
  apply split_join (by simpa using some)
  intro segment member
  rcases mem_walk (List.mem_reverse.mp member) with before | ⟨listed, _⟩
  · exact absurd before List.not_mem_nil
  · exact plain_of_mem_split listed

theorem parent_follow (above : parent ∈ walked) (segment : List Char) :
    parent ∈ follow false walked segment := by
  rcases follow_cases walked segment with ⟨_, same⟩ | ⟨_, _, same⟩ |
    ⟨_, last, before, rfl, below, same⟩ | ⟨_, _, same⟩
  · rwa [same]
  · rw [same]
    exact List.mem_cons_self
  · rw [same]
    exact (List.mem_cons.mp above).resolve_left (Ne.symm below)
  · rw [same]
    exact List.mem_cons_of_mem _ above

theorem parent_walk (above : parent ∈ walked) (segments : List (List Char)) :
    parent ∈ walk walked segments := by
  induction segments generalizing walked with
  | nil => exact above
  | cons segment segments ih => exact ih (parent_follow above segment)

/-- A walk that does not end above its start does not depend on what lies outside. -/
theorem walk_frame (inside : parent ∉ walk walked segments) (outer : List (List Char)) :
    walk (walked ++ outer) segments = walk walked segments ++ outer := by
  induction segments generalizing walked with
  | nil => rfl
  | cons segment segments ih =>
    have below : parent ∉ follow false walked segment :=
      fun above => inside (parent_walk above segments)
    have step : follow false (walked ++ outer) segment = follow false walked segment ++ outer := by
      rcases follow_cases walked segment with ⟨skipped, same⟩ | ⟨_, _, same⟩ |
        ⟨rfl, last, before, rfl, below, same⟩ | ⟨_, _, same⟩
      · rw [same]
        simp [follow, skipped]
      · exact absurd (same ▸ List.mem_cons_self) below
      · rw [same, List.cons_append, follow_parent_cons, if_neg below]
      · rw [same, same, List.cons_append]
    calc walk (walked ++ outer) (segment :: segments)
        = walk (follow false walked segment ++ outer) segments := by rw [← step]; rfl
      _ = walk walked (segment :: segments) ++ outer := ih inside

theorem getLast_follow (first : parent ∈ walked → walked.getLast? = some parent)
    (above : parent ∈ follow false walked segment) :
    (follow false walked segment).getLast? = some parent := by
  rcases follow_cases walked segment with ⟨_, same⟩ | ⟨_, empty | inside, same⟩ |
    ⟨_, last, before, rfl, _, same⟩ | ⟨_, other, same⟩
  · rw [same] at above ⊢
    exact first above
  · rw [same, empty]
    rfl
  · rw [same, List.getLast?_cons, first inside]
    rfl
  · rw [same] at above ⊢
    have last_parent := first (List.mem_cons_of_mem _ above)
    rwa [List.getLast?_cons_of_ne_nil (List.ne_nil_of_mem above)] at last_parent
  · rw [same] at above ⊢
    have inside := (List.mem_cons.mp above).resolve_left (Ne.symm other)
    rw [List.getLast?_cons, first inside]
    rfl

/-- A walk that ends above its start goes up first. -/
theorem getLast_walk (first : parent ∈ walked → walked.getLast? = some parent)
    (above : parent ∈ walk walked segments) : (walk walked segments).getLast? = some parent := by
  induction segments generalizing walked with
  | nil => exact first above
  | cons segment segments ih => exact ih (getLast_follow first) above

/-! ### Normal forms of relative paths -/

theorem normalizeChars_relative (relative : chars.head? ≠ some '/') :
    normalizeChars chars =
      match join (walk [] (split chars)).reverse with
      | [] => ['.']
      | normal => normal := by
  have bare : leadingSlashes chars = [] := by
    unfold leadingSlashes
    split <;> simp_all
  rw [normalizeChars, bare]
  rfl

theorem normalizeChars_named (relative : chars.head? ≠ some '/')
    (named : normalizeChars chars ≠ ['.']) :
    walk [] (split chars) ≠ [] ∧ normalizeChars chars = join (walk [] (split chars)).reverse := by
  rw [normalizeChars_relative relative] at named ⊢
  split at named
  case h_1 => exact absurd rfl named
  case h_2 nonempty =>
    refine ⟨?_, rfl⟩
    intro empty
    exact nonempty (by rw [empty]; rfl)

theorem normalizeChars_of_join {normal : List Char} (relative : chars.head? ≠ some '/')
    (written : join (walk [] (split chars)).reverse = normal) (nonempty : normal ≠ []) :
    normalizeChars chars = normal := by
  rw [normalizeChars_relative relative, written]
  cases normal with
  | nil => exact absurd rfl nonempty
  | cons => rfl

/-- The normal form is the path whose segments are walked. -/
theorem normalize_of_walk {path normal : String} (relative : path.toList.head? ≠ some '/')
    (leads : walk [] (split path.toList) = (split normal.toList).reverse)
    (nonempty : normal.toList ≠ []) : normalize path = normal := by
  apply String.toList_inj.mp
  rw [normalize, String.toList_ofList]
  apply normalizeChars_of_join relative _ nonempty
  rw [leads, List.reverse_reverse, join_split]

/-- The path is not above where relative paths start, nor that place itself. -/
def Inside (path : String) : Prop :=
  path ≠ "." ∧ path ≠ ".." ∧ ¬ ['.', '.', '/'] <+: path.toList

instance (path : String) : Decidable (Inside path) := inferInstanceAs (Decidable (_ ∧ _ ∧ _))

theorem Inside.named {path : String} (inside : Inside (normalize path)) :
    normalizeChars path.toList ≠ ['.'] := by
  intro same
  exact inside.1 (by rw [normalize, same])

theorem Inside.parent_not_mem {path : String} (relative : path.toList.head? ≠ some '/')
    (inside : Inside (normalize path)) : parent ∉ walk [] (split path.toList) := by
  intro above
  obtain ⟨not_parent, not_above⟩ := inside.2
  have last_parent := getLast_walk (fun above => absurd above List.not_mem_nil) above
  rw [← List.head?_reverse] at last_parent
  obtain ⟨rest, starts⟩ := List.head?_eq_some_iff.mp last_parent
  have written := (normalizeChars_named relative inside.named).2
  rw [starts] at written
  cases rest with
  | nil => exact not_parent (by rw [normalize, written]; rfl)
  | cons next rest =>
    apply not_above
    rw [normalize, String.toList_ofList, written]
    exact ⟨join (next :: rest), rfl⟩

/-! ### Directories -/

/-- A non-empty relative path in normal form, written with slashes only. The empty path has the
normal form `.`, so that is what `nonempty` leaves out. -/
structure IsRelativeDirectory (dir : String) : Prop where
  normal : normalize dir = dir
  relative : dir.toList.head? ≠ some '/'
  nonempty : dir ≠ "."
  slashes : '\\' ∉ dir.toList

def under (dir path : String) : String := dir ++ "/" ++ path

@[simp]
theorem toList_under (dir path : String) :
    (under dir path).toList = dir.toList ++ '/' :: path.toList := by
  simp [under]

theorem head_under {dir : String} (nonempty : dir.toList ≠ []) (relative : dir.toList.head? ≠ some '/')
    (path : String) : (under dir path).toList.head? ≠ some '/' := by
  obtain ⟨c, rest, same⟩ := List.exists_cons_of_ne_nil nonempty
  rw [same] at relative
  rwa [toList_under, same]

theorem under_strictMono (dir : String) : StrictMono (under dir) := by
  intro path other before
  rw [String.lt_iff_toList_lt] at before ⊢
  rw [toList_under, toList_under]
  exact List.append_left_lt (List.cons_lt_cons_iff.mpr (Or.inr ⟨rfl, before⟩))

theorem under_append (dir path ending : String) :
    under dir path ++ ending = under dir (path ++ ending) :=
  String.append_assoc ..

theorem basename_under (dir path : String) : basename (under dir path) = basename path := by
  have stops : ∀ name rest : List Char,
      (name ++ '/' :: rest).takeWhile (· != '/') = name.takeWhile (· != '/') := by
    intro name rest
    induction name with
    | nil => rfl
    | cons c name ih => simp only [List.cons_append, List.takeWhile_cons, ih]
  rw [basename, basename, toList_under, List.reverse_append, List.reverse_cons, List.append_assoc,
    List.singleton_append, stops]

def beforeName (chars : List Char) : List Char := chars.reverse.dropWhile (· != '/')

theorem beforeName_append (front rest : List Char) :
    beforeName (front ++ '/' :: rest) = beforeName rest ++ '/' :: front.reverse := by
  rw [beforeName, List.reverse_append, List.reverse_cons, List.append_assoc, List.dropWhile_append]
  split
  case isTrue none =>
    rw [beforeName, List.isEmpty_iff.mp none]
    rfl
  case isFalse => rfl

theorem beforeName_eq_nil (relative : chars.head? ≠ some '/')
    (bare : (beforeName chars).dropWhile (· == '/') = []) : beforeName chars = [] := by
  by_contra nonempty
  have last : (beforeName chars).getLast nonempty = '/' := by
    simpa using List.dropWhile_eq_nil_iff.mp bare _ (List.getLast_mem nonempty)
  obtain ⟨name, same⟩ : beforeName chars <:+ chars.reverse := List.dropWhile_suffix _
  apply relative
  rw [← List.getLast?_reverse, ← same, List.getLast?_append, List.getLast?_eq_some_getLast nonempty,
    last]
  rfl

theorem dirname_relative {path : String} (relative : path.toList.head? ≠ some '/') :
    dirname path = String.ofList ((beforeName path.toList).dropWhile (· == '/')).reverse := by
  change String.ofList (if ((beforeName path.toList).dropWhile (· == '/')).isEmpty then
    beforeName path.toList else _) = _
  split
  case isTrue empty =>
    have bare := List.isEmpty_iff.mp empty
    rw [beforeName_eq_nil relative bare]
    rfl
  case isFalse => rfl

theorem head_dirname {path : String} (relative : path.toList.head? ≠ some '/') :
    (dirname path).toList.head? ≠ some '/' := by
  obtain ⟨rest, same⟩ : (dirname path).toList <+: path.toList := by
    rw [dirname_relative relative, String.toList_ofList, ← List.reverse_suffix, List.reverse_reverse]
    exact (List.dropWhile_suffix _).trans (List.dropWhile_suffix _)
  cases starts : (dirname path).toList with
  | nil => simp
  | cons c chars =>
    rw [← same, starts] at relative
    exact relative

theorem map_slash_eq_self (plain : '\\' ∉ chars) :
    chars.map (fun c => if c = '\\' then '/' else c) = chars := by
  have same : ∀ c ∈ chars, (if c = '\\' then '/' else c) = id c := by
    intro c member
    exact if_neg (ne_of_mem_of_not_mem member plain)
  rw [List.map_congr_left same, List.map_id]

namespace IsRelativeDirectory

variable {dir path : String}

theorem split_eq (directory : IsRelativeDirectory dir) :
    split dir.toList = (walk [] (split dir.toList)).reverse := by
  have normal : normalizeChars dir.toList = dir.toList := by
    have same := congrArg String.toList directory.normal
    rwa [normalize, String.toList_ofList] at same
  have named : normalizeChars dir.toList ≠ ['.'] := by
    rw [normal]
    intro same
    exact directory.nonempty (String.toList_inj.mp same)
  obtain ⟨nonempty, written⟩ := normalizeChars_named directory.relative named
  calc split dir.toList = split (normalizeChars dir.toList) := by rw [normal]
    _ = split (join (walk [] (split dir.toList)).reverse) := by rw [written]
    _ = (walk [] (split dir.toList)).reverse := split_join_walk nonempty

theorem walk_split (directory : IsRelativeDirectory dir) :
    walk [] (split dir.toList) = (split dir.toList).reverse := by
  rw [← List.reverse_reverse (walk [] (split dir.toList)), ← directory.split_eq]

theorem segment_ne_nil (directory : IsRelativeDirectory dir) : [] ∉ split dir.toList := by
  rw [directory.split_eq, List.mem_reverse]
  exact nil_not_mem_walk _

theorem toList_ne_nil (directory : IsRelativeDirectory dir) : dir.toList ≠ [] :=
  ne_nil_of_split directory.segment_ne_nil

theorem not_ends_slash (directory : IsRelativeDirectory dir) (front : List Char) :
    dir.toList ≠ front ++ ['/'] := by
  intro ends
  apply directory.segment_ne_nil
  rw [ends, split_append]
  exact List.mem_append_right _ (List.mem_singleton_self _)

theorem dirname_under (directory : IsRelativeDirectory dir) (relative : path.toList.head? ≠ some '/') :
    dirname (under dir path) = if dirname path = "" then dir else under dir (dirname path) := by
  have bare_dir : dir.toList.reverse.dropWhile (· == '/') = dir.toList.reverse := by
    cases same : dir.toList.reverse with
    | nil => rfl
    | cons c rest =>
      have other : c ≠ '/' := by
        rintro rfl
        exact directory.not_ends_slash rest.reverse (List.reverse_eq_cons_iff.mp same)
      simp [other]
  rw [dirname_relative (head_under directory.toList_ne_nil directory.relative path),
    dirname_relative relative, toList_under, beforeName_append, List.dropWhile_append]
  by_cases bare : (beforeName path.toList).dropWhile (· == '/') = []
  · simp [bare, bare_dir]
  · apply String.toList_inj.mp
    simp [bare]

/-- A path that leads on from the directory, and stays inside, has its normal form there. -/
theorem normalize_moved {moved : String} (directory : IsRelativeDirectory dir)
    (relative : path.toList.head? ≠ some '/') (moved_relative : moved.toList.head? ≠ some '/')
    (inside : Inside (normalize path))
    (leads : walk [] (split moved.toList) = walk [] (split dir.toList ++ split path.toList)) :
    normalize moved = under dir (normalize path) := by
  have framed : walk [] (split moved.toList) =
      walk [] (split path.toList) ++ (split dir.toList).reverse := by
    rw [leads, walk_append, directory.walk_split]
    exact walk_frame (inside.parent_not_mem relative) _
  obtain ⟨nonempty, written⟩ := normalizeChars_named relative inside.named
  have joined : join (walk [] (split moved.toList)).reverse =
      dir.toList ++ '/' :: normalizeChars path.toList := by
    rw [framed, List.reverse_append, List.reverse_reverse,
      join_append (split_ne_nil _) (by simpa using nonempty), join_split, written]
  apply String.toList_inj.mp
  rw [normalize, String.toList_ofList, normalizeChars_of_join moved_relative joined (by simp),
    normalize, toList_under, String.toList_ofList]

theorem forwardSlashes_under (directory : IsRelativeDirectory dir) (path : String) :
    forwardSlashes (under dir path) = under dir (forwardSlashes path) := by
  apply String.toList_inj.mp
  simp [forwardSlashes, map_slash_eq_self directory.slashes]

theorem stem_under (directory : IsRelativeDirectory dir) (path : String) :
    stem (under dir path) = stem path := by
  unfold stem
  rw [directory.forwardSlashes_under, basename_under]

end IsRelativeDirectory

end Linkage.Path
