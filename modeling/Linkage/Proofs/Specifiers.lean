import Linkage.Proofs.Relocation
import Linkage.Proofs.Separators
/-!
What a relative specifier stands for. A path is normalised by following its segments one by one, so a
part of a specifier that leads back to where it began can be left out: `specifier_detour`. And to go
up as often as there are directories on the way and then down again leads from every file to every
other one: `specifier_between`.
-/

namespace Linkage

namespace Path

variable {front rest segment core : List Char} {segments walked : List (List Char)}

/-! ### Names -/

def IsName (segment : List Char) : Prop := segment ≠ [] ∧ segment ≠ ['.'] ∧ segment ≠ parent

instance (segment : List Char) : Decidable (IsName segment) := inferInstanceAs (Decidable (_ ∧ _ ∧ _))

theorem IsName.follow (name : IsName segment) (rooted : Bool) (walked : List (List Char)) :
    follow rooted walked segment = segment :: walked := by
  obtain ⟨nonempty, other, up⟩ := name
  simp [Path.follow, nonempty, other, up]

theorem IsName.follow_parent (name : IsName segment) (rooted : Bool) (walked : List (List Char)) :
    Path.follow rooted (segment :: walked) parent = walked := by
  have step : Path.follow rooted (segment :: walked) parent =
      if segment = parent then parent :: segment :: walked else walked := rfl
  rw [step, if_neg name.2.2]

theorem walk_names (names : ∀ segment ∈ segments, IsName segment) (walked : List (List Char)) :
    walk walked segments = segments.reverse ++ walked := by
  induction segments generalizing walked with
  | nil => rfl
  | cons segment segments ih =>
    obtain ⟨here, later⟩ := List.forall_mem_cons.mp names
    calc walk walked (segment :: segments)
        = walk (segment :: walked) segments := by rw [← here.follow false walked]; rfl
      _ = (segment :: segments).reverse ++ walked := by rw [ih later]; simp

/-- One step up for each of the names leads back to where they began. -/
theorem walk_climb (names : ∀ segment ∈ segments, IsName segment) (walked : List (List Char)) :
    walk (segments ++ walked) (List.replicate segments.length parent) = walked := by
  induction segments with
  | nil => rfl
  | cons segment segments ih =>
    obtain ⟨here, later⟩ := List.forall_mem_cons.mp names
    calc walk (segment :: segments ++ walked) (List.replicate (segments.length + 1) parent)
        = walk (segments ++ walked) (List.replicate segments.length parent) := by
          rw [← here.follow_parent false (segments ++ walked)]
          rfl
      _ = walked := ih later

/-! ### Detours -/

/-- What leads nowhere when it stands right after a separator. -/
inductive Detour : String → Prop
  | here : Detour "./"
  | slash : Detour "/"
  | back (name : String) (named : IsName name.toList)
      (plain : '/' ∉ name.toList ∧ '\\' ∉ name.toList) : Detour (name ++ "/../")

/-- Following the segments changes nothing, whatever was walked before and whether there is a root. -/
def LeadsBack (segments : List (List Char)) : Prop :=
  ∀ rooted walked, segments.foldl (follow rooted) walked = walked

theorem Detour.leadsBack {text : String} (detour : Detour text) :
    ∃ core, text.toList = core ++ ['/'] ∧ '\\' ∉ text.toList ∧ LeadsBack (split core) := by
  cases detour with
  | here => exact ⟨['.'], rfl, by decide, fun _ _ => rfl⟩
  | slash => exact ⟨[], rfl, by decide, fun _ _ => rfl⟩
  | back name named plain =>
    refine ⟨name.toList ++ '/' :: parent, by simp [parent], by simp [plain.2], ?_⟩
    have segments : split (name.toList ++ '/' :: parent) = [name.toList, parent] := by
      rw [split_append, split_plain plain.1]
      rfl
    intro rooted walked
    rw [segments, List.foldl_cons, List.foldl_cons, named.follow, named.follow_parent, List.foldl_nil]

theorem leadingSlashes_append (long : 3 ≤ front.length) (rest : List Char) :
    leadingSlashes (front ++ rest) = leadingSlashes front := by
  match front, long with
  | a :: b :: c :: front, _ =>
    simp only [List.cons_append]
    by_cases first : a = '/' <;> by_cases second : b = '/' <;> by_cases third : c = '/' <;>
      simp [leadingSlashes, first, second, third]

/-- The normal form does not show a detour that comes after the first three characters: those decide
which slashes it starts with. -/
theorem normalizeChars_detour (back : LeadsBack (split core)) (long : 2 ≤ front.length)
    (rest : List Char) :
    normalizeChars (front ++ '/' :: (core ++ '/' :: rest)) = normalizeChars (front ++ '/' :: rest) := by
  have slashes : ∀ tail, leadingSlashes (front ++ '/' :: tail) = leadingSlashes (front ++ ['/']) := by
    intro tail
    have long : 3 ≤ (front ++ ['/']).length := by simpa using long
    simpa using leadingSlashes_append long tail
  -- Whether there is a root depends on those slashes, so the walks are compared for both cases.
  have followed : ∀ rooted, (split (front ++ '/' :: (core ++ '/' :: rest))).foldl (follow rooted) [] =
      (split (front ++ '/' :: rest)).foldl (follow rooted) [] := by
    intro rooted
    rw [split_append, split_append, split_append, List.foldl_append, List.foldl_append, back,
      List.foldl_append]
  simp only [normalizeChars, slashes, followed]

theorem forwardSlashes_append (path other : String) :
    forwardSlashes (path ++ other) = forwardSlashes path ++ forwardSlashes other := by
  apply String.toList_inj.mp
  simp [forwardSlashes]

theorem forwardSlashes_ends {path : String}
    (ends : path.toList.getLast? = some '/' ∨ path.toList.getLast? = some '\\') :
    ∃ front, (forwardSlashes path).toList = front ++ ['/'] := by
  have last : (forwardSlashes path).toList.getLast? = some '/' := by
    rcases ends with slash | backslash
    · simp [forwardSlashes, slash]
    · simp [forwardSlashes, backslash]
  exact List.getLast?_eq_some_iff.mp last

end Path

open Linkage.Path (forwardSlashes Detour)

namespace Resolution

variable {importer front : String}

theorem isRelative_append (nonempty : front.toList ≠ []) (rest : String) :
    isRelative (front ++ rest) = isRelative front := by
  obtain ⟨c, chars, same⟩ := List.exists_cons_of_ne_nil nonempty
  simp [isRelative, same]

theorem base_detour {text : String} (detour : Detour text)
    (ends : front.toList.getLast? = some '/' ∨ front.toList.getLast? = some '\\')
    (importer rest : String) :
    base importer (front ++ text ++ rest) = base importer (front ++ rest) := by
  obtain ⟨core, written, slashed, back⟩ := detour.leadsBack
  obtain ⟨before, closed⟩ := Path.forwardSlashes_ends ends
  have same : forwardSlashes text = text := Path.Slashed.forwardSlashes_eq slashed
  have long : 2 ≤ ((directory importer).toList ++ '/' :: before).length := by
    have nonempty := List.length_pos_iff.mpr (directory_ne_nil importer)
    simp only [List.length_append, List.length_cons]
    omega
  have skipped := Path.normalizeChars_detour back long (forwardSlashes rest).toList
  apply String.toList_inj.mp
  simp only [base, Path.normalize, String.toList_ofList, String.toList_append,
    Path.forwardSlashes_append, same, closed, written]
  simpa using skipped

end Resolution

/-- A specifier stands for the same file when after one of its separators another slash, a `./`, or a
name with the `..` that undoes it is put in. -/
theorem specifier_detour (files extensions : List String) (importer front text rest : String)
    (ends : front.toList.getLast? = some '/' ∨ front.toList.getLast? = some '\\')
    (detour : Detour text) :
    Resolution.resolve files extensions importer (front ++ text ++ rest) =
      Resolution.resolve files extensions importer (front ++ rest) := by
  have nonempty : front.toList ≠ [] := by
    rintro empty
    simp [empty] at ends
  have pointed : Resolution.isRelative (front ++ text ++ rest) =
      Resolution.isRelative (front ++ rest) := by
    rw [String.append_assoc, Resolution.isRelative_append nonempty,
      Resolution.isRelative_append nonempty]
  rw [Resolution.resolve, Resolution.resolve, pointed, Resolution.base_detour detour ends]

/-- From an absolute path that is not in normal form, up beyond the root. -/
theorem specifier_detour_beyond :
    "../../../lib\\".toList.getLast? = some '\\' ∧ Detour ("x" ++ "/../") ∧
      Resolution.resolve ["/lib/util.ts"] [".ts"] "/a/.//b.ts"
          ("../../../lib\\" ++ ("x" ++ "/../") ++ "util") =
        Resolution.resolve ["/lib/util.ts"] [".ts"] "/a/.//b.ts" ("../../../lib\\" ++ "util") ∧
      Resolution.resolve ["/lib/util.ts"] [".ts"] "/a/.//b.ts" ("../../../lib\\" ++ "util") =
        some "/lib/util.ts" := by
  have ends : "../../../lib\\".toList.getLast? = some '\\' := by decide
  have detour : Detour ("x" ++ "/../") := .back "x" (by decide) (by decide)
  exact ⟨ends, detour, specifier_detour _ _ _ _ _ _ (Or.inr ends) detour, by decide⟩

/-! ### Routes from file to file -/

namespace Path

variable {path dir : String}

/-- A path that only goes down, from one name to the next. -/
structure IsPlain (path : String) : Prop where
  names : ∀ segment ∈ split path.toList, IsName segment
  slashed : Slashed path

namespace IsPlain

theorem segment_ne_nil (plain : IsPlain path) : [] ∉ split path.toList :=
  fun member => (plain.names [] member).1 rfl

theorem head_ne_slash (plain : IsPlain path) : path.toList.head? ≠ some '/' :=
  head_of_split plain.segment_ne_nil

theorem isRelative (plain : IsPlain path) : IsRelative path := by
  refine ⟨plain.head_ne_slash, ?_⟩
  intro backslash
  exact plain.slashed (List.mem_of_head? backslash)

theorem toList_ne_nil (plain : IsPlain path) : path.toList ≠ [] :=
  ne_nil_of_split plain.segment_ne_nil

theorem normalize_eq (plain : IsPlain path) : normalize path = path := by
  apply normalize_of_walk plain.head_ne_slash _ plain.toList_ne_nil
  rw [walk_names plain.names, List.append_nil]

theorem isRelativeDirectory (plain : IsPlain dir) : IsRelativeDirectory dir where
  normal := plain.normalize_eq
  relative := plain.head_ne_slash
  nonempty := by
    rintro rfl
    exact (plain.names ['.'] (by decide)).2.1 rfl
  slashes := plain.slashed

/-- A plain path is a single name, or a name below a plain directory. -/
theorem cases_last (plain : IsPlain path) :
    '/' ∉ path.toList ∨
      ∃ dir name, IsPlain dir ∧ IsPlain name ∧ '/' ∉ name.toList ∧ path = under dir name := by
  by_cases nested : '/' ∈ path.toList
  · right
    obtain ⟨name, dir, reversed, last⟩ := List.eq_append_cons_of_mem (List.mem_reverse.mpr nested)
    have cut : path.toList = dir.reverse ++ '/' :: name.reverse := by
      rw [← List.reverse_reverse path.toList, reversed]
      simp
    obtain ⟨names, slashed⟩ := plain
    rw [cut, split_append] at names
    rw [Slashed, cut, List.mem_append, List.mem_cons, not_or, not_or] at slashed
    refine ⟨String.ofList dir.reverse, String.ofList name.reverse, ⟨?_, ?_⟩, ⟨?_, ?_⟩, ?_, ?_⟩
    · rw [String.toList_ofList]
      exact fun segment member => names segment (List.mem_append_left _ member)
    · rw [Slashed, String.toList_ofList]
      exact slashed.1
    · rw [String.toList_ofList]
      exact fun segment member => names segment (List.mem_append_right _ member)
    · rw [Slashed, String.toList_ofList]
      exact slashed.2.2
    · simpa using last
    · apply String.toList_inj.mp
      rw [cut, toList_under, String.toList_ofList, String.toList_ofList]
  · exact Or.inl nested

end IsPlain

theorem length_split (chars : List Char) : (split chars).length = chars.count '/' + 1 := by
  induction chars with
  | nil => rfl
  | cons c rest ih =>
    by_cases slash : c = '/'
    · simp [split, slash, ih]
    · obtain ⟨first, segments, same⟩ := List.exists_cons_of_ne_nil (split_ne_nil rest)
      simp [split, slash, same, ← ih]

def climb (count : Nat) : List Char := (List.replicate count "../".toList).flatten

theorem split_climb (count : Nat) (rest : List Char) :
    split (climb count ++ rest) = List.replicate count parent ++ split rest := by
  induction count with
  | zero => rfl
  | succ count ih =>
    have written : climb (count + 1) ++ rest = parent ++ '/' :: (climb count ++ rest) := by
      simp [climb, parent, List.replicate_succ]
    rw [written, split_append, ih]
    rfl

theorem slashed_climb (count : Nat) : Slashed (String.ofList (climb count)) := by
  intro member
  rw [String.toList_ofList] at member
  obtain ⟨step, listed, inside⟩ := List.mem_flatten.mp member
  rw [List.eq_of_mem_replicate listed] at inside
  exact absurd inside (by decide)

/-- What ends in a slash is cut there. -/
theorem split_shared {front : String} (shared : front = "" ∨ front.toList.getLast? = some '/') :
    ∃ above, ∀ rest : String, split (front ++ rest).toList = above ++ split rest.toList := by
  rcases shared with rfl | slash
  · exact ⟨[], fun rest => by simp⟩
  · obtain ⟨chars, same⟩ := List.getLast?_eq_some_iff.mp slash
    refine ⟨split chars, fun rest => ?_⟩
    rw [String.toList_append, same, List.append_assoc, List.singleton_append, split_append]

theorem IsPlain.rest {front rest : String} (plain : IsPlain (front ++ rest))
    (shared : front = "" ∨ front.toList.getLast? = some '/') : IsPlain rest := by
  obtain ⟨above, cut⟩ := split_shared shared
  obtain ⟨names, slashed⟩ := plain
  rw [cut] at names
  rw [Slashed, String.toList_append, List.mem_append, not_or] at slashed
  exact ⟨fun segment member => names segment (List.mem_append_right _ member), slashed.2⟩

end Path

open Linkage.Path (IsPlain)

namespace Resolution

variable {path below rest : String}

/-- Up from the directory of the one path, and down along the other. -/
def between (below rest : String) : String :=
  "./" ++ String.ofList (Path.climb (below.toList.count '/')) ++ rest

theorem split_between (below rest : String) :
    Path.split (between below rest).toList =
      ['.'] :: (List.replicate (below.toList.count '/') Path.parent ++ Path.split rest.toList) := by
  have written : (between below rest).toList =
      ['.'] ++ '/' :: (Path.climb (below.toList.count '/') ++ rest.toList) := by
    simp [between]
  rw [written, Path.split_append, Path.split_climb]
  rfl

theorem slashed_between (slashed : Path.Slashed rest) : Path.Slashed (between below rest) := by
  have dot : Path.Slashed "./" := by decide
  exact (dot.append (Path.slashed_climb _)).append slashed

theorem dirname_name (plain : IsPlain path) (single : '/' ∉ path.toList) :
    Path.dirname (Path.forwardSlashes path) = "" := by
  have stays : path.toList.reverse.dropWhile (· != '/') = [] := by
    rw [List.dropWhile_eq_nil_iff]
    intro c member
    simpa using ne_of_mem_of_not_mem (List.mem_reverse.mp member) single
  rw [plain.slashed.forwardSlashes_eq, Path.dirname, stays]
  rfl

/-- The directory of a plain path is reached along all its segments but the last. -/
theorem walk_directory_plain (plain : IsPlain path) :
    Path.walk [] (Path.split (directory path).toList) = (Path.split path.toList).dropLast.reverse := by
  rcases plain.cases_last with single | ⟨dir, name, above, plain_name, single, rfl⟩
  · rw [directory_eq, if_pos (dirname_name plain single), Path.split_plain single]
    rfl
  · rw [directory_under above.isRelativeDirectory plain_name.isRelative,
      if_pos (dirname_name plain_name single), above.isRelativeDirectory.walk_split,
      Path.toList_under, Path.split_append, Path.split_plain single, List.dropLast_concat]

/-- The route goes up to what the two paths share and then down to the other one. -/
theorem base_between {front : String} (shared : front = "" ∨ front.toList.getLast? = some '/')
    (importer : IsPlain (front ++ below)) (target : IsPlain (front ++ rest)) :
    base (front ++ below) (between below rest) = front ++ rest := by
  obtain ⟨above, cut⟩ := Path.split_shared shared
  have dirs : (Path.split (front ++ below).toList).dropLast =
      above ++ (Path.split below.toList).dropLast := by
    rw [cut, List.dropLast_append_of_ne_nil (Path.split_ne_nil _)]
  have steps : below.toList.count '/' = (Path.split below.toList).dropLast.reverse.length := by
    rw [List.length_reverse, List.length_dropLast, Path.length_split, Nat.add_sub_cancel]
  have names_up : ∀ segment ∈ (Path.split below.toList).dropLast.reverse, Path.IsName segment := by
    intro segment member
    exact (importer.rest shared).names segment (List.dropLast_subset _ (List.mem_reverse.mp member))
  have slashed : Path.Slashed (between below rest) := slashed_between (target.rest shared).slashed
  have here (walked segments : List (List Char)) :
      Path.walk walked (['.'] :: segments) = Path.walk walked segments := rfl
  -- Down to the importer's directory, up to where `front` ends, and down along `rest`.
  have leads : Path.walk [] (Path.split (Path.under (directory (front ++ below))
      (between below rest)).toList) = (Path.split (front ++ rest).toList).reverse := by
    calc Path.walk [] (Path.split (Path.under (directory (front ++ below)) (between below rest)).toList)
        = Path.walk ((Path.split below.toList).dropLast.reverse ++ above.reverse)
            (List.replicate (below.toList.count '/') Path.parent ++ Path.split rest.toList) := by
          rw [Path.toList_under, Path.split_append, Path.walk_append, walk_directory_plain importer,
            split_between, here, dirs, List.reverse_append]
      _ = Path.walk above.reverse (Path.split rest.toList) := by
          rw [Path.walk_append, steps, Path.walk_climb names_up]
      _ = (Path.split (front ++ rest).toList).reverse := by
          rw [Path.walk_names (target.rest shared).names, cut, List.reverse_append]
  have relative := Path.head_under (directory_ne_nil _) (head_directory importer.isRelative)
    (between below rest)
  rw [base, slashed.forwardSlashes_eq]
  exact Path.normalize_of_walk relative leads target.toList_ne_nil

theorem resolve_base {files : List String} {importer specifier : String}
    (pointed : isRelative specifier = true) (listed : base importer specifier ∈ files)
    (extensions : List String) :
    resolve files extensions importer specifier = some (base importer specifier) := by
  rw [resolve, if_pos pointed, candidates, List.cons_append, List.find?_cons_of_pos]
  simpa using listed

end Resolution

/-- Two files may share directories at the start of their paths, all of them or none. Up from the one
for each further directory of its path, and then down the rest of the other path, leads to the other
file, whatever else there is. -/
theorem specifier_between (files extensions : List String) (front below rest : String)
    (shared : front = "" ∨ front.toList.getLast? = some '/')
    (importer : IsPlain (front ++ below)) (target : IsPlain (front ++ rest))
    (listed : front ++ rest ∈ files) :
    Resolution.resolve files extensions (front ++ below) (Resolution.between below rest) =
      some (front ++ rest) := by
  have leads := Resolution.base_between shared importer target
  have pointed : Resolution.isRelative (Resolution.between below rest) = true := by
    rw [Resolution.between, String.append_assoc, Resolution.isRelative_append (by decide)]
    rfl
  rw [Resolution.resolve_base pointed (leads ▸ listed), leads]

/-- Up to a shared directory and, from the same file, up to the top. -/
theorem specifier_between_nested :
    IsPlain ("src/" ++ "ui/forms/app.ts") ∧ IsPlain ("src/" ++ "lib/util.ts") ∧
      Resolution.between "ui/forms/app.ts" "lib/util.ts" = "./../../lib/util.ts" ∧
      Resolution.resolve ["main.ts", "src/lib/util.ts", "src/lib/util.ts.ts"] [".ts"]
          ("src/" ++ "ui/forms/app.ts") (Resolution.between "ui/forms/app.ts" "lib/util.ts") =
        some "src/lib/util.ts" ∧
      Resolution.resolve ["main.ts", "src/lib/util.ts", "src/lib/util.ts.ts"] [".ts"]
          ("" ++ "src/ui/forms/app.ts") (Resolution.between "src/ui/forms/app.ts" "main.ts") =
        some "main.ts" := by
  have importer : IsPlain ("src/" ++ "ui/forms/app.ts") := ⟨by decide, by decide⟩
  have target : IsPlain ("src/" ++ "lib/util.ts") := ⟨by decide, by decide⟩
  have top : IsPlain ("" ++ "main.ts") := ⟨by decide, by decide⟩
  exact ⟨importer, target, by decide,
    specifier_between _ _ "src/" _ _ (Or.inr (by decide)) importer target (by decide),
    specifier_between _ _ "" _ _ (Or.inl rfl) importer top (by decide)⟩

end Linkage
