import Linkage.Naming
import Mathlib.Data.List.Infix
/-!
What patterns match, said without the order in which the search tries them. `matchFrom_iff` shows
that trying the second of two patterns after the first misses nothing: the search finds a match
exactly when there is one. From it follows which names are taken for infrastructure and factories.
-/

namespace Linkage

namespace Pattern

variable {whole rest left : List Char} {words : List String}

/-- The pattern matches what has to be read of `rest` so that `left` is left over. -/
def Matches (whole : List Char) : Pattern → (rest left : List Char) → Prop
  | word text, rest, left => rest = text.toList ++ left
  | range first last, rest, left => ∃ c, rest = c :: left ∧ first ≤ c ∧ c ≤ last
  | start, rest, left => rest = whole ∧ left = rest
  | finish, rest, left => (rest = [] ∨ rest = ['\n']) ∧ left = rest
  | followed first second, rest, left =>
    ∃ middle, first.Matches whole rest middle ∧ second.Matches whole middle left
  | either first second, rest, left =>
    first.Matches whole rest left ∨ second.Matches whole rest left

theorem matchFrom_iff (pattern : Pattern) (goes : List Char → Bool) (rest : List Char) :
    pattern.matchFrom whole goes rest = true ↔
      ∃ left, pattern.Matches whole rest left ∧ goes left = true := by
  induction pattern generalizing goes rest with
  | word text =>
    simp only [matchFrom, Matches, Bool.and_eq_true, List.isPrefixOf_iff_prefix]
    constructor
    · rintro ⟨⟨left, rfl⟩, taken⟩
      exact ⟨left, rfl, by simpa using taken⟩
    · rintro ⟨left, rfl, taken⟩
      exact ⟨List.prefix_append _ _, by simpa using taken⟩
  | range first last =>
    cases rest with
    | nil => simp [matchFrom, Matches]
    | cons c rest =>
      simp only [matchFrom, Matches, Bool.and_eq_true, decide_eq_true_eq, List.cons.injEq]
      constructor
      · rintro ⟨inside, taken⟩
        exact ⟨rest, ⟨c, ⟨rfl, rfl⟩, inside⟩, taken⟩
      · rintro ⟨_, ⟨_, ⟨rfl, rfl⟩, inside⟩, taken⟩
        exact ⟨inside, taken⟩
  | start => simp [matchFrom, Matches]
  | finish => simp [matchFrom, Matches]
  | followed first second ihFirst ihSecond =>
    simp only [matchFrom, Matches, ihFirst, ihSecond]
    constructor
    · rintro ⟨middle, before, left, after, taken⟩
      exact ⟨left, ⟨middle, before, after⟩, taken⟩
    · rintro ⟨left, ⟨middle, before, after⟩, taken⟩
      exact ⟨middle, before, left, after, taken⟩
  | either first second ihFirst ihSecond =>
    simp only [matchFrom, Matches, Bool.or_eq_true, ihFirst, ihSecond, or_and_right, exists_or]

theorem searchFrom_iff (pattern : Pattern) (rest : List Char) :
    pattern.searchFrom whole rest = true ↔
      ∃ tail, tail <:+ rest ∧ ∃ left, pattern.Matches whole tail left := by
  have here (rest : List Char) : pattern.matchFrom whole (fun _ => true) rest = true ↔
      ∃ left, pattern.Matches whole rest left := by
    simp [matchFrom_iff]
  induction rest with
  | nil => simp [searchFrom, here]
  | cons c rest ih =>
    simp only [searchFrom, Bool.or_eq_true, here, ih, List.suffix_cons_iff, or_and_right, exists_or,
      exists_eq_left]

/-- A search looks at every end of the text. -/
theorem search_iff (pattern : Pattern) (text : String) :
    pattern.search text = true ↔
      ∃ tail, tail <:+ text.toList ∧ ∃ left, pattern.Matches text.toList tail left :=
  searchFrom_iff pattern text.toList

theorem matches_oneOf (nonempty : words ≠ []) :
    (oneOf words).Matches whole rest left ↔ ∃ text ∈ words, rest = text.toList ++ left := by
  fun_induction oneOf words with
  | case1 => exact absurd rfl nonempty
  | case2 text => simp [Matches]
  | case3 text others more ih => simp [Matches, ih more]

end Pattern

namespace Naming

variable {words : List String}

/-- The name ends with the word, or with the word and one line feed. -/
def EndsWith (word name : String) : Prop :=
  word.toList <:+ name.toList ∨ (word ++ "\n").toList <:+ name.toList

/-- The name starts with the word and goes on with a letter from A to Z. -/
def StartsWith (word name : String) : Prop :=
  ∃ capital rest, name.toList = word.toList ++ capital :: rest ∧ 'A' ≤ capital ∧ capital ≤ 'Z'

theorem isInfrastructure_iff (nonempty : words ≠ []) (name : String) :
    isInfrastructure words name = true ↔ ∃ word ∈ words, EndsWith word name := by
  rw [isInfrastructure, Pattern.search_iff]
  simp only [infrastructure, Pattern.Matches, Pattern.matches_oneOf nonempty]
  constructor
  · rintro ⟨_, ending, _, middle, ⟨word, listed, rfl⟩, (rfl | rfl), _⟩
    · exact ⟨word, listed, Or.inl (by simpa using ending)⟩
    · exact ⟨word, listed, Or.inr (by simpa using ending)⟩
  · rintro ⟨word, listed, ending | ending⟩
    · exact ⟨_, ending, [], [], ⟨word, listed, by simp⟩, Or.inl rfl, rfl⟩
    · exact ⟨_, ending, ['\n'], ['\n'], ⟨word, listed, by simp⟩, Or.inr rfl, rfl⟩

theorem isFactory_iff (nonempty : words ≠ []) (name : String) :
    isFactory words name = true ↔ ∃ word ∈ words, StartsWith word name := by
  rw [isFactory, Pattern.search_iff]
  simp only [factory, Pattern.Matches, Pattern.matches_oneOf nonempty]
  constructor
  · rintro ⟨_, _, rest, _, ⟨rfl, rfl⟩, _, ⟨word, listed, whole⟩, capital, rfl, inside⟩
    exact ⟨word, listed, capital, rest, whole, inside⟩
  · rintro ⟨word, listed, capital, rest, whole, inside⟩
    exact ⟨name.toList, List.suffix_rfl, rest, name.toList, ⟨rfl, rfl⟩, capital :: rest,
      ⟨word, listed, whole⟩, capital, rfl, inside⟩

-- The shorter word is tried first and is not followed by a capital.
example : isFactory ["make", "makeup"] "makeupArtist" = true := by decide

end Naming

end Linkage
