import Linkage.Multimap
import Mathlib.Data.String.Basic
/-!
Laws of sets of texts and of multimaps. The keys of a multimap are a set of texts of their own, kept
by the same sorted insertion. With ascending keys, adding a value changes the set under its own key
and no other. So a multimap built from pairs holds under each key the set of the values paired with
it, and its keys are those of the pairs.
-/

namespace Linkage

namespace TextSet

variable {text other : String} {set texts : List String}

theorem mem_insert : other ∈ insert text set ↔ other = text ∨ other ∈ set := by
  induction set with
  | nil => simp [insert]
  | cons first rest ih =>
    unfold insert
    split
    · simp
    · split
      case isTrue same =>
        subst same
        simp
      case isFalse =>
        simp only [List.mem_cons, ih]
        tauto

theorem pairwise_insert (ascending : set.Pairwise (· < ·)) :
    (insert text set).Pairwise (· < ·) := by
  induction set with
  | nil => exact List.pairwise_singleton _ _
  | cons first rest ih =>
    obtain ⟨above, rest_ascending⟩ := List.pairwise_cons.mp ascending
    unfold insert
    split
    case isTrue before =>
      refine List.pairwise_cons.mpr ⟨?_, ascending⟩
      intro other member
      rcases List.mem_cons.mp member with rfl | later
      · exact before
      · exact before.trans (above other later)
    case isFalse notBefore =>
      split
      case isTrue => exact ascending
      case isFalse different =>
        refine List.pairwise_cons.mpr ⟨?_, ih rest_ascending⟩
        intro other member
        rcases mem_insert.mp member with rfl | later
        · exact lt_of_le_of_ne (not_lt.mp notBefore) (Ne.symm different)
        · exact above other later

theorem mem_foldl_insert :
    other ∈ texts.foldl (fun set text => insert text set) set ↔ other ∈ set ∨ other ∈ texts := by
  induction texts generalizing set with
  | nil => simp
  | cons text texts ih =>
    rw [List.foldl_cons, ih, mem_insert, List.mem_cons]
    tauto

theorem mem_ofList : other ∈ ofList texts ↔ other ∈ texts := by
  rw [ofList, mem_foldl_insert]
  simp

theorem pairwise_ofList (texts : List String) : (ofList texts).Pairwise (· < ·) :=
  List.foldlRecOn texts _ List.Pairwise.nil fun _ ascending _ _ => pairwise_insert ascending

/-- An ascending list is known by its members. -/
theorem eq_of_mem_iff {other : List String} (ascending : set.Pairwise (· < ·))
    (also : other.Pairwise (· < ·)) (same : ∀ text, text ∈ set ↔ text ∈ other) : set = other := by
  have distinct {texts : List String} (ascending : texts.Pairwise (· < ·)) : texts.Nodup :=
    ascending.imp ne_of_lt
  have perm : set.Perm other :=
    (List.perm_ext_iff_of_nodup (distinct ascending) (distinct also)).mpr same
  exact perm.eq_of_pairwise (fun _ _ _ _ before after => (before.asymm after).elim) ascending also

theorem ofList_congr {others : List String} (same : ∀ text, text ∈ texts ↔ text ∈ others) :
    ofList texts = ofList others := by
  apply eq_of_mem_iff (pairwise_ofList texts) (pairwise_ofList others)
  intro text
  rw [mem_ofList, mem_ofList, same]

theorem insert_map {f : String → String} (mono : StrictMono f) (text : String) (set : List String) :
    insert (f text) (set.map f) = (insert text set).map f := by
  induction set with
  | nil => rfl
  | cons first rest ih =>
    simp only [List.map_cons, insert, mono.lt_iff_lt, mono.injective.eq_iff, ih]
    split
    · rfl
    · split <;> rfl

theorem ofList_map {f : String → String} (mono : StrictMono f) (texts : List String) :
    ofList (texts.map f) = (ofList texts).map f := by
  calc ofList (texts.map f)
      = texts.foldl (fun set text => insert (f text) set) (List.map f []) := List.foldl_map
    _ = (ofList texts).map f := List.foldl_hom (List.map f) fun set text => insert_map mono text set

end TextSet

namespace Multimap

variable {map : Multimap} {key value : String} {pairs : List (String × String)}

/-! ### Keys -/

/-- The keys ascend, so none occurs twice. -/
def Ascending (map : Multimap) : Prop := (Assoc.keys map).Pairwise (· < ·)

/-- Changes the set under a key where it stands, starting from the empty set when the key is new. -/
def alter (change : List String → List String) (key : String) : Multimap → Multimap
  | [] => [(key, change [])]
  | (k, set) :: rest =>
    if key < k then (key, change []) :: (k, set) :: rest
    else if key = k then (k, change set) :: rest
    else (k, set) :: alter change key rest

theorem add_eq_alter (map : Multimap) (key value : String) :
    map.add key value = map.alter (TextSet.insert value) key := by
  induction map with
  | nil => rfl
  | cons entry rest ih =>
    rw [add, alter, ih]
    rfl

theorem set_eq_alter (map : Multimap) (key : String) (values : List String) :
    map.set key values = map.alter (fun _ => values) key := by
  induction map with
  | nil => rfl
  | cons entry rest ih => rw [set, alter, ih]

theorem keys_alter (change : List String → List String) (map : Multimap) (key : String) :
    Assoc.keys (map.alter change key) = TextSet.insert key (Assoc.keys map) := by
  induction map with
  | nil => rfl
  | cons entry rest ih =>
    obtain ⟨first, set⟩ := entry
    simp only [alter, Assoc.keys, List.map_cons, TextSet.insert] at ih ⊢
    split
    · rfl
    · split
      · rfl
      · rw [← ih, List.map_cons]

theorem keys_add (map : Multimap) (key value : String) :
    Assoc.keys (map.add key value) = TextSet.insert key (Assoc.keys map) := by
  rw [add_eq_alter, keys_alter]

theorem keys_set (map : Multimap) (key : String) (values : List String) :
    Assoc.keys (map.set key values) = TextSet.insert key (Assoc.keys map) := by
  rw [set_eq_alter, keys_alter]

theorem Ascending.add (ascending : map.Ascending) : (map.add key value).Ascending := by
  rw [Ascending, keys_add]
  exact TextSet.pairwise_insert ascending

theorem Ascending.set (ascending : map.Ascending) {values : List String} :
    (map.set key values).Ascending := by
  rw [Ascending, keys_set]
  exact TextSet.pairwise_insert ascending

/-! ### Look-ups -/

theorem get_cons (k : String) (set : List String) (rest : Multimap) (key : String) :
    get ((k, set) :: rest) key = if k = key then set else get rest key := by
  rw [get, Assoc.get?]
  split <;> rfl

theorem get_eq_nil (absent : key ∉ Assoc.keys map) : map.get key = [] := by
  rw [get, Assoc.get?_eq_none absent]
  rfl

theorem Ascending.distinct (ascending : map.Ascending) : (Assoc.keys map).Nodup :=
  ascending.imp ne_of_lt

theorem Ascending.get_of_mem {set : List String} (ascending : map.Ascending)
    (member : (key, set) ∈ map) : map.get key = set := by
  rw [get, Assoc.get?_of_mem ascending.distinct member]
  rfl

theorem Ascending.get_alter (ascending : map.Ascending) (change : List String → List String)
    (key k : String) :
    (map.alter change key).get k = if k = key then change (map.get k) else map.get k := by
  induction map with
  | nil =>
    rw [alter, get_cons]
    by_cases same : key = k <;> simp [same, eq_comm, get, Assoc.get?]
  | cons entry rest ih =>
    obtain ⟨first, set⟩ := entry
    obtain ⟨above, rest_ascending⟩ := List.pairwise_cons.mp ascending
    unfold alter
    split
    case isTrue before =>
      -- The key is new: it lies below every key of the map.
      have absent : key ∉ Assoc.keys ((first, set) :: rest) := by
        intro member
        rcases List.mem_cons.mp member with same | later
        · exact before.ne same
        · exact (before.trans (above key later)).false
      rw [get_cons]
      by_cases same : key = k
      · subst same
        simp [get_eq_nil absent]
      · simp [same, Ne.symm same]
    case isFalse =>
      split
      case isTrue same =>
        subst same
        simp only [get_cons]
        by_cases same : key = k
        · simp [same]
        · simp [same, Ne.symm same]
      case isFalse different =>
        simp only [get_cons, ih rest_ascending]
        by_cases here : first = k
        · subst here
          simp [Ne.symm different]
        · simp [here]

theorem Ascending.get_add (ascending : map.Ascending) (key value k : String) :
    (map.add key value).get k =
      if k = key then TextSet.insert value (map.get k) else map.get k := by
  rw [add_eq_alter, ascending.get_alter]

theorem Ascending.get_set (ascending : map.Ascending) (key k : String) (values : List String) :
    (map.set key values).get k = if k = key then values else map.get k := by
  rw [set_eq_alter, ascending.get_alter]

/-- An ascending map is known by its keys and what is found under them. -/
theorem Ascending.map_get (ascending : map.Ascending) :
    (Assoc.keys map).map (fun key => (key, map.get key)) = map := by
  have same : ∀ entry ∈ map, ((fun key => (key, map.get key)) ∘ Prod.fst) entry = id entry := by
    rintro ⟨key, set⟩ member
    simp [ascending.get_of_mem member]
  rw [Assoc.keys, List.map_map, List.map_congr_left same, List.map_id]

theorem Ascending.ext {other : Multimap} (ascending : map.Ascending) (also : other.Ascending)
    (keys : Assoc.keys map = Assoc.keys other) (gets : ∀ key, map.get key = other.get key) :
    map = other := by
  rw [← ascending.map_get, ← also.map_get, keys]
  simp only [gets]

/-! ### Multimaps of pairs -/

def ofPairs (pairs : List (String × String)) : Multimap :=
  pairs.foldl (fun map pair => map.add pair.1 pair.2) []

def paired (pairs : List (String × String)) (key : String) : List String :=
  (pairs.filter (·.1 = key)).map Prod.snd

theorem mem_paired : value ∈ paired pairs key ↔ (key, value) ∈ pairs := by
  simp only [paired, List.mem_map, List.mem_filter, decide_eq_true_eq, Prod.exists]
  constructor
  · rintro ⟨_, _, ⟨member, rfl⟩, rfl⟩
    exact member
  · intro member
    exact ⟨key, value, ⟨member, rfl⟩, rfl⟩

theorem Ascending.get_foldl (ascending : map.Ascending) (pairs : List (String × String))
    (key : String) :
    (pairs.foldl (fun map pair => map.add pair.1 pair.2) map).get key =
      (paired pairs key).foldl (fun set value => TextSet.insert value set) (map.get key) := by
  induction pairs generalizing map with
  | nil => rfl
  | cons pair pairs ih =>
    rw [List.foldl_cons, ih ascending.add, ascending.get_add]
    by_cases same : pair.1 = key
    · simp [paired, same]
    · simp [paired, same, Ne.symm same]

theorem get_ofPairs (pairs : List (String × String)) (key : String) :
    (ofPairs pairs).get key = TextSet.ofList (paired pairs key) := by
  have empty : Ascending [] := List.Pairwise.nil
  exact empty.get_foldl pairs key

theorem get_ofPairs_map {f : String → String} (mono : StrictMono f) (pairs : List (String × String))
    (key : String) :
    (ofPairs (pairs.map (Prod.map f f))).get (f key) = ((ofPairs pairs).get key).map f := by
  have same_key : (fun pair : String × String => decide (pair.1 = f key)) ∘ Prod.map f f =
      fun pair : String × String => decide (pair.1 = key) := by
    funext pair
    exact decide_eq_decide.mpr mono.injective.eq_iff
  rw [get_ofPairs, get_ofPairs, ← TextSet.ofList_map mono, paired, paired, List.filter_map, same_key,
    List.map_map, List.map_map]
  rfl

theorem mem_get_ofPairs : value ∈ (ofPairs pairs).get key ↔ (key, value) ∈ pairs := by
  rw [get_ofPairs, TextSet.mem_ofList, mem_paired]

theorem pairwise_get_ofPairs (pairs : List (String × String)) (key : String) :
    ((ofPairs pairs).get key).Pairwise (· < ·) := by
  rw [get_ofPairs]
  exact TextSet.pairwise_ofList _

theorem keys_ofPairs (pairs : List (String × String)) :
    Assoc.keys (ofPairs pairs) = TextSet.ofList (pairs.map Prod.fst) := by
  have step (map : Multimap) (pair : String × String) :
      TextSet.insert pair.1 (Assoc.keys map) = Assoc.keys (map.add pair.1 pair.2) :=
    (keys_add map pair.1 pair.2).symm
  rw [TextSet.ofList, List.foldl_map]
  exact (List.foldl_hom Assoc.keys step).symm

/-- The keys are those with a value under them. -/
theorem mem_keys_ofPairs :
    key ∈ Assoc.keys (ofPairs pairs) ↔ ∃ value, value ∈ (ofPairs pairs).get key := by
  rw [keys_ofPairs, TextSet.mem_ofList]
  simp only [mem_get_ofPairs, List.mem_map, Prod.exists, exists_and_right, exists_eq_right]

theorem ascending_ofPairs (pairs : List (String × String)) : (ofPairs pairs).Ascending := by
  rw [Ascending, keys_ofPairs]
  exact TextSet.pairwise_ofList _

theorem ofPairs_congr {others : List (String × String)} (same : ∀ pair, pair ∈ pairs ↔ pair ∈ others) :
    ofPairs pairs = ofPairs others := by
  apply (ascending_ofPairs pairs).ext (ascending_ofPairs others)
  · rw [keys_ofPairs, keys_ofPairs]
    apply TextSet.ofList_congr
    intro key
    simp only [List.mem_map, same]
  · intro key
    rw [get_ofPairs, get_ofPairs]
    apply TextSet.ofList_congr
    intro value
    rw [mem_paired, mem_paired, same]

/-- An entry holds what its key is looked up with, and never an empty set. -/
theorem entry_ofPairs {set : List String} (entry : (key, set) ∈ ofPairs pairs) :
    (ofPairs pairs).get key = set ∧ set ≠ [] := by
  have held := (ascending_ofPairs pairs).get_of_mem entry
  obtain ⟨value, member⟩ := mem_keys_ofPairs.mp (List.mem_map_of_mem entry)
  rw [held] at member
  exact ⟨held, List.ne_nil_of_mem member⟩

/-! ### Multimaps of whole sets -/

/-- The multimap of keys with their sets, where the last set for a key counts. -/
def ofSets (sets : List (String × List String)) : Multimap :=
  sets.foldl (fun map entry => map.set entry.1 entry.2) []

theorem keys_ofSets (sets : List (String × List String)) :
    Assoc.keys (ofSets sets) = TextSet.ofList (Assoc.keys sets) := by
  have step (map : Multimap) (entry : String × List String) :
      TextSet.insert entry.1 (Assoc.keys map) = Assoc.keys (map.set entry.1 entry.2) :=
    (keys_set map entry.1 entry.2).symm
  rw [TextSet.ofList, Assoc.keys, Assoc.keys, List.foldl_map]
  exact (List.foldl_hom Assoc.keys step).symm

theorem ascending_ofSets (sets : List (String × List String)) : (ofSets sets).Ascending := by
  rw [Ascending, keys_ofSets]
  exact TextSet.pairwise_ofList _

theorem Ascending.get_sets (ascending : map.Ascending) {sets : List (String × List String)}
    (distinct : (Assoc.keys sets).Nodup) (key : String) :
    (sets.foldl (fun map entry => map.set entry.1 entry.2) map).get key =
      (Assoc.get? key sets).getD (map.get key) := by
  induction sets generalizing map with
  | nil => rfl
  | cons entry sets ih =>
    obtain ⟨k, values⟩ := entry
    obtain ⟨fresh, distinct⟩ := List.nodup_cons.mp distinct
    rw [List.foldl_cons, ih ascending.set distinct, ascending.get_set, Assoc.get?]
    by_cases same : k = key
    · subst same
      simp [Assoc.get?_eq_none fresh]
    · simp [same, Ne.symm same]

theorem get_ofSets {sets : List (String × List String)} (distinct : (Assoc.keys sets).Nodup)
    (key : String) : (ofSets sets).get key = (Assoc.get? key sets).getD [] := by
  have empty : Ascending [] := List.Pairwise.nil
  exact empty.get_sets distinct key

/-- With distinct keys the order does not matter. -/
theorem ofSets_perm {sets others : List (String × List String)} (distinct : (Assoc.keys sets).Nodup)
    (perm : sets.Perm others) : ofSets sets = ofSets others := by
  have keys_perm : (Assoc.keys sets).Perm (Assoc.keys others) := perm.map Prod.fst
  have also : (Assoc.keys others).Nodup := keys_perm.nodup_iff.mp distinct
  apply (ascending_ofSets sets).ext (ascending_ofSets others)
  · rw [keys_ofSets, keys_ofSets]
    exact TextSet.ofList_congr fun _ => keys_perm.mem_iff
  · intro key
    rw [get_ofSets distinct, get_ofSets also]
    by_cases present : key ∈ Assoc.keys sets
    · obtain ⟨⟨_, values⟩, member, rfl⟩ := List.mem_map.mp present
      rw [Assoc.get?_of_mem distinct member, Assoc.get?_of_mem also (perm.mem_iff.mp member)]
    · have absent : key ∉ Assoc.keys others := fun member => present (keys_perm.mem_iff.mpr member)
      rw [Assoc.get?_eq_none present, Assoc.get?_eq_none absent]

end Multimap

end Linkage
