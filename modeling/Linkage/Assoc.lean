/-!
Dictionaries with text keys that remember insertion order. Putting under a key that is already
present keeps its place, a new key goes last. Main statements: what `put` and `erase` do to the
keys, that both keep them distinct, and which entries there are after a `put`.
-/

namespace Linkage.Assoc

variable {α : Type}

def keys (entries : List (String × α)) : List String := entries.map Prod.fst

def get? (key : String) : List (String × α) → Option α
  | [] => none
  | (k, v) :: rest => if k = key then some v else get? key rest

def has (key : String) (entries : List (String × α)) : Bool := (keys entries).contains key

/-- Replaces the value under the key where it stands, or adds an entry at the end. -/
def put (key : String) (value : α) : List (String × α) → List (String × α)
  | [] => [(key, value)]
  | (k, v) :: rest => if k = key then (k, value) :: rest else (k, v) :: put key value rest

/-- Changes the value under the key, starting from `start` when the key is new. -/
def modify (key : String) (start : α) (change : α → α) (entries : List (String × α)) :
    List (String × α) :=
  put key (change ((get? key entries).getD start)) entries

def erase (key : String) (entries : List (String × α)) : List (String × α) :=
  entries.filter (fun entry => entry.1 != key)

/-- A dictionary from pairs read in order: a repeated key keeps its first place and last value. -/
def ofList (pairs : List (String × α)) : List (String × α) :=
  pairs.foldl (fun entries pair => put pair.1 pair.2 entries) []

/-! ### Keys -/

theorem mem_keys_put {key k : String} {value : α} {entries : List (String × α)} :
    k ∈ keys (put key value entries) ↔ k = key ∨ k ∈ keys entries := by
  induction entries with
  | nil => simp [keys, put]
  | cons entry rest ih =>
    obtain ⟨k', v⟩ := entry
    by_cases same : k' = key
    · simp [keys, put, same]
    · simp only [keys, put, same, if_false, List.map_cons, List.mem_cons] at ih ⊢
      rw [ih]
      constructor <;> rintro (h | h | h) <;> simp [h]

theorem nodup_put {key : String} {value : α} {entries : List (String × α)}
    (distinct : (keys entries).Nodup) : (keys (put key value entries)).Nodup := by
  induction entries with
  | nil => simp [keys, put]
  | cons entry rest ih =>
    obtain ⟨k, v⟩ := entry
    have here : k ∉ keys rest ∧ (keys rest).Nodup := by simpa [keys] using distinct
    by_cases same : k = key
    · simpa [keys, put, same] using distinct
    · have outside : k ∉ keys (put key value rest) := fun member =>
        (mem_keys_put.mp member).elim same here.1
      have := List.nodup_cons.mpr ⟨outside, ih here.2⟩
      simpa [keys, put, same] using this

theorem nodup_erase {key : String} {entries : List (String × α)}
    (distinct : (keys entries).Nodup) : (keys (erase key entries)).Nodup :=
  List.Pairwise.sublist (List.Sublist.map _ List.filter_sublist) distinct

theorem get?_put_self {key : String} {value : α} {entries : List (String × α)} :
    get? key (put key value entries) = some value := by
  induction entries with
  | nil => simp [get?, put]
  | cons entry rest ih => by_cases same : entry.1 = key <;> simp [get?, put, same, ih]

theorem get?_put_other {key k : String} {value : α} {entries : List (String × α)}
    (different : key ≠ k) : get? k (put key value entries) = get? k entries := by
  induction entries with
  | nil => simp [get?, put, different]
  | cons entry rest ih =>
    obtain ⟨k', v⟩ := entry
    by_cases same : k' = key
    · simp [get?, put, same, different]
    · simp [get?, put, same, ih]

theorem get?_erase (key k : String) (entries : List (String × α)) :
    get? k (erase key entries) = if k = key then none else get? k entries := by
  induction entries with
  | nil => simp [erase, get?]
  | cons entry rest ih =>
    obtain ⟨name, value⟩ := entry
    rw [erase] at ih ⊢
    by_cases dropped : name = key
    · rw [List.filter_cons_of_neg (by simpa using dropped), ih, get?, dropped]
      by_cases same : k = key
      · rw [if_pos same, if_pos same]
      · rw [if_neg same, if_neg same, if_neg (Ne.symm same)]
    · rw [List.filter_cons_of_pos (by simpa using dropped), get?, get?, ih]
      by_cases found : name = k
      · rw [if_pos found, if_pos found, if_neg (found ▸ dropped)]
      · rw [if_neg found, if_neg found]

theorem get?_map {β : Type} (change : String → α → β) (key : String) (entries : List (String × α)) :
    get? key (entries.map fun entry => (entry.1, change entry.1 entry.2)) =
      (get? key entries).map (change key) := by
  induction entries with
  | nil => rfl
  | cons entry rest ih =>
    rw [List.map_cons, get?, get?, ih]
    by_cases same : entry.1 = key
    · rw [if_pos same, if_pos same, same, Option.map_some]
    · rw [if_neg same, if_neg same]

theorem put_map {β : Type} (change : α → β) (key : String) (value : α)
    (entries : List (String × α)) :
    put key (change value) (entries.map fun entry => (entry.1, change entry.2)) =
      (put key value entries).map fun entry => (entry.1, change entry.2) := by
  induction entries with
  | nil => rfl
  | cons entry rest ih =>
    rw [List.map_cons, put, put, ih]
    split <;> rfl

/-! ### Entries -/

theorem get?_eq_none {key : String} {entries : List (String × α)} (absent : key ∉ keys entries) :
    get? key entries = none := by
  induction entries with
  | nil => rfl
  | cons entry rest ih =>
    have apart : entry.1 ≠ key ∧ key ∉ keys rest := by simpa [keys, eq_comm] using absent
    rw [get?, if_neg apart.1, ih apart.2]

theorem get?_of_mem {key : String} {value : α} {entries : List (String × α)}
    (distinct : (keys entries).Nodup) (member : (key, value) ∈ entries) :
    get? key entries = some value := by
  induction entries with
  | nil => cases member
  | cons entry rest ih =>
    obtain ⟨fresh, distinct⟩ := List.nodup_cons.mp distinct
    rcases List.mem_cons.mp member with rfl | later
    · exact if_pos rfl
    · have apart : entry.1 ≠ key := fun same => fresh (same ▸ List.mem_map_of_mem later)
      rw [get?, if_neg apart, ih distinct later]

theorem mem_of_get? {key : String} {value : α} {entries : List (String × α)}
    (found : get? key entries = some value) : (key, value) ∈ entries := by
  induction entries with
  | nil => cases found
  | cons entry rest ih =>
    rw [get?] at found
    split at found
    case isTrue same =>
      obtain rfl := Option.some.inj found
      rw [← same]
      exact List.mem_cons_self
    case isFalse => exact List.mem_cons_of_mem _ (ih found)

theorem erase_of_absent {key : String} {entries : List (String × α)} (absent : key ∉ keys entries) :
    erase key entries = entries := by
  apply List.filter_eq_self.mpr
  intro entry member
  have apart : entry.1 ≠ key := fun same => absent (same ▸ List.mem_map_of_mem member)
  simpa using apart

/-- Wherever the new entry stands, all that had its key are gone. -/
theorem put_perm (key : String) (value : α) {entries : List (String × α)}
    (distinct : (keys entries).Nodup) :
    (put key value entries).Perm ((key, value) :: erase key entries) := by
  induction entries with
  | nil => exact List.Perm.refl _
  | cons entry rest ih =>
    obtain ⟨k, v⟩ := entry
    obtain ⟨fresh, distinct⟩ := List.nodup_cons.mp distinct
    by_cases same : k = key
    · subst same
      have rest_kept : erase k rest = rest := erase_of_absent fresh
      simp only [erase] at rest_kept
      simp [put, erase, rest_kept]
    · have later := (ih distinct).cons (k, v)
      have swapped := later.trans (List.Perm.swap _ _ _)
      simpa [put, erase, same] using swapped

theorem put_of_absent {key : String} {value : α} {entries : List (String × α)}
    (absent : key ∉ keys entries) : put key value entries = entries ++ [(key, value)] := by
  induction entries with
  | nil => rfl
  | cons entry rest ih =>
    have apart : entry.1 ≠ key ∧ key ∉ keys rest := by simpa [keys, eq_comm] using absent
    rw [put, if_neg apart.1, ih apart.2, List.cons_append]

/-- Pairs with different keys are a dictionary as they stand. -/
theorem ofList_of_nodup {pairs : List (String × α)} (distinct : (keys pairs).Nodup) :
    ofList pairs = pairs := by
  have folded : ∀ (later entries : List (String × α)), (keys (entries ++ later)).Nodup →
      later.foldl (fun entries pair => put pair.1 pair.2 entries) entries = entries ++ later := by
    intro later
    induction later with
    | nil => simp
    | cons pair later ih =>
      intro entries distinct
      have absent : pair.1 ∉ keys entries := by
        simp only [keys, List.map_append, List.map_cons] at distinct
        intro member
        exact (List.nodup_append.mp distinct).2.2 _ member _ List.mem_cons_self rfl
      rw [List.foldl_cons, put_of_absent absent, ih _ (by simpa using distinct)]
      simp
  exact folded pairs [] distinct

theorem mem_of_mem_put {key : String} {value : α} {entry : String × α}
    {entries : List (String × α)} (member : entry ∈ put key value entries) :
    entry = (key, value) ∨ entry ∈ entries := by
  induction entries with
  | nil => exact .inl (List.mem_singleton.mp member)
  | cons other rest ih =>
    rw [put] at member
    split at member
    case isTrue same =>
      rcases List.mem_cons.mp member with rfl | later
      · exact .inl (by rw [same])
      · exact .inr (List.mem_cons_of_mem _ later)
    case isFalse =>
      rcases List.mem_cons.mp member with rfl | later
      · exact .inr List.mem_cons_self
      · exact (ih later).imp_right (List.mem_cons_of_mem _)

theorem mem_of_mem_ofList {entry : String × α} {pairs : List (String × α)}
    (member : entry ∈ ofList pairs) : entry ∈ pairs := by
  have folded : ∀ (later entries : List (String × α)),
      entry ∈ later.foldl (fun entries pair => put pair.1 pair.2 entries) entries →
        entry ∈ entries ∨ entry ∈ later := by
    intro later
    induction later with
    | nil => simp
    | cons pair later ih =>
      intro entries member
      rcases ih _ member with earlier | after
      · rcases mem_of_mem_put earlier with rfl | before
        · exact .inr List.mem_cons_self
        · exact .inl before
      · exact .inr (List.mem_cons_of_mem _ after)
  exact (folded pairs [] member).resolve_left List.not_mem_nil

/-- Putting back what is there changes nothing. -/
theorem put_of_mem {key : String} {value : α} {entries : List (String × α)}
    (distinct : (keys entries).Nodup) (member : (key, value) ∈ entries) :
    put key value entries = entries := by
  induction entries with
  | nil => cases member
  | cons entry rest ih =>
    obtain ⟨fresh, distinct⟩ := List.nodup_cons.mp distinct
    rcases List.mem_cons.mp member with rfl | later
    · exact if_pos rfl
    · have apart : entry.1 ≠ key := fun same => fresh (same ▸ List.mem_map_of_mem later)
      rw [put, if_neg apart, ih distinct later]

end Linkage.Assoc
