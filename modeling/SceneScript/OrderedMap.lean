/-! # Insertion-ordered maps

A finite map that remembers the order in which its keys first appeared. Writing to a key that is
present keeps its position and replaces its value.

* `OrderedMap.insert`, `OrderedMap.erase`, `OrderedMap.modifyD` — updates;
* `OrderedMap.get?`, `OrderedMap.keys`, `OrderedMap.values` — views;
* `OrderedMap.filterMap` — keep and change some of the values in place.

The laws `get?_insert`, `keys_insert`, `get?_erase`, `keys_erase` and `get?_filterMap` say what an
update does to the views; `ofList_entries` says that a map is made of its entries, and `get?_ofList`
which of several entries with one key counts.
-/

namespace SceneScript

universe u v w

structure OrderedMap (κ : Type u) (α : Type v) where
  entries : List (κ × α) := []
  deriving Repr, BEq, DecidableEq

namespace OrderedMap

variable {κ : Type u} {α : Type v} {β : Type w}

instance : Inhabited (OrderedMap κ α) := ⟨⟨[]⟩⟩
instance : EmptyCollection (OrderedMap κ α) := ⟨⟨[]⟩⟩

def keys (m : OrderedMap κ α) : List κ := m.entries.map (·.1)

def values (m : OrderedMap κ α) : List α := m.entries.map (·.2)

def size (m : OrderedMap κ α) : Nat := m.entries.length

def isEmpty (m : OrderedMap κ α) : Bool := m.entries.isEmpty

def mapValues (f : α → β) (m : OrderedMap κ α) : OrderedMap κ β :=
  ⟨m.entries.map fun (k, a) => (k, f a)⟩

/-- Changes every value, dropping the keys for which nothing is left. -/
def filterMap (f : κ → α → Option β) (m : OrderedMap κ α) : OrderedMap κ β :=
  ⟨m.entries.filterMap fun (k, a) => (f k a).map (k, ·)⟩

variable [DecidableEq κ]

def get? (m : OrderedMap κ α) (key : κ) : Option α :=
  (m.entries.find? (·.1 = key)).map (·.2)

def contains (m : OrderedMap κ α) (key : κ) : Bool := (m.get? key).isSome

def insertIn (key : κ) (value : α) : List (κ × α) → List (κ × α)
  | [] => [(key, value)]
  | (k, a) :: rest => if k = key then (k, value) :: rest else (k, a) :: insertIn key value rest

def insert (m : OrderedMap κ α) (key : κ) (value : α) : OrderedMap κ α :=
  ⟨insertIn key value m.entries⟩

def erase (m : OrderedMap κ α) (key : κ) : OrderedMap κ α :=
  ⟨m.entries.filter (·.1 ≠ key)⟩

/-- Applies `f` to the value of `key`, or to `fresh` where the key is new. -/
def modifyD (m : OrderedMap κ α) (key : κ) (fresh : α) (f : α → α) : OrderedMap κ α :=
  m.insert key (f ((m.get? key).getD fresh))

def ofList (entries : List (κ × α)) : OrderedMap κ α :=
  entries.foldl (fun m (k, a) => m.insert k a) ∅

/-- The keys of `other` take its values, after those of `m`. -/
def merge (m other : OrderedMap κ α) : OrderedMap κ α :=
  other.entries.foldl (fun m (k, a) => m.insert k a) m

/-! ## The views of one map -/

omit [DecidableEq κ] in
theorem size_eq_length_keys (m : OrderedMap κ α) : m.size = m.keys.length := by
  simp [size, keys]

theorem get?_cons (k key : κ) (a : α) (rest : List (κ × α)) :
    get? ⟨(k, a) :: rest⟩ key = if k = key then some a else get? ⟨rest⟩ key := by
  by_cases here : k = key <;> simp [get?, here]

theorem get?_eq_none_iff {m : OrderedMap κ α} {key : κ} : m.get? key = none ↔ key ∉ m.keys := by
  simp only [get?, keys, Option.map_eq_none_iff, List.find?_eq_none, List.mem_map]
  grind

theorem isSome_get?_iff {m : OrderedMap κ α} {key : κ} :
    (m.get? key).isSome ↔ key ∈ m.keys := by
  rw [← Decidable.not_iff_not, ← get?_eq_none_iff]
  simp

theorem get?_eq_some_iff {m : OrderedMap κ α} (distinct : m.keys.Nodup) {key : κ} {value : α} :
    m.get? key = some value ↔ (key, value) ∈ m.entries := by
  obtain ⟨entries⟩ := m
  induction entries with
  | nil => simp [get?]
  | cons entry rest ih =>
    obtain ⟨k, a⟩ := entry
    obtain ⟨absent, distinct⟩ := List.nodup_cons.1 distinct
    rw [get?_cons, List.mem_cons, ← ih distinct]
    by_cases here : k = key
    · subst here
      have gone : get? ⟨rest⟩ k = none := get?_eq_none_iff.2 absent
      simp [gone, eq_comm]
    · simp [here, Ne.symm here]

theorem filter_entries_key {m : OrderedMap κ α} (distinct : m.keys.Nodup) (key : κ) :
    m.entries.filter (·.1 = key) = ((m.get? key).map (key, ·)).toList := by
  obtain ⟨entries⟩ := m
  induction entries with
  | nil => rfl
  | cons entry rest ih =>
    obtain ⟨k, a⟩ := entry
    obtain ⟨absent, distinct⟩ := List.nodup_cons.1 distinct
    have rest_eq := ih distinct
    by_cases here : k = key
    · subst here
      rw [get?_eq_none_iff.2 absent] at rest_eq
      rw [List.filter_cons_of_pos (by simp), get?_cons, if_pos rfl]
      simpa using rest_eq
    · rw [List.filter_cons_of_neg (by simpa using here), get?_cons, if_neg here]
      exact rest_eq

/-! ## Views after an update -/

omit [DecidableEq κ] in
@[simp] theorem keys_empty : (∅ : OrderedMap κ α).keys = [] := rfl

@[simp] theorem get?_empty {key : κ} : (∅ : OrderedMap κ α).get? key = none := rfl

theorem get?_insert (m : OrderedMap κ α) (key other : κ) (value : α) :
    (m.insert key value).get? other = if key = other then some value else m.get? other := by
  obtain ⟨entries⟩ := m
  simp only [get?, insert]
  induction entries with
  | nil => by_cases same : key = other <;> simp [insertIn, same]
  | cons entry rest ih =>
    obtain ⟨k, a⟩ := entry
    unfold insertIn
    by_cases here : k = key
    · subst here
      by_cases same : k = other <;> simp [same]
    · by_cases same : k = other
      · subst same
        simp [here, Ne.symm here]
      · simp [here, same, ih]

/-- What is found after an insertion is what was inserted, or it was there before. -/
theorem eq_or_get?_of_insert {m : OrderedMap κ α} {key other : κ} {value found : α}
    (there : (m.insert key value).get? other = some found) :
    (key = other ∧ value = found) ∨ m.get? other = some found := by
  rw [get?_insert] at there
  split at there
  next same => exact .inl ⟨same, Option.some.inj there⟩
  next => exact .inr there

theorem keys_insert (m : OrderedMap κ α) (key : κ) (value : α) :
    (m.insert key value).keys = if key ∈ m.keys then m.keys else m.keys ++ [key] := by
  obtain ⟨entries⟩ := m
  simp only [keys, insert]
  induction entries with
  | nil => simp [insertIn]
  | cons entry rest ih =>
    obtain ⟨k, a⟩ := entry
    unfold insertIn
    by_cases here : k = key
    · simp [here]
    · by_cases later : key ∈ rest.map (·.1)
      · simp [here, Ne.symm here, ih, later]
      · simp [here, Ne.symm here, ih, later]

theorem nodup_keys_insert {m : OrderedMap κ α} (distinct : m.keys.Nodup) (key : κ) (value : α) :
    (m.insert key value).keys.Nodup := by
  rw [keys_insert]
  split
  · exact distinct
  · simp only [List.nodup_append, distinct, true_and]
    simp only [List.mem_singleton]
    refine ⟨by simp, ?_⟩
    rintro k member _ rfl rfl
    contradiction

theorem entries_insert_of_notMem {m : OrderedMap κ α} {key : κ} (absent : key ∉ m.keys)
    (value : α) : (m.insert key value).entries = m.entries ++ [(key, value)] := by
  obtain ⟨entries⟩ := m
  simp only [insert, keys] at *
  induction entries with
  | nil => rfl
  | cons entry rest ih =>
    obtain ⟨k, a⟩ := entry
    simp only [List.map_cons, List.mem_cons, not_or] at absent
    simp [insertIn, Ne.symm absent.1, ih absent.2]

theorem eq_or_mem_of_mem_insert {m : OrderedMap κ α} {key : κ} {value : α} {entry : κ × α}
    (member : entry ∈ (m.insert key value).entries) :
    entry = (key, value) ∨ entry ∈ m.entries := by
  obtain ⟨entries⟩ := m
  simp only [insert] at *
  induction entries with
  | nil => exact .inl (List.mem_singleton.1 member)
  | cons first rest ih =>
    obtain ⟨k, a⟩ := first
    unfold insertIn at member
    split at member
    next here =>
      rcases List.mem_cons.1 member with rfl | later
      · exact .inl (by rw [here])
      · exact .inr (List.mem_cons_of_mem _ later)
    next =>
      rcases List.mem_cons.1 member with rfl | later
      · exact .inr List.mem_cons_self
      · exact (ih later).imp_right (List.mem_cons_of_mem _)

/-- Of two writes to one key the second one counts. -/
theorem insert_insert (m : OrderedMap κ α) (key : κ) (value later : α) :
    (m.insert key value).insert key later = m.insert key later := by
  obtain ⟨entries⟩ := m
  simp only [insert, mk.injEq]
  induction entries with
  | nil => simp [insertIn]
  | cons entry rest ih =>
    obtain ⟨k, a⟩ := entry
    by_cases here : k = key <;> simp [insertIn, here, ih]

theorem insert_of_get? {m : OrderedMap κ α} {key : κ} {value : α}
    (found : m.get? key = some value) : m.insert key value = m := by
  obtain ⟨entries⟩ := m
  refine congrArg OrderedMap.mk (?_ : insertIn key value entries = entries)
  induction entries with
  | nil => simp [get?] at found
  | cons entry rest ih =>
    obtain ⟨k, a⟩ := entry
    rw [get?_cons] at found
    rw [insertIn]
    split
    next same =>
      rw [if_pos same] at found
      rw [Option.some.inj found]
    next other =>
      rw [if_neg other] at found
      rw [ih found]

theorem erase_insert_of_notMem {m : OrderedMap κ α} {key : κ} (absent : key ∉ m.keys)
    (value : α) : (m.insert key value).erase key = m := by
  have kept : m.entries.filter (·.1 ≠ key) = m.entries := by
    rw [List.filter_eq_self]
    intro entry member
    simp only [ne_eq, decide_eq_true_eq]
    rintro rfl
    exact absent (List.mem_map_of_mem member)
  rw [erase, entries_insert_of_notMem absent, List.filter_append, kept]
  simp

theorem get?_erase (m : OrderedMap κ α) (key other : κ) :
    (m.erase key).get? other = if key = other then none else m.get? other := by
  obtain ⟨entries⟩ := m
  simp only [erase]
  induction entries with
  | nil => simp [get?]
  | cons entry rest ih =>
    obtain ⟨k, a⟩ := entry
    by_cases here : k = key
    · subst here
      rw [List.filter_cons_of_neg (by simp), ih, get?_cons]
      split <;> rfl
    · rw [List.filter_cons_of_pos (by simpa using here), get?_cons, get?_cons, ih]
      by_cases same : k = other
      · subst same
        simp [Ne.symm here]
      · simp [same]

theorem get?_of_erase {m : OrderedMap κ α} {key other : κ} {found : α}
    (there : (m.erase key).get? other = some found) : m.get? other = some found := by
  rw [get?_erase] at there
  split at there
  · cases there
  · exact there

theorem keys_erase (m : OrderedMap κ α) (key : κ) :
    (m.erase key).keys = m.keys.filter (· ≠ key) := by
  simp [keys, erase, List.filter_map, Function.comp_def]

theorem nodup_keys_erase {m : OrderedMap κ α} (distinct : m.keys.Nodup) (key : κ) :
    (m.erase key).keys.Nodup := by
  rw [keys_erase]
  exact distinct.filter _

theorem size_erase_of_mem {m : OrderedMap κ α} (distinct : m.keys.Nodup) {key : κ}
    (present : key ∈ m.keys) : (m.erase key).size = m.size - 1 := by
  have erased : m.keys.filter (· ≠ key) = m.keys.erase key := by
    rw [distinct.erase_eq_filter]
    exact List.filter_congr fun other _ => by grind
  rw [size_eq_length_keys, keys_erase, erased, List.length_erase_of_mem present,
    ← size_eq_length_keys]

/-! ## One map after another -/

theorem nodup_keys_merge {m : OrderedMap κ α} (distinct : m.keys.Nodup) (other : OrderedMap κ α) :
    (m.merge other).keys.Nodup := by
  obtain ⟨entries⟩ := other
  unfold merge
  induction entries generalizing m with
  | nil => exact distinct
  | cons entry rest ih => exact ih (nodup_keys_insert distinct _ _)

theorem mem_or_mem_of_mem_merge {m other : OrderedMap κ α} {entry : κ × α}
    (member : entry ∈ (m.merge other).entries) : entry ∈ m.entries ∨ entry ∈ other.entries := by
  obtain ⟨entries⟩ := other
  unfold merge at member
  induction entries generalizing m with
  | nil => exact .inl member
  | cons first rest ih =>
    rcases ih member with before | later
    · rcases eq_or_mem_of_mem_insert before with rfl | earlier
      · exact .inr List.mem_cons_self
      · exact .inl earlier
    · exact .inr (List.mem_cons_of_mem _ later)

/-- New keys come after the old ones, in their order. -/
theorem entries_merge {m other : OrderedMap κ α} (distinct : (m.keys ++ other.keys).Nodup) :
    (m.merge other).entries = m.entries ++ other.entries := by
  obtain ⟨entries⟩ := other
  unfold merge
  induction entries generalizing m with
  | nil => simp
  | cons entry rest ih =>
    obtain ⟨k, a⟩ := entry
    have absent : k ∉ m.keys := fun member =>
      (List.nodup_append.1 distinct).2.2 k member k List.mem_cons_self rfl
    have inserted : (m.insert k a).keys = m.keys ++ [k] := by
      rw [keys_insert, if_neg absent]
    have still : ((m.insert k a).keys ++ keys ⟨rest⟩).Nodup := by
      rw [inserted, List.append_assoc]
      exact distinct
    rw [List.foldl_cons, ih still, entries_insert_of_notMem absent, List.append_assoc]
    rfl

theorem nodup_keys_ofList (entries : List (κ × α)) : (ofList entries).keys.Nodup :=
  nodup_keys_merge (m := ∅) List.nodup_nil ⟨entries⟩

theorem mem_of_mem_ofList {entries : List (κ × α)} {entry : κ × α}
    (member : entry ∈ (ofList entries).entries) : entry ∈ entries :=
  (mem_or_mem_of_mem_merge (m := ∅) member).resolve_left List.not_mem_nil

theorem ofList_entries {m : OrderedMap κ α} (distinct : m.keys.Nodup) :
    ofList m.entries = m :=
  congrArg mk (entries_merge (m := ∅) distinct)

theorem get?_merge (m other : OrderedMap κ α) (key : κ) :
    (m.merge other).get? key =
      ((other.entries.reverse.find? (·.1 = key)).map (·.2)).or (m.get? key) := by
  obtain ⟨entries⟩ := other
  unfold merge
  induction entries generalizing m with
  | nil => rfl
  | cons entry rest ih =>
    obtain ⟨k, a⟩ := entry
    rw [List.foldl_cons, ih, get?_insert, List.reverse_cons, List.find?_append]
    cases rest.reverse.find? (·.1 = key) with
    | some found => rfl
    | none => by_cases here : k = key <;> simp [here]

theorem get?_merge_of_nodup (m : OrderedMap κ α) {other : OrderedMap κ α}
    (distinct : other.keys.Nodup) (key : κ) :
    (m.merge other).get? key = (other.get? key).or (m.get? key) := by
  have own := get?_merge ∅ other key
  rw [show (∅ : OrderedMap κ α).merge other = other from ofList_entries distinct, get?_empty,
    Option.or_none] at own
  rw [get?_merge, own]

/-- Of several writes to one key the last one counts. -/
theorem get?_ofList {entries : List (κ × α)} {key : κ} {value : α} :
    (ofList entries).get? key = some value ↔
      ∃ before after, entries = before ++ (key, value) :: after ∧
        ∀ later ∈ after, later.1 ≠ key := by
  have found : (ofList entries).get? key = (entries.reverse.find? (·.1 = key)).map (·.2) :=
    (get?_merge ∅ ⟨entries⟩ key).trans (by simp)
  rw [found, Option.map_eq_some_iff]
  constructor
  · rintro ⟨⟨k, a⟩, last, rfl⟩
    obtain ⟨same, after, before, split, others⟩ := List.find?_eq_some_iff_append.mp last
    have here : k = key := by simpa using same
    subst here
    refine ⟨before.reverse, after.reverse, ?_, fun later member => ?_⟩
    · rw [← List.reverse_reverse entries, split]
      simp
    · simpa using others later (List.mem_reverse.mp member)
  · rintro ⟨before, after, rfl, others⟩
    refine ⟨(key, value), List.find?_eq_some_iff_append.mpr ⟨by simp, ?_⟩, rfl⟩
    exact ⟨after.reverse, before.reverse, by simp, fun later member => by
      simpa using others later (List.mem_reverse.mp member)⟩

/-! ## Some of the values -/

omit [DecidableEq κ] in
theorem keys_filterMap_sublist (f : κ → α → Option β) (m : OrderedMap κ α) :
    (m.filterMap f).keys.Sublist m.keys := by
  obtain ⟨entries⟩ := m
  simp only [keys, filterMap]
  induction entries with
  | nil => simp
  | cons entry rest ih =>
    obtain ⟨k, a⟩ := entry
    cases kept : f k a with
    | none => simpa [kept] using ih.cons k
    | some b => simpa [kept] using ih.cons_cons k

/-- With a key twice, the second value could come to light when the first is dropped. -/
theorem get?_filterMap {m : OrderedMap κ α} (distinct : m.keys.Nodup) (f : κ → α → Option β)
    (key : κ) : (m.filterMap f).get? key = (m.get? key).bind (f key) := by
  obtain ⟨entries⟩ := m
  induction entries with
  | nil => rfl
  | cons entry rest ih =>
    obtain ⟨k, a⟩ := entry
    obtain ⟨absent, distinct⟩ := List.nodup_cons.1 distinct
    have rest_eq := ih distinct
    simp only [filterMap] at rest_eq
    rw [get?_cons]
    by_cases here : k = key
    · subst here
      have gone : get? ⟨rest⟩ k = none := get?_eq_none_iff.2 absent
      rw [gone] at rest_eq
      cases kept : f k a <;> simp [filterMap, kept, get?_cons, rest_eq]
    · cases kept : f k a <;> simp [filterMap, kept, get?_cons, here, rest_eq]

end OrderedMap

end SceneScript
