/-!
# Sorted entries

Values under keys, in the order of the keys, each key once. Equal contents are equal lists.
-/

namespace GrafanaInstall

namespace Entries

/-- The keys stand in order, and none comes twice. -/
def Ordered (entries : List (String × α)) : Prop :=
  entries.Pairwise (·.1 < ·.1)

instance (entries : List (String × α)) : Decidable (Ordered entries) :=
  inferInstanceAs (Decidable (entries.Pairwise (·.1 < ·.1)))

/-- Puts a value at its place in the order, over one of the same key. -/
def insert (key : String) (value : α) : List (String × α) → List (String × α)
  | [] => [(key, value)]
  | (k, v) :: rest =>
    if key = k then (key, value) :: rest
    else if key < k then (key, value) :: (k, v) :: rest
    else (k, v) :: insert key value rest

def erase (key : String) (entries : List (String × α)) : List (String × α) :=
  entries.filter (·.1 ≠ key)

/-- Brings entries in order. Of two with one key the later counts. -/
def sort (entries : List (String × α)) : List (String × α) :=
  entries.foldl (fun sorted (key, value) => insert key value sorted) []

/-! ## Lemmas -/

theorem lookup_cons_ite (key other : String) (value : α) (entries : List (String × α)) :
    List.lookup other ((key, value) :: entries) =
      if other = key then some value else entries.lookup other := by
  by_cases h : other = key
  · simp [h]
  · simp [List.lookup_cons, h, beq_false_of_ne h]

theorem lookup_insert (key other : String) (value : α) (entries : List (String × α)) :
    (insert key value entries).lookup other =
      if other = key then some value else entries.lookup other := by
  induction entries with
  | nil => simp only [insert, lookup_cons_ite]
  | cons entry rest ih =>
    obtain ⟨k, v⟩ := entry
    simp only [insert]
    split
    · subst_vars; simp only [lookup_cons_ite]; split <;> simp_all
    · split
      · simp only [lookup_cons_ite]
      · simp only [lookup_cons_ite, ih]; grind

theorem lookup_erase (key other : String) (entries : List (String × α)) :
    (erase key entries).lookup other = if other = key then none else entries.lookup other := by
  induction entries with
  | nil => simp [erase]
  | cons entry rest ih =>
    obtain ⟨k, v⟩ := entry
    simp only [erase, List.filter_cons] at ih ⊢
    split
    · simp only [lookup_cons_ite, ih]; grind
    · simp only [lookup_cons_ite, ih]; grind

theorem mem_insert {key : String} {value : α} {entry : String × α} {entries : List (String × α)}
    (h : entry ∈ insert key value entries) : entry = (key, value) ∨ entry ∈ entries := by
  induction entries with
  | nil => simpa [insert] using h
  | cons head rest ih =>
    obtain ⟨k, v⟩ := head
    simp only [insert] at h
    split at h
    · simp only [List.mem_cons] at h ⊢; exact h.imp_right .inr
    · split at h
      · simpa using h
      · simp only [List.mem_cons] at h ⊢
        rcases h with h | h
        · exact .inr (.inl h)
        · exact (ih h).imp_right .inr

theorem ordered_insert (key : String) (value : α) {entries : List (String × α)}
    (h : Ordered entries) : Ordered (insert key value entries) := by
  induction entries with
  | nil => simp [insert, Ordered]
  | cons head rest ih =>
    obtain ⟨k, v⟩ := head
    obtain ⟨below, rest_ordered⟩ := List.pairwise_cons.mp h
    simp only [insert]
    split
    · subst_vars; exact List.pairwise_cons.mpr ⟨below, rest_ordered⟩
    · rename_i hne
      split
      · rename_i hlt
        refine List.pairwise_cons.mpr ⟨?_, h⟩
        rintro entry (_ | ⟨_, hmem⟩)
        · exact hlt
        · exact String.lt_trans hlt (below entry hmem)
      · rename_i hge
        refine List.pairwise_cons.mpr ⟨?_, ih rest_ordered⟩
        intro entry hmem
        rcases mem_insert hmem with rfl | hmem
        · exact (Std.lt_trichotomy key k).elim (absurd · hge) (·.elim (absurd · hne) id)
        · exact below entry hmem

theorem ordered_erase (key : String) {entries : List (String × α)} (h : Ordered entries) :
    Ordered (erase key entries) :=
  h.filter _

theorem insert_before (key : String) (value : α) {entries : List (String × α)}
    (h : ∀ entry ∈ entries, key < entry.1) :
    insert key value entries = (key, value) :: entries := by
  cases entries with
  | nil => rfl
  | cons head rest =>
    have hlt := h head List.mem_cons_self
    rw [insert, if_neg (String.ne_of_lt hlt), if_pos hlt]

theorem erase_cons (key k : String) (value : α) (rest : List (String × α)) :
    erase key ((k, value) :: rest) =
      if k = key then erase key rest else (k, value) :: erase key rest := by
  by_cases h : k = key <;> simp [erase, h]

/-- What is put under one key is not touched by an erasure of another. -/
theorem erase_insert {key other : String} (h : key ≠ other) (value : α)
    {entries : List (String × α)} (hordered : Ordered entries) :
    erase other (insert key value entries) = insert key value (erase other entries) := by
  induction entries with
  | nil => simp [erase, insert, h]
  | cons head rest ih =>
    obtain ⟨k, v⟩ := head
    obtain ⟨below, hrest⟩ := List.pairwise_cons.mp hordered
    by_cases hk : key = k
    · subst hk
      rw [insert, if_pos rfl, erase_cons, erase_cons, if_neg h, if_neg h, insert, if_pos rfl]
    · by_cases hlt : key < k
      · have habove : ∀ entry ∈ erase other ((k, v) :: rest), key < entry.1 := by
          intro entry hmem
          rcases List.mem_cons.mp (List.mem_filter.mp hmem).1 with rfl | hmem
          · exact hlt
          · exact String.lt_trans hlt (below entry hmem)
        rw [insert_before key value habove, insert, if_neg hk, if_pos hlt, erase_cons, if_neg h]
      · rw [insert, if_neg hk, if_neg hlt, erase_cons, erase_cons, ih hrest]
        split
        · rfl
        · rw [insert, if_neg hk, if_neg hlt]

theorem Ordered.nodup {entries : List (String × α)} (h : Ordered entries) :
    (entries.map Prod.fst).Nodup :=
  List.pairwise_map.mpr (h.imp fun hlt => String.ne_of_lt hlt)

theorem lookup_of_fresh {entries : List (String × α)} {key : String}
    (h : key ∉ entries.map Prod.fst) : entries.lookup key = none := by
  rw [List.lookup_eq_none_iff]
  intro entry hmem
  simp only [bne_iff_ne]
  rintro rfl
  exact h (List.mem_map.mpr ⟨entry, hmem, rfl⟩)

/-- Under different keys, a key has no entry but the one that is found under it. -/
theorem filter_key {entries : List (String × α)} (h : (entries.map Prod.fst).Nodup)
    (key : String) :
    entries.filter (·.1 = key) = ((entries.lookup key).map (key, ·)).toList := by
  induction entries with
  | nil => rfl
  | cons head rest ih =>
    obtain ⟨k, v⟩ := head
    obtain ⟨fresh, rest_nodup⟩ := List.nodup_cons.mp h
    rw [lookup_cons_ite, List.filter_cons, ih rest_nodup]
    by_cases hk : key = k
    · subst hk
      simp [lookup_of_fresh fresh]
    · simp [hk, Ne.symm hk]

theorem mem_of_lookup {entries : List (String × α)} {key : String} {value : α}
    (h : entries.lookup key = some value) : (key, value) ∈ entries := by
  obtain ⟨before, after, rfl, -⟩ := List.lookup_eq_some_iff.mp h
  exact List.mem_append_right _ List.mem_cons_self

theorem lookup_of_mem {entries : List (String × α)} (h : (entries.map Prod.fst).Nodup)
    {key : String} {value : α} (hmem : (key, value) ∈ entries) :
    entries.lookup key = some value := by
  have hfilter : (key, value) ∈ entries.filter (·.1 = key) :=
    List.mem_filter.mpr ⟨hmem, decide_eq_true rfl⟩
  rw [filter_key h] at hfilter
  simpa using hfilter

/-- Entries under different keys are found in order as they were before. -/
theorem lookup_sort {entries : List (String × α)} (h : (entries.map Prod.fst).Nodup)
    (key : String) : (sort entries).lookup key = entries.lookup key := by
  suffices ∀ sorted : List (String × α),
      (entries.foldl (fun sorted (key, value) => insert key value sorted) sorted).lookup key =
        (entries.lookup key).or (sorted.lookup key) from
    (this []).trans (by simp)
  induction entries with
  | nil => simp
  | cons entry rest ih =>
    obtain ⟨k, v⟩ := entry
    obtain ⟨fresh, rest_nodup⟩ := List.nodup_cons.mp h
    intro sorted
    rw [List.foldl_cons, ih rest_nodup, lookup_insert, lookup_cons_ite]
    by_cases hk : key = k
    · subst hk
      simp [lookup_of_fresh fresh]
    · simp [hk]

theorem ordered_sort (entries : List (String × α)) : Ordered (sort entries) := by
  suffices ∀ sorted : List (String × α), Ordered sorted →
      Ordered (entries.foldl (fun sorted (key, value) => insert key value sorted) sorted) from
    this [] .nil
  induction entries with
  | nil => exact fun _ h => h
  | cons entry rest ih => exact fun sorted h => ih _ (ordered_insert _ _ h)

theorem mem_of_mem_sort {entries : List (String × α)} {entry : String × α}
    (h : entry ∈ sort entries) : entry ∈ entries := by
  suffices ∀ sorted : List (String × α),
      entry ∈ entries.foldl (fun sorted (key, value) => insert key value sorted) sorted →
        entry ∈ sorted ∨ entry ∈ entries from
    (this [] h).resolve_left List.not_mem_nil
  clear h
  induction entries with
  | nil => exact fun _ h => .inl h
  | cons head rest ih =>
    intro sorted h
    rcases ih _ h with hsorted | hrest
    · rcases mem_insert hsorted with rfl | hsorted
      · exact .inr List.mem_cons_self
      · exact .inl hsorted
    · exact .inr (List.mem_cons_of_mem _ hrest)

theorem insert_after (key : String) (value : α) {entries : List (String × α)}
    (h : ∀ entry ∈ entries, entry.1 < key) :
    insert key value entries = entries ++ [(key, value)] := by
  induction entries with
  | nil => rfl
  | cons head rest ih =>
    obtain ⟨k, v⟩ := head
    obtain ⟨hk, h⟩ := List.forall_mem_cons.mp h
    have hne : key ≠ k := fun e => String.lt_irrefl k (e ▸ hk)
    rw [insert, if_neg hne, if_neg (String.lt_asymm hk), ih h, List.cons_append]

theorem sort_of_ordered {entries : List (String × α)} (h : Ordered entries) :
    sort entries = entries := by
  suffices ∀ sorted : List (String × α), Ordered (sorted ++ entries) →
      entries.foldl (fun sorted (key, value) => insert key value sorted) sorted =
        sorted ++ entries from
    this [] h
  clear h
  induction entries with
  | nil => simp
  | cons entry rest ih =>
    obtain ⟨k, v⟩ := entry
    intro sorted h
    have below : ∀ other ∈ sorted, other.1 < k := fun other hmem =>
      (List.pairwise_append.mp h).2.2 other hmem (k, v) List.mem_cons_self
    show List.foldl _ (insert k v sorted) rest = _
    rw [insert_after k v below, ih _ (by simpa using h)]
    simp

end Entries

/-! ## Dictionaries -/

/-- Entries under any keys, in the order of the keys, each key once. -/
structure Dictionary (α : Type) where
  entries : List (String × α)
  ordered : Entries.Ordered entries
  deriving DecidableEq

namespace Dictionary

/-- Brings entries in order. Of two with one key the later counts. -/
def ofEntries (entries : List (String × α)) : Dictionary α :=
  ⟨Entries.sort entries, Entries.ordered_sort entries⟩

theorem ofEntries_entries (dictionary : Dictionary α) :
    ofEntries dictionary.entries = dictionary := by
  obtain ⟨entries, ordered⟩ := dictionary
  simp only [ofEntries, Entries.sort_of_ordered ordered]

end Dictionary

end GrafanaInstall
