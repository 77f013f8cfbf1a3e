import GrafanaInstall.Proofs.Store.Sound

/-!
# Calls on sound stores

What each call gives and leaves on a sound store. An apply that finds its object in place changes
nothing, and after an apply the object is in place.
-/

namespace GrafanaInstall

theorem Store.erase_of_absent {store : Store} {key : Key} (h : store.find? key = none) :
    store.erase key = store := by
  refine List.filter_eq_self.mpr fun entry hmem => decide_eq_true fun hkey => ?_
  exact find?_eq_none.mp h (hkey ▸ List.mem_map_of_mem hmem)

/-! ## Overwriting -/

namespace Object

theorem overwrite_metadata (desired observed : Object k) :
    (overwrite desired observed).metadata = observed.metadata := by
  cases k <;> rfl

theorem overwrite_self (desired : Object k) : overwrite desired desired = desired := by
  cases k <;> rfl

theorem overwrite_overwrite (desired observed : Object k) :
    overwrite desired (overwrite desired observed) = overwrite desired observed := by
  cases k <;> rfl

/-- All content is overwritten, unless the writer of that kind sets a status or nothing. -/
theorem overwrite_body (desired observed : Object k) (hobs : k ≠ .observability)
    (hdep : k ≠ .deployment) : (overwrite desired observed).body = desired.body := by
  cases k <;> first | rfl | contradiction

theorem key_overwrite (desired observed : Object k) :
    (overwrite desired observed).key = observed.key := by
  simp only [key, anyName, overwrite_metadata]

end Object

namespace Memory

variable {store : Store} {k : Kind} {desired : Object k}

/-! ## Lists -/

theorem list_of_sound (h : store.Sound) (k : Kind) (ns : String) :
    list k ns store = .ok (store.view k ns) := by
  have readable : ∀ object ∈ store.objects k.name ns, ∃ o, Object.read? k object = some o := by
    intro object hmem
    obtain ⟨entry, hentry, rfl⟩ := List.mem_map.mp hmem
    obtain ⟨hmem, hkey⟩ := List.mem_filter.mp hentry
    have hkind : entry.key.kind = k.name := by simp at hkey; exact hkey.1
    obtain ⟨o, ho, -⟩ := Option.map_eq_some_iff.mp (h.entries entry hmem k k.mem_all hkind)
    exact ⟨o, ho⟩
  rw [list, Store.view]
  generalize store.objects k.name ns = objects at readable
  induction objects with
  | nil => rfl
  | cons object rest ih =>
    obtain ⟨⟨o, ho⟩, hrest⟩ := List.forall_mem_cons.mp readable
    simp only [List.mapM_cons, read, ho, ih hrest, List.filterMap_cons_some ho]
    rfl

/-! ## Applies -/

def applied (desired : Object k) (store : Store) : Store := (apply desired store).2

/-- The stored object is as an apply of the desired one would leave it. -/
def InPlace (desired : Object k) (store : Store) : Prop :=
  ∃ o, store.held k desired.key = some o ∧ desired.overwrite o = o

theorem apply_of_absent (h : store.find? desired.key = none) :
    apply desired store = (.ok .created, store.put desired.key desired.json) := by
  have hfind : store.find? (keyOf k (desired.metadata.ns.getD "") desired.anyName) = none := h
  simp only [apply, hfind, Object.key]

theorem apply_of_held {o : Object k} (h : store.held k desired.key = some o) :
    apply desired store =
      if desired.overwrite o = o then (.ok .unchanged, store)
      else (.ok .updated, store.put desired.key (desired.overwrite o).json) := by
  obtain ⟨object, hfind, hread⟩ := Option.bind_eq_some_iff.mp h
  have hfind' : store.find? (keyOf k (desired.metadata.ns.getD "") desired.anyName) = some object :=
    hfind
  by_cases ho : desired.overwrite o = o <;>
    simp only [apply, hfind', read, hread, Object.mutatedIfChanged_eq, ho, Object.key, if_true,
      if_false]

theorem apply_of_inPlace (h : InPlace desired store) :
    apply desired store = (.ok .unchanged, store) := by
  obtain ⟨o, hheld, ho⟩ := h
  rw [apply_of_held hheld, if_pos ho]

theorem applied_of_inPlace (h : InPlace desired store) : applied desired store = store :=
  congrArg Prod.snd (apply_of_inPlace h)

def made (desired : Object k) (store : Store) : Object k :=
  ((store.held k desired.key).map desired.overwrite).getD desired

theorem apply_of_sound (h : store.Sound) (desired : Object k) :
    ∃ result, apply desired store = (.ok result, applied desired store) ∧
      (InPlace desired store ∨
        applied desired store = store.put desired.key (made desired store).json) := by
  cases hheld : store.held k desired.key with
  | none =>
    have happly := apply_of_absent ((h.held_eq_none rfl).mp hheld)
    refine ⟨.created, by rw [applied, happly], .inr ?_⟩
    rw [applied, happly, made, hheld]
    rfl
  | some o =>
    have happly := apply_of_held hheld
    split at happly
    · rename_i ho
      exact ⟨.unchanged, by rw [applied, happly], .inl ⟨o, hheld, ho⟩⟩
    · refine ⟨.updated, by rw [applied, happly], .inr ?_⟩
      rw [applied, happly, made, hheld]
      rfl

theorem made_of_inPlace (h : InPlace desired store) :
    store.held k desired.key = some (made desired store) := by
  obtain ⟨o, hheld, ho⟩ := h
  rw [made, hheld, Option.map_some, Option.getD_some, ho]

theorem overwrite_made (desired : Object k) (store : Store) :
    desired.overwrite (made desired store) = made desired store := by
  rw [made]
  cases store.held k desired.key with
  | none => exact desired.overwrite_self
  | some o => exact desired.overwrite_overwrite o

theorem key_made (h : store.Sound) (desired : Object k) :
    (made desired store).key = desired.key := by
  rw [made]
  cases hheld : store.held k desired.key with
  | none => rfl
  | some o => exact (desired.key_overwrite o).trans (h.key_of_held hheld rfl)

theorem held_applied (h : store.Sound) (desired : Object k) :
    (applied desired store).held k desired.key = some (made desired store) := by
  obtain ⟨_, -, hplace | hput⟩ := apply_of_sound h desired
  · rw [applied_of_inPlace hplace, made_of_inPlace hplace]
  · rw [hput, Store.held_put]

theorem inPlace_applied (h : store.Sound) (desired : Object k) :
    InPlace desired (applied desired store) :=
  ⟨_, held_applied h desired, overwrite_made desired store⟩

theorem applied_sound (h : store.Sound) (desired : Object k) : (applied desired store).Sound := by
  obtain ⟨_, -, hplace | hput⟩ := apply_of_sound h desired
  · rwa [applied_of_inPlace hplace]
  · rw [hput]
    exact h.put (Entry.sound_of_read (made desired store).read?_json (key_made h desired))

theorem filter_applied (h : store.Sound) (desired : Object k) {p : Key → Bool}
    (hp : p desired.key = false) :
    (applied desired store).filter (p ·.key) = store.filter (p ·.key) := by
  obtain ⟨_, -, hplace | hput⟩ := apply_of_sound h desired
  · rw [applied_of_inPlace hplace]
  · rw [hput, Store.filter_put _ _ hp]

theorem held_applied_of_ne (h : store.Sound) (desired : Object k) {l : Kind} {key : Key}
    (hne : key ≠ desired.key) : (applied desired store).held l key = store.held l key := by
  obtain ⟨_, -, hplace | hput⟩ := apply_of_sound h desired
  · rw [applied_of_inPlace hplace]
  · rw [hput, Store.held_put_of_ne _ _ hne]

theorem find?_apply (store : Store) (desired : Object k) {key : Key} (h : key ≠ desired.key) :
    (apply desired store).2.find? key = store.find? key := by
  have hput (object : Json) : (store.put desired.key object).find? key = store.find? key := by
    rw [Store.find?_put, if_neg h]
  rw [apply]
  split
  · exact hput _
  · split
    · rfl
    · split
      · rfl
      · exact hput _

theorem view_applied (h : store.Sound) (desired : Object k) {l : Kind} (ns : String)
    (hne : k ≠ l) : (applied desired store).view l ns = store.view l ns := by
  obtain ⟨_, -, hplace | hput⟩ := apply_of_sound h desired
  · rw [applied_of_inPlace hplace]
  · rw [hput, Store.view_put _ _ fun hkey => hne (Kind.name_inj.mp hkey.1)]

theorem view_applied_of_nil (h : store.Sound) (desired : Object k)
    (hview : store.view k desired.key.ns = []) :
    (applied desired store).view k desired.key.ns = [desired] := by
  have habsent := (h.held_eq_none rfl).mp (Store.held_of_view_nil h hview desired.anyName)
  rw [applied, apply_of_absent habsent, Store.view_put_of_absent desired habsent, hview,
    List.nil_append]

theorem InPlace.applied {l : Kind} {other : Object l} (hplace : InPlace desired store)
    (h : store.Sound) (hne : desired.key ≠ other.key) : InPlace desired (applied other store) := by
  obtain ⟨o, hheld, ho⟩ := hplace
  exact ⟨o, (held_applied_of_ne h other hne).trans hheld, ho⟩

theorem InPlace.body (hplace : InPlace desired store) (hobs : k ≠ .observability)
    (hdep : k ≠ .deployment) :
    ∃ o, store.held k desired.key = some o ∧ o.body = desired.body := by
  obtain ⟨o, hheld, ho⟩ := hplace
  exact ⟨o, hheld, ho ▸ desired.overwrite_body o hobs hdep⟩

/-! ## Deletes -/

theorem delete_of_held {name : String} {o : Object k}
    (h : store.held k (keyOf k ns name) = some o) :
    delete k ns name store = (.ok (), store.erase (keyOf k ns name)) := by
  obtain ⟨object, hfind, -⟩ := Option.bind_eq_some_iff.mp h
  simp only [delete, hfind]

theorem delete_store (store : Store) (k : Kind) (ns name : String) :
    (delete k ns name store).2 = store.erase (keyOf k ns name) := by
  rw [delete]
  cases hfind : store.find? (keyOf k ns name) with
  | none => exact (Store.erase_of_absent hfind).symm
  | some object => rfl

theorem find?_delete (store : Store) (k : Kind) (ns name : String) (key : Key) :
    (delete k ns name store).2.find? key =
      if key = keyOf k ns name then none else store.find? key := by
  rw [delete_store, Store.find?_erase]

end Memory

end GrafanaInstall
