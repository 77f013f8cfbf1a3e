import GrafanaInstall.Memory
import GrafanaInstall.Proofs.Resource.RoundTrip

/-!
# Sound stores

A store is sound if each key has one entry, and each entry holds an object of the kind that its
key says, under its own name and namespace. A kind that the operator does not know may hold
anything.
-/

namespace GrafanaInstall

/-! ## Kinds and keys -/

theorem Kind.mem_all (k : Kind) : k ∈ Kind.all := by
  cases k <;> decide

theorem Kind.ofName?_name (k : Kind) : Kind.ofName? k.name = some k := by
  cases k <;> rfl

theorem Kind.name_inj {k l : Kind} : k.name = l.name ↔ k = l :=
  ⟨fun h => Option.some.inj (by rw [← k.ofName?_name, h, l.ofName?_name]), congrArg name⟩

theorem Memory.eq_keyOf {key : Key} {k : Kind} {ns name : String} :
    key = keyOf k ns name ↔ key.kind = k.name ∧ key.ns = ns ∧ key.name = name := by
  cases key; simp [keyOf]

theorem Memory.keyOf_ne {k l : Kind} (h : k ≠ l) {ns name other name' : String} :
    keyOf k ns name ≠ keyOf l other name' :=
  fun e => h (Kind.name_inj.mp (congrArg Key.kind e))

def Object.key (o : Object k) : Key :=
  Memory.keyOf k (o.metadata.ns.getD "") o.anyName

/-! ## Soundness -/

def Entry.Sound (entry : Entry) : Prop :=
  ∀ k ∈ Kind.all, entry.key.kind = k.name →
    (Object.read? k entry.object).map Object.key = some entry.key

instance (entry : Entry) : Decidable entry.Sound :=
  inferInstanceAs (Decidable (∀ k ∈ Kind.all, _ → _))

theorem Entry.sound_of_read {o : Object k} {object : Json} {key : Key}
    (h : Object.read? k object = some o) (hkey : o.key = key) : Entry.Sound ⟨key, object⟩ := by
  intro l _ hl
  have hkl : k = l := Kind.name_inj.mp ((congrArg Key.kind hkey).trans hl)
  subst hkl
  simp [h, hkey]

def Object.stored (o : Object k) : Entry := ⟨o.key, o.json⟩

theorem Entry.sound_stored (o : Object k) : Entry.Sound o.stored :=
  sound_of_read o.read?_json rfl

structure Store.Sound (store : Store) : Prop where
  nodup : (store.map (·.key)).Nodup
  entries : ∀ entry ∈ store, entry.Sound

namespace Store

/-- The object under a key, if there is one that can be read. -/
def held (store : Store) (k : Kind) (key : Key) : Option (Object k) :=
  (store.find? key).bind (Object.read? k)

/-- The objects of a kind in a namespace that can be read. -/
def view (store : Store) (k : Kind) (ns : String) : List (Object k) :=
  (store.objects k.name ns).filterMap (Object.read? k)

namespace Sound

theorem put {store : Store} (h : store.Sound) {key : Key} {object : Json}
    (hentry : Entry.Sound ⟨key, object⟩) : (store.put key object).Sound where
  nodup := by
    rw [keys_put]
    split
    · exact h.nodup
    · rename_i hfresh
      refine List.nodup_append.mpr ⟨h.nodup, by simp, ?_⟩
      rintro a ha b hb rfl
      exact hfresh (List.mem_singleton.mp hb ▸ ha)
  entries entry hmem := by
    rcases mem_put hmem with rfl | hmem
    · exact hentry
    · exact h.entries entry hmem

theorem filter {store : Store} (h : store.Sound) (p : Key → Bool) :
    Sound (store.filter (p ·.key)) where
  nodup := h.nodup.sublist (List.filter_sublist.map _)
  entries entry hmem := h.entries entry (List.mem_filter.mp hmem).1

theorem erase {store : Store} (h : store.Sound) (key : Key) : (store.erase key).Sound :=
  h.filter (· ≠ key)

theorem read_of_find {store : Store} (h : store.Sound) {k : Kind} {key : Key} {object : Json}
    (hfind : store.find? key = some object) (hk : key.kind = k.name) :
    ∃ o : Object k, Object.read? k object = some o ∧ o.key = key := by
  obtain ⟨entry, hentry, rfl⟩ := Option.map_eq_some_iff.mp hfind
  have hkey : entry.key = key := by simpa using List.find?_some hentry
  have hread := h.entries entry (List.mem_of_find?_eq_some hentry) k k.mem_all (hkey ▸ hk)
  obtain ⟨o, ho, hokey⟩ := Option.map_eq_some_iff.mp hread
  exact ⟨o, ho, hokey.trans hkey⟩

theorem key_of_held {store : Store} (h : store.Sound) {k : Kind} {key : Key} {o : Object k}
    (hheld : store.held k key = some o) (hk : key.kind = k.name) : o.key = key := by
  obtain ⟨object, hfind, hread⟩ := Option.bind_eq_some_iff.mp hheld
  obtain ⟨p, hp, hkey⟩ := h.read_of_find hfind hk
  rwa [Option.some.inj (hread.symm.trans hp)]

theorem held_eq_none {store : Store} (h : store.Sound) {k : Kind} {key : Key}
    (hk : key.kind = k.name) : store.held k key = none ↔ store.find? key = none := by
  cases hfind : store.find? key with
  | none => simp [held, hfind]
  | some object =>
    obtain ⟨o, ho, -⟩ := h.read_of_find hfind hk
    simp [held, hfind, ho]

end Sound

/-! ## What is held and seen -/

theorem held_of_absent {store : Store} {key : Key} (h : store.find? key = none) :
    store.held k key = none := by
  rw [held, h, Option.bind_none]

theorem held_of_find {store : Store} {key : Key} {object : Json} {o : Object k}
    (hfind : store.find? key = some object) (hread : Object.read? k object = some o) :
    store.held k key = some o := by
  rw [held, hfind, Option.bind_some, hread]

theorem held_put (store : Store) (o : Object k) (key : Key) :
    (store.put key o.json).held k key = some o := by
  simp [held, find?_put, o.read?_json]

theorem held_put_of_ne (store : Store) (object : Json) {key other : Key} (h : other ≠ key) :
    (store.put key object).held k other = store.held k other := by
  simp [held, find?_put, h]

theorem held_erase_of_ne (store : Store) {key other : Key} (h : other ≠ key) :
    (store.erase key).held k other = store.held k other := by
  simp [held, find?_erase, h]

theorem held_erase_self (store : Store) (key : Key) : (store.erase key).held k key = none := by
  simp [held, find?_erase]

theorem view_put (store : Store) {key : Key} (object : Json) {k : Kind} {ns : String}
    (h : ¬(key.kind = k.name ∧ key.ns = ns)) : (store.put key object).view k ns = store.view k ns :=
  congrArg (List.filterMap _) (objects_put store object h)

theorem view_erase (store : Store) {key : Key} {k : Kind} {ns : String}
    (h : ¬(key.kind = k.name ∧ key.ns = ns)) : (store.erase key).view k ns = store.view k ns :=
  congrArg (List.filterMap _) (objects_erase store h)

theorem view_erase_of_ne (store : Store) {k l : Kind} (h : l ≠ k) (ns name other : String) :
    (store.erase (Memory.keyOf l ns name)).view k other = store.view k other :=
  view_erase store fun hkey => h (Kind.name_inj.mp hkey.1)

theorem view_put_of_absent {store : Store} (o : Object k)
    (h : store.find? o.key = none) :
    (store.put o.key o.json).view k o.key.ns = store.view k o.key.ns ++ [o] := by
  rw [put_of_absent _ h]
  simp [view, objects, Object.key, Memory.keyOf, o.read?_json]

theorem view_cons (entry : Entry) (store : Store) (k : Kind) (ns : String) :
    view (entry :: store) k ns =
      if entry.key.kind = k.name ∧ entry.key.ns = ns then
        (Object.read? k entry.object).toList ++ store.view k ns
      else store.view k ns := by
  simp only [view, objects, List.filter_cons, Bool.and_eq_true, decide_eq_true_eq]
  split
  · cases h : Object.read? k entry.object <;> simp [h]
  · rfl

theorem Sound.tail {entry : Entry} {store : Store} (h : Sound (entry :: store)) : store.Sound :=
  ⟨(List.nodup_cons.mp h.nodup).2, fun e he => h.entries e (List.mem_cons_of_mem _ he)⟩

theorem filter_view {store : Store} (h : store.Sound) (k : Kind) (ns name : String) :
    (store.view k ns).filter (·.anyName = name) =
      (store.held k (Memory.keyOf k ns name)).toList := by
  induction store with
  | nil => rfl
  | cons entry rest ih =>
    have fresh : entry.key ∉ rest.map (·.key) := (List.nodup_cons.mp h.nodup).1
    have hread := h.entries entry List.mem_cons_self k k.mem_all
    rw [view_cons, held, find?_cons]
    by_cases hkind : entry.key.kind = k.name ∧ entry.key.ns = ns
    · obtain ⟨o, ho, hkey⟩ := Option.map_eq_some_iff.mp (hread hkind.1)
      have hname : o.anyName = entry.key.name := congrArg Key.name hkey
      rw [if_pos hkind, ho, Option.toList_some, List.singleton_append, List.filter_cons, ih h.tail]
      by_cases hn : entry.key.name = name
      · have here : entry.key = Memory.keyOf k ns name :=
          Memory.eq_keyOf.mpr ⟨hkind.1, hkind.2, hn⟩
        have gone : find? rest (Memory.keyOf k ns name) = none :=
          here ▸ find?_eq_none.mpr fresh
        simp [if_pos here, ho, hname, hn, held, gone]
      · have elsewhere : entry.key ≠ Memory.keyOf k ns name := fun e => hn (congrArg Key.name e)
        simp [hname, hn, elsewhere, held]
    · have elsewhere : entry.key ≠ Memory.keyOf k ns name := fun e =>
        hkind ⟨congrArg Key.kind e, congrArg Key.ns e⟩
      rw [if_neg hkind, if_neg elsewhere, ih h.tail]
      rfl

theorem held_of_view_nil {store : Store} (h : store.Sound) {k : Kind} {ns : String}
    (hview : store.view k ns = []) (name : String) :
    store.held k (Memory.keyOf k ns name) = none := by
  rw [← Option.toList_eq_nil_iff, ← filter_view h, hview, List.filter_nil]

theorem mem_view {store : Store} (h : store.Sound) {k : Kind} {ns : String} {o : Object k} :
    o ∈ store.view k ns ↔ store.held k (Memory.keyOf k ns o.anyName) = some o := by
  rw [← Option.mem_toList, ← filter_view h]
  simp

end Store

end GrafanaInstall
