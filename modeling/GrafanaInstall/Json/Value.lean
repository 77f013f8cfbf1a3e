import GrafanaInstall.Json

/-!
# Plain values

What a text that has been read comes to as a value. Each part must be readable, an object keeps
the last entry of each key, and values may not lie too deep in one another.
-/

namespace GrafanaInstall.Json

/-- How many arrays and objects may lie in one another. -/
def deepest : Nat := 127

mutual

/-- The plain value of a part that may hold arrays and objects down to a depth. -/
def valueWithin? (depth : Nat) : Json → Option Json
  | .array items =>
    if depth = 0 then none else (itemsWithin? (depth - 1) items).map .array
  | .object entries =>
    if depth = 0 then none else (entriesWithin? (depth - 1) entries).map .ofEntries
  | .unreadable => none
  | value => some value

def itemsWithin? (depth : Nat) : List Json → Option (List Json)
  | [] => some []
  | item :: rest => do return (← valueWithin? depth item) :: (← itemsWithin? depth rest)

def entriesWithin? (depth : Nat) : List (String × Json) → Option (List (String × Json))
  | [] => some []
  | (key, value) :: rest => do
    return (key, ← valueWithin? depth value) :: (← entriesWithin? depth rest)

end

def value? (read : Json) : Option Json := valueWithin? deepest read

/-! ## Lemmas -/

theorem itemsWithin?_of_plain {depth : Nat} {items : List Json}
    (h : ∀ item ∈ items, valueWithin? depth item = some item) :
    itemsWithin? depth items = some items := by
  induction items with
  | nil => rfl
  | cons item rest ih =>
    obtain ⟨hitem, hrest⟩ := List.forall_mem_cons.mp h
    simp [itemsWithin?, hitem, ih hrest]

theorem entriesWithin?_of_plain {depth : Nat} {entries : List (String × Json)}
    (h : ∀ entry ∈ entries, valueWithin? depth entry.2 = some entry.2) :
    entriesWithin? depth entries = some entries := by
  induction entries with
  | nil => rfl
  | cons entry rest ih =>
    obtain ⟨hentry, hrest⟩ := List.forall_mem_cons.mp h
    simp [entriesWithin?, hentry, ih hrest]

mutual

/-- A plain value is its own. -/
theorem valueWithin?_plain {depth : Nat} {value : Json} :
    ∀ {read : Json}, valueWithin? depth read = some value → valueWithin? depth value = some value
  | .null, h | .bool _, h | .int _, h | .decimal _, h | .string _, h => by
    cases h
    rfl
  | .array items, h => by
    unfold valueWithin? at h
    split at h
    · cases h
    · rename_i hdepth
      obtain ⟨values, hvalues, rfl⟩ := Option.map_eq_some_iff.mp h
      rw [valueWithin?, if_neg hdepth, itemsWithin?_of_plain (mem_itemsWithin? hvalues)]
      rfl
  | .object entries, h => by
    unfold valueWithin? at h
    split at h
    · cases h
    · rename_i hdepth
      obtain ⟨values, hvalues, rfl⟩ := Option.map_eq_some_iff.mp h
      have hsorted : ∀ entry ∈ Entries.sort values,
          valueWithin? (depth - 1) entry.2 = some entry.2 :=
        fun entry hmem => mem_entriesWithin? hvalues entry (Entries.mem_of_mem_sort hmem)
      rw [ofEntries, valueWithin?, if_neg hdepth, entriesWithin?_of_plain hsorted,
        Option.map_some, ofEntries, Entries.sort_of_ordered (Entries.ordered_sort _)]
  | .unreadable, h => by cases h

theorem mem_itemsWithin? {depth : Nat} : ∀ {items values : List Json},
    itemsWithin? depth items = some values →
      ∀ value ∈ values, valueWithin? depth value = some value
  | [], _, h => by
    cases h
    simp
  | item :: rest, values, h => by
    simp only [itemsWithin?, Option.bind_eq_bind, Option.bind_eq_some_iff, Option.pure_def,
      Option.some.injEq] at h
    obtain ⟨first, hfirst, others, hothers, rfl⟩ := h
    exact List.forall_mem_cons.mpr ⟨valueWithin?_plain hfirst, mem_itemsWithin? hothers⟩

theorem mem_entriesWithin? {depth : Nat} : ∀ {entries values : List (String × Json)},
    entriesWithin? depth entries = some values →
      ∀ entry ∈ values, valueWithin? depth entry.2 = some entry.2
  | [], _, h => by
    cases h
    simp
  | (key, value) :: rest, values, h => by
    simp only [entriesWithin?, Option.bind_eq_bind, Option.bind_eq_some_iff, Option.pure_def,
      Option.some.injEq] at h
    obtain ⟨first, hfirst, others, hothers, rfl⟩ := h
    exact List.forall_mem_cons.mpr ⟨valueWithin?_plain hfirst, mem_entriesWithin? hothers⟩

end

/-! ## Values of their own -/

/-- A plain value other than null. -/
structure Plain where
  json : Json
  plain : json.value? = some json
  present : json ≠ .null
  deriving DecidableEq

def plain? (read : Json) : Option Plain :=
  match h : read.value? with
  | none => none
  | some value =>
    if present : value = .null then none
    else some ⟨value, valueWithin?_plain h, present⟩

theorem Plain.plain?_json (p : Plain) : p.json.plain? = some p := by
  obtain ⟨json, plain, present⟩ := p
  unfold plain?
  split
  · rename_i h
    cases plain.symm.trans h
  · rename_i h
    cases plain.symm.trans h
    rw [dif_neg present]

end GrafanaInstall.Json
