import GrafanaInstall.Json.MergePatch

/-!
# What a merge patch does

Key by key: an entry of the patch decides what becomes of the entry of that key, and every other
entry stays.
-/

namespace GrafanaInstall.Json

/-- What an entry of a patch, if there is one, makes of what was there. -/
def patched (before : Option Json) : Option Json → Option Json
  | none => before
  | some .null => none
  | some value => some (mergePatch (before.getD .null) value)

/-- The entries after the first entry of a patch. -/
def mergeEntry (target : List (String × Json)) (key : String) : Json → List (String × Json)
  | .null => Entries.erase key target
  | value => Entries.insert key (mergePatch ((target.lookup key).getD .null) value) target

variable {target patch : List (String × Json)}

theorem mergeEntries_cons (target rest : List (String × Json)) (key : String) (value : Json) :
    mergeEntries target ((key, value) :: rest) =
      mergeEntries (mergeEntry target key value) rest := by
  cases value <;> rw [mergeEntries, mergeEntry] <;> exact Json.noConfusion

theorem lookup_mergeEntry (target : List (String × Json)) (key other : String) (value : Json) :
    (mergeEntry target key value).lookup other =
      if other = key then patched (target.lookup key) (some value) else target.lookup other := by
  cases value with
  | null => exact Entries.lookup_erase key other target
  | bool | int | decimal | string | array | object | unreadable =>
    exact Entries.lookup_insert key other _ target

theorem ordered_mergeEntry (key : String) (value : Json) (h : Entries.Ordered target) :
    Entries.Ordered (mergeEntry target key value) := by
  cases value with
  | null => exact Entries.ordered_erase key h
  | bool | int | decimal | string | array | object | unreadable =>
    exact Entries.ordered_insert key _ h

theorem lookup_mergeEntries (h : (patch.map Prod.fst).Nodup) (target : List (String × Json))
    (key : String) :
    (mergeEntries target patch).lookup key = patched (target.lookup key) (patch.lookup key) := by
  induction patch generalizing target with
  | nil => rw [mergeEntries]; rfl
  | cons entry rest ih =>
    obtain ⟨k, value⟩ := entry
    obtain ⟨hfresh, hrest⟩ := List.nodup_cons.mp h
    rw [mergeEntries_cons, ih hrest, lookup_mergeEntry, Entries.lookup_cons_ite]
    by_cases hkey : key = k
    · subst hkey
      rw [Entries.lookup_of_fresh hfresh, if_pos rfl, if_pos rfl]
      rfl
    · rw [if_neg hkey, if_neg hkey]

theorem ordered_mergeEntries (patch : List (String × Json)) (h : Entries.Ordered target) :
    Entries.Ordered (mergeEntries target patch) := by
  induction patch generalizing target with
  | nil => rwa [mergeEntries]
  | cons entry rest ih =>
    rw [mergeEntries_cons]
    exact ih (ordered_mergeEntry entry.1 entry.2 h)

theorem ordered_mergePatch {value : Json} (patch : Json) (h : Entries.Ordered value.entries) :
    Entries.Ordered (value.mergePatch patch).entries := by
  cases patch with
  | object patch =>
    rw [mergePatch]
    exact ordered_mergeEntries patch h
  | null | bool | int | decimal | string | array | unreadable => exact .nil

theorem ordered_patched {before : Option Json} (change : Json)
    (h : Entries.Ordered (before.getD .null).entries) :
    Entries.Ordered ((patched before (some change)).getD .null).entries := by
  cases change with
  | null => exact .nil
  | object | bool | int | decimal | string | array | unreadable => exact ordered_mergePatch _ h

end GrafanaInstall.Json
