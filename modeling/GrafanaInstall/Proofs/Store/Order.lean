import GrafanaInstall.Proofs.Store.Calls

/-!
# Reordered stores

Two stores with the same entries in another order hold the same under every key, and what is written
to both leaves both with the same entries. They differ only in the order of what they list.
-/

namespace GrafanaInstall

open Memory

variable {store other : Store}

namespace Store

theorem nodup_perm (h : store.Perm other) (hnodup : (store.map (·.key)).Nodup) :
    (other.map (·.key)).Nodup :=
  (h.map _).nodup_iff.mp hnodup

theorem Sound.perm (hsound : store.Sound) (h : store.Perm other) : other.Sound where
  nodup := nodup_perm h hsound.nodup
  entries entry hmem := hsound.entries entry (h.mem_iff.mpr hmem)

theorem find?_perm (h : store.Perm other) (hnodup : (store.map (·.key)).Nodup) (key : Key) :
    store.find? key = other.find? key := by
  induction h with
  | nil => rfl
  | cons entry _ ih => rw [find?_cons, find?_cons, ih (List.nodup_cons.mp hnodup).2]
  | swap a b rest =>
    have hne : b.key ≠ a.key := fun hkey => by simp [hkey] at hnodup
    rw [find?_cons, find?_cons, find?_cons, find?_cons]
    by_cases ha : a.key = key
    · rw [if_neg (ha ▸ hne), if_pos ha, if_pos ha]
    · rw [if_neg ha, if_neg ha]
  | trans first _ ih ih' => exact (ih hnodup).trans (ih' (nodup_perm first hnodup))

theorem held_perm (h : store.Perm other) (hsound : store.Sound) (k : Kind) (key : Key) :
    store.held k key = other.held k key := by
  rw [held, held, find?_perm h hsound.nodup]

theorem view_perm (h : store.Perm other) (k : Kind) (ns : String) :
    (store.view k ns).Perm (other.view k ns) :=
  ((h.filter _).map _).filterMap _

theorem erase_perm (h : store.Perm other) (key : Key) : (store.erase key).Perm (other.erase key) :=
  h.filter _

/-- An object takes the place of the one that had its key. -/
theorem put_perm_cons (hnodup : (store.map (·.key)).Nodup) (key : Key) (object : Json) :
    (store.put key object).Perm (⟨key, object⟩ :: store.erase key) := by
  induction store with
  | nil => exact .refl _
  | cons entry rest ih =>
    obtain ⟨hfresh, hrest⟩ := List.nodup_cons.mp hnodup
    rw [put]
    split
    · rename_i hkey
      have hgone : erase (entry :: rest) key = rest := by
        rw [← hkey]
        refine (List.filter_cons_of_neg (by simp)).trans ?_
        exact erase_of_absent (find?_eq_none.mpr hfresh)
      rw [hgone]
    · rename_i hkey
      have hkept : erase (entry :: rest) key = entry :: erase rest key :=
        List.filter_cons_of_pos (decide_eq_true hkey)
      rw [hkept]
      exact ((ih hrest).cons entry).trans (.swap ..)

theorem put_perm (h : store.Perm other) (hnodup : (store.map (·.key)).Nodup) (key : Key)
    (object : Json) : (store.put key object).Perm (other.put key object) :=
  (put_perm_cons hnodup key object).trans <| ((erase_perm h key).cons _).trans <|
    (put_perm_cons (nodup_perm h hnodup) key object).symm

end Store

namespace Memory

theorem applied_perm (h : store.Perm other) (hnodup : (store.map (·.key)).Nodup)
    (desired : Object k) : (applied desired store).Perm (applied desired other) := by
  rw [applied, applied, apply, apply, Store.find?_perm h hnodup]
  cases other.find? (keyOf k (desired.metadata.ns.getD "") desired.anyName) with
  | none => exact Store.put_perm h hnodup ..
  | some object =>
    cases hread : read k object with
    | error error =>
      simp only [hread]
      exact h
    | ok observed =>
      cases hchanged : observed.mutatedIfChanged desired.overwrite with
      | none =>
        simp only [hread, hchanged]
        exact h
      | some changed =>
        simp only [hread, hchanged]
        exact Store.put_perm h hnodup ..

end Memory

end GrafanaInstall
