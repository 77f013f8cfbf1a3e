import GrafanaInstall.Proofs.Watched
import GrafanaInstall.Proofs.Program.Asks

/-!
# What a call leaves alone

A call writes under one key at most. Every other entry of the store stays as it is and where it is,
and so it is with a whole run.
-/

namespace GrafanaInstall

open Memory

/-- The key that a call may write under, if it writes at all. -/
def Call.key? : Call → Option Key
  | .list .. => none
  | .apply _ desired => some desired.key
  | .delete k ns name => some (keyOf k ns name)
  | .patchStatus ns name _ | .addFinalizer ns name _ | .removeFinalizer ns name _ =>
    some (keyOf .observability ns name)

namespace Store

theorem find?_filter (store : Store) {p : Key → Bool} {key : Key} (h : p key) :
    find? (store.filter (p ·.key)) key = find? store key := by
  induction store with
  | nil => rfl
  | cons entry rest ih =>
    rw [List.filter_cons]
    by_cases hkey : entry.key = key
    · rw [if_pos (by rw [hkey]; exact h), find?_cons, find?_cons, if_pos hkey, if_pos hkey]
    · split
      · rw [find?_cons, find?_cons, if_neg hkey, if_neg hkey]
        exact ih
      · rw [find?_cons, if_neg hkey]
        exact ih

variable {store other : Store} {p : Key → Bool}

theorem held_of_filter (h : store.filter (p ·.key) = other.filter (p ·.key)) {k : Kind} {key : Key}
    (hp : p key) : store.held k key = other.held k key := by
  rw [held, held, ← find?_filter store hp, ← find?_filter other hp, h]

theorem objects_filter (store : Store) {kind ns : String}
    (hp : ∀ key : Key, key.kind = kind → key.ns = ns → p key) :
    objects (store.filter (p ·.key)) kind ns = store.objects kind ns := by
  rw [objects, List.filter_filter, objects]
  refine congrArg (List.map _) (List.filter_congr fun entry _ => ?_)
  by_cases hkey : entry.key.kind = kind ∧ entry.key.ns = ns
  · simp [hkey, hp entry.key hkey.1 hkey.2]
  · simp [hkey]

theorem view_of_filter (h : store.filter (p ·.key) = other.filter (p ·.key)) {k : Kind}
    {ns : String} (hp : ∀ key : Key, key.kind = k.name → key.ns = ns → p key) :
    store.view k ns = other.view k ns := by
  rw [view, view, ← objects_filter store hp, ← objects_filter other hp, h]

end Store

namespace Memory

variable {p : Key → Bool}

theorem filter_apply (desired : Object k) (store : Store) (hp : p desired.key = false) :
    (apply desired store).2.filter (p ·.key) = store.filter (p ·.key) := by
  have hput (object : Json) :
      (store.put desired.key object).filter (p ·.key) = store.filter (p ·.key) :=
    Store.filter_put store object hp
  rw [apply]
  split
  · exact hput _
  · split
    · rfl
    · split
      · rfl
      · exact hput _

theorem filter_change (store : Store) (ns name : String) (f : Json → Json)
    (hp : p (keyOf .observability ns name) = false) :
    (change ns name f store).2.filter (p ·.key) = store.filter (p ·.key) := by
  rw [change]
  split
  · rfl
  · exact Store.filter_put store _ hp

/-- What is not under the key of a call is as it was before, and in the same order. -/
theorem filter_answer (call : Call) (store : Store)
    (hp : ∀ key, call.key? = some key → p key = false) :
    (answer call store).2.filter (p ·.key) = store.filter (p ·.key) := by
  cases call with
  | list k ns => rfl
  | apply k desired => exact filter_apply desired store (hp _ rfl)
  | delete k ns name =>
    rw [answer, delete]
    split
    · rfl
    · exact Store.filter_erase store (hp _ rfl)
  | patchStatus ns name status => exact filter_change store ns name _ (hp _ rfl)
  | addFinalizer ns name finalizer => exact filter_change store ns name _ (hp _ rfl)
  | removeFinalizer ns name finalizer => exact filter_change store ns name _ (hp _ rfl)

end Memory

theorem Program.Asks.filter_run {P : Call → Prop} {program : Program Cluster α}
    (h : program.Asks P) {p : Key → Bool}
    (hp : ∀ call, P call → ∀ key, call.key? = some key → p key = false) (store : Store) :
    (program.run serve store).2.filter (p ·.key) = store.filter (p ·.key) := by
  refine h.run (I := fun after => after.filter (p ·.key) = store.filter (p ·.key)) ?_ ?_ ?_ store
    rfl
  · intro call hcall after hafter
    exact (filter_answer call after (hp call hcall)).trans hafter
  · exact fun _ _ hafter => hafter
  · exact fun _ hafter => hafter

end GrafanaInstall
