import GrafanaInstall.Json

/-!
# Stores

Objects as they are stored: JSON under a key of kind, namespace and name, in the order in which
they came. Replacing an object keeps its place.
-/

namespace GrafanaInstall

structure Key where
  kind : String
  ns : String
  name : String
  deriving DecidableEq

structure Entry where
  key : Key
  object : Json
  deriving DecidableEq

abbrev Store := List Entry

namespace Key

/-- A text at a path of an object. A missing one reads as empty. -/
def textAt (object : Json) (path : List String) : String :=
  ((object.at? path).bind Json.string?).getD ""

/-- The name an object has, or else the stem that one would be made from. -/
def nameIn (object : Json) : String :=
  (((object.at? ["metadata", "name"]).bind Json.string?).or
    ((object.at? ["metadata", "generateName"]).bind Json.string?)).getD ""

/-- The key of an object by its own account, but for a kind that is given. -/
def ofObject (object : Json) (kind : Option String) : Key where
  kind := kind.getD (textAt object ["kind"])
  ns := textAt object ["metadata", "namespace"]
  name := nameIn object

end Key

namespace Store

def find? (store : Store) (key : Key) : Option Json :=
  (List.find? (·.key = key) store).map (·.object)

def put (key : Key) (object : Json) : Store → Store
  | [] => [⟨key, object⟩]
  | entry :: rest =>
    if entry.key = key then ⟨key, object⟩ :: rest else entry :: put key object rest

def erase (store : Store) (key : Key) : Store :=
  store.filter (·.key ≠ key)

def objects (store : Store) (kind ns : String) : List Json :=
  (store.filter fun entry => entry.key.kind = kind && entry.key.ns = ns).map (·.object)

/-! ## Lemmas -/

theorem find?_cons (entry : Entry) (store : Store) (key : Key) :
    find? (entry :: store) key =
      if entry.key = key then some entry.object else find? store key := by
  by_cases h : entry.key = key <;> simp [find?, h]

theorem find?_put (store : Store) (key other : Key) (object : Json) :
    find? (put key object store) other =
      if other = key then some object else find? store other := by
  induction store with
  | nil => simp [put, find?_cons, eq_comm]
  | cons entry rest ih =>
    simp only [put]
    split
    · simp only [find?_cons]; grind
    · simp only [find?_cons, ih]; grind

theorem find?_erase (store : Store) (key other : Key) :
    find? (erase store key) other = if other = key then none else find? store other := by
  induction store with
  | nil => simp [erase, find?]
  | cons entry rest ih =>
    simp only [erase, List.filter_cons] at ih ⊢
    split
    · simp only [find?_cons, ih]; grind
    · simp only [find?_cons, ih]; grind

theorem find?_isSome {store : Store} {key : Key} :
    (find? store key).isSome ↔ key ∈ store.map (·.key) := by
  simp [find?]

theorem find?_eq_none {store : Store} {key : Key} :
    find? store key = none ↔ key ∉ store.map (·.key) := by
  rw [← find?_isSome, Option.not_isSome_iff_eq_none]

theorem put_of_absent {store : Store} {key : Key} (object : Json) (h : find? store key = none) :
    put key object store = store ++ [⟨key, object⟩] := by
  induction store with
  | nil => rfl
  | cons entry rest ih =>
    rw [find?_cons] at h
    split at h
    · cases h
    · rename_i hne
      rw [put, if_neg hne, ih h, List.cons_append]

/-- Replacing an object keeps its place. -/
theorem keys_put (store : Store) (key : Key) (object : Json) :
    (put key object store).map (·.key) =
      if key ∈ store.map (·.key) then store.map (·.key) else store.map (·.key) ++ [key] := by
  induction store with
  | nil => simp [put]
  | cons entry rest ih =>
    simp only [put]
    split
    · simp [*]
    · rename_i hne
      simp only [List.map_cons, ih, List.mem_cons, Ne.symm hne, false_or]
      split <;> rfl

theorem mem_put {store : Store} {key : Key} {object : Json} {entry : Entry}
    (h : entry ∈ put key object store) : entry = ⟨key, object⟩ ∨ entry ∈ store := by
  induction store with
  | nil => simpa [put] using h
  | cons head rest ih =>
    simp only [put] at h
    split at h
    · exact (List.mem_cons.mp h).imp_right (List.mem_cons_of_mem _)
    · rcases List.mem_cons.mp h with rfl | h
      · exact .inr List.mem_cons_self
      · exact (ih h).imp_right (List.mem_cons_of_mem _)

/-- What does not look at a key sees nothing of a change under it. -/
theorem filter_put (store : Store) {key : Key} (object : Json) {p : Key → Bool}
    (h : p key = false) :
    (put key object store).filter (p ·.key) = store.filter (p ·.key) := by
  induction store with
  | nil => simp [put, h]
  | cons entry rest ih =>
    simp only [put]
    split
    · simp_all
    · simp only [List.filter_cons, ih]

theorem filter_erase (store : Store) {key : Key} {p : Key → Bool} (h : p key = false) :
    (erase store key).filter (p ·.key) = store.filter (p ·.key) := by
  rw [erase, List.filter_filter]
  refine List.filter_congr fun entry _ => ?_
  by_cases hkey : entry.key = key <;> simp [hkey, h]

theorem objects_put (store : Store) {key : Key} (object : Json) {kind ns : String}
    (h : ¬(key.kind = kind ∧ key.ns = ns)) :
    objects (put key object store) kind ns = objects store kind ns := by
  refine congrArg (List.map _) (filter_put (p := fun key => key.kind = kind && key.ns = ns) _ _ ?_)
  simpa using h

theorem objects_erase (store : Store) {key : Key} {kind ns : String}
    (h : ¬(key.kind = kind ∧ key.ns = ns)) :
    objects (erase store key) kind ns = objects store kind ns := by
  refine congrArg (List.map _) (filter_erase (p := fun key => key.kind = kind && key.ns = ns) _ ?_)
  simpa using h

end Store

end GrafanaInstall
