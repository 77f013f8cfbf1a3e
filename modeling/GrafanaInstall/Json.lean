import GrafanaInstall.Entries

/-!
# JSON values

A value as the cluster stores and sends it. An object is a list of entries. Every operation
here keeps the entries sorted by key, so equal objects are equal lists. Only a text that has just
been read may give an object whose entries stand in another order or share a key.
-/

namespace GrafanaInstall

inductive Json where
  | null
  | bool (value : Bool)
  | int (value : Int)
  /-- Any other number, in the form in which it is written. -/
  | decimal (literal : String)
  | string (value : String)
  | array (items : List Json)
  | object (entries : List (String × Json))
  /-- A well-formed part of a text that has no value, such as half of a surrogate pair. It does no
  harm where nobody looks at it. -/
  | unreadable
  deriving Inhabited, Repr

namespace Json

/-! ## Equality -/

mutual

def same : Json → Json → Bool
  | .null, .null => true
  | .bool a, .bool b => a == b
  | .int a, .int b => a == b
  | .decimal a, .decimal b => a == b
  | .string a, .string b => a == b
  | .array a, .array b => sameItems a b
  | .object a, .object b => sameEntries a b
  | .unreadable, .unreadable => true
  | _, _ => false

def sameItems : List Json → List Json → Bool
  | [], [] => true
  | a :: as, b :: bs => same a b && sameItems as bs
  | _, _ => false

def sameEntries : List (String × Json) → List (String × Json) → Bool
  | [], [] => true
  | (k, a) :: as, (l, b) :: bs => k == l && same a b && sameEntries as bs
  | _, _ => false

end

mutual

theorem same_refl : ∀ a : Json, same a a = true
  | .null => rfl
  | .bool a => by simp [same]
  | .int a => by simp [same]
  | .decimal a => by simp [same]
  | .string a => by simp [same]
  | .array a => by simp [same, sameItems_refl a]
  | .object a => by simp [same, sameEntries_refl a]
  | .unreadable => rfl

theorem sameItems_refl : ∀ as : List Json, sameItems as as = true
  | [] => rfl
  | a :: as => by simp [sameItems, same_refl a, sameItems_refl as]

theorem sameEntries_refl : ∀ as : List (String × Json), sameEntries as as = true
  | [] => rfl
  | (_, a) :: as => by simp [sameEntries, same_refl a, sameEntries_refl as]

end

mutual

theorem eq_of_same : ∀ {a b : Json}, same a b = true → a = b
  | .null, b, h => by cases b <;> simp_all [same]
  | .bool _, b, h => by cases b <;> simp_all [same]
  | .int _, b, h => by cases b <;> simp_all [same]
  | .decimal _, b, h => by cases b <;> simp_all [same]
  | .string _, b, h => by cases b <;> simp_all [same]
  | .unreadable, b, h => by cases b <;> simp_all [same]
  | .array as, .array bs, h => congrArg Json.array (eq_of_sameItems (by simpa [same] using h))
  | .object as, .object bs, h => congrArg Json.object (eq_of_sameEntries (by simpa [same] using h))
  | .array _, .null, h | .array _, .bool _, h | .array _, .int _, h | .array _, .decimal _, h
  | .array _, .string _, h | .array _, .object _, h | .array _, .unreadable, h => by
    simp [same] at h
  | .object _, .null, h | .object _, .bool _, h | .object _, .int _, h | .object _, .decimal _, h
  | .object _, .string _, h | .object _, .array _, h | .object _, .unreadable, h => by
    simp [same] at h

theorem eq_of_sameItems : ∀ {as bs : List Json}, sameItems as bs = true → as = bs
  | [], bs, h => by cases bs <;> simp_all [sameItems]
  | _ :: _, [], h => by simp [sameItems] at h
  | a :: as, b :: bs, h => by
    simp only [sameItems, Bool.and_eq_true] at h
    rw [eq_of_same h.1, eq_of_sameItems h.2]

theorem eq_of_sameEntries : ∀ {as bs : List (String × Json)}, sameEntries as bs = true → as = bs
  | [], bs, h => by cases bs <;> simp_all [sameEntries]
  | _ :: _, [], h => by simp [sameEntries] at h
  | (k, a) :: as, (l, b) :: bs, h => by
    simp only [sameEntries, Bool.and_eq_true, beq_iff_eq] at h
    rw [h.1.1, eq_of_same h.1.2, eq_of_sameEntries h.2]

end

theorem same_iff {a b : Json} : same a b = true ↔ a = b :=
  ⟨eq_of_same, fun h => h ▸ same_refl a⟩

instance : DecidableEq Json := fun _ _ => decidable_of_iff _ same_iff

/-! ## Entries of an object -/

/-- The entries of an object. Any other value has none. -/
def entries : Json → List (String × Json)
  | .object entries => entries
  | _ => []

def get? (value : Json) (key : String) : Option Json :=
  value.entries.lookup key

/-- The object with one entry set. A value that is no object counts as an empty one. -/
def set (value : Json) (key : String) (entry : Json) : Json :=
  .object (Entries.insert key entry value.entries)

def erase (value : Json) (key : String) : Json :=
  .object (Entries.erase key value.entries)

/-- The object of some entries in any order. Of two with one key the later counts. -/
def ofEntries (entries : List (String × Json)) : Json :=
  .object (Entries.sort entries)

/-- The entry at the end of a path of keys. -/
def at? (value : Json) : List String → Option Json
  | [] => some value
  | key :: path => (value.get? key).bind (·.at? path)

/-- Sets the entry at the end of a path, making the objects on the way. -/
def setAt (value : Json) (path : List String) (entry : Json) : Json :=
  match path with
  | [] => entry
  | key :: path => value.set key (((value.get? key).getD .null).setAt path entry)

def string? : Json → Option String
  | .string value => some value
  | _ => none

def items? : Json → Option (List Json)
  | .array items => some items
  | _ => none

/-! ## Lemmas -/

theorem get?_set (value entry : Json) (key other : String) :
    (value.set key entry).get? other = if other = key then some entry else value.get? other := by
  simp [get?, set, entries, Entries.lookup_insert]

theorem get?_erase (value : Json) (key other : String) :
    (value.erase key).get? other = if other = key then none else value.get? other := by
  simp [get?, erase, entries, Entries.lookup_erase]

theorem erase_set (value entry : Json) {key other : String} (h : key ≠ other)
    (hordered : Entries.Ordered value.entries) :
    (value.set key entry).erase other = (value.erase other).set key entry :=
  congrArg Json.object (Entries.erase_insert h entry hordered)

theorem at?_set_of_ne (value entry : Json) {key other : String} (h : other ≠ key)
    (path : List String) :
    (value.set key entry).at? (other :: path) = value.at? (other :: path) := by
  simp [at?, get?_set, h]

theorem at?_erase_of_ne (value : Json) {key other : String} (h : other ≠ key)
    (path : List String) : (value.erase key).at? (other :: path) = value.at? (other :: path) := by
  simp [at?, get?_erase, h]

/-- Setting an entry of an inner object changes no other entry of it. -/
theorem at?_setAt (value entry : Json) (key inner other : String) :
    (value.setAt [key, inner] entry).at? [key, other] =
      if other = inner then some entry else value.at? [key, other] := by
  simp only [setAt, at?, get?_set, if_true, Option.bind_some]
  split
  · rfl
  · cases h : value.get? key with
    | none => rfl
    | some found => rfl

end Json

end GrafanaInstall
