import GrafanaInstall.Memory
import GrafanaInstall.Proofs.Resource.RoundTrip

/-!
# Observabilities as they are stored

What the typed view of a stored observability says of the object itself, where each key comes once.
-/

namespace GrafanaInstall

/-! ## Fields -/

theorem Fields.cons_eq_some {field : Field α} {rest : Fields β} {repetition : Repetition}
    {entries : List (String × Json)} {a : α} {b : β} :
    (Fields.cons field rest).readEntries repetition entries = some (a, b) ↔
      field.readEntries repetition entries = some a ∧
        rest.readEntries repetition entries = some b := by
  simp only [Fields.cons, Option.bind_eq_bind, Option.bind_eq_some_iff, Option.pure_def,
    Option.some.injEq, Prod.mk.injEq]
  grind

theorem Fields.as_eq_some {fields : Fields α} {make : α → β} {parts : β → α}
    {repetition : Repetition} {entries : List (String × Json)} {b : β} :
    (fields.as make parts).readEntries repetition entries = some b ↔
      ∃ a, fields.readEntries repetition entries = some a ∧ make a = b :=
  Option.map_eq_some_iff

/-- A record that is taken apart and put together again is read in its parts. -/
theorem Fields.as_eq_some_parts {fields : Fields α} {make : α → β} {parts : β → α}
    (make_parts : ∀ b, make (parts b) = b) (parts_make : ∀ a, parts (make a) = a)
    {repetition : Repetition} {entries : List (String × Json)} {b : β} :
    (fields.as make parts).readEntries repetition entries = some b ↔
      fields.readEntries repetition entries = some (parts b) := by
  rw [Fields.as_eq_some]
  constructor
  · rintro ⟨a, ha, rfl⟩
    rw [ha, parts_make]
  · intro hb
    exact ⟨parts b, hb, make_parts b⟩

theorem Fields.readEntries_none (repetition : Repetition) (entries : List (String × Json)) :
    Fields.none.readEntries repetition entries = some () := rfl

/-- What an entry that may be left out says of a value. -/
def Codec.optionally (codec : Codec α) : Option Json → Option (Option α)
  | none | some .null => some none
  | some value => (codec.read value).map some

theorem Codec.of_optionally {codec : Codec α} {found : Option Json} {a : α}
    (h : codec.optionally found = some (some a)) :
    ∃ value, found = some value ∧ codec.read value = some a := by
  unfold Codec.optionally at h
  split at h
  · cases h
  · cases h
  · obtain ⟨b, hb, hab⟩ := Option.map_eq_some_iff.mp h
    exact ⟨_, rfl, Option.some.inj hab ▸ hb⟩

theorem Codec.Lawful.optionally_write {codec : Codec α} (h : codec.Lawful) (a : α) :
    codec.optionally (some (codec.write a)) = some (some a) := by
  have hnull := h.write_ne_null a
  unfold Codec.optionally
  split
  · rename_i e
    cases e
  · rename_i e
    exact absurd (Option.some.inj e) hnull
  · rename_i e
    cases e
    rw [h.read_write, Option.map_some]

theorem Codec.eq_of_mapM {items : List Json} {texts : List String}
    (h : items.mapM Codec.string.read = some texts) : items = texts.map .string := by
  induction items generalizing texts with
  | nil => cases h; rfl
  | cons item rest ih =>
    simp only [List.mapM_cons, Option.bind_eq_bind, Option.bind_eq_some_iff, Option.pure_def,
      Option.some.injEq] at h
    obtain ⟨first, hfirst, others, hothers, rfl⟩ := h
    rw [List.map_cons, ← ih hothers]
    cases item with
    | string value => cases hfirst; rfl
    | null | bool | int | decimal | array | object | unreadable => cases hfirst

theorem Json.filter_strings (texts : List String) (text : String) :
    (texts.map Json.string).filter (· ≠ .string text) = (texts.filter (· ≠ text)).map .string := by
  rw [List.filter_map]
  refine congrArg (List.map Json.string) (List.filter_congr fun other _ => ?_)
  simp

theorem Codec.read_texts (texts : List String) :
    Codec.string.list.read (.array (texts.map .string)) = some texts := by
  show (texts.map Json.string).mapM Codec.string.read = some texts
  induction texts with
  | nil => rfl
  | cons text rest ih =>
    rw [List.map_cons, List.mapM_cons, ih]
    rfl

theorem Field.optional_eq (name : String) (codec : Codec α) (repetition : Repetition)
    {entries : List (String × Json)} (h : (entries.map Prod.fst).Nodup) :
    (Field.optional name codec).readEntries repetition entries =
      codec.optionally (entries.lookup name) := by
  rw [Field.readEntries_nodup _ _ h]
  simp only [Field.optional]
  cases entries.lookup name with
  | none => rfl
  | some value => cases value <;> rfl

theorem Field.required_eq {name : String} {codec : Codec α} {repetition : Repetition}
    {entries : List (String × Json)} (h : (entries.map Prod.fst).Nodup) :
    (Field.required name codec).readEntries repetition entries =
      (entries.lookup name).bind codec.read := by
  rw [Field.readEntries_nodup _ _ h]
  simp only [Field.required]
  cases entries.lookup name <;> rfl

theorem Field.defaulted_eq (name : String) (codec : Codec α) (default : α)
    (repetition : Repetition) {entries : List (String × Json)} (h : (entries.map Prod.fst).Nodup) :
    (Field.defaulted name codec default).readEntries repetition entries =
      ((entries.lookup name).map codec.read).getD (some default) := by
  rw [Field.readEntries_nodup _ _ h]
  simp only [Field.defaulted]
  cases entries.lookup name <;> rfl

/-! ## Observabilities -/

theorem Object.read?_observability {entries : List (String × Json)}
    (h : (entries.map Prod.fst).Nodup) {obs : Observability} :
    Object.read? .observability (.object entries) = some obs ↔
      (entries.lookup "metadata").bind Metadata.codec.read = some obs.metadata ∧
        (entries.lookup "spec").bind ObservabilitySpec.fields.record.read = some obs.body.spec ∧
        ObservabilityStatus.codec.optionally (entries.lookup "status") = some obs.body.status := by
  have hstatus : ({ Field.optional "status" ObservabilityStatus.codec with beyond := none } :
      Field _).readEntries .refused entries =
        ObservabilityStatus.codec.optionally (entries.lookup "status") :=
    Field.optional_eq "status" _ .refused h
  show observabilityFields.readEntries .refused entries = some obs ↔ _
  rw [observabilityFields, Fields.as_eq_some_parts (fun _ => rfl) (fun _ => rfl)]
  simp only [Fields.cons_eq_some, Field.required_eq h, hstatus, Fields.readEntries_none, and_true]

theorem Metadata.read_eq {value : Json} (h : Entries.Ordered value.entries) {m : Metadata}
    (hread : Metadata.codec.read value = some m) :
    Codec.string.list.optionally (value.get? "finalizers") = some m.finalizers ∧
      Codec.string.optionally (value.get? "name") = some m.name ∧
      Codec.string.optionally (value.get? "namespace") = some m.ns ∧
      Codec.string.optionally (value.get? "resourceVersion") = some m.resourceVersion := by
  cases value with
  | object entries =>
    replace h : Entries.Ordered entries := h
    have hfields : Metadata.fields.readEntries .lastCounts entries = some m := hread
    rw [Metadata.fields, Fields.as_eq_some_parts (fun _ => rfl) (fun _ => rfl)] at hfields
    simp only [Fields.cons_eq_some, Field.optional_eq _ _ _ h.nodup] at hfields
    simp [Json.get?, Json.entries, hfields]
  | null | bool | int | decimal | string | array | unreadable => cases hread

theorem Metadata.read_set_finalizers {value : Json} (h : Entries.Ordered value.entries)
    {m : Metadata} (hread : Metadata.codec.read value = some m) (texts : List String) :
    Metadata.codec.read (value.set "finalizers" (.array (texts.map .string))) =
      some { m with finalizers := some texts } := by
  have hlist : Codec.string.list.optionally (some (.array (texts.map .string))) =
      some (some texts) := congrArg (Option.map some) (Codec.read_texts texts)
  cases value with
  | object entries =>
    replace h : Entries.Ordered entries := h
    have hset := (Entries.ordered_insert "finalizers" (.array (texts.map .string)) h).nodup
    have hfields : Metadata.fields.readEntries .lastCounts entries = some m := hread
    show Metadata.fields.readEntries .lastCounts (Entries.insert _ _ entries) = _
    rw [Metadata.fields, Fields.as_eq_some_parts (fun _ => rfl) (fun _ => rfl)] at hfields ⊢
    simp only [Fields.cons_eq_some, Field.optional_eq _ _ _ h.nodup] at hfields
    simp only [Fields.cons_eq_some, Field.optional_eq _ _ _ hset, Entries.lookup_insert,
      String.reduceEq, if_false, if_true]
    simp [hfields, hlist, Fields.readEntries_none]
  | null | bool | int | decimal | string | array | unreadable => cases hread

def Object.withFinalizers (obs : Observability) (texts : List String) : Observability :=
  { obs with metadata := { obs.metadata with finalizers := some texts } }

/-! ## Regular values -/

structure Json.Sorted (value : Json) : Prop where
  ordered : Entries.Ordered value.entries
  metadata : Entries.Ordered ((value.get? "metadata").getD .null).entries

instance (value : Json) : Decidable value.Sorted :=
  decidable_of_iff (Entries.Ordered value.entries ∧
      Entries.Ordered ((value.get? "metadata").getD .null).entries)
    ⟨fun h => ⟨h.1, h.2⟩, fun h => ⟨h.ordered, h.metadata⟩⟩

/-- An object that has each key once, and its metadata too. -/
structure Json.Regular (value : Json) : Prop where
  object : value = .object value.entries
  ordered : Entries.Ordered value.entries
  metadata : Entries.Ordered ((value.get? "metadata").getD .null).entries

theorem Json.Sorted.setAt {value : Json} (h : value.Sorted) (key : String) (entry : Json) :
    (value.setAt ["metadata", key] entry).Regular where
  object := rfl
  ordered := Entries.ordered_insert _ _ h.ordered
  metadata := by
    rw [Json.setAt, get?_set, if_pos rfl]
    exact Entries.ordered_insert _ _ h.metadata

namespace Json.Regular

variable {value : Json}

theorem sorted (h : value.Regular) : value.Sorted := ⟨h.ordered, h.metadata⟩

theorem set (h : value.Regular) {key : String} (entry : Json) (hkey : key ≠ "metadata") :
    (value.set key entry).Regular where
  object := rfl
  ordered := Entries.ordered_insert _ _ h.ordered
  metadata := by
    rw [get?_set, if_neg hkey.symm]
    exact h.metadata

theorem erase (h : value.Regular) {key : String} (hkey : key ≠ "metadata") :
    (value.erase key).Regular where
  object := rfl
  ordered := Entries.ordered_erase _ h.ordered
  metadata := by
    rw [get?_erase, if_neg hkey.symm]
    exact h.metadata

theorem setAt (h : value.Regular) (key : String) (entry : Json) :
    (value.setAt ["metadata", key] entry).Regular :=
  h.sorted.setAt key entry

variable {obs : Observability}

theorem metadata_of_read (h : value.Regular)
    (hread : Object.read? .observability value = some obs) :
    ∃ metadata, value.get? "metadata" = some metadata ∧
      Entries.Ordered metadata.entries ∧ Metadata.codec.read metadata = some obs.metadata := by
  rw [h.object, Object.read?_observability h.ordered.nodup] at hread
  obtain ⟨metadata, hget, hmetadata⟩ := Option.bind_eq_some_iff.mp hread.1
  have hordered := h.metadata
  rw [show value.get? "metadata" = some metadata from hget] at hordered
  exact ⟨metadata, hget, hordered, hmetadata⟩

theorem ns_of_read (h : value.Regular) (hread : Object.read? .observability value = some obs)
    {ns : String} (hns : obs.metadata.ns = some ns) :
    Key.textAt value ["metadata", "namespace"] = ns := by
  obtain ⟨metadata, hget, hordered, hmetadata⟩ := h.metadata_of_read hread
  obtain ⟨-, -, hnamespace, -⟩ := Metadata.read_eq hordered hmetadata
  rw [hns] at hnamespace
  obtain ⟨text, htext, hread⟩ := Codec.of_optionally hnamespace
  simp [Key.textAt, at?, hget, htext, show text.string? = some ns from hread]

theorem finalizers_of_read (h : value.Regular)
    (hread : Object.read? .observability value = some obs) :
    Memory.finalizers value = (obs.metadata.finalizers.getD []).map .string := by
  obtain ⟨metadata, hget, hordered, hmetadata⟩ := h.metadata_of_read hread
  obtain ⟨hlist, -⟩ := Metadata.read_eq hordered hmetadata
  cases htexts : obs.metadata.finalizers with
  | none =>
    rw [htexts] at hlist
    cases hfound : metadata.get? "finalizers" with
    | none => simp [Memory.finalizers, at?, hget, hfound]
    | some listed =>
      rw [hfound] at hlist
      cases listed with
      | null => simp [Memory.finalizers, at?, hget, hfound, items?]
      | bool | int | decimal | string | array | object | unreadable =>
        simp [Codec.optionally] at hlist
  | some texts =>
    rw [htexts] at hlist
    obtain ⟨listed, hlisted, hitems⟩ := Codec.of_optionally hlist
    obtain ⟨items, hitems, hread⟩ := Option.bind_eq_some_iff.mp hitems
    simp [Memory.finalizers, at?, hget, hlisted, hitems, Codec.eq_of_mapM hread]

theorem finalizer_of_read (h : value.Regular)
    (hread : Object.read? .observability value = some obs) {finalizer : String}
    (hfinalizer : obs.metadata.hasFinalizer finalizer) :
    .string finalizer ∈ Memory.finalizers value := by
  rw [h.finalizers_of_read hread]
  exact List.mem_map_of_mem (List.contains_iff_mem.mp hfinalizer)

theorem read_withFinalizers (h : value.Regular)
    (hread : Object.read? .observability value = some obs) (texts : List String) :
    Object.read? .observability (Memory.withFinalizers value (texts.map .string)) =
      some (obs.withFinalizers texts) := by
  obtain ⟨metadata, hget, hordered, hmetadata⟩ := h.metadata_of_read hread
  have hset := h.setAt "finalizers" (.array (texts.map .string))
  rw [h.object, Object.read?_observability h.ordered.nodup] at hread
  obtain ⟨-, hspec, hstatus⟩ := hread
  have hlookup (key : String) :
      (Memory.withFinalizers value (texts.map .string)).entries.lookup key =
        if key = "metadata" then some (metadata.set "finalizers" (.array (texts.map .string)))
        else value.entries.lookup key := by
    refine (Json.get?_set value _ "metadata" key).trans ?_
    rw [hget]
    rfl
  rw [Memory.withFinalizers, hset.object, Object.read?_observability hset.ordered.nodup,
    ← Memory.withFinalizers, hlookup, hlookup, hlookup, if_pos rfl, if_neg (by decide),
    if_neg (by decide)]
  exact ⟨Metadata.read_set_finalizers hordered hmetadata texts, hspec, hstatus⟩

end Json.Regular

structure StoredIn (ns : String) (value : Json) : Prop where
  regular : value.Regular
  place : Key.textAt value ["metadata", "namespace"] = ns

namespace StoredIn

variable {ns : String} {value : Json}

theorem set (h : StoredIn ns value) {key : String} (entry : Json) (hkey : key ≠ "metadata") :
    StoredIn ns (value.set key entry) where
  regular := h.regular.set entry hkey
  place := by
    rw [Key.textAt, Json.at?_set_of_ne _ _ hkey.symm]
    exact h.place

theorem erase (h : StoredIn ns value) {key : String} (hkey : key ≠ "metadata") :
    StoredIn ns (value.erase key) where
  regular := h.regular.erase hkey
  place := by
    rw [Key.textAt, Json.at?_erase_of_ne _ hkey.symm]
    exact h.place

theorem setAt (h : StoredIn ns value) {key : String} (entry : Json) (hkey : key ≠ "namespace") :
    StoredIn ns (value.setAt ["metadata", key] entry) where
  regular := h.regular.setAt key entry
  place := by
    rw [Key.textAt, Json.at?_setAt, if_neg hkey.symm]
    exact h.place

end StoredIn

/-! ## Finalizers -/

namespace Memory

variable {value : Json}

theorem finalizers_set (value entry : Json) {key : String} (h : key ≠ "metadata") :
    finalizers (value.set key entry) = finalizers value := by
  rw [finalizers, Json.at?_set_of_ne _ _ h.symm, finalizers]

theorem finalizers_erase (value : Json) {key : String} (h : key ≠ "metadata") :
    finalizers (value.erase key) = finalizers value := by
  rw [finalizers, Json.at?_erase_of_ne _ h.symm, finalizers]

theorem finalizers_setAt (value entry : Json) {key : String} (h : key ≠ "finalizers") :
    finalizers (value.setAt ["metadata", key] entry) = finalizers value := by
  rw [finalizers, Json.at?_setAt, if_neg h.symm, finalizers]

theorem finalizers_with (value : Json) (items : List Json) :
    finalizers (withFinalizers value items) = items := by
  rw [finalizers, withFinalizers, Json.at?_setAt, if_pos rfl]
  rfl

end Memory

end GrafanaInstall
