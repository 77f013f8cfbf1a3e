import GrafanaInstall.Manifest.Definition
import GrafanaInstall.Proofs.Resource.Stored

/-!
# The manifest agrees with the typed view

The server admits an object by the schema of the manifest, and the operator reads it by its codec.
Nothing that is admitted is unreadable, and nothing that is written is refused. The law is built up
like the codecs, from single values over fields to records.
-/

namespace GrafanaInstall

/-! ## Values without repeated keys -/

namespace Json

mutual

/-- Each object in the value has each of its keys once, in any order. -/
def hasDistinctKeys : Json → Bool
  | .array items => itemsHaveDistinctKeys items
  | .object entries => decide (entries.map Prod.fst).Nodup && entriesHaveDistinctKeys entries
  | _ => true

def itemsHaveDistinctKeys : List Json → Bool
  | [] => true
  | item :: rest => hasDistinctKeys item && itemsHaveDistinctKeys rest

def entriesHaveDistinctKeys : List (String × Json) → Bool
  | [] => true
  | (_, value) :: rest => hasDistinctKeys value && entriesHaveDistinctKeys rest

end

theorem itemsHaveDistinctKeys_iff {items : List Json} :
    itemsHaveDistinctKeys items ↔ ∀ item ∈ items, item.hasDistinctKeys := by
  induction items with
  | nil => simp [itemsHaveDistinctKeys]
  | cons item rest ih => simp [itemsHaveDistinctKeys, ih]

theorem entriesHaveDistinctKeys_iff {entries : List (String × Json)} :
    entriesHaveDistinctKeys entries ↔ ∀ entry ∈ entries, entry.2.hasDistinctKeys := by
  induction entries with
  | nil => simp [entriesHaveDistinctKeys]
  | cons entry rest ih =>
    obtain ⟨key, value⟩ := entry
    simp [entriesHaveDistinctKeys, ih]

theorem hasDistinctKeys_object {entries : List (String × Json)} :
    (object entries).hasDistinctKeys ↔
      (entries.map Prod.fst).Nodup ∧ ∀ entry ∈ entries, entry.2.hasDistinctKeys := by
  rw [hasDistinctKeys, Bool.and_eq_true, decide_eq_true_iff, entriesHaveDistinctKeys_iff]

end Json

/-! ## Schemas -/

namespace Schema

theorem admits_null (schema : Schema) : schema.admits .null = schema.notes.nullable := by
  cases schema <;> rfl

theorem admitsEach_iff {properties : List (String × Schema)} {entries : List (String × Json)} :
    admitsEach properties entries ↔ ∀ property ∈ properties, ∀ value,
      entries.lookup property.1 = some value → property.2.admits value := by
  induction properties with
  | nil => simp [admitsEach]
  | cons property rest ih =>
    obtain ⟨name, schema⟩ := property
    rw [admitsEach, Bool.and_eq_true, ih, List.forall_mem_cons]
    refine and_congr_left fun _ => ?_
    cases entries.lookup name <;> simp

theorem admits_object {notes : Notes} {properties : List (String × Schema)}
    {required : List String} {entries : List (String × Json)}
    (h : (properties.map Prod.fst).Nodup) :
    (object notes properties required).admits (.object entries) ↔
      (∀ name ∈ required, (entries.lookup name).isSome) ∧
        ∀ name schema value, properties.lookup name = some schema →
          entries.lookup name = some value → schema.admits value := by
  rw [admits, Bool.and_eq_true, List.all_eq_true, admitsEach_iff]
  refine and_congr_right fun _ => ⟨fun hproperties name schema value hschema => ?_, ?_⟩
  · exact hproperties _ (Entries.mem_of_lookup hschema) value
  · rintro hproperties ⟨name, schema⟩ hmem value hvalue
    exact hproperties name schema value (Entries.lookup_of_mem h hmem) hvalue

end Schema

/-! ## Codecs -/

/-- What the schema admits is read, and what is written the schema admits. Null is left to the field
that the codec is for. -/
structure Codec.Agrees (codec : Codec α) (schema : Schema) : Prop where
  read : ∀ {value : Json}, value.hasDistinctKeys → schema.admits value → value ≠ .null →
    ∃ a, codec.read value = some a
  write : ∀ a, schema.admits (codec.write a)

namespace Codec.Agrees

theorem string (notes : Schema.Notes) : Codec.string.Agrees (.string notes []) where
  read {value} _ hadmits hnull := by
    cases value with
    | string text => exact ⟨text, rfl⟩
    | null => exact absurd rfl hnull
    | bool | int | decimal | array | object | unreadable => cases hadmits
  write _ := rfl

theorem word (notes : Schema.Notes) {spell : α → String} {known : List α} (hne : known ≠ [])
    (hknown : ∀ a, a ∈ known) :
    (Codec.word (known.map fun a => (spell a, a)) spell).Agrees
      (.string notes (known.map spell)) where
  read {value} _ hadmits hnull := by
    cases value with
    | string text =>
      have hword : text ∈ known.map spell := by simpa [Schema.admits, hne] using hadmits
      obtain ⟨a, hmem, rfl⟩ := List.mem_map.mp hword
      refine Option.isSome_iff_exists.mp (List.lookup_isSome_iff.mpr ⟨(spell a, a), ?_, ?_⟩)
      · exact List.mem_map_of_mem hmem
      · simp
    | null => exact absurd rfl hnull
    | bool | int | decimal | array | object | unreadable => cases hadmits
  write a := by simpa [Codec.word, Schema.admits] using .inr ⟨a, hknown a, rfl⟩

theorem exists_mapM {read : β → Option α} {items : List β}
    (h : ∀ item ∈ items, ∃ a, read item = some a) : ∃ as, items.mapM read = some as := by
  induction items with
  | nil => exact ⟨[], rfl⟩
  | cons item rest ih =>
    obtain ⟨⟨a, ha⟩, hrest⟩ := List.forall_mem_cons.mp h
    obtain ⟨as, has⟩ := ih hrest
    exact ⟨a :: as, by simp [List.mapM_cons, ha, has]⟩

variable {codec : Codec α} {schema : Schema}

theorem read_of_solid (h : codec.Agrees schema) (hsolid : schema.notes.nullable = false)
    {value : Json} (hdistinct : value.hasDistinctKeys) (hadmits : schema.admits value) :
    ∃ a, codec.read value = some a := by
  refine h.read hdistinct hadmits ?_
  rintro rfl
  rw [schema.admits_null, hsolid] at hadmits
  cases hadmits

theorem list (notes : Schema.Notes) (h : codec.Agrees schema)
    (hsolid : schema.notes.nullable = false) : codec.list.Agrees (.array notes schema) where
  read {value} hdistinct hadmits hnull := by
    cases value with
    | array items =>
      have hitems : ∀ item ∈ items, schema.admits item := by simpa [Schema.admits] using hadmits
      exact exists_mapM fun item hmem => h.read_of_solid hsolid
        (Json.itemsHaveDistinctKeys_iff.mp hdistinct item hmem) (hitems item hmem)
    | null => exact absurd rfl hnull
    | bool | int | decimal | string | object | unreadable => cases hadmits
  write items := by simp [Codec.list, Schema.admits, h.write]

theorem map (notes : Schema.Notes) (h : codec.Agrees schema)
    (hsolid : schema.notes.nullable = false) : (Codec.map codec).Agrees (.map notes schema) where
  read {value} hdistinct hadmits hnull := by
    cases value with
    | object entries =>
      have hentries : ∀ entry ∈ entries, schema.admits entry.2 := by
        simpa [Schema.admits] using hadmits
      have hread : ∀ entry ∈ entries, ∃ pair, (codec.read entry.2).map (entry.1, ·) = some pair :=
        fun entry hmem => by
          obtain ⟨a, ha⟩ := h.read_of_solid hsolid
            ((Json.hasDistinctKeys_object.mp hdistinct).2 entry hmem) (hentries entry hmem)
          exact ⟨(entry.1, a), by rw [ha, Option.map_some]⟩
      obtain ⟨pairs, hpairs⟩ := exists_mapM hread
      exact ⟨.ofEntries pairs, by simp [Codec.map, hpairs]⟩
    | null => exact absurd rfl hnull
    | bool | int | decimal | string | array | unreadable => cases hadmits
  write dictionary := by simp [Codec.map, Schema.admits, h.write]

end Codec.Agrees

/-! ## Fields -/

structure Field.Agrees (field : Field α) (schema : Schema) : Prop where
  read : ∀ {value : Json}, value.hasDistinctKeys → schema.admits value →
    ∃ a, field.read value = some a
  write : ∀ {a value}, field.write a = some value → schema.admits value

namespace Field.Agrees

variable {codec : Codec α} {schema : Schema}

theorem optional (name : String) (h : codec.Agrees schema) :
    (Field.optional name codec).Agrees schema where
  read {value} hdistinct hadmits := by
    by_cases hnull : value = .null
    · exact ⟨none, by rw [hnull]; rfl⟩
    · obtain ⟨a, ha⟩ := h.read hdistinct hadmits hnull
      exact ⟨some a, by simp [Field.optional, ha]⟩
  write {a value} hwrite := by
    obtain ⟨a, rfl, rfl⟩ := Option.map_eq_some_iff.mp hwrite
    exact h.write a

theorem required (name : String) (h : codec.Agrees schema)
    (hsolid : schema.notes.nullable = false) : (Field.required name codec).Agrees schema where
  read hdistinct hadmits := h.read_of_solid hsolid hdistinct hadmits
  write {a _} hwrite := by
    cases hwrite
    exact h.write a

theorem defaulted (name : String) (h : codec.Agrees schema)
    (hsolid : schema.notes.nullable = false) (default : α) :
    (Field.defaulted name codec default).Agrees schema where
  read hdistinct hadmits := h.read_of_solid hsolid hdistinct hadmits
  write {a _} hwrite := by
    cases hwrite
    exact h.write a

theorem nullable (name : String) (h : codec.Agrees schema) (default : α) :
    (Field.nullable name codec default).Agrees schema where
  read {value} hdistinct hadmits := by
    by_cases hnull : value = .null
    · exact ⟨default, by rw [hnull]; rfl⟩
    · obtain ⟨a, ha⟩ := h.read hdistinct hadmits hnull
      exact ⟨a, by simp [Field.nullable, ha]⟩
  write {a _} hwrite := by
    cases hwrite
    exact h.write a

theorem reached {field : Field α} (h : field.Agrees schema) :
    { field with beyond := none }.Agrees schema :=
  ⟨h.read, h.write⟩

end Field.Agrees

/-! ## Records -/

/-- The fields of a record agree with the properties that a schema describes, some of which are
required. -/
structure Fields.Agrees (fields : Fields α) (properties : List (String × Schema))
    (required : List String) : Prop where
  read : ∀ repetition {entries : List (String × Json)}, (Json.object entries).hasDistinctKeys →
    (∀ name ∈ required, (entries.lookup name).isSome) →
    (∀ name schema value, properties.lookup name = some schema →
      entries.lookup name = some value → schema.admits value) →
    ∃ a, fields.readEntries repetition entries = some a
  write : ∀ a, ∀ entry ∈ fields.write a, ∀ schema, properties.lookup entry.1 = some schema →
    schema.admits entry.2

namespace Fields.Agrees

variable {properties : List (String × Schema)} {required : List String}

theorem none : Fields.none.Agrees properties required :=
  ⟨fun _ _ _ _ _ => ⟨(), rfl⟩, fun _ => nofun⟩

theorem cons {field : Field α} {rest : Fields β} {schema : Schema}
    (hproperty : properties.lookup field.name = some schema) (hfield : field.Agrees schema)
    (hrequired : field.absent.isSome ∨ field.name ∈ required)
    (hrest : rest.Agrees properties required) :
    (Fields.cons field rest).Agrees properties required where
  read repetition {entries} hdistinct hpresent hadmits := by
    obtain ⟨hnodup, hvalues⟩ := Json.hasDistinctKeys_object.mp hdistinct
    have first : ∃ a, field.readEntries repetition entries = some a := by
      rw [field.readEntries_nodup repetition hnodup]
      cases hlookup : entries.lookup field.name with
      | none =>
        have habsent : field.absent.isSome :=
          hrequired.resolve_right fun hmem => by simpa [hlookup] using hpresent _ hmem
        exact Option.isSome_iff_exists.mp habsent
      | some value =>
        exact hfield.read (hvalues _ (Entries.mem_of_lookup hlookup))
          (hadmits _ _ value hproperty hlookup)
    obtain ⟨a, ha⟩ := first
    obtain ⟨b, hb⟩ := hrest.read repetition hdistinct hpresent hadmits
    exact ⟨(a, b), Fields.cons_eq_some.mpr ⟨ha, hb⟩⟩
  write := fun (a, b) entry hmem described hdescribed => by
    rcases List.mem_append.mp hmem with hmem | hmem
    · obtain ⟨value, hvalue, rfl⟩ := Option.map_eq_some_iff.mp (Option.mem_toList.mp hmem)
      obtain rfl := Option.some.inj (hproperty.symm.trans hdescribed)
      exact hfield.write hvalue
    · exact hrest.write b entry hmem described hdescribed

theorem as {fields : Fields α} {make : α → β} {parts : β → α}
    (h : fields.Agrees properties required) :
    (fields.as make parts).Agrees properties required where
  read repetition _ hdistinct hpresent hadmits := by
    obtain ⟨a, ha⟩ := h.read repetition hdistinct hpresent hadmits
    exact ⟨make a, Fields.as_eq_some.mpr ⟨a, ha, rfl⟩⟩
  write b := h.write (parts b)

variable {fields : Fields α} {names : List String} {codec : Codec α} {repetition : Repetition}

theorem object (h : fields.Agrees properties required) (hlawful : fields.Lawful names)
    (distinct : names.Nodup) (hproperties : (properties.map Prod.fst).Nodup)
    (hwritten : ∀ a, ∀ name ∈ required, ((fields.write a).lookup name).isSome)
    (hread : ∀ entries, codec.read (.object entries) = fields.readEntries repetition entries)
    (hwrite : ∀ a, codec.write a = .ofEntries (fields.write a)) (notes : Schema.Notes) :
    codec.Agrees (.object notes properties required) where
  read {value} hdistinct hadmits hnull := by
    cases value with
    | object entries =>
      obtain ⟨hpresent, hvalues⟩ := (Schema.admits_object hproperties).mp hadmits
      rw [hread]
      exact h.read repetition hdistinct hpresent hvalues
    | null => exact absurd rfl hnull
    | bool | int | decimal | string | array | unreadable => cases hadmits
  write a := by
    have hlookup := Entries.lookup_sort (distinct.sublist (hlawful.written a))
    rw [hwrite]
    refine (Schema.admits_object hproperties).mpr ⟨fun name hmem => ?_,
      fun name schema value hschema hvalue => ?_⟩
    · rw [hlookup]
      exact hwritten a name hmem
    · rw [hlookup] at hvalue
      exact h.write a _ (Entries.mem_of_lookup hvalue) schema hschema

end Fields.Agrees

/-! ## The schemas of the manifest -/

namespace Manifest

open Codec.Agrees

theorem claim_agrees : ResourceClaim.fields.mapping.Agrees claim := by
  refine Fields.Agrees.object ?_ ResourceClaim.fields_lawful (by decide) (by decide) ?_
    (fun _ => rfl) (fun _ => rfl) _
  · exact .as <| .cons rfl (.nullable _ (string _) _) (.inl rfl) <|
      .cons rfl (.optional _ (string _)) (.inl rfl) .none
  · intro c name hmem
    cases List.mem_singleton.mp hmem
    rfl

theorem requirements_agree (notes : Schema.Notes) : ResourceRequirements.codec.Agrees
    (.object notes [("claims", claims), ("limits", limits), ("requests", requests)] []) := by
  refine Fields.Agrees.object ?_ ResourceRequirements.fields_lawful (by decide) (by decide)
    (by simp) (fun _ => rfl) (fun _ => rfl) _
  exact .as <| .cons rfl (.optional _ (list _ claim_agrees rfl)) (.inl rfl) <|
    .cons rfl (.optional _ (map _ (string _) rfl)) (.inl rfl) <|
    .cons rfl (.optional _ (map _ (string _) rfl)) (.inl rfl) .none

theorem spec_agrees : ObservabilitySpec.fields.record.Agrees spec := by
  refine Fields.Agrees.object ?_ ObservabilitySpec.fields_lawful (by decide) (by decide) (by simp)
    (fun _ => rfl) (fun _ => rfl) _
  exact .as <| .cons rfl (.optional _ (string _)) (.inl rfl) <|
    .cons rfl (.optional _ (requirements_agree _)) (.inl rfl) .none

theorem stageStatus_agrees (notes : Schema.Notes) : StageStatus.codec.Agrees
    (.string notes ([StageStatus.success, .inProgress, .failed].map StageStatus.text)) :=
  word notes (by simp) fun status => by cases status <;> simp

theorem status_agrees : ObservabilityStatus.codec.Agrees status := by
  refine Fields.Agrees.object ?_ ObservabilityStatus.fields_lawful (by decide) (by decide)
    (by simp) (fun _ => rfl) (fun _ => rfl) _
  exact .as <| .cons rfl (.optional _ (string _)) (.inl rfl) <|
    .cons rfl (.defaulted _ (stageStatus_agrees _) rfl _) (.inl rfl) <|
    .cons rfl (.optional _ (string _)) (.inl rfl) .none

theorem content_agrees :
    (Fields.cons (.required "spec" ObservabilitySpec.fields.record) <|
      .cons { Field.optional "status" ObservabilityStatus.codec with beyond := none }
        .none).Agrees [("spec", spec), ("status", status)] ["spec"] :=
  .cons rfl (.required _ spec_agrees rfl) (.inr List.mem_cons_self) <|
    .cons rfl (Field.Agrees.optional "status" status_agrees).reached (.inl rfl) .none

theorem admits_json (obs : Observability) : observability.admits obs.json := by
  obtain ⟨entries, hjson, -, hstamped⟩ := Codec.stamped_object (Object.typeStamps .observability)
    (Entries.ordered_sort (Object.observabilityFields.write obs))
  have hfresh : ∀ name ∈ ["spec", "status"],
      name ∉ (Object.typeStamps .observability).map Prod.fst := by decide
  have hlookup : ∀ name ∈ ["spec", "status"],
      entries.lookup name = (Object.observabilityFields.write obs).lookup name := by
    intro name hmem
    rw [hstamped name (hfresh name hmem), Entries.lookup_sort]
    exact List.Nodup.sublist (Object.observabilityFields_lawful.written obs) (by decide)
  rw [show obs.json = .object entries from hjson]
  refine (Schema.admits_object (by decide)).mpr ⟨fun name hmem => ?_,
    fun name schema value hschema hvalue => ?_⟩
  · cases List.mem_singleton.mp hmem
    rw [hlookup "spec" (by decide)]
    rfl
  · have hname : name ∈ ["spec", "status"] :=
      List.mem_map_of_mem (f := Prod.fst) (Entries.mem_of_lookup hschema)
    rw [hlookup name hname] at hvalue
    rcases List.mem_cons.mp (Entries.mem_of_lookup hvalue) with hmetadata | hcontent
    · cases hmetadata
      exact absurd hname (by decide)
    · exact content_agrees.write (obs.body.spec, obs.body.status, ()) _ hcontent schema hschema

/-- What the server admits is read, and what the operator writes is admitted. -/
theorem observability_agrees :
    (∀ {value metadata}, value.hasDistinctKeys →
      (value.get? "metadata").bind Metadata.codec.read = some metadata →
      observability.admits value →
      ∃ obs, Object.read? .observability value = some obs ∧ obs.metadata = metadata) ∧
    ∀ obs : Observability, observability.admits obs.json := by
  refine ⟨fun {value metadata} hdistinct hmetadata hadmits => ?_, admits_json⟩
  cases value with
  | object entries =>
    obtain ⟨hpresent, hvalues⟩ := (Schema.admits_object (by decide)).mp hadmits
    have hnodup := (Json.hasDistinctKeys_object.mp hdistinct).1
    obtain ⟨⟨spec, status, ⟨⟩⟩, hcontent⟩ :=
      content_agrees.read .refused hdistinct hpresent hvalues
    have hread : Object.observabilityFields.readEntries .refused entries =
        some { metadata, body := { spec, status } } := by
      refine Fields.as_eq_some.mpr ⟨(metadata, spec, status, ()), ?_, rfl⟩
      exact Fields.cons_eq_some.mpr ⟨(Field.required_eq hnodup).trans hmetadata, hcontent⟩
    exact ⟨_, hread, rfl⟩
  | null | bool | int | decimal | string | array | unreadable => cases hmetadata

/-- A tenant as another client may write it: the keys in no order, a value that the operator does
not know, and no stage status. -/
def foreign : Json :=
  .object
    [("spec", .object
        [("grafanaOperatorVersion", .null),
          ("grafanaOperatorResources", .object
            [("limits", .object [("memory", .string "1Gi"), ("cpu", .string "2")]),
              ("claims", .array [.object [("name", .string "gpu"), ("extra", .int 1)]])])]),
      ("status", .object [("stage", .string "readiness"), ("message", .null)]),
      ("metadata", .object [("namespace", .string "grafana"), ("name", .string "stack")])]

theorem observability_agrees_foreign :
    ∃ obs, Object.read? .observability foreign = some obs ∧
      obs.metadata = { name := "stack", ns := "grafana" } :=
  observability_agrees.1 (by decide) (by decide) (by decide)

/-- The schema is the one that the manifest prints. -/
example :
    (definition.at? ["spec", "versions"]).bind (·.items?) = some [version] ∧
      version.at? ["schema", "openAPIV3Schema"] = some observability.json :=
  ⟨rfl, rfl⟩

end Manifest

end GrafanaInstall
