import GrafanaInstall.Proofs.Resource.Versioned

/-!
# Printed objects

What is written of the objects that the operator applies: a spec that tells their content, and the
version that they had when they were read. A stored object that gets another version reads as
before, but for that version.
-/

namespace GrafanaInstall

variable {k : Kind} {value : Json} {o : Object k}

/-! ## Specs -/

namespace Object

theorem spec_json_inj (hk : k ∈ appliedKinds) {a b : Object k} :
    a.json.get? "spec" = b.json.get? "spec" ↔ a.body = b.body := by
  obtain ⟨spec, hspec, hcodec⟩ := codec_of_applied hk
  rw [json, json, hcodec, (specCodec_get? spec a).2, (specCodec_get? spec b).2, Option.some.injEq,
    hspec.write_inj]

theorem with_body_eq_iff {body : k.Body} : ({ o with body } : Object k) = o ↔ body = o.body := by
  constructor
  · intro h
    have hbody := congrArg Object.body h
    exact hbody
  · rintro rfl
    rfl

/-- An object has the content of another one just if they are printed with the same spec. -/
theorem overwrite_eq_iff (hk : k ∈ appliedKinds) {desired observed : Object k} :
    desired.overwrite observed = observed ↔
      observed.json.get? "spec" = desired.json.get? "spec" := by
  rw [overwrite_of_applied hk, with_body_eq_iff, spec_json_inj hk]
  exact eq_comm

end Object

/-! ## Versions -/

theorem Fields.lookup_write_cons (field : Field α) (rest : Fields β) (a : α) (b : β)
    (key : String) :
    ((Fields.cons field rest).write (a, b)).lookup key =
      (if key = field.name then field.write a else Option.none).or
        ((rest.write b).lookup key) := by
  cases h : field.write a with
  | none => simp [Fields.cons, h]
  | some value =>
    simp only [Fields.cons, h, Option.map_some, Option.toList_some, List.singleton_append,
      Entries.lookup_cons_ite]
    split <;> simp

theorem Metadata.get?_write (m : Metadata) :
    (codec.write m).get? "deletionTimestamp" = m.deletionTimestamp.map Codec.instant.write ∧
      (codec.write m).get? "finalizers" = m.finalizers.map Codec.string.list.write ∧
      (codec.write m).get? "resourceVersion" = m.resourceVersion.map .string := by
  have hnames : ((fields.write m).map Prod.fst).Nodup :=
    (show Metadata.names.Nodup by decide).sublist (fields_lawful.written m)
  have hlookup (key : String) : (codec.write m).get? key = (fields.write m).lookup key :=
    Entries.lookup_sort hnames key
  rw [hlookup, hlookup, hlookup]
  simp only [fields, Fields.as, Fields.lookup_write_cons]
  simp [Field.optional, Fields.none, Codec.string]

theorem Metadata.read_set_version {value : Json} (h : Entries.Ordered value.entries)
    {m : Metadata} (hread : codec.read value = some m) (version : String) :
    codec.read (value.set "resourceVersion" (.string version)) =
      some { m with resourceVersion := version } := by
  have hversion : Codec.string.optionally (some (.string version)) = some (some version) := rfl
  cases value with
  | object entries =>
    replace h : Entries.Ordered entries := h
    have hset := (Entries.ordered_insert "resourceVersion" (.string version) h).nodup
    have hfields : fields.readEntries .lastCounts entries = some m := hread
    show fields.readEntries .lastCounts (Entries.insert _ _ entries) = _
    rw [fields, Fields.as_eq_some_parts (fun _ => rfl) (fun _ => rfl)] at hfields ⊢
    simp only [Fields.cons_eq_some, Field.optional_eq _ _ _ h.nodup] at hfields
    simp only [Fields.cons_eq_some, Field.optional_eq _ _ _ hset, Entries.lookup_insert,
      String.reduceEq, if_false, if_true]
    simp [hfields, hversion, Fields.readEntries_none]
  | null | bool | int | decimal | string | array | unreadable => cases hread

def Object.atVersion (o : Object k) (version : String) : Object k :=
  { o with metadata := { o.metadata with resourceVersion := version } }

open Http.Server (versionPath)

theorem Json.Regular.read_version (h : value.Regular) (hk : k ∈ appliedKinds)
    (hread : Object.read? k value = some o) (version : String) :
    Object.read? k (value.setAt versionPath (.string version)) = some (o.atVersion version) := by
  obtain ⟨metadata, hget, hordered, hmetadata⟩ := h.metadata_of_applied hk hread
  obtain ⟨spec, -, hcodec⟩ := Object.codec_of_applied hk
  rw [Object.read?, hcodec] at hread ⊢
  have hset := h.setAt "resourceVersion" (.string version)
  have hlookup (key : String) : (value.setAt versionPath (.string version)).get? key =
      if key = "metadata" then some (metadata.set "resourceVersion" (.string version))
      else value.get? key := by
    refine (Json.get?_set value _ "metadata" key).trans ?_
    rw [hget]
    rfl
  obtain ⟨-, hbody⟩ := (Object.specCodec_eq_some h).mp hread
  refine (Object.specCodec_eq_some hset).mpr ⟨?_, ?_⟩
  · rw [← versionPath, hlookup, if_pos rfl]
    exact Metadata.read_set_version hordered hmetadata version
  · rw [← versionPath, hlookup, if_neg (by decide)]
    exact hbody

/-! ## Marks -/

namespace Object

theorem at?_metadata_json (hk : k ∈ appliedKinds) (o : Object k) (key : String) :
    o.json.at? ["metadata", key] = (Metadata.codec.write o.metadata).get? key := by
  obtain ⟨spec, -, hcodec⟩ := codec_of_applied hk
  rw [json, hcodec, Json.at?, (specCodec_get? spec o).1, Option.bind_some, Json.at?]
  cases (Metadata.codec.write o.metadata).get? key <;> rfl

theorem at?_version_json (hk : k ∈ appliedKinds) (o : Object k) :
    o.json.at? versionPath = o.metadata.resourceVersion.map .string :=
  (at?_metadata_json hk o "resourceVersion").trans (Metadata.get?_write o.metadata).2.2

theorem isMarked_json (hk : k ∈ appliedKinds) (o : Object k) :
    Http.Server.isMarked o.json = o.metadata.deletionTimestamp.isSome := by
  rw [Http.Server.isMarked, at?_metadata_json hk, (Metadata.get?_write o.metadata).1]
  cases o.metadata.deletionTimestamp with
  | none => rfl
  | some time => exact decide_eq_true (Codec.Lawful.instant.write_ne_null time)

theorem hasFinalizers_json (hk : k ∈ appliedKinds) (o : Object k) :
    Http.Server.hasFinalizers o.json = decide (o.metadata.finalizers.getD [] ≠ []) := by
  rw [Http.Server.hasFinalizers, at?_metadata_json hk, (Metadata.get?_write o.metadata).2.1]
  cases o.metadata.finalizers with
  | none => rfl
  | some finalizers =>
    cases finalizers <;> rfl

end Object

end GrafanaInstall
