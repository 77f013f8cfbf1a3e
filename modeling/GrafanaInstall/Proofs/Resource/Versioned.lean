import GrafanaInstall.Http.Server
import GrafanaInstall.Proofs.Resource.Stored

/-!
# Names and versions that are carried over

The typed view of an object that the operator applies has the name and the version of the object it
is read from, and what is written of it has them again.
-/

namespace GrafanaInstall

def appliedKinds : List Kind := [.catalogSource, .subscription, .operatorGroup]

variable {k : Kind} {value : Json} {o : Object k}

theorem Codec.text_of_optionally {found : Option Json} {text : Option String}
    (h : Codec.string.optionally found = some text) : found.bind Json.string? = text := by
  rcases found with _ | (_ | _ | _ | _ | _ | _ | _ | _) <;> cases h <;> rfl

/-! ## Objects with a spec -/

theorem Object.codec_of_applied (hk : k ∈ appliedKinds) :
    ∃ spec : Codec k.Body, spec.Lawful ∧ Object.codec k = Object.specCodec k spec := by
  simp only [appliedKinds, List.mem_cons, List.not_mem_nil, or_false] at hk
  rcases hk with rfl | rfl | rfl
  · exact ⟨_, CatalogSourceSpec.lawful, rfl⟩
  · exact ⟨_, SubscriptionSpec.lawful, rfl⟩
  · exact ⟨_, OperatorGroupSpec.lawful, rfl⟩

theorem Object.overwrite_of_applied (hk : k ∈ appliedKinds) (desired observed : Object k) :
    desired.overwrite observed = { observed with body := desired.body } := by
  simp only [appliedKinds, List.mem_cons, List.not_mem_nil, or_false] at hk
  rcases hk with rfl | rfl | rfl
  · rfl
  · rfl
  · rfl

theorem Object.specCodec_eq_some {spec : Codec k.Body} (h : value.Regular) :
    (Object.specCodec k spec).read value = some o ↔
      (value.get? "metadata").bind Metadata.codec.read = some o.metadata ∧
        (value.get? "spec").bind spec.read = some o.body := by
  rw [h.object]
  show (Object.specFields k spec).readEntries .refused value.entries = some o ↔ _
  rw [Object.specFields, Fields.as_eq_some_parts (fun _ => rfl) (fun _ => rfl)]
  simp only [Fields.cons_eq_some, Field.required_eq h.ordered.nodup, Fields.readEntries_none,
    and_true]
  rfl

theorem Json.Regular.metadata_of_applied (h : value.Regular) (hk : k ∈ appliedKinds)
    (hread : Object.read? k value = some o) :
    ∃ metadata, value.get? "metadata" = some metadata ∧
      Entries.Ordered metadata.entries ∧ Metadata.codec.read metadata = some o.metadata := by
  obtain ⟨spec, -, hcodec⟩ := Object.codec_of_applied hk
  rw [Object.read?, hcodec, Object.specCodec_eq_some h] at hread
  obtain ⟨found, hget, hmetadata⟩ := Option.bind_eq_some_iff.mp hread.1
  have hordered := h.metadata
  rw [hget] at hordered
  exact ⟨found, hget, hordered, hmetadata⟩

theorem Object.specCodec_get? (spec : Codec k.Body) (o : Object k) :
    ((Object.specCodec k spec).write o).get? "metadata" =
        some (Metadata.codec.write o.metadata) ∧
      ((Object.specCodec k spec).write o).get? "spec" = some (spec.write o.body) := by
  let written := Json.ofEntries ((specFields k spec).write o)
  have hnames : (((specFields k spec).write o).map Prod.fst).Nodup :=
    show ["metadata", "spec"].Nodup by decide
  have hstamped (key : String) (hkind : key ≠ "kind") (hversion : key ≠ "apiVersion") :
      ((Object.specCodec k spec).write o).get? key = written.get? key := by
    show ((written.set "apiVersion" (.string k.apiVersion)).set "kind" (.string k.name)).get? key =
      _
    rw [Json.get?_set, if_neg hkind, Json.get?_set, if_neg hversion]
  rw [hstamped _ (by decide) (by decide), hstamped _ (by decide) (by decide)]
  exact ⟨Entries.lookup_sort hnames "metadata", Entries.lookup_sort hnames "spec"⟩

theorem Object.regular_json (hk : k ∈ appliedKinds) (o : Object k) : o.json.Regular := by
  obtain ⟨spec, -, hcodec⟩ := Object.codec_of_applied hk
  rw [json, hcodec]
  refine ⟨rfl, Entries.ordered_insert _ _ (Entries.ordered_insert _ _ (Entries.ordered_sort _)), ?_⟩
  rw [(specCodec_get? spec o).1]
  exact Entries.ordered_sort _

/-! ## Names and versions -/

def Json.version? (value : Json) : Option String :=
  (value.at? Http.Server.versionPath).bind Json.string?

/-- A name and a version are what the typed view says they are. -/
theorem Json.Regular.texts_of_read (h : value.Regular) (hk : k ∈ appliedKinds)
    (hread : Object.read? k value = some o) :
    (value.at? ["metadata", "name"]).bind Json.string? = o.metadata.name ∧
      value.version? = o.metadata.resourceVersion := by
  obtain ⟨metadata, hget, hordered, hmetadata⟩ := h.metadata_of_applied hk hread
  obtain ⟨-, hname, -, hversion⟩ := Metadata.read_eq hordered hmetadata
  have hat (key : String) : value.at? ["metadata", key] = metadata.get? key := by
    simp [at?, hget]
  rw [version?, Http.Server.versionPath, hat, hat]
  exact ⟨Codec.text_of_optionally hname, Codec.text_of_optionally hversion⟩

theorem Object.version?_json (hk : k ∈ appliedKinds) (o : Object k) :
    o.json.version? = o.metadata.resourceVersion :=
  ((regular_json hk o).texts_of_read hk o.read?_json).2

theorem Object.nameIn_json (hk : k ∈ appliedKinds) {name : String}
    (hname : o.metadata.name = some name) : Key.nameIn o.json = name := by
  rw [Key.nameIn, ((regular_json hk o).texts_of_read hk o.read?_json).1, hname]
  rfl

end GrafanaInstall
