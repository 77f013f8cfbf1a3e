import GrafanaInstall.Proofs.Resource.RoundTrip

/-!
# Normal forms

Reading a value and writing it back drops what no field is for and settles what was left open. Doing
so once is enough: what is written is read as the same again, and so an object never differs from
its own round trip.
-/

namespace GrafanaInstall

/-! ## Codecs -/

namespace Codec

/-- What a value is written as once it has been read. -/
def normal? (codec : Codec α) (value : Json) : Option Json :=
  (codec.read value).map codec.write

structure Normalizes (codec : Codec α) : Prop where
  once (value : Json) : (codec.normal? value).bind codec.normal? = codec.normal? value
  /-- Nothing is lost that was read: values of one normal form say the same. -/
  faithful (value other : Json) :
    codec.normal? value = codec.normal? other ↔ codec.read value = codec.read other
  /-- Whatever can be said can be written. -/
  exhaustive (a : α) : ∃ value, codec.read value = some a ∧ codec.normal? value = some value

namespace Lawful

variable {codec : Codec α}

theorem normal?_write (h : codec.Lawful) (a : α) :
    codec.normal? (codec.write a) = some (codec.write a) := by
  rw [normal?, h.read_write, Option.map_some]

theorem write_injective (h : codec.Lawful) : Function.Injective codec.write :=
  fun _ _ => h.write_inj.mp

theorem normalizes (h : codec.Lawful) : codec.Normalizes where
  once value := by
    rw [normal?]
    cases codec.read value with
    | none => rfl
    | some a => exact h.normal?_write a
  faithful value other := (Option.map_injective h.write_injective).eq_iff
  exhaustive a := ⟨codec.write a, h.read_write a, h.normal?_write a⟩

end Lawful

end Codec

/-! ## Views -/

/-- What the operator has a typed view of: whole objects, and the parts that it reads and writes on
their own. -/
inductive View where
  | object (k : Kind)
  | status
  | requirements

namespace View

@[reducible] def Content : View → Type
  | .object k => Object k
  | .status => ObservabilityStatus
  | .requirements => ResourceRequirements

def codec : (view : View) → Codec view.Content
  | .object k => Object.codec k
  | .status => ObservabilityStatus.codec
  | .requirements => ResourceRequirements.codec

theorem codec_lawful : (view : View) → view.codec.Lawful
  | .object k => Object.codec_lawful k
  | .status => ObservabilityStatus.lawful
  | .requirements => ResourceRequirements.lawful

end View

/-! ## Drift -/

theorem Object.needsUpdate_eq_false_iff {observed mutated : Object k} :
    observed.needsUpdate mutated = false ↔ mutated = observed := by
  rw [needsUpdate, decide_eq_false_iff_not, Decidable.not_not, json_inj, eq_comm]

/-- Every view brings a value into its normal form at once, and no object is taken for another than
what is read again of it. -/
theorem views_normalize_once :
    (∀ view : View, view.codec.Normalizes) ∧
      ∀ (k : Kind) (observed : Object k),
        (∃ again, Object.read? k observed.json = some again ∧
          observed.needsUpdate again = false ∧ again.needsUpdate observed = false) ∧
        ∀ mutated, observed.needsUpdate mutated = false ↔ mutated = observed := by
  refine ⟨fun view => view.codec_lawful.normalizes, fun k observed => ⟨?_, fun mutated => ?_⟩⟩
  · have hsame : observed.needsUpdate observed = false :=
      Object.needsUpdate_eq_false_iff.mpr rfl
    exact ⟨observed, observed.read?_json, hsame, hsame⟩
  · exact Object.needsUpdate_eq_false_iff

/-- Null and absent come to the same, empty lists and maps stay, times are told in UTC, what no
field is for is gone, and what is taken over as it is comes in order. -/
example :
    (View.object .operatorGroup).codec.normal? (.object [
        ("status", .null),
        ("metadata", .object [
          ("name", .string "group"),
          ("uid", .null),
          ("labels", .object []),
          ("finalizers", .array []),
          ("creationTimestamp", .string "2024-02-29t23:30:15.75+01:30"),
          ("ownerReferences", .array [.object [("name", .string "owner"), ("kind", .null)]]),
          ("managedFields", .array [.object [
            ("time", .string "2024-03-01T01:00:00+01:00"),
            ("fieldsV1", .object [("f:spec", .null), ("f:metadata", .object [])]),
            ("operation", .null), ("origin", .int 1)]])]),
        ("spec", .object [("targetNamespaces", .array []), ("selector", .null)])]) =
      some (.object [
        ("apiVersion", .string "operators.coreos.com/v1"),
        ("kind", .string "OperatorGroup"),
        ("metadata", .object [
          ("creationTimestamp", .string "2024-02-29T22:00:15Z"),
          ("finalizers", .array []),
          ("labels", .object []),
          ("managedFields", .array [.object [
            ("fieldsV1", .object [("f:metadata", .object []), ("f:spec", .null)]),
            ("time", .string "2024-03-01T00:00:00Z")]]),
          ("name", .string "group"),
          ("ownerReferences", .array [.object [
            ("apiVersion", .string ""), ("kind", .string ""), ("name", .string "owner"),
            ("uid", .string "")]])]),
        ("spec", .object [])]) := by
  decide +kernel

end GrafanaInstall
