import GrafanaInstall.Proofs.Http.Apply

/-!
# Specs that are overwritten

An apply compares typed views, and what these have no field for is not seen. So a spec with such
entries is replaced only if something else in it is to change, and else it stays as it is.
-/

namespace GrafanaInstall

variable {k : Kind} {ns name : String} {desired observed : Object k} {value : Json} {bed : Testbed}

/-- The spec that an apply leaves of a stored object, which is read as the observed one. -/
def Object.specOver (desired observed : Object k) (value : Json) : Option Json :=
  if observed.body = desired.body then value.get? "spec" else desired.json.get? "spec"

theorem Object.specOver_eq_iff :
    desired.specOver observed value = desired.json.get? "spec" ↔
      (observed.body = desired.body → value.get? "spec" = desired.json.get? "spec") := by
  rw [specOver]
  by_cases hsame : observed.body = desired.body
  · simp [hsame]
  · simp [hsame]

namespace Testbed

theorem get?_kept (bed : Testbed) (object : Json) :
    (bed.kept object).get? "spec" = object.get? "spec" := by
  rw [kept]
  split
  · rfl
  · exact (Json.get?_set object _ "metadata" "spec").trans (if_neg (by decide))

structure Finds (bed : Testbed) (desired : Object k) (ns name : String) (value : Json)
    (observed : Object k) : Prop extends bed.Answers desired ns name where
  find : bed.store.find? desired.key = some value
  read : Object.read? k value = some observed

theorem Finds.told (hfinds : bed.Finds desired ns name value observed) {result : ApplyResult}
    {submitted : Option (Object k)} {after : Testbed}
    (h : bed.Applied desired ns name result submitted after) :
    desired.Applying (some observed) result submitted := by
  have hheld : bed.store.held k desired.key = some observed :=
    Store.held_of_find hfinds.find hfinds.read
  rw [← hheld]
  exact h.told

namespace Applied

variable {result : ApplyResult} {submitted : Option (Object k)} {after : Testbed}

theorem find?_eq_none_iff (h : bed.Applied desired ns name result submitted after)
    (hfinds : bed.Finds desired ns name value observed) :
    after.store.find? desired.key = none ↔
      bed.Drops observed.metadata ∧ observed.body ≠ desired.body := by
  rw [h.find?_eq_none hfinds.kind]
  cases hfinds.told h with
  | unchanged hsame => simp [(Object.spec_json_inj hfinds.kind).mp hsame]
  | updated hdiffers => simp [mt (Object.spec_json_inj hfinds.kind).mpr hdiffers]

theorem get?_spec (h : bed.Applied desired ns name result submitted after)
    (hfinds : bed.Finds desired ns name value observed) {stored : Json}
    (hstored : after.store.find? desired.key = some stored) :
    stored.get? "spec" = desired.specOver observed value := by
  have hk := hfinds.kind
  rw [Object.specOver]
  cases hfinds.told h with
  | unchanged hsame =>
    rw [h.find?_none, hfinds.find] at hstored
    obtain rfl := Option.some.inj hstored
    rw [if_pos ((Object.spec_json_inj hk).mp hsame)]
  | updated hdiffers =>
    rw [if_neg (mt (Object.spec_json_inj hk).mpr hdiffers)]
    rw [h.find?_some hk] at hstored
    split at hstored
    · cases hstored
    · obtain rfl := Option.some.inj hstored
      rw [get?_kept]
      exact (Object.spec_json_inj hk).mpr rfl

end Applied

/-- What an apply that succeeds leaves of the object that it finds. The spec is the desired one,
unless the typed views agree and the stored spec is not what is printed of them. The object is gone
if the write completes its deletion. -/
theorem Finds.apply_overwrites_iff (h : bed.Finds desired ns name value observed) :
    ∃ result after, Program.run bed.handler (Cluster.apply desired) bed = (.ok result, after) ∧
      (after.store.find? desired.key = none ↔
        bed.Drops observed.metadata ∧ observed.body ≠ desired.body) ∧
      ∀ stored, after.store.find? desired.key = some stored →
        stored.get? "spec" = desired.specOver observed value ∧
        (stored.get? "spec" = desired.json.get? "spec" ↔
          (observed.body = desired.body → value.get? "spec" = desired.json.get? "spec")) := by
  obtain ⟨result, submitted, after, happlied⟩ := h.applied
  refine ⟨result, after, happlied.run, happlied.find?_eq_none_iff h, fun stored hstored => ?_⟩
  rw [happlied.get?_spec h hstored]
  exact ⟨rfl, Object.specOver_eq_iff⟩

/-- Two catalog sources differ in an address that no typed view has. After the same apply they do
so still, and one of the specs is not the desired one. -/
theorem apply_overwrites_unless_addressed :
    let desired := ({ ns := "grafana", version := "v4.2.0" } : Tenant).catalogSource {}
    let addressed := desired.json.setAt ["spec", "address"] (.string "catalog:50051")
    let bed (value : Json) : Testbed :=
      { access := .server, server := { store := [⟨desired.key, value⟩] } }
    ∀ value ∈ [desired.json, addressed],
      (bed value).Finds desired "grafana" catalogSourceName value desired ∧
      ∃ result after stored,
        Program.run (bed value).handler (Cluster.apply desired) (bed value) = (.ok result, after) ∧
        after.store.find? desired.key = some stored ∧
        stored.get? "spec" = value.get? "spec" ∧
        (stored.get? "spec" = desired.json.get? "spec" ↔ value = desired.json) := by
  intro desired addressed bed value hvalue
  have hvalue : value = desired.json ∨ value = addressed := by simpa using hvalue
  have hread : Object.read? .catalogSource value = some desired := by
    rcases hvalue with rfl | rfl
    · exact desired.read?_json
    · decide +kernel
  have hfind : (bed value).store.find? desired.key = some value :=
    (Store.find?_cons _ _ _).trans (if_pos rfl)
  have hfinds : (bed value).Finds desired "grafana" catalogSourceName value desired :=
    { kind := by decide
      place := rfl
      named := rfl
      calls := rfl
      requests := rfl
      readable := fun stored hstored => by
        obtain rfl := Option.some.inj (hfind.symm.trans hstored)
        exact ⟨desired, hread⟩
      addressable := fun _ => addressable_catalogSource
      regular := fun _ hstrict => nomatch hstrict
      find := hfind
      read := hread }
  obtain ⟨result, after, hrun, hgone, hspec⟩ := hfinds.apply_overwrites_iff
  obtain ⟨stored, hstored⟩ := Option.ne_none_iff_exists'.mp
    (show after.store.find? desired.key ≠ none from fun h => (hgone.mp h).2 rfl)
  obtain ⟨hleft, hdesired⟩ := hspec stored hstored
  refine ⟨hfinds, result, after, stored, hrun, hstored, hleft.trans (if_pos rfl), ?_⟩
  rw [hdesired, forall_prop_of_true rfl]
  rcases hvalue with rfl | rfl
  · exact iff_of_true rfl rfl
  · exact iff_of_false (by decide +kernel) (by decide +kernel)

end Testbed

end GrafanaInstall
