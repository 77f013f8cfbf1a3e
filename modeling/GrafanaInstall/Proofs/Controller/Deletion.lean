import GrafanaInstall.Proofs.Controller.Rest
import GrafanaInstall.Proofs.Install.Clearing

/-!
# Deletions

A round for an observability that is being deleted clears its namespace and takes the finalizer,
and nothing is left to do after it. What it does depends on the metadata of the observability alone:
no spec, status or configuration can stand in its way.
-/

namespace GrafanaInstall

open Memory

/-! ## Stores but for what an observability says -/

/-- An object without what is asked of it and what was found. -/
def Json.stripped (value : Json) : Json :=
  (value.erase "spec").erase "status"

def Entry.stripped (key : Key) (entry : Entry) : Entry :=
  if entry.key = key then ⟨entry.key, entry.object.stripped⟩ else entry

/-- A store without what the object under one key is asked and what was found of it. -/
def Store.stripped (store : Store) (key : Key) : Store :=
  store.map (Entry.stripped key)

theorem Json.get?_stripped (value : Json) {key : String} (hspec : key ≠ "spec")
    (hstatus : key ≠ "status") : value.stripped.get? key = value.get? key := by
  rw [stripped, get?_erase, if_neg hstatus, get?_erase, if_neg hspec]

theorem Json.Regular.stripped_withFinalizers {value : Json} (h : value.Regular)
    (items : List Json) :
    (withFinalizers value items).stripped = withFinalizers value.stripped items := by
  have hmetadata : value.stripped.get? "metadata" = value.get? "metadata" :=
    value.get?_stripped (by decide) (by decide)
  have hset (value : Json) : withFinalizers value items =
      value.set "metadata" (((value.get? "metadata").getD .null).set "finalizers" (.array items)) :=
    rfl
  have hordered : Entries.Ordered (value.erase "spec").entries :=
    Entries.ordered_erase "spec" h.ordered
  rw [hset, hset, hmetadata, stripped, Json.erase_set _ _ (by decide) h.ordered,
    Json.erase_set _ _ (by decide) hordered, stripped]

theorem Entry.key_stripped (key : Key) (entry : Entry) : (entry.stripped key).key = entry.key := by
  rw [stripped]
  split <;> rfl

namespace Store

variable {store other : Store} {key : Key}

theorem find?_stripped (store : Store) (key k : Key) :
    (store.stripped key).find? k =
      if k = key then (store.find? k).map Json.stripped else store.find? k := by
  induction store with
  | nil => simp [stripped, find?]
  | cons entry rest ih =>
    rw [stripped, List.map_cons, ← stripped, find?_cons, Entry.key_stripped, ih, find?_cons]
    by_cases hk : entry.key = k
    · simp only [hk, if_true, Entry.stripped]
      split <;> rfl
    · simp only [hk, if_false]

theorem stripped_filter (store : Store) (key : Key) (p : Key → Bool) :
    stripped (store.filter (p ·.key)) key = (store.stripped key).filter (p ·.key) := by
  rw [stripped, stripped, List.filter_map]
  refine congrArg (List.map _) (List.filter_congr fun entry _ => ?_)
  exact congrArg p (entry.key_stripped key).symm

theorem stripped_put (store : Store) (key : Key) (object : Json) :
    (store.put key object).stripped key = (store.stripped key).put key object.stripped := by
  induction store with
  | nil => simp [stripped, put, Entry.stripped]
  | cons entry rest ih =>
    rw [stripped, put, stripped, List.map_cons, put, Entry.key_stripped]
    split
    · simp [Entry.stripped]
    · rw [List.map_cons]
      exact congrArg _ ih

end Store

/-! ## What a round leaves -/

namespace Object

def otherFinalizers (obs : Observability) : List String :=
  (obs.metadata.finalizers.getD []).filter (· ≠ Controller.finalizer)

def released (obs : Observability) : Observability :=
  obs.withFinalizers obs.otherFinalizers

end Object

/-- What is left after a round that cleared a namespace and took the finalizer. -/
def Watched.released (w : Watched) (ns name : String) : Watched :=
  let removed := w.removed ns
  let call := .removeFinalizer ns name Controller.finalizer
  removed.after call (answer call removed.store).2

theorem Watched.released_calls (w : Watched) (ns name : String) :
    (w.released ns name).calls = w.calls ++ removalCalls ns (w.store.isDeployed ns) ++
      [.removeFinalizer ns name Controller.finalizer] := by
  rw [released, calls_after, removed_calls]

theorem Json.Regular.removeFinalizer_of_read {value : Json} (h : value.Regular)
    {obs : Observability} (hread : Object.read? .observability value = some obs) :
    removeFinalizer Controller.finalizer value =
      withFinalizers value (obs.otherFinalizers.map .string) := by
  rw [removeFinalizer, h.finalizers_of_read hread, Json.filter_strings]
  rfl

theorem Store.isDeployed_stripped (store : Store) (ns name : String) :
    (store.stripped (keyOf .observability ns name)).isDeployed ns = store.isDeployed ns := by
  rw [isDeployed, find?_stripped, if_neg (keyOf_ne (by decide)), isDeployed]

/-! ## Rounds -/

namespace Holds

variable {store : Store} {ns name : String} {obs : Observability}

theorem removed {w : Watched} (h : Holds w.store ns name obs) :
    Holds (w.removed ns).store ns name obs :=
  h.of_find? (Watched.removed_sound h.sound ns)
    (w.find?_removed (observability_not_mem_removedKeys ns name))

theorem released_store {w : Watched} (h : Holds w.store ns name obs) :
    ∃ value, w.store.find? (keyOf .observability ns name) = some value ∧ value.Regular ∧
      Object.read? .observability value = some obs ∧
      (w.released ns name).store = (w.removed ns).store.put (keyOf .observability ns name)
        (removeFinalizer Controller.finalizer value) := by
  obtain ⟨value, hfind, hvalue, hread⟩ := h.found
  have hremoved := (w.find?_removed (observability_not_mem_removedKeys ns name)).trans hfind
  refine ⟨value, hfind, hvalue, hread, ?_⟩
  show (change ns name _ _).2 = _
  rw [change, hremoved]

theorem released {w : Watched} (h : Holds w.store ns name obs) :
    Holds (w.released ns name).store ns name obs.released := by
  obtain ⟨value, hfind, hvalue, hread, hput⟩ := h.released_store
  have hagain : Object.read? .observability (removeFinalizer Controller.finalizer value) =
      some obs.released := by
    rw [hvalue.removeFinalizer_of_read hread]
    exact hvalue.read_withFinalizers hread obs.otherFinalizers
  have hkey : obs.released.key = keyOf .observability ns name := by
    show keyOf .observability (obs.metadata.ns.getD "") obs.anyName = _
    rw [h.place, h.name_eq, Option.getD_some]
  rw [hput]
  constructor
  case sound => exact h.removed.sound.put (Entry.sound_of_read hagain hkey)
  case place => exact h.place
  case found =>
    refine ⟨removeFinalizer Controller.finalizer value, ?_, hvalue.setAt _ _, hagain⟩
    rw [Store.find?_put, if_pos rfl]

/-! ### Alike but for a spec and a status -/

variable {other : Store} {obs' : Observability}

theorem metadata_eq (h : Holds store ns name obs) (h' : Holds other ns name obs')
    (halike : other.stripped (keyOf .observability ns name) =
      store.stripped (keyOf .observability ns name)) : obs'.metadata = obs.metadata := by
  obtain ⟨value, hfind, hvalue, hread⟩ := h.found
  obtain ⟨value', hfind', hvalue', hread'⟩ := h'.found
  have hsame := congrArg (Store.find? · (keyOf .observability ns name)) halike
  rw [Store.find?_stripped, Store.find?_stripped, if_pos rfl, if_pos rfl, hfind, hfind'] at hsame
  have hmetadata : value'.get? "metadata" = value.get? "metadata" := by
    rw [← value'.get?_stripped (by decide) (by decide),
      ← value.get?_stripped (by decide) (by decide), Option.some.inj hsame]
  obtain ⟨m, hm, -, hmread⟩ := hvalue.metadata_of_read hread
  obtain ⟨m', hm', -, hmread'⟩ := hvalue'.metadata_of_read hread'
  obtain rfl : m' = m := Option.some.inj (hm'.symm.trans (hmetadata.trans hm))
  exact Option.some.inj (hmread'.symm.trans hmread)

theorem stripped_released {w : Watched} (h : Holds w.store ns name obs) :
    (w.released ns name).store.stripped (keyOf .observability ns name) =
      (change ns name (removeFinalizer Controller.finalizer)
        ((w.store.stripped (keyOf .observability ns name)).filter
          (·.key ∉ removedKeys ns))).2 := by
  obtain ⟨value, hfind, hvalue, -, hput⟩ := h.released_store
  have hremove : (removeFinalizer Controller.finalizer value).stripped =
      removeFinalizer Controller.finalizer value.stripped := by
    rw [removeFinalizer, hvalue.stripped_withFinalizers, removeFinalizer, Json.stripped,
      finalizers_erase _ (by decide), finalizers_erase _ (by decide)]
  have hstripped : Store.find? ((w.store.stripped (keyOf .observability ns name)).filter
      (·.key ∉ removedKeys ns)) (keyOf .observability ns name) = some value.stripped := by
    refine (Store.find?_filter (p := (· ∉ removedKeys ns)) _
      (decide_eq_true (observability_not_mem_removedKeys ns name))).trans ?_
    rw [Store.find?_stripped, if_pos rfl, hfind, Option.map_some]
  rw [hput, Store.stripped_put, hremove, Watched.removed_store, change, hstripped]
  exact congrArg (Store.put _ _) (Store.stripped_filter _ _ (· ∉ removedKeys ns))

end Holds

namespace Controller

variable {store : Store} {ns name : String} {obs : Observability}

theorem watch_of_deleted (h : Holds store ns name obs)
    (hdeleted : obs.metadata.deletionTimestamp.isSome)
    (hfinalizer : obs.metadata.hasFinalizer finalizer) (settings : Settings) :
    watch settings obs store = (.ok .awaitChange, Watched.released ⟨store, []⟩ ns name) := by
  let tenant : Tenant := { ns, version := settings.config.defaultVersion }
  let start : Watched := ⟨store, []⟩
  have hremoved : Holds (start.removed ns).store ns name obs := Holds.removed (w := start) h
  obtain ⟨value, hfind, -⟩ := hremoved.found
  have hanswer : (answer (.removeFinalizer ns name finalizer) (start.removed ns).store).1 =
      .ok () := by
    rw [answer, change, hfind]
  have hcleanup : Program.run Watched.serve (ExceptT.lift (Installer.grafana.cleanup settings.config
      tenant) : Task Cluster Report) start =
      (.ok ⟨some Teardown.stage.name, .success⟩, start.removed ns) := by
    rw [Task.run_lift]
    have hremoval := removal_watched (w := start) h.sound settings.config tenant
    dsimp only [Installer.grafana]
    rw [hremoval]
  have hrelease : Program.run Watched.serve
      (Cluster.call (.removeFinalizer ns obs.anyName finalizer)) (start.removed ns) =
      (.ok (), start.released ns name) := by
    rw [h.name_eq]
    exact Watched.undisturbed.run_call hanswer
  rw [watch, reconcile, h.place]
  dsimp only
  rw [if_pos hdeleted, finish, hfinalizer]
  refine (Task.run_bind_ok hcleanup _).trans ?_
  refine (Task.run_bind_ok (Watched.undisturbed.run_log ..) _).trans ?_
  exact Task.run_bind_ok hrelease _

theorem watch_of_released (hplace : obs.metadata.ns = some ns)
    (hdeleted : obs.metadata.deletionTimestamp.isSome)
    (hfinalizer : obs.metadata.hasFinalizer finalizer = false) (settings : Settings) :
    watch settings obs store = (.ok .awaitChange, ⟨store, []⟩) := by
  rw [watch, reconcile, hplace]
  dsimp only
  rw [if_pos hdeleted, finish, hfinalizer]
  rfl

theorem released_hasFinalizer (obs : Observability) :
    obs.released.metadata.hasFinalizer finalizer = false := by
  simp [Object.released, Object.withFinalizers, Object.otherFinalizers, Metadata.hasFinalizer]

/-- What a round does that lets an observability go, and what it leaves. -/
structure Releases (ns name : String) (obs : Observability) (store : Store) (w : Watched) :
    Prop where
  calls : w.calls = removalCalls ns (store.isDeployed ns) ++ [.removeFinalizer ns name finalizer]
  gone : ∀ key ∈ removedKeys ns, w.store.find? key = none
  rest : w.store.filter (·.key ≠ keyOf .observability ns name) =
    (store.filter (·.key ∉ removedKeys ns)).filter (·.key ≠ keyOf .observability ns name)
  /-- Of the observability itself the finalizer goes, as often as it comes, and nothing else. -/
  taken : ∃ value, store.find? (keyOf .observability ns name) = some value ∧
    w.store.find? (keyOf .observability ns name) =
      some (withFinalizers value (obs.otherFinalizers.map .string))
  held : Holds w.store ns name obs.released
  /-- With any settings, the next round finds nothing to do. -/
  next : ∀ settings, watch settings obs.released w.store = (.ok .awaitChange, ⟨w.store, []⟩)

theorem releases (h : Holds store ns name obs)
    (hdeleted : obs.metadata.deletionTimestamp.isSome) :
    Releases ns name obs store (Watched.released ⟨store, []⟩ ns name) := by
  let start : Watched := ⟨store, []⟩
  obtain ⟨value, hfind, hvalue, hread, hput⟩ := Holds.released_store (w := start) h
  rw [hvalue.removeFinalizer_of_read hread] at hput
  constructor
  case calls => exact start.released_calls ns name
  case gone =>
    intro key hkey
    have hne : key ≠ keyOf .observability ns name := by
      rintro rfl
      exact observability_not_mem_removedKeys ns name hkey
    rw [hput, Store.find?_put, if_neg hne]
    exact start.find?_removed_of_mem hkey
  case rest =>
    rw [hput, ← Watched.removed_store start]
    exact Store.filter_put (p := (· ≠ keyOf .observability ns name)) _ _ (by simp)
  case taken => exact ⟨value, hfind, by rw [hput, Store.find?_put, if_pos rfl]⟩
  case held => exact Holds.released (w := start) h
  case next => exact watch_of_released h.place hdeleted (released_hasFinalizer obs)

/-- A round for an observability that is being deleted lets it go, and no other spec or status and
no other settings could have made a difference to that. -/
theorem deletion_completes (h : Holds store ns name obs)
    (hdeleted : obs.metadata.deletionTimestamp.isSome)
    (hfinalizer : obs.metadata.hasFinalizer finalizer) (settings : Settings) :
    ∃ w, watch settings obs store = (.ok .awaitChange, w) ∧ Releases ns name obs store w ∧
      ∀ other obs' settings', Holds other ns name obs' →
        other.stripped (keyOf .observability ns name) =
          store.stripped (keyOf .observability ns name) →
        ∃ w', watch settings' obs' other = (.ok .awaitChange, w') ∧ w'.calls = w.calls ∧
          w'.store.stripped (keyOf .observability ns name) =
            w.store.stripped (keyOf .observability ns name) := by
  refine ⟨_, watch_of_deleted h hdeleted hfinalizer settings, releases h hdeleted, ?_⟩
  intro other obs' settings' h' halike
  have hmetadata := h.metadata_eq h' halike
  have hdeployed : other.isDeployed ns = store.isDeployed ns := by
    rw [← other.isDeployed_stripped ns name, halike, store.isDeployed_stripped]
  refine ⟨_, watch_of_deleted h' (hmetadata ▸ hdeleted) ?_ settings', ?_, ?_⟩
  · rw [hmetadata]
    exact hfinalizer
  · rw [Watched.released_calls, Watched.released_calls, hdeployed]
    rfl
  · rw [Holds.stripped_released (w := ⟨store, []⟩) h, Holds.stripped_released (w := ⟨other, []⟩) h',
      halike]

/-- A tenant that is being deleted while others hold it back too. -/
def departingTenant (spec : ObservabilitySpec) (status : Option ObservabilityStatus) :
    Observability where
  metadata :=
    { name := "tenant"
      ns := "grafana"
      deletionTimestamp := some ⟨2024, 2, 29, 23, 59, 60, by decide⟩
      finalizers := ["audit", finalizer, "backup", finalizer] }
  body := { spec, status }

def leftDeployment (name : String) : Deployment where
  metadata := { name, ns := "grafana" }
  body := {}

def departingStore (obs : Observability) : Store :=
  [(leftDeployment "grafana-operator-next").stored, obs.stored,
    (leftDeployment deploymentName).stored]

theorem holds_departing (obs : Observability)
    (hkey : obs.key = keyOf .observability "grafana" "tenant")
    (hplace : obs.metadata.ns = some "grafana") (hregular : obs.json.Regular) :
    Holds (departingStore obs) "grafana" "tenant" obs := by
  have hkeys : (departingStore obs).map (·.key) =
      [keyOf .deployment "grafana" "grafana-operator-next", keyOf .observability "grafana" "tenant",
        keyOf .deployment "grafana" deploymentName] := by
    rw [← hkey]
    rfl
  have hsound : (departingStore obs).Sound := by
    refine ⟨by rw [hkeys]; decide, List.forall_mem_cons.mpr ⟨Entry.sound_stored _, ?_⟩⟩
    refine List.forall_mem_cons.mpr ⟨Entry.sound_stored obs, ?_⟩
    exact List.forall_mem_singleton.mpr (Entry.sound_stored _)
  refine .of_json hsound hplace ?_ hregular
  rw [departingStore, Store.find?_cons, if_neg (by decide), Store.find?_cons, ← hkey]
  exact if_pos rfl

/-- A version that could not be installed is no obstacle, and neither is one that was. -/
theorem deletion_completes_for_blank_version :
    let blank := departingTenant { grafanaOperatorVersion := " " } none
    let failed := departingTenant { grafanaOperatorVersion := "v4.3.0" }
      (some ⟨"migration", .failed, "timeout"⟩)
    let settings : Settings := { config := { defaultVersion := "v4.0.0" }, requeueSeconds := 5 }
    Holds (departingStore blank) "grafana" "tenant" blank ∧
      blank.metadata.deletionTimestamp.isSome ∧ blank.metadata.hasFinalizer finalizer ∧
      ∃ w, watch {} blank (departingStore blank) = (.ok .awaitChange, w) ∧
        Releases "grafana" "tenant" blank (departingStore blank) w ∧
        ∃ w', watch settings failed (departingStore failed) = (.ok .awaitChange, w') ∧
          w'.calls = w.calls := by
  intro blank failed settings
  have hblank := holds_departing blank rfl rfl ⟨rfl, by decide, by decide⟩
  have hfailed := holds_departing failed rfl rfl ⟨rfl, by decide, by decide⟩
  have hfinalizer : blank.metadata.hasFinalizer finalizer := by decide
  obtain ⟨w, hwatch, hreleases, hother⟩ := deletion_completes hblank rfl hfinalizer {}
  obtain ⟨w', hwatch', hcalls, -⟩ := hother _ failed settings hfailed (by decide)
  exact ⟨hblank, rfl, hfinalizer, w, hwatch, hreleases, w', hwatch', hcalls⟩

end Controller

end GrafanaInstall
