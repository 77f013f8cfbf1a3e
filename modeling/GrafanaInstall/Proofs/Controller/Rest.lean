import GrafanaInstall.Proofs.Controller.Finalizer
import GrafanaInstall.Proofs.Controller.Finding
import GrafanaInstall.Proofs.Install.Settled
import GrafanaInstall.Proofs.Store.Frame

/-!
# Coming to rest

Once a round got past every stage, or found the spec invalid, there is nothing left to do. The next
round looks at the same objects, finds them in place, and writes nothing, not even a status.
-/

namespace GrafanaInstall

open Memory

/-! ## Idle calls -/

/-- Only looks, or applies what is in place. -/
def Call.Idle (store : Store) : Call → Prop
  | .list .. => True
  | .apply _ desired => Memory.apply desired store = (.ok .unchanged, store)
  | _ => False

/-- So far nothing was written to the store. -/
structure Watched.Idle (store : Store) (w : Watched) : Prop where
  kept : w.store = store
  history : ∀ visit ∈ w.history, visit.2 = store ∧ visit.1.Idle store

namespace Watched.Idle

variable {store : Store} {w : Watched}

theorem start (store : Store) : Watched.Idle store ⟨store, []⟩ :=
  ⟨rfl, fun _ hmem => absurd hmem List.not_mem_nil⟩

theorem after (h : w.Idle store) {call : Call} {next : Store} (hcall : call.Idle store)
    (hnext : next = store) : (w.after call next).Idle store where
  kept := hnext
  history visit hmem := by
    rcases List.mem_append.mp hmem with hmem | hmem
    · exact h.history visit hmem
    · rw [List.mem_singleton.mp hmem]
      exact ⟨h.kept, hcall⟩

theorem list (h : w.Idle store) (k : Kind) (ns : String) :
    (w.after (.list k ns) w.store).Idle store :=
  h.after trivial h.kept

theorem apply (h : w.Idle store) {desired : Object k} (hplace : InPlace desired store) :
    (w.after (.apply k desired) (applied desired w.store)).Idle store :=
  h.after (apply_of_inPlace hplace) (by rw [h.kept]; exact applied_of_inPlace hplace)

theorem settling {config : InstallConfig} {tenant : Tenant} (h : w.Idle store)
    (hsettled : Settled config tenant store) :
    (settling config tenant w).Idle store := by
  have hcatalog := h.apply hsettled.catalogSource
  have hboth : (Objects.withBoth config tenant w).Idle store := by
    refine hcatalog.after (apply_of_inPlace hsettled.subscription) ?_
    rw [hcatalog.kept]
    exact applied_of_inPlace hsettled.subscription
  have hgroup : (Objects.withGroup tenant (Objects.withBoth config tenant w)).Idle store := by
    rw [Objects.withGroup, if_neg (by rw [hboth.kept]; exact hsettled.group)]
    exact hboth.list ..
  exact hgroup.list ..

end Watched.Idle

/-! ## The installation -/

variable {store : Store} {config : InstallConfig} {tenant : Tenant}

theorem settled_of_ready (h : store.Sound)
    (hready : ((installation.run config tenant).run serve store).1.stage =
      some Readiness.stage.name) :
    (installed config tenant store).Sound ∧ Settled config tenant (installed config tenant store) ∧
      ((installation.run config tenant).run serve store).1 =
        finalReport (installed config tenant store) tenant.ns := by
  rw [installed]
  cases hlegacy : store.legacy? tenant.ns with
  | none =>
    rw [run_of_none h config hlegacy]
    exact ⟨settled_sound h config tenant, settled_settles h, rfl⟩
  | some s =>
    cases hrecord : store.record? tenant.ns with
    | none =>
      have hbare : (store.bare tenant.ns).Sound := h.erase _
      rw [run_of_watched (installation_of_bare (w := ⟨store, []⟩) h config hlegacy hrecord)]
      rw [settling_store]
      exact ⟨settled_sound hbare config tenant, settled_settles hbare, rfl⟩
    | some record =>
      rw [run_of_watched (installation_of_record (w := ⟨store, []⟩) h config hlegacy hrecord)]
        at hready
      exact absurd (Option.some.inj hready) (by decide)

theorem idle_of_settled (h : store.Sound) (hsettled : Settled config tenant store) :
    ∃ w, Program.run Watched.serve (installation.run config tenant) ⟨store, []⟩ =
      (finalReport store tenant.ns, w) ∧ w.Idle store := by
  have hnone := legacy?_of_inPlace hsettled.subscription
  have hrun := installation_of_none (w := ⟨store, []⟩) h config hnone
  rw [hsettled.settled_eq] at hrun
  refine ⟨_, hrun, ?_⟩
  exact ((Watched.Idle.start store).list ..).settling hsettled

theorem find?_installed (store : Store) (ns name : String) :
    (installed config tenant store).find? (keyOf .observability ns name) =
      store.find? (keyOf .observability ns name) := by
  let p (key : Key) : Bool := key = keyOf .observability ns name
  have hp : ∀ call, InstallCall config tenant call → ∀ key, call.key? = some key →
      p key = false := by
    intro call hcall key hkey
    have hne : key.kind ≠ Kind.observability.name := by
      cases hcall <;> cases hkey <;> simp [Object.key, keyOf, Kind.name]
    exact decide_eq_false fun e => hne (congrArg Key.kind e)
  have hsame := (installation_givesUp config tenant).asks.filter_run hp store
  have hkey : p (keyOf .observability ns name) := decide_eq_true rfl
  rw [← Store.find?_filter _ hkey, ← Store.find?_filter store hkey]
  exact congrArg (Store.find? · _) hsame

/-! ## Recording the status -/

def Object.withStatus (obs : Observability) (status : ObservabilityStatus) : Observability :=
  { obs with body := { obs.body with status } }

theorem Json.Regular.read_set_status {value : Json} (h : value.Regular) {obs : Observability}
    (hread : Object.read? .observability value = some obs) (status : ObservabilityStatus) :
    Object.read? .observability (value.set "status" (ObservabilityStatus.codec.write status)) =
      some (obs.withStatus status) := by
  have hset := h.set (ObservabilityStatus.codec.write status) (show "status" ≠ "metadata" by decide)
  rw [h.object, Object.read?_observability h.ordered.nodup] at hread
  obtain ⟨hmetadata, hspec, -⟩ := hread
  rw [hset.object, Object.read?_observability hset.ordered.nodup]
  have hlookup (key : String) :
      (value.set "status" (ObservabilityStatus.codec.write status)).entries.lookup key =
        if key = "status" then some (ObservabilityStatus.codec.write status)
        else value.entries.lookup key :=
    Json.get?_set value _ "status" key
  rw [hlookup, hlookup, hlookup, if_neg (by decide), if_neg (by decide), if_pos rfl]
  exact ⟨hmetadata, hspec, ObservabilityStatus.lawful.optionally_write status⟩

/-- What a round leaves that records a status at its end. -/
def Watched.recorded (w : Watched) (obs : Observability) (ns : String)
    (status : ObservabilityStatus) : Watched :=
  if obs.body.status = some status then w
  else
    let call := .patchStatus ns obs.anyName status
    w.after call (answer call w.store).2

theorem Object.withStatus_self {obs : Observability} {status : ObservabilityStatus}
    (h : obs.body.status = some status) : obs.withStatus status = obs := by
  rw [withStatus, ← h]

/-- A sound store that has a regular object under the key of an observability, which reads as
`obs`. -/
structure Holds (store : Store) (ns name : String) (obs : Observability) : Prop where
  sound : store.Sound
  place : obs.metadata.ns = some ns
  found : ∃ value, store.find? (keyOf .observability ns name) = some value ∧ value.Regular ∧
    Object.read? .observability value = some obs

namespace Holds

variable {ns name : String} {obs : Observability} {status : ObservabilityStatus}

theorem of_json (hsound : store.Sound) (hplace : obs.metadata.ns = some ns)
    (hfind : store.find? (keyOf .observability ns name) = some obs.json)
    (hregular : obs.json.Regular) : Holds store ns name obs where
  sound := hsound
  place := hplace
  found := ⟨obs.json, hfind, hregular, obs.read?_json⟩

theorem name_eq (h : Holds store ns name obs) : obs.anyName = name := by
  obtain ⟨value, hfind, -, hread⟩ := h.found
  obtain ⟨other, hother, hkey⟩ := h.sound.read_of_find (k := .observability) hfind rfl
  have hsame : other = obs := Option.some.inj (hother.symm.trans hread)
  rw [hsame] at hkey
  exact congrArg Key.name hkey

theorem of_find? (h : Holds store ns name obs) {after : Store} (hsound : after.Sound)
    (hsame : after.find? (keyOf .observability ns name) =
      store.find? (keyOf .observability ns name)) : Holds after ns name obs where
  sound := hsound
  place := h.place
  found := by
    rw [hsame]
    exact h.found

theorem patched (h : Holds store ns name obs) (status : ObservabilityStatus) :
    Holds (answer (.patchStatus ns name status) store).2 ns name (obs.withStatus status) := by
  obtain ⟨value, hfind, hvalue, hread⟩ := h.found
  let next := value.set "status" (ObservabilityStatus.codec.write status)
  have hnext : Object.read? .observability next = some (obs.withStatus status) :=
    hvalue.read_set_status hread status
  have hput : (answer (.patchStatus ns name status) store).2 =
      store.put (keyOf .observability ns name) next := by
    rw [answer, change, hfind]
  have hkey : (obs.withStatus status).key = keyOf .observability ns name := by
    show keyOf .observability (obs.metadata.ns.getD "") obs.anyName = _
    rw [h.place, h.name_eq, Option.getD_some]
  rw [hput]
  constructor
  case sound => exact h.sound.put (Entry.sound_of_read hnext hkey)
  case place => exact h.place
  case found =>
    refine ⟨next, by rw [Store.find?_put, if_pos rfl], hvalue.set _ (by decide), hnext⟩

theorem recorded {w : Watched} (h : Holds w.store ns name obs) (status : ObservabilityStatus) :
    Holds (w.recorded obs ns status).store ns name (obs.withStatus status) := by
  rw [Watched.recorded]
  split
  · rwa [Object.withStatus_self ‹_›]
  · rw [h.name_eq]
    exact h.patched status

end Holds

theorem Watched.filter_recorded (w : Watched) (obs : Observability) (ns : String)
    (status : ObservabilityStatus) :
    (w.recorded obs ns status).store.filter (·.key.kind ≠ Kind.observability.name) =
      w.store.filter (·.key.kind ≠ Kind.observability.name) := by
  let p (key : Key) : Bool := key.kind ≠ Kind.observability.name
  rw [recorded]
  split
  · rfl
  · refine filter_answer (p := p) (.patchStatus ns obs.anyName status) w.store ?_
    rintro key ⟨⟩
    exact decide_eq_false fun hne => hne rfl

theorem Settled.recorded {w : Watched} (h : Settled config tenant w.store) (obs : Observability)
    (ns : String) (status : ObservabilityStatus) :
    Settled config tenant (w.recorded obs ns status).store ∧
      finalReport (w.recorded obs ns status).store tenant.ns = finalReport w.store tenant.ns := by
  let p (key : Key) : Bool := key.kind ≠ Kind.observability.name
  have hfilter := w.filter_recorded obs ns status
  have hplace {k : Kind} (hk : k ≠ .observability) {desired : Object k}
      (hplace : InPlace desired w.store) : InPlace desired (w.recorded obs ns status).store := by
    obtain ⟨o, hheld, ho⟩ := hplace
    have hkey : desired.key.kind ≠ Kind.observability.name := fun e => hk (Kind.name_inj.mp e)
    exact ⟨o, (Store.held_of_filter (p := p) hfilter (decide_eq_true hkey)).trans hheld, ho⟩
  have hview {k : Kind} (hk : k ≠ .observability) :
      (w.recorded obs ns status).store.view k tenant.ns = w.store.view k tenant.ns := by
    refine Store.view_of_filter (p := p) hfilter fun key hkind _ => decide_eq_true ?_
    rw [hkind]
    exact fun e => hk (Kind.name_inj.mp e)
  constructor
  · constructor
    case catalogSource => exact hplace (by decide) h.catalogSource
    case subscription => exact hplace (by decide) h.subscription
    case group =>
      rw [hview (by decide)]
      exact h.group
  · rw [finalReport, finalReport, Store.isReady, Store.isReady, hview (by decide)]

namespace Controller

variable {w : Watched} {obs : Observability} {ns name : String} {status : ObservabilityStatus}

theorem run_recordStatus (h : Holds w.store ns name obs) (status : ObservabilityStatus) :
    Program.run Watched.serve (recordStatus obs ns status) w =
      (.ok (), w.recorded obs ns status) := by
  obtain ⟨value, hvalue, -⟩ := h.found
  rw [← h.name_eq] at hvalue
  rw [recordStatus, Watched.recorded]
  split
  · rfl
  · have hanswer : (answer (.patchStatus ns obs.anyName status) w.store).1 = .ok () := by
      rw [answer, change, hvalue]
    show ((answer (.patchStatus ns obs.anyName status) w.store).1.mapError Halt.failed, _) = _
    rw [hanswer]
    rfl

/-! ## Rounds -/

def watch (settings : Settings) (obs : Observability) (store : Store) :
    Except Halt Action × Watched :=
  Program.run Watched.serve (reconcile Installer.grafana settings obs) ⟨store, []⟩

/-- A round that finds the spec invalid, or has a report of the last stage. -/
inductive Arrives (config : InstallConfig) (obs : Observability) (store : Store) : Prop
  | invalid {error : Error} (h : Tenant.ofObservability obs config = .error error)
  | ready {tenant : Tenant} (h : Tenant.ofObservability obs config = .ok tenant)
    (hready : ((installation.run config tenant).run serve store).1.stage =
      some Readiness.stage.name)

variable {settings : Settings}

theorem reconcile_of_live {installer : Installer (Program Cluster)}
    (hns : obs.metadata.ns = some ns) (hlive : obs.metadata.deletionTimestamp = none)
    (hfinalizer : obs.metadata.hasFinalizer finalizer) :
    reconcile installer settings obs = install installer settings obs ns := by
  rw [reconcile, hns]
  dsimp only
  rw [if_neg (by rw [hlive]; exact Bool.false_ne_true), if_pos hfinalizer]

theorem watch_of_live (hns : obs.metadata.ns = some ns)
    (hlive : obs.metadata.deletionTimestamp = none)
    (hfinalizer : obs.metadata.hasFinalizer finalizer) :
    watch settings obs store =
      Program.run Watched.serve (install Installer.grafana settings obs ns) ⟨store, []⟩ := by
  rw [watch, reconcile_of_live hns hlive hfinalizer]

theorem conclude_watched (finding : Finding) (w : Watched) :
    (Program.run Watched.serve (conclude settings finding) w).2 = w := by
  rcases finding with _ | ⟨_, _ | _ | _⟩ <;> rfl

theorem install_of_look {finding : Finding} {after : Watched}
    (hlook : Program.run Watched.serve (look Installer.grafana settings obs) w =
      (.ok finding, after)) (h : Holds after.store ns name obs) :
    Program.run Watched.serve (install Installer.grafana settings obs ns) w =
      (finding.result settings, after.recorded obs ns finding.status) := by
  rw [install_eq, Task.run_bind_ok hlook, Task.run_bind_ok (run_recordStatus h finding.status)]
  exact Prod.ext (conclude_result ..) (conclude_watched ..)

theorem install_of_invalid (h : Holds w.store ns name obs) {error : Error}
    (herror : Tenant.ofObservability obs settings.config = .error error) :
    Program.run Watched.serve (install Installer.grafana settings obs ns) w =
      (.ok .awaitChange,
        w.recorded obs ns { stageStatus := .failed, message := error.message }) := by
  have hlook : Program.run Watched.serve (look Installer.grafana settings obs) w =
      (.ok (.invalid error), w) := by
    rw [look, herror]
    rfl
  exact install_of_look hlook h

theorem install_of_report {tenant : Tenant} {report : Report} {after : Watched}
    (htenant : Tenant.ofObservability obs settings.config = .ok tenant)
    (hrun : Program.run Watched.serve (installation.run settings.config tenant) w = (report, after))
    (h : Holds after.store ns name obs) (hreport : report.outcome.error? = none) :
    Program.run Watched.serve (install Installer.grafana settings obs ns) w =
      (.ok (.requeue settings.requeueSeconds), after.recorded obs ns (statusOf report)) := by
  have hresult : (Finding.reported report).result settings =
      .ok (.requeue settings.requeueSeconds) := by
    rcases report with ⟨_, _ | _ | error⟩
    · rfl
    · rfl
    · cases hreport
  rw [install_of_look (look_of_ok htenant hrun) h, hresult, Finding.status_reported]

theorem recorded_again (w : Watched) (obs : Observability) (ns : String)
    (status : ObservabilityStatus) : w.recorded (obs.withStatus status) ns status = w :=
  if_pos rfl

theorem finalReport_error? (store : Store) (ns : String) :
    (finalReport store ns).outcome.error? = none := by
  rw [finalReport]
  cases store.isReady ns <;> rfl

/-- What is stored can be read again, and the round after that ends in the same way and on its way
only looks, or applies what is in place. -/
def Rests (settings : Settings) (ns name : String) (store : Store) (action : Action) : Prop :=
  ∃ again second, Holds store ns name again ∧
    watch settings again store = (.ok action, second) ∧ second.Idle store

theorem rests_of_invalid (h : Holds store ns name obs)
    (hlive : obs.metadata.deletionTimestamp = none)
    (hfinalizer : obs.metadata.hasFinalizer finalizer) {error : Error}
    (herror : Tenant.ofObservability obs settings.config = .error error) :
    ∃ action first, watch settings obs store = (.ok action, first) ∧
      Rests settings ns name first.store action := by
  let status : ObservabilityStatus := { stageStatus := .failed, message := error.message }
  let start : Watched := ⟨store, []⟩
  let first := start.recorded obs ns status
  have hfirst : watch settings obs store = (.ok .awaitChange, first) := by
    rw [watch_of_live h.place hlive hfinalizer, install_of_invalid h herror]
  have hheld : Holds first.store ns name (obs.withStatus status) := Holds.recorded h status
  -- The spec has stayed the same, and so the next round finds the same fault with it.
  have hagain : Tenant.ofObservability (obs.withStatus status) settings.config = .error error :=
    herror
  have hsecond : watch settings (obs.withStatus status) first.store =
      (.ok .awaitChange, ⟨first.store, []⟩) := by
    rw [watch_of_live hheld.place hlive hfinalizer,
      install_of_invalid (w := ⟨first.store, []⟩) hheld hagain, recorded_again]
  exact ⟨.awaitChange, first, hfirst, _, _, hheld, hsecond, .start _⟩

theorem rests_of_ready (h : Holds store ns name obs)
    (hlive : obs.metadata.deletionTimestamp = none)
    (hfinalizer : obs.metadata.hasFinalizer finalizer) {tenant : Tenant}
    (htenant : Tenant.ofObservability obs settings.config = .ok tenant)
    (hready : ((installation.run settings.config tenant).run serve store).1.stage =
      some Readiness.stage.name) :
    ∃ action first, watch settings obs store = (.ok action, first) ∧
      Rests settings ns name first.store action := by
  obtain ⟨hsound, hsettled, hreport⟩ := settled_of_ready h.sound hready
  obtain ⟨hsame, hstore⟩ := Watched.run_serve (installation.run settings.config tenant) ⟨store, []⟩
  rcases hrun : Program.run Watched.serve (installation.run settings.config tenant) ⟨store, []⟩ with
    ⟨report, after⟩
  rw [hrun] at hsame hstore
  obtain rfl : report = finalReport (installed settings.config tenant store) tenant.ns :=
    hsame.trans hreport
  obtain hstore : after.store = installed settings.config tenant store := hstore
  rw [← hstore] at hsound hsettled hrun
  have hafter : Holds after.store ns name obs := by
    refine h.of_find? hsound ?_
    rw [hstore]
    exact find?_installed store ns name
  let report := finalReport after.store tenant.ns
  let first := after.recorded obs ns (statusOf report)
  have hfirst : watch settings obs store = (.ok (.requeue settings.requeueSeconds), first) := by
    rw [watch_of_live h.place hlive hfinalizer]
    exact install_of_report htenant hrun hafter (finalReport_error? _ _)
  have hheld : Holds first.store ns name (obs.withStatus (statusOf report)) :=
    hafter.recorded (statusOf report)
  -- What is left is settled, so the next run changes nothing and comes to the same report.
  obtain ⟨hstill, hagain⟩ := hsettled.recorded obs ns (statusOf report)
  obtain ⟨second, hrun, hidle⟩ := idle_of_settled hheld.sound hstill
  rw [hagain] at hrun
  have hsecond : watch settings (obs.withStatus (statusOf report)) first.store =
      (.ok (.requeue settings.requeueSeconds), second) := by
    have hthere : Holds second.store ns name (obs.withStatus (statusOf report)) := by
      rw [hidle.kept]
      exact hheld
    have htenant : Tenant.ofObservability (obs.withStatus (statusOf report)) settings.config =
        .ok tenant := htenant
    rw [watch_of_live hheld.place hlive hfinalizer,
      install_of_report htenant hrun hthere (finalReport_error? _ _), recorded_again]
  exact ⟨_, first, hfirst, _, _, hheld, hsecond, hidle⟩

/-- After a round that arrived, the next one on what is then stored changes nothing. -/
theorem reconcile_rests (h : Holds store ns name obs)
    (hlive : obs.metadata.deletionTimestamp = none)
    (hfinalizer : obs.metadata.hasFinalizer finalizer)
    (harrives : Arrives settings.config obs store) :
    ∃ action first, watch settings obs store = (.ok action, first) ∧
      Rests settings ns name first.store action := by
  cases harrives with
  | invalid herror => exact rests_of_invalid h hlive hfinalizer herror
  | ready htenant hready => exact rests_of_ready h hlive hfinalizer htenant hready

/-- A tenant whose last round failed, with a budget of its own. -/
def strugglingTenant : Observability where
  metadata := { name := "tenant", ns := "grafana", finalizers := [finalizer] }
  body :=
    { spec :=
        { grafanaOperatorVersion := "v4.2.0"
          grafanaOperatorResources := some { limits := some (.ofEntries [("cpu", "2")]) } }
      status := some ⟨"subscription", .failed, "timeout"⟩ }

theorem strugglingTenant_regular : strugglingTenant.json.Regular where
  object := rfl
  ordered := by decide
  metadata := by decide

/-- The old status is replaced in the first round, and from then on there is nothing to do. -/
theorem reconcile_rests_after_failure :
    let store : Store := [⟨⟨"Secret", "grafana", "token"⟩, .null⟩, strugglingTenant.stored]
    Holds store "grafana" "tenant" strugglingTenant ∧
      strugglingTenant.metadata.deletionTimestamp = none ∧
      strugglingTenant.metadata.hasFinalizer finalizer ∧
      Arrives {} strugglingTenant store ∧
      ∃ action first, watch {} strugglingTenant store = (.ok action, first) ∧
        Rests {} "grafana" "tenant" first.store action := by
  intro store
  have hsound : store.Sound := by
    constructor
    case nodup => decide
    case entries =>
      refine List.forall_mem_cons.mpr ⟨by decide, List.forall_mem_singleton.mpr ?_⟩
      exact Entry.sound_stored strugglingTenant
  have hheld : Holds store "grafana" "tenant" strugglingTenant :=
    .of_json hsound rfl (by decide) strugglingTenant_regular
  have harrives : Arrives {} strugglingTenant store := by
    refine .ready rfl ?_
    rw [run_of_none hsound {} (show store.legacy? "grafana" = none by decide)]
    rfl
  have hfinalizer : strugglingTenant.metadata.hasFinalizer finalizer := by decide
  exact ⟨hheld, rfl, hfinalizer, harrives, reconcile_rests hheld rfl hfinalizer harrives⟩

end Controller

end GrafanaInstall
