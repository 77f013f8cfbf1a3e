import GrafanaInstall.Controller
import GrafanaInstall.Proofs.Install.Removal
import GrafanaInstall.Proofs.Resource.Stored

/-!
# The finalizer

What the calls of a round do to the stored observability. Only the release takes its finalizer, and
it comes after a removal that succeeded.
-/

namespace GrafanaInstall

open Memory

/-! ## Calls and the stored observability -/

namespace Call

def Spares : Call → Prop
  | .apply k _ | .delete k _ _ => k ≠ .observability
  | _ => True

def edit : Call → Json → Json
  | .patchStatus _ _ status => (·.set "status" (ObservabilityStatus.codec.write status))
  | .addFinalizer _ _ finalizer => Memory.addFinalizer finalizer
  | .removeFinalizer _ _ finalizer => Memory.removeFinalizer finalizer
  | _ => id

def KeepsFinalizers (call : Call) : Prop :=
  call.Spares ∧ ∀ ns name finalizer, call ≠ .removeFinalizer ns name finalizer

end Call

theorem InstallCall.keepsFinalizers {config : InstallConfig} {tenant : Tenant} {call : Call}
    (h : InstallCall config tenant call) : call.KeepsFinalizers := by
  cases h <;> exact ⟨by simp [Call.Spares], nofun⟩

theorem RemovalCall.keepsFinalizers {ns : String} {call : Call} (h : RemovalCall ns call) :
    call.KeepsFinalizers := by
  cases h <;> exact ⟨by simp [Call.Spares], nofun⟩

namespace Memory

theorem find?_change (store : Store) (ns name : String) (f : Json → Json) (key : Key) :
    (change ns name f store).2.find? key =
      if key = keyOf .observability ns name then (store.find? key).map f else store.find? key := by
  rw [change]
  cases h : store.find? (keyOf .observability ns name) with
  | none =>
    by_cases hkey : key = keyOf .observability ns name
    · rw [if_pos hkey, hkey, h, Option.map_none]
    · rw [if_neg hkey]
  | some object =>
    refine (Store.find?_put store _ key (f object)).trans ?_
    by_cases hkey : key = keyOf .observability ns name
    · rw [if_pos hkey, if_pos hkey, hkey, h, Option.map_some]
    · rw [if_neg hkey, if_neg hkey]

theorem find?_answer {call : Call} (h : call.Spares) (store : Store) (ns name : String) :
    (answer call store).2.find? (keyOf .observability ns name) =
        store.find? (keyOf .observability ns name) ∨
      (answer call store).2.find? (keyOf .observability ns name) =
        (store.find? (keyOf .observability ns name)).map call.edit := by
  cases call with
  | list k other => exact .inl rfl
  | apply k desired =>
    refine .inl (find?_apply store desired fun hkey => h ?_)
    exact Kind.name_inj.mp (congrArg Key.kind hkey).symm
  | delete k other name' =>
    refine .inl ((find?_delete store k other name' _).trans (if_neg fun hkey => h ?_))
    exact Kind.name_inj.mp (congrArg Key.kind hkey).symm
  | patchStatus | addFinalizer | removeFinalizer =>
    rw [answer, find?_change]
    split
    · exact .inr rfl
    · exact .inl rfl

end Memory

theorem StoredIn.edit {ns : String} {value : Json} (h : StoredIn ns value) (call : Call) :
    StoredIn ns (call.edit value) := by
  cases call with
  | patchStatus => exact h.set _ (by decide)
  | addFinalizer | removeFinalizer => exact h.setAt _ (by decide)
  | list | apply | delete => exact h

/-! ## Guarded stores -/

def Carries (ns name : String) (store : Store) : Prop :=
  ∃ value, store.find? (keyOf .observability ns name) = some value ∧
    .string Controller.finalizer ∈ finalizers value

def WellStored (ns name : String) (store : Store) : Prop :=
  ∀ value, store.find? (keyOf .observability ns name) = some value → StoredIn ns value

/-- The observability of a namespace carries the finalizer as long as any managed object is left. -/
structure Guarded (ns name : String) (store : Store) : Prop where
  stored : WellStored ns name store
  carries : (∃ key ∈ managedKeys ns, (store.find? key).isSome) → Carries ns name store

theorem ne_of_managed {ns : String} {key : Key} (h : key ∈ managedKeys ns) (other name : String) :
    key ≠ keyOf .observability other name := by
  rintro rfl
  simp [managedKeys, keyOf, Kind.name] at h

variable {ns name : String} {store : Store}

theorem Carries.answer {call : Call} (hcall : call.KeepsFinalizers) (h : Carries ns name store) :
    Carries ns name (answer call store).2 := by
  obtain ⟨value, hfind, hmem⟩ := h
  rcases find?_answer hcall.1 store ns name with heq | heq
  · exact ⟨value, heq.trans hfind, hmem⟩
  · refine ⟨call.edit value, by rw [heq, hfind, Option.map_some], ?_⟩
    cases call with
    | list | apply | delete => exact hmem
    | patchStatus =>
      have hkey : "status" ≠ "metadata" := by decide
      rw [Call.edit, finalizers_set value _ hkey]
      exact hmem
    | removeFinalizer => exact absurd rfl (hcall.2 _ _ _)
    | addFinalizer _ _ finalizer =>
      rw [Call.edit, addFinalizer, finalizers_with]
      split
      · exact hmem
      · exact List.mem_append_left _ hmem

theorem WellStored.answer {call : Call} (hcall : call.Spares) (h : WellStored ns name store) :
    WellStored ns name (answer call store).2 := by
  intro value hfind
  rcases find?_answer hcall store ns name with heq | heq
  · exact h value (heq ▸ hfind)
  · rw [heq] at hfind
    obtain ⟨before, hbefore, rfl⟩ := Option.map_eq_some_iff.mp hfind
    exact (h before hbefore).edit call

/-! ## Rounds -/

namespace Controller

variable (settings : Settings) {obs : Observability}

theorem announced_asks (level : Level) (message : String) (fields : List (String × Json))
    (call : Call) (action : Action) :
    Task.Asks (· = call) (do
      Cluster.log level message fields
      let _ ← Cluster.call call
      return action : Task Cluster Action) :=
  .bind (.log ..) fun _ => .bind (.call rfl) fun _ => .pure _

theorem recordStatus_asks {P : Call → Prop} {ns : String} {status : ObservabilityStatus}
    (h : P (.patchStatus ns obs.anyName status)) : (recordStatus obs ns status).Asks P := by
  rw [recordStatus]
  split
  · exact .log ..
  · exact .call h

theorem install_asks {P : Call → Prop} {ns : String}
    (hinstall : ∀ tenant, Tenant.ofObservability obs settings.config = .ok tenant →
      ∀ call, InstallCall settings.config tenant call → P call)
    (hrecord : ∀ status, P (.patchStatus ns obs.anyName status)) :
    (install Installer.grafana settings obs ns).Asks P := by
  rw [install]
  split
  · exact .bind (.log ..) fun _ => .bind (recordStatus_asks (hrecord _)) fun _ => .pure _
  · rename_i tenant htenant
    have hstages := (installation_givesUp settings.config tenant).asks.mono
      (hinstall tenant htenant)
    refine .bind (.lift hstages) fun report => .bind (recordStatus_asks (hrecord _)) fun _ => ?_
    split
    · exact .bind (.log ..) fun _ => .pure _
    · exact .pure _
    · exact .fail _

theorem install_keepsFinalizers (ns : String) :
    (install Installer.grafana settings obs ns).Asks Call.KeepsFinalizers :=
  install_asks settings (fun _ _ _ hcall => hcall.keepsFinalizers) fun _ => ⟨trivial, nofun⟩

end Controller

namespace Guarded

variable {t : Trial}

theorem of_absent (hstored : WellStored ns name store)
    (h : ∀ key ∈ managedKeys ns, store.find? key = none) :
    Guarded ns name store where
  stored := hstored
  carries := by
    rintro ⟨key, hkey, hfound⟩
    simp [h key hkey] at hfound

theorem install (h : Guarded ns name t.store) (hcarries : Carries ns name t.store)
    (settings : Controller.Settings) (obs : Observability) (other : String) :
    Guarded ns name (Program.run Trial.serve
      (Controller.install Installer.grafana settings obs other) t).2.store := by
  have hasks : Program.Asks Call.KeepsFinalizers
      (Controller.install Installer.grafana settings obs other) :=
    Controller.install_keepsFinalizers settings other
  have hkept : WellStored ns name (Program.run Trial.serve _ t).2.store :=
    hasks.run_trial (fun _ hcall _ => WellStored.answer hcall.1) t h.stored
  exact ⟨hkept, fun _ => hasks.run_trial (fun _ hcall _ => Carries.answer hcall) t hcarries⟩

theorem removal (h : Guarded ns name t.store) (config : InstallConfig) (version : String) :
    Guarded ns name ((Installer.removal config { ns, version }).run Trial.serve t).2.store := by
  refine (removal_givesUp config { ns, version }).asks.run_trial (fun call hcall store h => ?_) t h
  refine ⟨h.stored.answer hcall.keepsFinalizers.1, fun hleft => ?_⟩
  obtain ⟨key, hkey, hfound⟩ := hleft
  refine (h.carries ⟨key, hkey, ?_⟩).answer hcall.keepsFinalizers
  rw [← Option.ne_none_iff_isSome] at hfound ⊢
  exact fun habsent => hfound (hcall.absent habsent)

theorem release (habsent : ∀ key ∈ managedKeys ns, t.store.find? key = none)
    (hstored : WellStored ns name t.store) (other : String) (message : String)
    (fields : List (String × Json)) :
    Guarded ns name (Program.run Trial.serve (do
      Cluster.log .info message fields
      Cluster.call (.removeFinalizer ns other Controller.finalizer)
      return Action.awaitChange : Task Cluster Action) t).2.store := by
  have hasks := Controller.announced_asks .info message fields
    (.removeFinalizer ns other Controller.finalizer) Action.awaitChange
  -- Without the finalizer the guard is kept only because nothing is left to be guarded.
  let I (store : Store) := WellStored ns name store ∧
    ∀ key ∈ managedKeys ns, store.find? key = none
  have hI : ∀ call, call = .removeFinalizer ns other Controller.finalizer → ∀ store, I store →
      I (answer call store).2 := by
    rintro _ rfl store ⟨hstored, habsent⟩
    refine ⟨hstored.answer trivial, fun key hkey => ?_⟩
    exact (find?_change store ns other _ key).trans
      ((if_neg (ne_of_managed hkey ns other)).trans (habsent key hkey))
  obtain ⟨hstored, habsent⟩ := Program.Asks.run_trial hasks hI t ⟨hstored, habsent⟩
  exact .of_absent hstored habsent

/-- The finalizer goes only after all that was installed. -/
theorem finish (h : Guarded ns name t.store) (settings : Controller.Settings)
    (obs : Observability) :
    Guarded ns name (Program.run Trial.serve
      (Controller.finish Installer.grafana settings obs ns) t).2.store := by
  rw [Controller.finish]
  dsimp only [Installer.grafana]
  split
  · exact h
  · have hm := h.removal settings.config settings.config.defaultVersion
    rw [Task.run_bind, Task.run_lift]
    rcases hrun : (Installer.removal settings.config
      { ns, version := settings.config.defaultVersion }).run Trial.serve t with ⟨report, m⟩
    rw [hrun] at hm
    dsimp only
    cases houtcome : report.outcome with
    | success => exact release (absent_of_removal hrun houtcome) hm.stored obs.anyName _ _
    | inProgress => exact hm
    | failed error => exact hm

theorem addition (h : Guarded ns name t.store) (other : String) (message : String)
    (fields : List (String × Json)) (delay : Nat) :
    Guarded ns name (Program.run Trial.serve (do
      Cluster.log .info message fields
      Cluster.call (.addFinalizer ns other Controller.finalizer)
      return Action.requeue delay : Task Cluster Action) t).2.store := by
  have hasks := Controller.announced_asks .info message fields
    (.addFinalizer ns other Controller.finalizer) (Action.requeue delay)
  refine Program.Asks.run_trial hasks (I := Guarded ns name) ?_ t h
  rintro _ rfl store h
  refine ⟨h.stored.answer trivial, ?_⟩
  rintro ⟨key, hkey, hfound⟩
  refine (h.carries ⟨key, hkey, ?_⟩).answer ⟨trivial, fun _ _ _ hcall => nomatch hcall⟩
  rwa [answer, find?_change, if_neg (ne_of_managed hkey ns other)] at hfound

theorem reconcile (h : Guarded ns name t.store) {value : Json}
    (hfind : t.store.find? (keyOf .observability ns name) = some value) {obs : Observability}
    (hread : Object.read? .observability value = some obs) (settings : Controller.Settings) :
    Guarded ns name (Program.run Trial.serve
      (Controller.reconcile Installer.grafana settings obs) t).2.store := by
  have hstored := h.stored value hfind
  rw [Controller.reconcile]
  cases hns : obs.metadata.ns with
  | none => exact h
  | some other =>
    obtain rfl : other = ns :=
      (hstored.regular.ns_of_read hread hns).symm.trans hstored.place
    dsimp only
    split
    · exact h.finish settings obs
    · split
      · rename_i hfinalizer
        exact h.install ⟨value, hfind, hstored.regular.finalizer_of_read hread hfinalizer⟩ ..
      · exact h.addition ..

end Guarded

end GrafanaInstall
