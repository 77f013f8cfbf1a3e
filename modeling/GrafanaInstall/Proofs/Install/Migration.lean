import GrafanaInstall.Proofs.Install.Idle
import Mathlib.Logic.Relation

/-!
# Migrations

The migration deletes the subscription of the former install and the version record that goes with
it, and nothing else. Once it is past it deletes nothing any more, unless somebody else stores such
a subscription again.
-/

namespace GrafanaInstall

open Memory Program

/-! ## Courses without false news -/

/-- If the call is lost, then not with the false news that the object is not there. -/
def Turn.isFrank : Turn → Bool
  | .answered _ => true
  | .lost _ halt _ => halt.isFatal

namespace Course

/-- What has been called so far, and what has come of the store. -/
structure At (calls : List Call) (store : Store) (c : Course) : Prop where
  calls_eq : c.calls = calls
  store_eq : c.store = store
  frank : ∀ turn ∈ c.turns, turn.isFrank

variable {calls : List Call} {store : Store} {c : Course} {V : Call → Course → Prop}
  {ns name : String}

theorem At.serve (h : At calls store c) (call : Call) :
    (serve (.call call) c).1 = (Memory.serve (.call call) store).1 ∧
        At (calls ++ [call]) (answer call store).2 (serve (.call call) c).2 ∨
      ∃ halt, (serve (.call call) c).1 = .error halt ∧ halt.isFatal ∧
        (At (calls ++ [call]) store (serve (.call call) c).2 ∨
          At (calls ++ [call]) (answer call store).2 (serve (.call call) c).2) := by
  obtain ⟨rfl, rfl, frank⟩ := h
  obtain ⟨store, _ | ⟨(cancels | ⟨acts, halt, cancels⟩), turns⟩, cancelled, calls⟩ := c
  · exact .inl ⟨rfl, rfl, rfl, nofun⟩
  · exact .inl ⟨rfl, rfl, rfl, (List.forall_mem_cons.mp frank).2⟩
  · obtain ⟨hfatal, hturns⟩ := List.forall_mem_cons.mp frank
    refine .inr ⟨halt, rfl, hfatal, ?_⟩
    cases acts with
    | false => exact .inl ⟨rfl, rfl, hturns⟩
    | true => exact .inr ⟨rfl, rfl, hturns⟩

theorem list_triple (hsound : store.Sound) (k : Kind)
    (hV : ∀ c, At calls store c → V (.list k ns) c) :
    Triple Course.serve V (At calls store) (Cluster.list k ns) fun reply c =>
      At (calls ++ [.list k ns]) store c ∧
        ∀ objects, reply = .ok objects → objects = store.view k ns := by
  refine Task.triple_call fun c hc => ⟨hV c hc, ?_, fun objects hreply => ?_⟩
  · rcases hc.serve (.list k ns) with ⟨-, hat⟩ | ⟨_, -, -, hat | hat⟩
    · exact hat
    · exact hat
    · exact hat
  · rw [← hc.store_eq]
    exact honest.list_eq (hc.store_eq.symm ▸ hsound) hreply

/-- The object is gone, unless the task halted for good. -/
def Deleted (calls : List Call) (store : Store) (key : Key) (result : Except Halt α)
    (c : Course) : Prop :=
  At calls (store.erase key) c ∨ ∃ halt, result = .error halt ∧ halt.isFatal ∧ At calls store c

theorem Deleted.of_ok {key : Key} {a : α} (h : Deleted calls store key (.ok a) c) :
    At calls (store.erase key) c := by
  rcases h with hat | ⟨_, ⟨⟩, -⟩
  exact hat

theorem Deleted.of_error {key : Key} {halt : Halt}
    (h : Deleted calls store key (.error halt : Except Halt α) c) :
    Deleted calls store key (.error halt : Except Halt β) c := by
  rcases h with hat | ⟨_, ⟨⟩, hfatal, hat⟩
  · exact .inl hat
  · exact .inr ⟨halt, rfl, hfatal, hat⟩

theorem delete_triple (k : Kind) (hV : ∀ c, At calls store c → V (.delete k ns name) c) :
    Triple Course.serve V (At calls store) (Cluster.deleteIfPresent k ns name)
      (Deleted (calls ++ [.delete k ns name]) store (keyOf k ns name)) := by
  have hcalled : Triple Course.serve V (At calls store) (Cluster.delete k ns name)
      (Deleted (calls ++ [.delete k ns name]) store (keyOf k ns name)) := by
    refine Task.triple_call fun c hc => ⟨hV c hc, ?_⟩
    have hserve := hc.serve (.delete k ns name)
    rw [show (answer (.delete k ns name) store).2 = store.erase (keyOf k ns name) from
      delete_store ..] at hserve
    rcases hserve with ⟨-, hat⟩ | ⟨halt, hreply, hfatal, hat | hat⟩
    · exact .inl hat
    · exact .inr ⟨halt, hreply, hfatal, hat⟩
    · exact .inl hat
  refine Triple.bind (Task.triple_bind hcalled
    (fun _ => .done fun c hc => .inl hc.of_ok) fun _ _ hc => hc.of_error) ?_
  rintro ((error | _) | found)
  · by_cases hfound : error.isNotFound
    · simp only [hfound, if_true, Option.getD_some]
      refine .done fun c hc => ?_
      rcases hc with hat | ⟨_, ⟨⟩, hfatal, -⟩
      · exact .inl hat
      · simp [Halt.isFatal, hfound] at hfatal
    · simp only [hfound]
      exact .done fun c hc => hc
  · exact .done fun c hc => hc
  · exact .done fun c hc => hc

end Course

/-! ## The stage -/

def Call.isRecordDelete : Call → Bool
  | .delete .clusterServiceVersion _ _ => true
  | _ => false

/-- What a migration asks, and what of: the store that it starts from, or what is left of that
without the subscription of the former install. -/
inductive MigrationCall (start : Store) (ns : String) : Call → Store → Prop
  | subscriptions : MigrationCall start ns (.list .subscription ns) start
  | subscription (hlegacy : (start.legacy? ns).isSome) :
    MigrationCall start ns (.delete .subscription ns subscriptionName) start
  | records (hlegacy : (start.legacy? ns).isSome) :
    MigrationCall start ns (.list .clusterServiceVersion ns) (start.bare ns)
  | record {record : ClusterServiceVersion} (hlegacy : (start.legacy? ns).isSome)
    (hrecord : start.record? ns = some record) :
    MigrationCall start ns (.delete .clusterServiceVersion ns record.anyName) (start.bare ns)

namespace MigrationCall

variable {start left : Store} {ns other name : String}

theorem subscription_inv (h : MigrationCall start ns (.delete .subscription other name) left) :
    other = ns ∧ name = subscriptionName ∧
      ∃ s, left.held .subscription (keyOf .subscription other name) = some s ∧
        s.body.sourceNamespace = legacyNamespace ∧ s.body.source = legacySource := by
  cases h with
  | subscription hlegacy =>
    obtain ⟨s, hs⟩ := Option.isSome_iff_exists.mp hlegacy
    obtain ⟨hheld, hformer⟩ := Store.held_of_legacy hs
    simp only [isLegacySubscription, Bool.and_eq_true, decide_eq_true_eq] at hformer
    exact ⟨rfl, rfl, s, hheld, hformer.1.2, hformer.2⟩

theorem record_inv
    (h : MigrationCall start ns (.delete .clusterServiceVersion other name) left) :
    other = ns ∧ (start.legacy? other).isSome ∧ ∃ record, record.anyName = name ∧
      (left.view .clusterServiceVersion other).find? (isVersionRecordName ·.anyName) =
        some record := by
  cases h with
  | record hlegacy hrecord =>
    exact ⟨rfl, hlegacy, _, rfl, (Store.record?_erase start ..).trans hrecord⟩

theorem kind_inv {k : Kind} (h : MigrationCall start ns (.delete k other name) left) :
    k = .subscription ∨ k = .clusterServiceVersion := by
  cases h with
  | subscription => exact .inl rfl
  | record => exact .inr rfl

end MigrationCall

/-- What a migration comes to. -/
structure MigrationEnd (start : Store) (ns : String) (result : Except Halt Progress) (c : Course) :
    Prop where
  once : c.calls.countP Call.isRecordDelete ≤ 1
  left : c.store = start ∨
    (start.legacy? ns).isSome ∧ (c.store = start.bare ns ∨ c.store = start.cleared ns)
  past : result = .ok .success → c.store.legacy? ns = none

namespace MigrationEnd

variable {start : Store} {ns : String} {result : Except Halt Progress} {c : Course}
  {calls : List Call}

theorem of_start (h : c.At calls start) (hcalls : calls.countP Call.isRecordDelete ≤ 1)
    (hpast : result = .ok .success → start.legacy? ns = none) : MigrationEnd start ns result c := by
  obtain ⟨rfl, hstore, -⟩ := h
  exact ⟨hcalls, .inl hstore, fun h => hstore ▸ hpast h⟩

theorem of_bare (h : c.At calls (start.bare ns)) (hcalls : calls.countP Call.isRecordDelete ≤ 1)
    (hlegacy : (start.legacy? ns).isSome) : MigrationEnd start ns result c := by
  obtain ⟨rfl, hstore, -⟩ := h
  exact ⟨hcalls, .inr ⟨hlegacy, .inl hstore⟩, fun _ => hstore ▸ legacy?_bare start ns⟩

theorem of_cleared (h : c.At calls (start.cleared ns))
    (hcalls : calls.countP Call.isRecordDelete ≤ 1) (hlegacy : (start.legacy? ns).isSome) :
    MigrationEnd start ns result c := by
  obtain ⟨rfl, hstore, -⟩ := h
  exact ⟨hcalls, .inr ⟨hlegacy, .inr hstore⟩, fun _ => hstore ▸ legacy?_cleared start ns⟩

end MigrationEnd

namespace Legacy

open Course

variable {start : Store} {ns : String} {V : Call → Course → Prop}

theorem removeSubscription_triple {calls : List Call} {s : Subscription}
    (hs : isLegacySubscription s)
    (hV : ∀ c, At calls start c → V (.delete .subscription ns subscriptionName) c) :
    Triple Course.serve V (At calls start) (removeSubscription ns s)
      (Deleted (calls ++ [.delete .subscription ns subscriptionName]) start
        (keyOf .subscription ns subscriptionName)) := by
  have hdeleted : Triple Course.serve V (At calls start)
      (Cluster.deleteIfPresent .subscription ns s.anyName)
      (Deleted (calls ++ [.delete .subscription ns subscriptionName]) start
        (keyOf .subscription ns subscriptionName)) := by
    rw [anyName_of_legacy hs]
    exact delete_triple _ hV
  refine Task.triple_bind hdeleted (fun found => ?_) fun _ _ hc => hc.of_error
  cases found <;>
    exact (Task.triple_log Course.honest.toCalm).weaken fun _ _ hc => .inl hc.of_ok

theorem removeRecord_triple {calls : List Call} (hcalls : calls.countP Call.isRecordDelete = 0)
    {record : ClusterServiceVersion} (hlegacy : (start.legacy? ns).isSome)
    (hrecord : start.record? ns = some record) {level : Level} {message : String}
    {fields : List (String × Json)} :
    Triple Course.serve (fun call c => MigrationCall start ns call c.store)
      (At calls (start.bare ns))
      (do
        let _ ← Cluster.deleteIfPresent .clusterServiceVersion ns record.anyName
        Cluster.log level message fields
        return .inProgress : Task Cluster Progress)
      (MigrationEnd start ns) := by
  have hcleared : start.cleared ns =
      (start.bare ns).erase (keyOf .clusterServiceVersion ns record.anyName) := by
    obtain ⟨s, hs⟩ := Option.isSome_iff_exists.mp hlegacy
    rw [Store.cleared, hs, hrecord]
  have hcount : (calls ++ [Call.delete .clusterServiceVersion ns record.anyName]).countP
      Call.isRecordDelete ≤ 1 := by simp [List.countP_append, hcalls, Call.isRecordDelete]
  have hend {deleted : Except Halt Bool} {result : Except Halt Progress} {c : Course}
      (hc : Deleted (calls ++ [.delete .clusterServiceVersion ns record.anyName]) (start.bare ns)
        (keyOf .clusterServiceVersion ns record.anyName) deleted c) :
      MigrationEnd start ns result c := by
    rcases hc with hat | ⟨_, -, -, hat⟩
    · exact .of_cleared (hcleared ▸ hat) hcount hlegacy
    · exact .of_bare hat hcount hlegacy
  refine Task.triple_bind (delete_triple _ fun c hc => hc.store_eq.symm ▸ .record hlegacy hrecord)
    (fun found => ?_) fun _ _ hc => hend hc
  exact Task.triple_bind (Task.triple_log Course.honest.toCalm) (fun _ => .done fun _ hc => hend hc)
    fun _ _ hc => hend hc

theorem removeVersionRecord_triple (hsound : start.Sound) (hlegacy : (start.legacy? ns).isSome)
    {calls : List Call} (hcalls : calls.countP Call.isRecordDelete = 0) :
    Triple Course.serve (fun call c => MigrationCall start ns call c.store)
      (At calls (start.bare ns)) (removeVersionRecord ns) (MigrationEnd start ns) := by
  have hlisted : (calls ++ [Call.list .clusterServiceVersion ns]).countP Call.isRecordDelete = 0 :=
    by simp [List.countP_append, hcalls, Call.isRecordDelete]
  have hbare {result : Except Halt Progress} {c : Course}
      (hc : At (calls ++ [.list .clusterServiceVersion ns]) (start.bare ns) c) :
      MigrationEnd start ns result c := .of_bare hc (hlisted ▸ Nat.zero_le 1) hlegacy
  refine Task.triple_bind (list_triple (hsound.erase _) _ fun c hc =>
    hc.store_eq.symm ▸ .records hlegacy) (fun records => Triple.given fun hrecords => ?_)
    fun _ _ hc => hbare hc.1
  have hfind : records.find? (isVersionRecordName ·.anyName) = start.record? ns :=
    hrecords records rfl ▸ Store.record?_erase start ..
  cases hrecord : start.record? ns with
  | none =>
    simp only [hfind, hrecord]
    exact Task.triple_bind (Task.triple_log Course.honest.toCalm) (fun _ => .done fun _ => hbare)
      fun _ _ => hbare
  | some record =>
    simp only [hfind, hrecord]
    exact removeRecord_triple hlisted hlegacy hrecord

theorem remove_triple (hsound : start.Sound) (ns : String) :
    Triple Course.serve (fun call c => MigrationCall start ns call c.store) (At [] start)
      (remove ns) (MigrationEnd start ns) := by
  have hcount : List.countP Call.isRecordDelete [Call.list .subscription ns] ≤ 1 := Nat.zero_le 1
  refine Task.triple_bind (list_triple hsound _ fun c hc => hc.store_eq.symm ▸ .subscriptions)
    (fun subscriptions => Triple.given fun hview => ?_) fun _ _ hc => .of_start hc.1 hcount nofun
  have hfilter : subscriptions.filter isLegacySubscription = (start.legacy? ns).toList :=
    hview subscriptions rfl ▸ Store.filter_legacy hsound ns
  cases hlegacy : start.legacy? ns with
  | none =>
    simp only [hfilter, hlegacy, Option.toList_none]
    exact Task.triple_bind (Task.triple_log Course.honest.toCalm)
      (fun _ => .done fun _ hc => .of_start hc hcount fun _ => hlegacy) fun _ _ hc =>
        .of_start hc hcount nofun
  | some s =>
    have hsome : (start.legacy? ns).isSome := hlegacy ▸ rfl
    simp only [hfilter, hlegacy, Option.toList_some]
    have hremoved : Triple Course.serve (fun call c => MigrationCall start ns call c.store)
        (At [.list .subscription ns] start)
        ([s].forM (removeSubscription ns) : Task Cluster PUnit)
        (Deleted [.list .subscription ns, .delete .subscription ns subscriptionName] start
          (keyOf .subscription ns subscriptionName)) :=
      Task.triple_bind (removeSubscription_triple (Store.held_of_legacy hlegacy).2 fun c hc =>
          hc.store_eq.symm ▸ .subscription hsome)
        (fun _ => .done fun _ hc => hc) fun _ _ hc => hc
    refine Task.triple_bind hremoved (fun _ => ?_) fun halt c hc => ?_
    · exact (removeVersionRecord_triple hsound hsome rfl).strengthen fun _ hc => hc.of_ok
    · rcases hc with hat | ⟨_, -, -, hat⟩
      · exact .of_bare hat (Nat.zero_le 1) hsome
      · exact .of_start hat (Nat.zero_le 1) nofun

theorem attempt_triple (hsound : start.Sound) (config : InstallConfig) (tenant : Tenant) :
    Triple Course.serve (fun call c => MigrationCall start tenant.ns call c.store) (At [] start)
      (stage.attempt config tenant) fun _ c => c.store = start ∨
        (start.legacy? tenant.ns).isSome ∧
          (c.store = start.bare tenant.ns ∨ c.store = start.cleared tenant.ns) := by
  refine Triple.weaken (Stage.attempt_triple (J := fun _ => True) Course.honest.toCalm
    (fun c hc => .inl hc.store_eq) ?_) fun _ _ hc => hc.1
  exact (remove_triple hsound tenant.ns).weaken fun _ _ hend => ⟨hend.left, fun _ => trivial⟩

end Legacy

/-! ## Runs -/

theorem Course.calls_serve (call : Call) (c : Course) :
    (serve (.call call) c).2.calls = c.calls ++ [call] := by
  obtain ⟨store, _ | ⟨(cancels | ⟨acts, halt, cancels⟩), turns⟩, cancelled, calls⟩ := c <;> rfl

theorem SettlingCall.not_isDelete {config : InstallConfig} {tenant : Tenant} {call : Call}
    (h : SettlingCall config tenant call) : call.isDelete = false := by
  cases h <;> rfl

theorem SettlingCall.not_isRecordDelete {config : InstallConfig} {tenant : Tenant} {call : Call}
    (h : SettlingCall config tenant call) : call.isRecordDelete = false := by
  cases h <;> rfl

theorem MigrationEnd.sound {start : Store} (hsound : start.Sound) {ns : String}
    {result : Except Halt Progress} {c : Course} (h : MigrationEnd start ns result c) :
    c.store.Sound := by
  rcases h.left with hstore | ⟨-, hstore | hstore⟩ <;> rw [hstore]
  · exact hsound
  · exact hsound.erase _
  · exact cleared_sound hsound ns

/-- All deletes of a run are the migration's, and a run that gets further is past it. -/
theorem installation_triple {start : Store} (hsound : start.Sound) (config : InstallConfig)
    (tenant : Tenant) :
    Triple Course.serve (fun call c => call.isDelete → MigrationCall start tenant.ns call c.store)
      (Course.At [] start) (installation.run config tenant) fun report c =>
        c.calls.countP Call.isRecordDelete ≤ 1 ∧ c.store.Sound ∧
          (report.stage ≠ some Legacy.stage.name → c.store.Migrated tenant.ns) := by
  let settling (c : Course) : Prop :=
    c.calls.countP Call.isRecordDelete ≤ 1 ∧ c.store.Migrated tenant.ns
  have hsettling : ∀ call, SettlingCall config tenant call → ∀ c, settling c →
      (call.isDelete → MigrationCall start tenant.ns call c.store) ∧
        settling (Course.serve (.call call) c).2 := by
    refine fun call hcall c hc => ⟨fun hdelete => ?_, ?_, ?_⟩
    · rw [hcall.not_isDelete] at hdelete
      cases hdelete
    · rw [Course.calls_serve, List.countP_append]
      simpa [hcall.not_isRecordDelete] using hc.1
    · exact Course.keeps_serve (I := (Store.Migrated · tenant.ns)) hc.2
        (hc.2.install hcall.installCall)
  refine Pipeline.runFrom_cons_triple (I := fun c => c.calls.countP Call.isRecordDelete ≤ 1 ∧
    c.store.Sound) (J := settling) Course.honest.toCalm ?_ ?_ ?_ ?_
  · rintro c ⟨hcalls, hstore, -⟩
    exact ⟨by rw [hcalls]; exact Nat.zero_le 1, hstore.symm ▸ hsound⟩
  · refine Triple.mono ?_ fun _ _ hV _ => hV
    refine (Legacy.remove_triple hsound tenant.ns).weaken fun result c hend =>
      ⟨⟨hend.once, hend.sound hsound⟩, fun hpast => ?_⟩
    exact ⟨hend.once, hend.sound hsound, hend.past hpast⟩
  · refine (Pipeline.runFrom_triple Course.honest.toCalm (settling_triple Course.honest.toCalm
      hsettling)).weaken fun report c hc => ?_
    exact ⟨hc.1, hc.2.sound, fun _ => hc.2⟩
  · exact fun outcome c hc _ => ⟨hc.1, hc.2, fun hstage => absurd rfl hstage⟩

/-! ## Runs one after the other -/

/-- What may come of a store between two runs for a namespace: errands of any tenant, and changes
by others that store no subscription of the former install. -/
inductive Meanwhile (ns : String) : Store → Store → Prop
  | errand (errand : Errand) (store : Store) : Meanwhile ns store (errand.run store).2.store
  | others {store after : Store} (hsound : after.Sound)
    (hnone : store.legacy? ns = none → after.legacy? ns = none) : Meanwhile ns store after

namespace Meanwhile

variable {ns : String} {store after : Store}

theorem migrated (h : Meanwhile ns store after) (hstore : store.Migrated ns) :
    after.Migrated ns := by
  cases h with
  | errand errand =>
    refine errand.asks.keeps (I := (Store.Migrated · ns)) (fun call hcall store hstore => ?_) _
      hstore
    rcases hcall with hcall | hcall
    · exact hstore.install hcall
    · exact hstore.remove hcall
  | others hsound hnone => exact ⟨hsound, hnone hstore.noLegacy⟩

theorem steps (h : Relation.ReflTransGen (Meanwhile ns) store after) (hstore : store.Migrated ns) :
    after.Migrated ns := by
  induction h with
  | refl => exact hstore
  | tail _ hstep ih => exact hstep.migrated ih

end Meanwhile

theorem Store.Migrated.no_delete {store : Store} {errand : Errand}
    (h : store.Migrated errand.tenant.ns) (hjob : errand.job = .whole) :
    ∀ visit ∈ errand.visits store, visit.1.isDelete = false := by
  obtain ⟨job, config, tenant, turns, cancelled⟩ := errand
  subst hjob
  let migrated (c : Course) : Prop := c.store.Migrated tenant.ns
  have hrun : Triple Course.serve (fun call _ => call.isDelete = false) migrated
      (installation.run config tenant) fun _ => migrated := by
    refine Pipeline.runFrom_triple Course.honest.toCalm (stages_idle Course.honest
      (fun _ hc => hc) fun call hcall c hc => ⟨hcall.not_isDelete, ?_⟩)
    exact Course.keeps_serve (I := (Store.Migrated · tenant.ns)) hc (hc.install hcall.installCall)
  exact (hrun _ h).1

namespace Errand

def starts : List Errand → Store → List (Errand × Store)
  | [], _ => []
  | errand :: rest, store => (errand, store) :: starts rest (errand.run store).2.store

structure Frank (errand : Errand) : Prop where
  whole : errand.job = .whole
  frank : ∀ turn ∈ errand.turns, turn.isFrank

end Errand

/-- What a run makes of a former install. -/
structure Migrates (errand : Errand) (store : Store) : Prop where
  /-- Only a subscription of the former install is deleted, as it is there at that moment. -/
  subscription : ∀ visit ∈ errand.visits store, ∀ ns name,
    visit.1 = .delete .subscription ns name → ns = errand.tenant.ns ∧ name = subscriptionName ∧
      ∃ s, visit.2.store.held .subscription (keyOf .subscription ns name) = some s ∧
        s.body.sourceNamespace = legacyNamespace ∧ s.body.source = legacySource
  /-- Only where there was one, and of the version records only the first is deleted. -/
  record : ∀ visit ∈ errand.visits store, ∀ ns name,
    visit.1 = .delete .clusterServiceVersion ns name → ns = errand.tenant.ns ∧
      (store.legacy? ns).isSome ∧ ∃ record, record.anyName = name ∧
        (visit.2.store.view .clusterServiceVersion ns).find? (isVersionRecordName ·.anyName) =
          some record
  once : (errand.run store).2.calls.countP Call.isRecordDelete ≤ 1
  others : ∀ visit ∈ errand.visits store, ∀ k ns name, visit.1 = .delete k ns name →
    k = .subscription ∨ k = .clusterServiceVersion
  /-- The migration on its own changes nothing else. -/
  stage :
    let after := ((Legacy.stage.attempt errand.config errand.tenant).run Course.serve
      (errand.start store)).2.store
    after = store ∨ (store.legacy? errand.tenant.ns).isSome ∧
      (after = store.bare errand.tenant.ns ∨ after = store.cleared errand.tenant.ns)
  sound : (errand.run store).2.store.Sound
  /-- Once a run is past the migration, no later one deletes anything. -/
  past : (errand.run store).1.stage ≠ some Legacy.stage.name →
    ∀ later, Relation.ReflTransGen (Meanwhile errand.tenant.ns) (errand.run store).2.store later →
      ∀ next : Errand, next.job = .whole → next.tenant.ns = errand.tenant.ns →
        ∀ visit ∈ next.visits later, visit.1.isDelete = false

namespace Errand

variable {errand : Errand} {store : Store}

theorem migrates (h : errand.Frank) (hsound : store.Sound) : Migrates errand store := by
  obtain ⟨hwhole, hfrank⟩ := h
  obtain ⟨job, config, tenant, turns, cancelled⟩ := errand
  subst hwhole
  have hstart : Course.At [] store (start ⟨.whole, config, tenant, turns, cancelled⟩ store) :=
    ⟨rfl, rfl, hfrank⟩
  have hrun := installation_triple hsound config tenant _ hstart
  obtain ⟨hvisits, honce, hafter, hpast⟩ := hrun
  have hstage := (Legacy.attempt_triple hsound config tenant _ hstart).2
  refine ⟨?_, ?_, honce, ?_, hstage, hafter, ?_⟩
  · rintro ⟨_, c⟩ hmem ns name rfl
    exact (hvisits _ hmem rfl).subscription_inv
  · rintro ⟨_, c⟩ hmem ns name rfl
    exact (hvisits _ hmem rfl).record_inv
  · rintro ⟨_, c⟩ hmem k ns name rfl
    exact (hvisits _ hmem rfl).kind_inv
  · intro hstage later hlater next hjob hns
    have hmigrated : later.Migrated next.tenant.ns := hns ▸ Meanwhile.steps hlater (hpast hstage)
    exact hmigrated.no_delete hjob

end Errand

/-- Runs one after the other, each cancelled or not, with configurations and tenants of their own
and whatever calls lost, take nothing but former installs, each once. -/
theorem migrations_take_former {errands : List Errand} (hfrank : ∀ errand ∈ errands, errand.Frank)
    {store : Store} (hsound : store.Sound) :
    ∀ start ∈ Errand.starts errands store, Migrates start.1 start.2 := by
  induction errands generalizing store with
  | nil => exact fun _ hmem => absurd hmem List.not_mem_nil
  | cons errand rest ih =>
    obtain ⟨herrand, hrest⟩ := List.forall_mem_cons.mp hfrank
    have hmigrates := errand.migrates herrand hsound
    exact List.forall_mem_cons.mpr ⟨hmigrates, ih hrest hmigrates.sound⟩

/-- A run that cannot delete the record leaves it, and the next is past the migration without it. -/
theorem migrations_take_former_spoilt :
    let tenant : Tenant := { ns := "grafana", version := "v4.2.0" }
    let timeout : Turn := .lost false (.failed (.internal "api" "timeout")) false
    let spoilt : Errand :=
      { job := .whole, config := {}, tenant,
        turns := List.replicate 3 (.answered false) ++ [timeout] }
    let next : Errand :=
      { spoilt with tenant := { tenant with version := "v4.3.0" }, turns := [] }
    let left := (spoilt.run formerStore).2
    left.calls.countP Call.isDelete = 2 ∧ left.store = formerStore.bare "grafana" ∧
      ∀ visit ∈ next.visits (next.run left.store).2.store, visit.1.isDelete = false := by
  intro tenant timeout spoilt next left
  have hfrank : ∀ errand ∈ [spoilt, next], errand.Frank :=
    List.forall_mem_cons.mpr ⟨⟨rfl, by decide⟩, List.forall_mem_singleton.mpr ⟨rfl, nofun⟩⟩
  have hmigrates : Migrates next left.store :=
    migrations_take_former hfrank formerStore_sound (next, left.store)
      (List.mem_cons_of_mem _ List.mem_cons_self)
  refine ⟨by decide, by decide, ?_⟩
  exact hmigrates.past (by decide) _ .refl next rfl rfl

end GrafanaInstall
