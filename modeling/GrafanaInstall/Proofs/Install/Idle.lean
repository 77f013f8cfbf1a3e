import GrafanaInstall.Proofs.Errand
import GrafanaInstall.Proofs.Install.Settled

/-!
# Runs without a former install

Where there is no subscription of the former install, the migration only looks. It sees what there
is, whatever the surroundings are and whatever becomes of its calls.
-/

namespace GrafanaInstall

open Memory Program

/-! ## Stores without a former install -/

structure Store.Migrated (store : Store) (ns : String) : Prop where
  sound : store.Sound
  noLegacy : store.legacy? ns = none

namespace Store.Migrated

variable {ns : String} {store : Store}

theorem applied_of_ne (h : Migrated store ns) (desired : Object k)
    (hne : keyOf .subscription ns subscriptionName ≠ desired.key) :
    Migrated (applied desired store) ns where
  sound := applied_sound h.sound desired
  noLegacy := by
    rw [legacy?, held_applied_of_ne h.sound desired hne]
    exact h.noLegacy

theorem erase (h : Migrated store ns) (key : Key) : Migrated (store.erase key) ns where
  sound := h.sound.erase key
  noLegacy := by
    by_cases hkey : keyOf .subscription ns subscriptionName = key
    · rw [← hkey]
      exact legacy?_bare store ns
    · rw [legacy?, held_erase_of_ne _ hkey]
      exact h.noLegacy

/-- No subscription that an installation writes is one of the former install, in no namespace. -/
theorem install (h : Migrated store ns) {config : InstallConfig} {tenant : Tenant} {call : Call}
    (hcall : InstallCall config tenant call) : Migrated (answer call store).2 ns := by
  have hother {k : Kind} (hk : k ≠ .subscription) (desired : Object k) :
      keyOf .subscription ns subscriptionName ≠ desired.key :=
    keyOf_ne hk.symm
  cases hcall with
  | list k => exact h
  | catalogSource => exact h.applied_of_ne _ (hother (by decide) _)
  | subscription =>
    by_cases hns : ns = tenant.ns
    · subst hns
      exact ⟨applied_sound h.sound _, legacy?_of_inPlace (inPlace_applied h.sound _)⟩
    · exact h.applied_of_ne tenant.subscription fun e => hns (congrArg Key.ns e)
  | operatorGroup => exact h.applied_of_ne _ (hother (by decide) _)
  | deleteSubscription | deleteRecord =>
    rw [answer, delete_store]
    exact h.erase _

theorem remove (h : Migrated store ns) {other : String} {call : Call}
    (hcall : RemovalCall other call) : Migrated (answer call store).2 ns := by
  cases hcall with
  | deployments => exact h
  | catalogSource | subscription | operatorGroup | deployment =>
    rw [answer, delete_store]
    exact h.erase _

end Store.Migrated

/-! ## Runs -/

variable {handler : Handler Cluster σ} {store : σ → Store} {V : Call → σ → Prop}

theorem Handler.Honest.list_eq (h : handler.Honest store) {k : Kind} {ns : String} {s : σ}
    (hsound : (store s).Sound) {objects : List (Object k)}
    (hreply : (handler (.call (.list k ns)) s).1 = .ok objects) :
    objects = (store s).view k ns := by
  rcases h.reply (.list k ns) s with hlist | ⟨halt, hlost⟩
  · have hview : (Memory.serve (.call (.list k ns)) (store s)).1 = .ok ((store s).view k ns) :=
      congrArg (Except.mapError Halt.failed) (list_of_sound hsound k ns)
    exact Except.ok.inj (hreply.symm.trans (hlist.trans hview))
  · cases hreply.symm.trans hlost

theorem Legacy.remove_idle (h : handler.Honest store) {ns : String} {before after : σ → Prop}
    (hbefore : ∀ s, before s → (store s).Migrated ns)
    (hlist : ∀ s, before s →
      V (.list .subscription ns) s ∧ after (handler (.call (.list .subscription ns)) s).2) :
    Triple handler V before (remove ns) fun _ => after := by
  have hlooked : Triple handler V before (Cluster.list .subscription ns) fun reply s =>
      after s ∧ ∀ subscriptions, reply = .ok subscriptions →
        subscriptions.filter isLegacySubscription = [] := by
    refine Task.triple_call fun s hs => ⟨(hlist s hs).1, (hlist s hs).2, fun _ hreply => ?_⟩
    have hmigrated := hbefore s hs
    rw [h.list_eq hmigrated.sound hreply, Store.filter_legacy hmigrated.sound, hmigrated.noLegacy,
      Option.toList_none]
  refine Task.triple_bind hlooked (fun subscriptions => Triple.given fun hnone => ?_)
    fun _ _ hs => hs.1
  rw [hnone subscriptions rfl]
  exact Task.triple_bind (Task.triple_log h.toCalm) (fun _ => .done fun _ hs => hs) fun _ _ hs => hs

variable {config : InstallConfig} {tenant : Tenant} {I : σ → Prop}

theorem settling_triple (calm : handler.Calm)
    (hcalls : ∀ call, SettlingCall config tenant call → ∀ s, I s →
      V call s ∧ I (handler (.call call) s).2) :
    ∀ stage ∈ installation.drop 1, Triple handler V I (stage.run config tenant) fun _ => I := by
  intro stage hmem
  have hplain : Task.Plain (SettlingCall config tenant) (stage.run config tenant) :=
    settling_plain (fun _ hcall => hcall) stage hmem
  exact (Program.GivesUp.asks hplain.givesUp).triple calm hcalls

theorem stages_idle (h : handler.Honest store)
    (hI : ∀ s, I s → (store s).Migrated tenant.ns)
    (hcalls : ∀ call, SettlingCall config tenant call → ∀ s, I s →
      V call s ∧ I (handler (.call call) s).2) :
    ∀ stage ∈ installation, Triple handler V I (stage.run config tenant) fun _ => I :=
  List.forall_mem_cons.mpr ⟨Legacy.remove_idle h hI (hcalls _ (.list _)),
    settling_triple h.toCalm hcalls⟩

end GrafanaInstall
