import GrafanaInstall.Proofs.Program.Task
import GrafanaInstall.Proofs.Program.Triple
import GrafanaInstall.Proofs.Store.Calls
import GrafanaInstall.Stage
import GrafanaInstall.Testbed

/-!
# Watched runs

A run against a store that answers every call, without faults and without being cancelled. To
see what happens on the way, the calls are kept, each with the store that it was put to.
-/

namespace GrafanaInstall

/-- A cluster that answers every call from its store. -/
def Memory.serve : Handler Cluster Store
  | .call call, store => ((answer call store).1.mapError .failed, (answer call store).2)
  | .log _, store => ((), store)
  | .cancelled, store => (false, store)

/-- Surroundings that hold a store: what a call gives, if it gives anything, is what the store
gives. -/
structure Handler.Honest (handler : Handler Cluster σ) (store : σ → Store) : Prop
    extends handler.Calm where
  reply : ∀ call s, (handler (.call call) s).1 = (Memory.serve (.call call) (store s)).1 ∨
    ∃ halt, (handler (.call call) s).1 = .error halt

/-- Surroundings that hold a store, answer every call from it and cancel no run. -/
structure Handler.Undisturbed (handler : Handler Cluster σ) (store : σ → Store) : Prop
    extends handler.Calm where
  reply : ∀ call s, (handler (.call call) s).1 = (Memory.serve (.call call) (store s)).1
  going : ∀ s, (handler .cancelled s).1 = false

namespace Handler.Undisturbed

variable {handler : Handler Cluster σ} {store : σ → Store} {s : σ}

theorem honest (h : handler.Undisturbed store) : handler.Honest store where
  toCalm := h.toCalm
  reply call s := .inl (h.reply call s)

/-! ## Calls -/

theorem run_call (h : handler.Undisturbed store) {call : Call} {result : call.Result}
    (hanswer : (Memory.answer call (store s)).1 = .ok result) :
    Program.run handler (Cluster.call call) s = (.ok result, (handler (.call call) s).2) := by
  have hreply := (h.reply call s).trans (congrArg (Except.mapError Halt.failed) hanswer)
  exact Prod.ext hreply rfl

theorem run_list (h : handler.Undisturbed store) (hsound : (store s).Sound) (k : Kind)
    (ns : String) :
    Program.run handler (Cluster.list k ns) s =
      (.ok ((store s).view k ns), (handler (.call (.list k ns)) s).2) :=
  h.run_call (Memory.list_of_sound hsound k ns)

theorem run_apply (h : handler.Undisturbed store) (hsound : (store s).Sound) (desired : Object k) :
    ∃ result, Program.run handler (Cluster.apply desired) s =
      (.ok result, (handler (.call (.apply k desired)) s).2) := by
  obtain ⟨result, happly, -⟩ := Memory.apply_of_sound hsound desired
  exact ⟨result, h.run_call (congrArg Prod.fst happly)⟩

theorem run_deleteIfPresent (h : handler.Undisturbed store) {ns name : String} {o : Object k}
    (hheld : (store s).held k (Memory.keyOf k ns name) = some o) :
    Program.run handler (Cluster.deleteIfPresent k ns name) s =
      (.ok true, (handler (.call (.delete k ns name)) s).2) := by
  have hdelete : Program.run handler (Cluster.delete k ns name) s =
      (.ok (), (handler (.call (.delete k ns name)) s).2) :=
    h.run_call (congrArg Prod.fst (Memory.delete_of_held hheld))
  rw [Cluster.deleteIfPresent, Task.run_recover, Task.run_bind, hdelete]
  rfl

theorem run_log (h : handler.Undisturbed store) (level : Level) (message : String)
    (fields : List (String × Json)) (s : σ) :
    Program.run handler (Cluster.log level message fields) s = (.ok (), s) :=
  Prod.ext rfl (h.log _ s)

/-! ## Stages -/

variable {stage : Stage (Program Cluster)} {config : InstallConfig} {tenant : Tenant}

theorem run_attempt (h : handler.Undisturbed store) {progress : Progress} {after : σ}
    (hrun : Program.run handler (stage.run config tenant) s = (.ok progress, after)) :
    Program.run handler (stage.attempt config tenant) s = (.ofProgress progress, after) := by
  show Program.run handler ((fun cancelled : Bool => _) (handler .cancelled s).1)
    (handler .cancelled s).2 = _
  rw [h.going, h.cancelled]
  refine (Program.run_bind handler (stage.run config tenant) _ s).trans ?_
  rw [hrun]
  rfl

theorem runFrom_success (h : handler.Undisturbed store) {after : σ} {last : Report}
    {rest : Pipeline (Program Cluster)}
    (hrun : Program.run handler (stage.run config tenant) s = (.ok .success, after)) :
    Program.run handler (Pipeline.runFrom config tenant last (stage :: rest)) s =
      (Pipeline.runFrom config tenant ⟨some stage.name, .success⟩ rest).run handler after := by
  refine (Program.run_bind handler (stage.attempt config tenant) _ s).trans ?_
  rw [h.run_attempt hrun]
  exact congrArg (Program.run handler _) (h.log _ after)

theorem runFrom_inProgress (h : handler.Undisturbed store) {after : σ} {last : Report}
    {rest : Pipeline (Program Cluster)}
    (hrun : Program.run handler (stage.run config tenant) s = (.ok .inProgress, after)) :
    Program.run handler (Pipeline.runFrom config tenant last (stage :: rest)) s =
      (⟨some stage.name, .inProgress⟩, after) := by
  refine (Program.run_bind handler (stage.attempt config tenant) _ s).trans ?_
  rw [h.run_attempt hrun]
  exact Prod.ext rfl (h.log _ after)

end Handler.Undisturbed

structure Watched where
  store : Store
  history : List (Call × Store) := []

namespace Watched

def after (w : Watched) (call : Call) (store : Store) : Watched :=
  ⟨store, w.history ++ [(call, w.store)]⟩

def serve : Handler Cluster Watched
  | .call call, w =>
    let (reply, store) := Memory.serve (.call call) w.store
    (reply, w.after call store)
  | .log _, w => ((), w)
  | .cancelled, w => (false, w)

theorem run_serve (program : Program Cluster α) (w : Watched) :
    (program.run serve w).1 = (program.run Memory.serve w.store).1 ∧
      (program.run serve w).2.store = (program.run Memory.serve w.store).2 := by
  induction program generalizing w with
  | done => exact ⟨rfl, rfl⟩
  | ask request next ih => cases request <;> exact ih _ _

theorem undisturbed : serve.Undisturbed store where
  log _ _ := rfl
  cancelled _ := rfl
  reply _ _ := rfl
  going _ := rfl

/-! ## Calls -/

variable {w : Watched}

theorem run_list (h : w.store.Sound) (k : Kind) (ns : String) :
    Program.run serve (Cluster.list k ns) w =
      (.ok (w.store.view k ns), w.after (.list k ns) w.store) :=
  undisturbed.run_list h k ns

theorem run_apply (h : w.store.Sound) (desired : Object k) :
    ∃ result, Program.run serve (Cluster.apply desired) w =
      (.ok result, w.after (.apply k desired) (Memory.applied desired w.store)) :=
  undisturbed.run_apply h desired

/-! ## Histories -/

theorem run_history (program : Program Cluster α) (w : Watched) :
    (program.run serve w).2.history =
      w.history ++ (program.run serve ⟨w.store, []⟩).2.history := by
  induction program generalizing w with
  | done => exact (List.append_nil _).symm
  | ask request next ih =>
    cases request with
    | call call =>
      let reply := (Memory.serve (.call call) w.store).1
      let store := (Memory.serve (.call call) w.store).2
      calc ((next reply).run serve ⟨store, w.history ++ [(call, w.store)]⟩).2.history
        _ = w.history ++ [(call, w.store)] ++ ((next reply).run serve ⟨store, []⟩).2.history :=
          ih _ _
        _ = w.history ++ ((next reply).run serve ⟨store, [(call, w.store)]⟩).2.history := by
          rw [ih reply ⟨store, [(call, w.store)]⟩, List.append_assoc]
    | log event => exact ih () w
    | cancelled => exact ih false w

/-- The stores that the calls of a run are put to, in turn. -/
def met (program : Program Cluster α) (store : Store) : List Store :=
  (program.run serve ⟨store, []⟩).2.history.map Prod.snd

theorem met_call (call : Call) (next : Except Halt call.Result → Program Cluster α)
    (store : Store) :
    met (.ask (.call call) next) store =
      store :: met (next (Memory.serve (.call call) store).1) (Memory.serve (.call call) store).2 :=
  congrArg (List.map Prod.snd) (run_history (next _) ⟨_, [(call, store)]⟩)

theorem met_head (program : Program Cluster α) (store : Store) :
    (met program store)[0]?.getD (program.run Memory.serve store).2 = store := by
  induction program with
  | done => rfl
  | ask request next ih =>
    cases request with
    | call call => exact congrArg (·[0]?.getD _) (met_call call next store)
    | log event => exact ih ()
    | cancelled => exact ih false

end Watched

theorem run_of_watched {program : Program Cluster α} {a : α} {store : Store} {w : Watched}
    (h : program.run Watched.serve ⟨store, []⟩ = (a, w)) :
    program.run Memory.serve store = (a, w.store) := by
  obtain ⟨ha, hstore⟩ := Watched.run_serve program ⟨store, []⟩
  rw [h] at ha hstore
  exact Prod.ext ha.symm hstore.symm

/-- So runs a testbed that has direct access to its store, and no faults left. -/
theorem Testbed.play_serve {bed : Testbed} (program : Program Cluster α)
    (haccess : bed.access = .direct) (hfaults : bed.callFaults = [])
    (hcancelled : bed.cancelled = false) :
    (bed.play program).1 = (program.run Memory.serve bed.store).1 ∧
      (bed.play program).2.store = (program.run Memory.serve bed.store).2 := by
  rw [play, handler, haccess]
  clear haccess
  induction program generalizing bed with
  | done => exact ⟨rfl, rfl⟩
  | ask request next ih =>
    obtain ⟨⟩ := bed
    subst hfaults hcancelled
    cases request with
    | call call => exact ih _ rfl rfl
    | log event => exact ih () rfl rfl
    | cancelled => exact ih false rfl rfl

end GrafanaInstall
