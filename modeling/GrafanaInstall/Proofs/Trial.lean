import GrafanaInstall.Proofs.Program.Asks
import GrafanaInstall.Proofs.Watched

/-!
# Trials

Runs that meet with faults. Each call has its fate: it is answered from the store, or it halts, and
then it may have taken effect all the same. A program gives up if after a halt it makes no call any
more, so a run of it that is spoilt at some call leaves what a run without faults has at that call.
-/

namespace GrafanaInstall

/-- A halt that no program may bear. Only the news that an object is not there is none. -/
def Halt.isFatal : Halt → Bool
  | .failed error => !error.isNotFound
  | .interrupted => true

inductive Fate where
  | answered (cancels : Bool)
  | spoilt (acts : Bool) (halt : Halt) (fatal : halt.isFatal) (cancels : Bool)

/-- A store with the fates of the calls to come. Past the plan, every call is answered. -/
structure Trial where
  store : Store
  plan : List Fate := []
  cancelled : Bool := false

namespace Trial

/-- A call that is interrupted is one that only the end of the run ends. -/
def serve : Handler Cluster Trial
  | .call call, t =>
    let (reply, store) := Memory.serve (.call call) t.store
    match t.plan with
    | [] => (reply, { t with store })
    | .answered cancels :: plan => (reply, ⟨store, plan, t.cancelled || cancels⟩)
    | .spoilt acts halt _ cancels :: plan =>
      (.error halt, ⟨if acts then store else t.store, plan,
        t.cancelled || cancels || halt = .interrupted⟩)
  | .log _, t => ((), t)
  | .cancelled, t => (t.cancelled, t)

theorem calm : serve.Calm where
  log _ _ := rfl
  cancelled _ := rfl

theorem store_serve (call : Call) (t : Trial) :
    (serve (.call call) t).2.store = t.store ∨
      (serve (.call call) t).2.store = (Memory.answer call t.store).2 := by
  obtain ⟨store, _ | ⟨(cancels | ⟨acts, halt, fatal, cancels⟩), plan⟩, cancelled⟩ := t
  · exact .inr rfl
  · exact .inr rfl
  · cases acts
    · exact .inl rfl
    · exact .inr rfl

theorem answered_of_reply {call : Call} {t after : Trial} {reply : Except Halt call.Result}
    (h : serve (.call call) t = (reply, after))
    (hreply : ∀ halt, reply = .error halt → halt.isFatal = false) :
    after.store = (Memory.answer call t.store).2 := by
  obtain ⟨store, _ | ⟨(cancels | ⟨acts, halt, fatal, cancels⟩), plan⟩, cancelled⟩ := t
  · cases h; rfl
  · cases h; rfl
  · cases h
    exact absurd fatal (by simp [hreply halt rfl])

end Trial

theorem Program.Asks.run_trial {P : Call → Prop} {I : Store → Prop} {program : Program Cluster α}
    (h : program.Asks P) (hI : ∀ call, P call → ∀ store, I store → I (Memory.answer call store).2)
    (t : Trial) (ht : I t.store) : I (program.run Trial.serve t).2.store := by
  refine h.run (I := fun t => I t.store) ?_ ?_ ?_ t ht
  · intro call hcall t ht
    rcases Trial.store_serve call t with hstore | hstore
    · rw [hstore]
      exact ht
    · rw [hstore]
      exact hI call hcall t.store ht
  · exact fun _ _ ht => ht
  · exact fun _ ht => ht

/-! ## Giving up -/

def Cluster.fatal? : (request : Cluster.Request) → Cluster.Reply request → Option Halt
  | .call _, .error halt => if halt.isFatal then some halt else none
  | _, _ => none

theorem Cluster.isFatal_of_fatal? {request : Cluster.Request} {reply : Cluster.Reply request}
    {halt : Halt} (h : Cluster.fatal? request reply = some halt) : halt.isFatal := by
  unfold Cluster.fatal? at h
  split at h
  · split at h
    · cases h; assumption
    · cases h
  · cases h

namespace Program

/-- Makes no call, and ends with a value that meets `Q`. -/
def Quiet (Q : α → Prop) : Program Cluster α → Prop
  | .done a => Q a
  | .ask request next =>
    Cluster.Request.Meets (fun _ => False) request ∧ ∀ reply, Quiet Q (next reply)

/-- Makes calls that meet `P` and none after a fatal halt, and ends with a value that goes with
the halt. -/
def GivesUp (P : Call → Prop) (Q : Halt → α → Prop) : Program Cluster α → Prop
  | .done _ => True
  | .ask request next =>
    Cluster.Request.Meets P request ∧
      (∀ reply, GivesUp P Q (next reply)) ∧
      ∀ reply halt, Cluster.fatal? request reply = some halt → Quiet (Q halt) (next reply)

variable {P : Call → Prop}

theorem Quiet.bind {Q : α → Prop} {R : β → Prop} {program : Program Cluster α}
    {f : α → Program Cluster β} (h : program.Quiet Q) (hf : ∀ a, Q a → (f a).Quiet R) :
    (program.bind f).Quiet R := by
  induction program with
  | done a => exact hf a h
  | ask request next ih => exact ⟨h.1, fun reply => ih reply (h.2 reply)⟩

theorem GivesUp.bind {Q : Halt → α → Prop} {R : Halt → β → Prop} {program : Program Cluster α}
    {f : α → Program Cluster β} (h : program.GivesUp P Q) (hf : ∀ a, (f a).GivesUp P R)
    (hQ : ∀ halt a, halt.isFatal → Q halt a → (f a).Quiet (R halt)) :
    (program.bind f).GivesUp P R := by
  induction program with
  | done a => exact hf a
  | ask request next ih =>
    exact ⟨h.1, fun reply => ih reply (h.2.1 reply), fun reply halt hfatal =>
      (h.2.2 reply halt hfatal).bind fun a => hQ halt a (Cluster.isFatal_of_fatal? hfatal)⟩

theorem Quiet.mono {Q R : α → Prop} {program : Program Cluster α} (h : program.Quiet Q)
    (hQ : ∀ a, Q a → R a) : program.Quiet R := by
  induction program with
  | done a => exact hQ a h
  | ask request next ih => exact ⟨h.1, fun reply => ih reply (h.2 reply)⟩

theorem GivesUp.mono {Q R : Halt → α → Prop} {program : Program Cluster α}
    (h : program.GivesUp P Q) (hQ : ∀ halt a, Q halt a → R halt a) : program.GivesUp P R := by
  induction program with
  | done a => exact trivial
  | ask request next ih =>
    exact ⟨h.1, fun reply => ih reply (h.2.1 reply), fun reply halt hfatal =>
      (h.2.2 reply halt hfatal).mono (hQ halt)⟩

theorem GivesUp.asks {Q : Halt → α → Prop} {program : Program Cluster α} (h : program.GivesUp P Q) :
    program.Asks P := by
  induction program with
  | done a => exact trivial
  | ask request next ih => exact ⟨h.1, fun reply => ih reply (h.2.1 reply)⟩

theorem Quiet.run {σ : Type} {handler : Handler Cluster σ} {Q : α → Prop}
    {program : Program Cluster α} (h : program.Quiet Q) (calm : handler.Calm) (s : σ) :
    Q (program.run handler s).1 ∧ (program.run handler s).2 = s := by
  induction program with
  | done a => exact ⟨h, rfl⟩
  | ask request next ih =>
    have hsame : (handler request s).2 = s := by
      cases request with
      | call call => exact h.1.elim
      | log event => exact calm.log event s
      | cancelled => exact calm.cancelled s
    have hnext : (Program.ask request next).run handler s =
        (next (handler request s).1).run handler s := congrArg (Program.run handler _) hsame
    rw [hnext]
    exact ih _ (h.2 _)

end Program

namespace Task

def GivesUp (P : Call → Prop) (task : Task Cluster α) : Prop :=
  Program.GivesUp P (fun halt result => result = .error halt) task

variable {P : Call → Prop}

theorem GivesUp.pure (a : α) : GivesUp P (pure a : Task Cluster α) := trivial

theorem GivesUp.bind {task : Task Cluster α} {f : α → Task Cluster β} (h : task.GivesUp P)
    (hf : ∀ a, (f a).GivesUp P) : GivesUp P (task >>= f) := by
  refine Program.GivesUp.bind h ?_ ?_
  · rintro (halt | a)
    · exact trivial
    · exact hf a
  · rintro halt _ - rfl
    exact rfl

theorem GivesUp.call {call : Call} (h : P call) : (Cluster.call call).GivesUp P := by
  refine ⟨h, fun _ => trivial, fun reply halt hfatal => ?_⟩
  cases reply with
  | ok => cases hfatal
  | error other =>
    simp only [Cluster.fatal?] at hfatal
    split at hfatal
    · cases hfatal; rfl
    · cases hfatal

theorem GivesUp.log (level : Level) (message : String) (fields : List (String × Json)) :
    (Cluster.log level message fields).GivesUp P :=
  ⟨trivial, fun _ => trivial, fun _ _ hfatal => nomatch hfatal⟩

theorem GivesUp.recover {task : Task Cluster α} {handle : Error → Option (Task Cluster α)}
    (h : task.GivesUp P) (hhandle : ∀ error other, handle error = some other →
      error.isNotFound ∧ other.GivesUp P) : (task.recover handle).GivesUp P := by
  refine Program.GivesUp.bind h ?_ ?_
  · rintro ((error | _) | a)
    · cases hother : handle error with
      | none => simp only [hother]; exact trivial
      | some other => simp only [hother]; exact (hhandle error other hother).2
    · exact trivial
    · exact trivial
  · rintro (error | _) _ hfatal rfl
    · cases hother : handle error with
      | none => simp only [hother]; exact rfl
      | some other => simp [Halt.isFatal, (hhandle error other hother).1] at hfatal
    · exact rfl

theorem GivesUp.deleteIfPresent {k : Kind} {ns name : String} (h : P (.delete k ns name)) :
    (Cluster.deleteIfPresent k ns name).GivesUp P := by
  refine .recover (.bind (.call h) fun _ => .pure _) fun error other hother => ?_
  split at hother
  · cases hother
    exact ⟨‹_›, .pure _⟩
  · cases hother

theorem Plain.givesUp {task : Task Cluster α} (h : task.Plain P) : task.GivesUp P := by
  induction h with
  | pure a => exact .pure a
  | log level message fields => exact .log level message fields
  | list h => exact .call h
  | apply h => exact .call h
  | deleteIfPresent h => exact .deleteIfPresent h
  | bind _ _ ih ihf => exact .bind ih ihf

end Task

/-! ## Stages -/

def Halt.errorIn (stage : String) : Halt → Error
  | .failed error => error
  | .interrupted => .cancelled stage

theorem Stage.attempt_givesUp {P : Call → Prop} {stage : Stage (Program Cluster)}
    {config : InstallConfig} {tenant : Tenant} (h : Task.GivesUp P (stage.run config tenant)) :
    (stage.attempt config tenant).GivesUp P fun halt outcome =>
      outcome = .failed (halt.errorIn stage.name) := by
  refine ⟨trivial, fun cancelled => ?_, fun _ _ hfatal => nomatch hfatal⟩
  cases cancelled with
  | true => exact trivial
  | false =>
    show Program.GivesUp P _ (Program.bind (stage.run config tenant) _)
    refine Program.GivesUp.bind h ?_ ?_
    · rintro ((error | _) | progress) <;> exact trivial
    · rintro (error | _) _ - rfl <;> exact rfl

theorem Pipeline.runFrom_givesUp {P : Call → Prop} {config : InstallConfig} {tenant : Tenant}
    {stages : Pipeline (Program Cluster)}
    (h : ∀ stage ∈ stages, Task.GivesUp P (stage.run config tenant)) (last : Report) :
    (runFrom config tenant last stages).GivesUp P fun halt report =>
      ∃ stage ∈ stages, report = ⟨some stage.name, .failed (halt.errorIn stage.name)⟩ := by
  induction stages generalizing last with
  | nil => exact trivial
  | cons stage rest ih =>
    obtain ⟨hstage, hrest⟩ := List.forall_mem_cons.mp h
    refine Program.GivesUp.bind (Stage.attempt_givesUp hstage) (fun outcome => ?_) ?_
    · refine ⟨trivial, fun _ => ?_, fun _ _ hfatal => nomatch hfatal⟩
      cases outcome with
      | success =>
        refine (ih hrest ⟨some stage.name, .success⟩).mono fun halt report => ?_
        rintro ⟨other, hmem, hreport⟩
        exact ⟨other, List.mem_cons_of_mem _ hmem, hreport⟩
      | inProgress => exact trivial
      | failed error => exact trivial
    · rintro halt _ - rfl
      exact ⟨trivial, fun _ => ⟨stage, List.mem_cons_self, rfl⟩⟩

/-! ## Runs that are spoilt -/

open Program Watched in
/-- A run that is spoilt at some call leaves what a run without faults has at that call, or at the
next one if the call took effect. -/
theorem Program.GivesUp.run_spoilt {P : Call → Prop} {Q : Halt → α → Prop}
    {program : Program Cluster α} (h : program.GivesUp P Q) (store : Store) (n : Nat) (acts : Bool)
    (halt : Halt) (fatal : halt.isFatal) :
    (program.run Trial.serve
        ⟨store, List.replicate n (.answered false) ++ [.spoilt acts halt fatal false],
          false⟩).2.store =
      (met program store)[n + acts.toNat]?.getD (program.run Memory.serve store).2 := by
  induction program generalizing store n with
  | done => rfl
  | ask request next ih =>
    cases request with
    | log event => exact ih () (h.2.1 ()) store n
    | cancelled => exact ih false (h.2.1 false) store n
    | call call =>
      -- Up to the spoilt call both runs go together, and past it the program is quiet.
      let reply := (Memory.serve (.call call) store).1
      let after := (Memory.serve (.call call) store).2
      rw [show met _ store = store :: met (next reply) after from met_call call next store]
      cases n with
      | succ n =>
        rw [Nat.succ_add, List.getElem?_cons_succ]
        exact ih reply (h.2.1 reply) after n
      | zero =>
        have hquiet := h.2.2 (.error halt) halt (by simp [Cluster.fatal?, fatal])
        refine (congrArg Trial.store (hquiet.run Trial.calm _).2).trans ?_
        cases acts with
        | false => rfl
        | true => exact (met_head (next reply) after).symm

end GrafanaInstall
