import GrafanaInstall.Proofs.Program.Asks
import GrafanaInstall.Stage

/-!
# Triples

What a run comes to in some surroundings: which calls it makes on the way, each with the state that
it is put to, and how it ends. A triple says so for every state that meets a condition.
-/

namespace GrafanaInstall

/-- Only calls change the state. -/
structure Handler.Calm (handler : Handler Cluster σ) : Prop where
  log : ∀ event s, (handler (.log event) s).2 = s
  cancelled : ∀ s, (handler .cancelled s).2 = s

namespace Program

/-! ## Visits -/

def visits (handler : Handler Cluster σ) : Program Cluster α → σ → List (Call × σ)
  | .done _, _ => []
  | .ask request next, s =>
    let rest := visits handler (next (handler request s).1) (handler request s).2
    match request with
    | .call call => (call, s) :: rest
    | .log _ | .cancelled => rest

theorem visits_bind (handler : Handler Cluster σ) (program : Program Cluster α)
    (f : α → Program Cluster β) (s : σ) :
    (program.bind f).visits handler s =
      program.visits handler s ++
        (f (program.run handler s).1).visits handler (program.run handler s).2 := by
  induction program generalizing s with
  | done a => rfl
  | ask request next ih =>
    cases request with
    | call call => exact congrArg (List.cons (call, s)) (ih _ _)
    | log event => exact ih _ _
    | cancelled => exact ih _ _

theorem run_cancelled {handler : Handler Cluster σ} {s : σ} {reply : Bool}
    (h : (handler .cancelled s).1 = reply) (next : Bool → Program Cluster α) :
    run handler (.ask .cancelled next) s = run handler (next reply) (handler .cancelled s).2 := by
  subst h
  rfl

theorem visits_cancelled {handler : Handler Cluster σ} {s : σ} {reply : Bool}
    (h : (handler .cancelled s).1 = reply) (next : Bool → Program Cluster α) :
    visits handler (.ask .cancelled next) s =
      visits handler (next reply) (handler .cancelled s).2 := by
  subst h
  rfl

theorem Asks.visits {P : Call → Prop} {program : Program Cluster α} (h : program.Asks P)
    (handler : Handler Cluster σ) (s : σ) : ∀ visit ∈ program.visits handler s, P visit.1 := by
  induction program generalizing s with
  | done a => exact fun _ hmem => absurd hmem List.not_mem_nil
  | ask request next ih =>
    cases request with
    | call call => exact List.forall_mem_cons.mpr ⟨h.1, ih _ (h.2 _) _⟩
    | log event => exact ih _ (h.2 _) _
    | cancelled => exact ih _ (h.2 _) _

/-! ## Triples -/

/-- From a state that meets `before`, every visit meets `V`, and the end meets `after`. -/
def Triple (handler : Handler Cluster σ) (V : Call → σ → Prop) (before : σ → Prop)
    (program : Program Cluster α) (after : α → σ → Prop) : Prop :=
  ∀ s, before s → (∀ visit ∈ program.visits handler s, V visit.1 visit.2) ∧
    after (program.run handler s).1 (program.run handler s).2

namespace Triple

variable {handler : Handler Cluster σ} {V W : Call → σ → Prop} {before : σ → Prop}

theorem done {a : α} {after : α → σ → Prop} (h : ∀ s, before s → after a s) :
    Triple handler V before (.done a) after :=
  fun s hs => ⟨fun _ hmem => absurd hmem List.not_mem_nil, h s hs⟩

theorem bind {program : Program Cluster α} {f : α → Program Cluster β} {middle : α → σ → Prop}
    {after : β → σ → Prop} (h : Triple handler V before program middle)
    (hf : ∀ a, Triple handler V (middle a) (f a) after) :
    Triple handler V before (program.bind f) after := by
  intro s hs
  obtain ⟨hfirst, hmiddle⟩ := h s hs
  obtain ⟨hrest, hafter⟩ := hf _ _ hmiddle
  rw [visits_bind, run_bind]
  refine ⟨fun visit hmem => ?_, hafter⟩
  rcases List.mem_append.mp hmem with hmem | hmem
  · exact hfirst visit hmem
  · exact hrest visit hmem

theorem log {event : Event} {next : Unit → Program Cluster α} {after : α → σ → Prop}
    (calm : handler.Calm) (h : Triple handler V before (next ()) after) :
    Triple handler V before (.ask (.log event) next) after := by
  intro s hs
  have hnext := h _ ((calm.log event s).symm ▸ hs)
  exact hnext

theorem cancelled {next : Bool → Program Cluster α} {after : α → σ → Prop}
    (calm : handler.Calm) (h : ∀ reply, Triple handler V before (next reply) after) :
    Triple handler V before (.ask .cancelled next) after := by
  intro s hs
  have hnext := h (handler .cancelled s).1 _ ((calm.cancelled s).symm ▸ hs)
  exact hnext

/-- What does not depend on the state can be used right away. -/
theorem given {program : Program Cluster α} {p : Prop} {after : α → σ → Prop}
    (h : p → Triple handler V before program after) :
    Triple handler V (fun s => before s ∧ p) program after :=
  fun s hs => h hs.2 s hs.1

theorem mono {program : Program Cluster α} {after : α → σ → Prop}
    (h : Triple handler V before program after) (hV : ∀ call s, V call s → W call s) :
    Triple handler W before program after :=
  fun s hs => ⟨fun visit hmem => hV _ _ ((h s hs).1 visit hmem), (h s hs).2⟩

theorem strengthen {program : Program Cluster α} {strong : σ → Prop} {after : α → σ → Prop}
    (h : Triple handler V before program after) (hbefore : ∀ s, strong s → before s) :
    Triple handler V strong program after :=
  fun s hs => h s (hbefore s hs)

theorem weaken {program : Program Cluster α} {after weak : α → σ → Prop}
    (h : Triple handler V before program after) (hafter : ∀ a s, after a s → weak a s) :
    Triple handler V before program weak :=
  fun s hs => ⟨(h s hs).1, hafter _ _ (h s hs).2⟩

end Triple

theorem Asks.triple {handler : Handler Cluster σ} {V : Call → σ → Prop} {I : σ → Prop}
    {P : Call → Prop} {program : Program Cluster α} (h : program.Asks P) (calm : handler.Calm)
    (hcall : ∀ call, P call → ∀ s, I s → V call s ∧ I (handler (.call call) s).2) :
    Triple handler V I program fun _ => I := by
  intro s hs
  induction program generalizing s with
  | done a => exact ⟨fun _ hmem => absurd hmem List.not_mem_nil, hs⟩
  | ask request next ih =>
    cases request with
    | call call =>
      obtain ⟨hvisit, hnext⟩ := hcall call h.1 s hs
      obtain ⟨hrest, hend⟩ := ih _ (h.2 _) _ hnext
      exact ⟨List.forall_mem_cons.mpr ⟨hvisit, hrest⟩, hend⟩
    | log event => exact ih _ (h.2 _) _ ((calm.log event s).symm ▸ hs)
    | cancelled => exact ih _ (h.2 _) _ ((calm.cancelled s).symm ▸ hs)

end Program

open Program

variable {handler : Handler Cluster σ} {V : Call → σ → Prop} {before I J : σ → Prop}

/-! ## Tasks -/

namespace Task

theorem triple_call {call : Call} {after : Except Halt call.Result → σ → Prop}
    (h : ∀ s, before s → V call s ∧
      after (handler (.call call) s).1 (handler (.call call) s).2) :
    Triple handler V before (Cluster.call call) after :=
  fun s hs => ⟨List.forall_mem_singleton.mpr (h s hs).1, (h s hs).2⟩

theorem triple_log {level : Level} {message : String} {fields : List (String × Json)}
    (calm : handler.Calm) :
    Triple handler V before (Cluster.log level message fields) fun _ => before :=
  Triple.log calm (.done fun _ hs => hs)

theorem visits_bind (handler : Handler Cluster σ) (task : Task Cluster α) (f : α → Task Cluster β)
    (s : σ) :
    Program.visits handler (task >>= f : Task Cluster β) s = Program.visits handler task s ++
      match Program.run handler task s with
      | (.ok a, after) => Program.visits handler (f a) after
      | (.error _, _) => [] := by
  refine (Program.visits_bind handler task _ s).trans (congrArg _ ?_)
  rcases Program.run handler task s with ⟨halt | a, after⟩ <;> rfl

theorem visits_lift (handler : Handler Cluster σ) (program : Program Cluster α) (s : σ) :
    Program.visits handler (ExceptT.lift program : Task Cluster α) s = program.visits handler s :=
  (Program.visits_bind handler program _ s).trans (List.append_nil _)

theorem triple_bind {task : Task Cluster α} {f : α → Task Cluster β}
    {middle : Except Halt α → σ → Prop} {after : Except Halt β → σ → Prop}
    (h : Triple handler V before task middle)
    (hf : ∀ a, Triple handler V (middle (.ok a)) (f a) after)
    (hhalt : ∀ halt s, middle (.error halt) s → after (.error halt) s) :
    Triple handler V before (task >>= f : Task Cluster β) after := by
  refine Triple.bind h ?_
  rintro (halt | a)
  · exact .done (hhalt halt)
  · exact hf a

end Task

/-! ## Stages -/

theorem Stage.attempt_triple {stage : Stage (Program Cluster)} {config : InstallConfig}
    {tenant : Tenant} (calm : handler.Calm) (hbefore : ∀ s, before s → I s)
    (h : Triple handler V before (stage.run config tenant) fun result s =>
      I s ∧ (result = .ok .success → J s)) :
    Triple handler V before (stage.attempt config tenant) fun outcome s =>
      I s ∧ (outcome = .success → J s) := by
  refine Triple.cancelled calm fun cancelled => ?_
  cases cancelled with
  | true => exact .done fun s hs => ⟨hbefore s hs, nofun⟩
  | false =>
    show Triple handler V before (Program.bind (stage.run config tenant) _) _
    refine Triple.bind h ?_
    rintro ((error | _) | (_ | _))
    · exact .done fun s hs => ⟨hs.1, nofun⟩
    · exact .done fun s hs => ⟨hs.1, nofun⟩
    · exact .done fun s hs => ⟨hs.1, fun _ => hs.2 rfl⟩
    · exact .done fun s hs => ⟨hs.1, nofun⟩

namespace Pipeline

variable {config : InstallConfig} {tenant : Tenant} {last : Report}

theorem runFrom_cons_triple {stage : Stage (Program Cluster)} {rest : Pipeline (Program Cluster)}
    {after : Report → σ → Prop} (calm : handler.Calm) (hbefore : ∀ s, before s → I s)
    (h : Triple handler V before (stage.run config tenant) fun result s =>
      I s ∧ (result = .ok .success → J s))
    (hrest : Triple handler V J (runFrom config tenant ⟨some stage.name, .success⟩ rest) after)
    (hend : ∀ outcome s, I s → outcome ≠ .success → after ⟨some stage.name, outcome⟩ s) :
    Triple handler V before (runFrom config tenant last (stage :: rest)) after := by
  refine Triple.bind (Stage.attempt_triple calm hbefore h) fun outcome => Triple.log calm ?_
  cases outcome with
  | success => exact hrest.strengthen fun s hs => hs.2 rfl
  | inProgress => exact .done fun s hs => hend _ s hs.1 nofun
  | failed error => exact .done fun s hs => hend _ s hs.1 nofun

theorem runFrom_triple {stages : Pipeline (Program Cluster)} (calm : handler.Calm)
    (h : ∀ stage ∈ stages, Triple handler V I (stage.run config tenant) fun _ => I) :
    Triple handler V I (runFrom config tenant last stages) fun _ => I := by
  induction stages generalizing last with
  | nil => exact .done fun s hs => hs
  | cons stage rest ih =>
    obtain ⟨hstage, hrest⟩ := List.forall_mem_cons.mp h
    refine runFrom_cons_triple calm (fun _ hs => hs) ?_ (ih hrest) fun _ s hs _ => hs
    exact hstage.weaken fun _ s hs => ⟨hs, fun _ => hs⟩

end Pipeline

end GrafanaInstall
