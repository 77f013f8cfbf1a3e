import GrafanaInstall.Cluster

/-!
# What a program may ask

The calls that a program may come to make, whatever the replies are. What every one of them leaves
alone, a run of the program leaves alone. Plain tasks are those of the stages: what they do with the
replies is open, but not how they ask.
-/

namespace GrafanaInstall

def Call.isDelete : Call → Bool
  | .delete .. => true
  | _ => false

def Cluster.Request.Meets (P : Call → Prop) : Cluster.Request → Prop
  | .call c => P c
  | .log _ | .cancelled => True

theorem Cluster.Request.Meets.mono {P R : Call → Prop} {request : Cluster.Request}
    (h : request.Meets P) (hP : ∀ call, P call → R call) : request.Meets R := by
  cases request with
  | call c => exact hP c h
  | log | cancelled => exact trivial

namespace Program

/-- Every call that may be made meets `P`. -/
def Asks (P : Call → Prop) : Program Cluster α → Prop
  | .done _ => True
  | .ask request next =>
    Cluster.Request.Meets P request ∧ ∀ reply, Asks P (next reply)

variable {P R : Call → Prop}

theorem Asks.bind {program : Program Cluster α} {f : α → Program Cluster β} (h : program.Asks P)
    (hf : ∀ a, (f a).Asks P) : (program.bind f).Asks P := by
  induction program with
  | done a => exact hf a
  | ask request next ih => exact ⟨h.1, fun reply => ih reply (h.2 reply)⟩

theorem Asks.mono {program : Program Cluster α} (h : program.Asks P)
    (hP : ∀ call, P call → R call) :
    program.Asks R := by
  induction program with
  | done => exact trivial
  | ask request next ih =>
    exact ⟨h.1.mono hP, fun reply => ih reply (h.2 reply)⟩

theorem Asks.run {σ : Type} {handler : Handler Cluster σ} {I : σ → Prop}
    {program : Program Cluster α} (h : program.Asks P)
    (hcall : ∀ call, P call → ∀ s, I s → I (handler (.call call) s).2)
    (hlog : ∀ event s, I s → I (handler (.log event) s).2)
    (hcancelled : ∀ s, I s → I (handler .cancelled s).2) (s : σ) (hs : I s) :
    I (program.run handler s).2 := by
  induction program generalizing s with
  | done a => exact hs
  | ask request next ih =>
    refine ih _ (h.2 _) _ ?_
    cases request with
    | call call => exact hcall call h.1 s hs
    | log event => exact hlog event s hs
    | cancelled => exact hcancelled s hs

end Program

namespace Task

def Asks (P : Call → Prop) (task : Task Cluster α) : Prop := Program.Asks P task

variable {P : Call → Prop}

theorem Asks.pure (a : α) : Asks P (pure a : Task Cluster α) := trivial

theorem Asks.fail (error : Error) : Asks P (fail error : Task Cluster α) := trivial

theorem Asks.bind {task : Task Cluster α} {f : α → Task Cluster β} (h : task.Asks P)
    (hf : ∀ a, (f a).Asks P) : Asks P (task >>= f) := by
  refine Program.Asks.bind h ?_
  rintro (halt | a)
  · exact trivial
  · exact hf a

theorem Asks.call {call : Call} (h : P call) : (Cluster.call call).Asks P :=
  ⟨h, fun _ => trivial⟩

theorem Asks.log (level : Level) (message : String) (fields : List (String × Json)) :
    (Cluster.log level message fields).Asks P :=
  ⟨trivial, fun _ => trivial⟩

theorem Asks.lift {program : Program Cluster α} (h : program.Asks P) :
    Asks P (ExceptT.lift program : Task Cluster α) :=
  Program.Asks.bind h fun _ => trivial

/-! ## Plain tasks -/

/-- Lists, applies, deletes what may be there, and writes to the log. Every call meets `P`. -/
inductive Plain (P : Call → Prop) : {α : Type} → Task Cluster α → Prop
  | pure (a : α) : Plain P (pure a)
  | log (level : Level) (message : String) (fields : List (String × Json)) :
    Plain P (Cluster.log level message fields)
  | list {k : Kind} {ns : String} (h : P (.list k ns)) : Plain P (Cluster.list k ns)
  | apply {desired : Object k} (h : P (.apply k desired)) : Plain P (Cluster.apply desired)
  | deleteIfPresent {k : Kind} {ns name : String} (h : P (.delete k ns name)) :
    Plain P (Cluster.deleteIfPresent k ns name)
  | bind {task : Task Cluster α} {f : α → Task Cluster β} (h : Plain P task)
    (hf : ∀ a, Plain P (f a)) : Plain P (task >>= f)

theorem Plain.forM {f : α → Task Cluster PUnit} (items : List α)
    (hf : ∀ a ∈ items, (f a).Plain P) : Plain P (items.forM f) := by
  induction items with
  | nil => exact .pure _
  | cons a rest ih =>
    obtain ⟨ha, hrest⟩ := List.forall_mem_cons.mp hf
    exact .bind ha fun _ => ih hrest

end Task

end GrafanaInstall
