import GrafanaInstall.Proofs.Install.GivesUp
import GrafanaInstall.Proofs.Store.Frame

/-!
# Errands

An errand is a run for one tenant, with all that comes between. Unlike in a trial, a call that is
lost may give any halt, even the false news that the object is not there.
-/

namespace GrafanaInstall

/-- What becomes of a call. One that is lost may have taken effect all the same. -/
inductive Turn where
  | answered (cancels : Bool)
  | lost (acts : Bool) (halt : Halt) (cancels : Bool)
  deriving DecidableEq

/-- A store with the turns that the next calls take, and the calls that were made. Past the turns,
every call is answered. -/
structure Course where
  store : Store
  turns : List Turn := []
  cancelled : Bool := false
  calls : List Call := []

namespace Course

def serve : Handler Cluster Course
  | .call call, c =>
    let (reply, store) := Memory.serve (.call call) c.store
    let calls := c.calls ++ [call]
    match c.turns with
    | [] => (reply, { c with store, calls })
    | .answered cancels :: turns => (reply, ⟨store, turns, c.cancelled || cancels, calls⟩)
    | .lost acts halt cancels :: turns =>
      (.error halt, ⟨if acts then store else c.store, turns,
        c.cancelled || cancels || halt = .interrupted, calls⟩)
  | .log _, c => ((), c)
  | .cancelled, c => (c.cancelled, c)

theorem store_serve (call : Call) (c : Course) :
    (serve (.call call) c).2.store = c.store ∨
      (serve (.call call) c).2.store = (Memory.answer call c.store).2 := by
  obtain ⟨store, _ | ⟨(cancels | ⟨acts, halt, cancels⟩), turns⟩, cancelled, calls⟩ := c
  · exact .inr rfl
  · exact .inr rfl
  · cases acts with
    | true => exact .inr rfl
    | false => exact .inl rfl

theorem honest : serve.Honest store where
  log _ _ := rfl
  cancelled _ := rfl
  reply call c := by
    obtain ⟨store, _ | ⟨(cancels | ⟨acts, halt, cancels⟩), turns⟩, cancelled, calls⟩ := c
    · exact .inl rfl
    · exact .inl rfl
    · exact .inr ⟨halt, rfl⟩

theorem keeps_serve {I : Store → Prop} {call : Call} {c : Course} (hc : I c.store)
    (h : I (Memory.answer call c.store).2) : I (serve (.call call) c).2.store := by
  rcases store_serve call c with hstore | hstore
  · rwa [hstore]
  · rwa [hstore]

end Course

/-! ## What a run keeps -/

namespace Program

/-- Whatever turns its calls take, what holds of the store before holds of it after. -/
def Keeps (I : Store → Prop) (program : Program Cluster α) : Prop :=
  ∀ c : Course, I c.store → I (program.run Course.serve c).2.store

variable {I : Store → Prop}

theorem Asks.keeps {P : Call → Prop} {program : Program Cluster α} (h : program.Asks P)
    (hI : ∀ call, P call → ∀ store, I store → I (Memory.answer call store).2) :
    program.Keeps I :=
  h.run (fun call hcall c hc => Course.keeps_serve hc (hI call hcall c.store hc))
    (fun _ _ hc => hc) (fun _ hc => hc)

end Program

/-! ## Errands -/

inductive Job where
  /-- A run of stages of the installation, in whatever order. -/
  | install (stages : Pipeline (Program Cluster)) (known : stages ⊆ installation)
  | remove

structure Errand where
  job : Job
  config : InstallConfig
  tenant : Tenant
  turns : List Turn := []
  cancelled : Bool := false

namespace Job

/-- All that is to be installed, in its order. -/
def whole : Job := .install installation (List.Subset.refl _)

def program (config : InstallConfig) (tenant : Tenant) : Job → Program Cluster Report
  | .install stages _ => stages.run config tenant
  | .remove => Installer.grafana.cleanup config tenant

example (config : InstallConfig) (tenant : Tenant) :
    whole.program config tenant = Installer.grafana.reconcile config tenant := rfl

end Job

namespace Errand

def program (errand : Errand) : Program Cluster Report :=
  errand.job.program errand.config errand.tenant

def run (errand : Errand) (store : Store) : Report × Course :=
  errand.program.run Course.serve { store, turns := errand.turns, cancelled := errand.cancelled }

def start (errand : Errand) (store : Store) : Course :=
  { store, turns := errand.turns, cancelled := errand.cancelled }

/-- The calls of an errand, each with the course that it is put to. -/
def visits (errand : Errand) (store : Store) : List (Call × Course) :=
  errand.program.visits Course.serve (errand.start store)

theorem asks (errand : Errand) :
    errand.program.Asks fun call =>
      InstallCall errand.config errand.tenant call ∨ RemovalCall errand.tenant.ns call := by
  obtain ⟨_ | _, config, tenant, _, _⟩ := errand
  · rename_i stages known
    refine Program.Asks.mono (Program.GivesUp.asks (Pipeline.runFrom_givesUp ?_ _))
      fun _ => .inl
    exact fun stage hmem => stages_givesUp config tenant stage (known hmem)
  · exact (removal_givesUp config tenant).asks.mono fun _ => .inr

/-- One errand after the other, with what each of them reports. -/
def runAll : List Errand → Store → List (Errand × Report) × Store
  | [], store => ([], store)
  | errand :: rest, store =>
    let (report, c) := errand.run store
    let (reports, after) := runAll rest c.store
    ((errand, report) :: reports, after)

end Errand

end GrafanaInstall
