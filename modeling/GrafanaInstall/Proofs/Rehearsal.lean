import GrafanaInstall.Testbed.Script

/-!
# Rehearsals

Runs of stages whose endings are known beforehand. A pipeline calls its stages in order up to the
first that may not start any more, does not come to an end, or does not succeed, and reports that
one. What such a run has done is told by the stages that it called.
-/

namespace GrafanaInstall.Testbed

namespace ScriptedStage

def triggers (script : ScriptedStage) : Bool :=
  match script.ending with
  | .returns _ => script.cancels
  | .hangs => true

def visit (config : InstallConfig) (tenant : Tenant) (script : ScriptedStage) : Visit :=
  ⟨script.name, tenant, config⟩

end ScriptedStage

/-- Whether the run is cancelled after some stages were called. -/
def cancelledBy (cancelled : Bool) (called : List ScriptedStage) : Bool :=
  cancelled || called.any ScriptedStage.triggers

def Playback.after (p : Playback) (config : InstallConfig) (tenant : Tenant)
    (called : List ScriptedStage) : Playback where
  cancelled := cancelledBy p.cancelled called
  visits := p.visits ++ called.map (ScriptedStage.visit config tenant)

/-! ## How a run has to go -/

def Passes (cancelled : Bool) (scripts : List ScriptedStage) : Prop :=
  ∀ before script later, scripts = before ++ script :: later →
    cancelledBy cancelled before = false ∧ script.ending = .returns (.ok .success)

/-- How a stage ends a run, and whether it is called for that. -/
inductive ScriptedStage.Stops (script : ScriptedStage) :
    Bool → Outcome → List ScriptedStage → Prop
  | barred : Stops script true (.failed (.cancelled script.name)) []
  | abandoned (h : script.ending = .hangs) :
    Stops script false (.failed (.cancelled script.name)) [script]
  | returned {result : Except Error Progress} (h : script.ending = .returns result)
      (hresult : result ≠ .ok .success) :
    Stops script false (.ofResult result) [script]

/-- What is reported of some stages, and which of them are called. -/
inductive Rehearsed (cancelled : Bool) (scripts : List ScriptedStage) :
    Report → List ScriptedStage → Prop
  | through (h : Passes cancelled scripts) :
    Rehearsed cancelled scripts ⟨scripts.getLast?.map (·.name), .success⟩ scripts
  | stopped {passed later called : List ScriptedStage} {script : ScriptedStage} {outcome : Outcome}
      (hscripts : scripts = passed ++ script :: later) (hpassed : Passes cancelled passed)
      (h : script.Stops (cancelledBy cancelled passed) outcome called) :
    Rehearsed cancelled scripts ⟨some script.name, outcome⟩ (passed ++ called)

/-! ## Calls -/

namespace Playback

variable (p : Playback) (config : InstallConfig) (tenant : Tenant)

theorem after_nil : p.after config tenant [] = p := by
  simp [after, cancelledBy]

theorem after_append (called more : List ScriptedStage) :
    p.after config tenant (called ++ more) =
      (p.after config tenant called).after config tenant more := by
  simp [after, cancelledBy, Bool.or_assoc]

end Playback

theorem passes_nil (cancelled : Bool) : Passes cancelled [] :=
  fun _ _ _ h => by simp at h

theorem passes_cons {cancelled : Bool} {script : ScriptedStage} {rest : List ScriptedStage} :
    Passes cancelled (script :: rest) ↔
      cancelled = false ∧ script.ending = .returns (.ok .success) ∧
        Passes (cancelledBy cancelled [script]) rest := by
  have hshift (before : List ScriptedStage) : cancelledBy cancelled (script :: before) =
      cancelledBy (cancelledBy cancelled [script]) before := by
    simp [cancelledBy, Bool.or_assoc]
  constructor
  · intro h
    obtain ⟨hstart, hending⟩ := h [] script rest rfl
    refine ⟨by simpa [cancelledBy] using hstart, hending, fun before other later hrest => ?_⟩
    rw [← hshift]
    exact h (script :: before) other later (by rw [hrest, List.cons_append])
  · rintro ⟨hstart, hending, hrest⟩ before other later h
    cases before with
    | nil =>
      obtain ⟨rfl, rfl⟩ := List.cons.inj h
      exact ⟨by simp [cancelledBy, hstart], hending⟩
    | cons first before =>
      obtain ⟨rfl, hlater⟩ := List.cons.inj h
      rw [hshift]
      exact hrest before other later hlater

/-! ## Runs -/

section Runs

variable {config : InstallConfig} {tenant : Tenant} {p : Playback} {last : Report}

theorem runFrom_success {script : ScriptedStage} (hstart : p.cancelled = false)
    (hending : script.ending = .returns (.ok .success)) (rest : Pipeline Rehearsal) :
    (Pipeline.runFrom config tenant last (script.stage :: rest)).run p =
      (Pipeline.runFrom config tenant ⟨some script.name, .success⟩ rest).run
        (p.after config tenant [script]) := by
  obtain ⟨name, ending, cancels⟩ := script
  obtain ⟨cancelled, visits⟩ := p
  obtain rfl : cancelled = false := hstart
  obtain rfl : ending = .returns (.ok .success) := hending
  cases cancels <;> rfl

theorem runFrom_of_stops {script : ScriptedStage} {outcome : Outcome}
    {called : List ScriptedStage} (h : script.Stops p.cancelled outcome called)
    (rest : Pipeline Rehearsal) :
    (Pipeline.runFrom config tenant last (script.stage :: rest)).run p =
      (⟨some script.name, outcome⟩, p.after config tenant called) := by
  obtain ⟨name, ending, cancels⟩ := script
  obtain ⟨cancelled, visits⟩ := p
  cases h with
  | barred =>
    rw [Playback.after_nil]
    rfl
  | abandoned hending =>
    obtain rfl : ending = .hangs := hending
    cases cancels <;> rfl
  | @returned result hending hresult =>
    obtain rfl : ending = .returns result := hending
    rcases result with error | (_ | _)
    · cases cancels <;> rfl
    · exact absurd rfl hresult
    · cases cancels <;> rfl

theorem runFrom_of_passes {passed : List ScriptedStage} (h : Passes p.cancelled passed)
    (rest : Pipeline Rehearsal) :
    (Pipeline.runFrom config tenant last (passed.map ScriptedStage.stage ++ rest)).run p =
      (Pipeline.runFrom config tenant
        (passed.getLast?.elim last fun script => ⟨some script.name, .success⟩) rest).run
          (p.after config tenant passed) := by
  induction passed generalizing p last with
  | nil => rw [Playback.after_nil]; rfl
  | cons script passed ih =>
    obtain ⟨hstart, hending, hrest⟩ := passes_cons.mp h
    refine (runFrom_success hstart hending _).trans ?_
    refine (ih (p := p.after config tenant [script]) hrest).trans ?_
    rw [← Playback.after_append, List.getLast?_cons]
    cases passed.getLast? <;> rfl

theorem run_of_rehearsed {scripts called : List ScriptedStage} {report : Report}
    (h : Rehearsed p.cancelled scripts report called) :
    (Pipeline.run (scripts.map ScriptedStage.stage) config tenant).run p =
      (report, p.after config tenant called) := by
  cases h with
  | through h =>
    have hrun : (Pipeline.runFrom config tenant ⟨none, .success⟩
        (scripts.map ScriptedStage.stage ++ [])).run p = _ := runFrom_of_passes h []
    rw [List.append_nil] at hrun
    refine hrun.trans ?_
    cases scripts.getLast? <;> rfl
  | @stopped passed later called script outcome hscripts hpassed h =>
    rw [hscripts, List.map_append, List.map_cons, Playback.after_append]
    refine (runFrom_of_passes hpassed _).trans ?_
    exact runFrom_of_stops (p := p.after config tenant passed) h _

end Runs

theorem ScriptedStage.succeeds_or_stops (script : ScriptedStage) (cancelled : Bool) :
    cancelled = false ∧ script.ending = .returns (.ok .success) ∨
      ∃ outcome called, script.Stops cancelled outcome called := by
  cases cancelled with
  | true => exact .inr ⟨_, _, .barred⟩
  | false =>
    cases hending : script.ending with
    | hangs => exact .inr ⟨_, _, .abandoned hending⟩
    | returns result =>
      by_cases hresult : result = .ok .success
      · exact .inl ⟨rfl, by rw [hresult]⟩
      · exact .inr ⟨_, _, .returned hending hresult⟩

theorem exists_rehearsed (cancelled : Bool) (scripts : List ScriptedStage) :
    ∃ report called, Rehearsed cancelled scripts report called := by
  suffices Passes cancelled scripts ∨ ∃ passed script later outcome called,
      scripts = passed ++ script :: later ∧ Passes cancelled passed ∧
        script.Stops (cancelledBy cancelled passed) outcome called by
    rcases this with hpasses | ⟨_, _, _, _, _, hscripts, hpassed, hstops⟩
    · exact ⟨_, _, .through hpasses⟩
    · exact ⟨_, _, .stopped hscripts hpassed hstops⟩
  induction scripts generalizing cancelled with
  | nil => exact .inl (passes_nil cancelled)
  | cons script rest ih =>
    rcases script.succeeds_or_stops cancelled with ⟨hstart, hending⟩ | ⟨outcome, called, hstops⟩
    · rcases ih (cancelledBy cancelled [script]) with
        hrest | ⟨passed, other, later, outcome, called, hrest, hpassed, hstops⟩
      · exact .inl (passes_cons.mpr ⟨hstart, hending, hrest⟩)
      · refine .inr ⟨script :: passed, other, later, outcome, called, ?_, ?_, ?_⟩
        · rw [hrest, List.cons_append]
        · exact passes_cons.mpr ⟨hstart, hending, hpassed⟩
        · simpa [cancelledBy, Bool.or_assoc] using hstops
    · refine .inr ⟨[], script, rest, outcome, called, rfl, passes_nil cancelled, ?_⟩
      simpa [cancelledBy] using hstops

/-- A run goes as it has to: whatever its stages do, it is told by what each of them does alone. -/
theorem run_iff_rehearsed (scripts : List ScriptedStage) (config : InstallConfig)
    (tenant : Tenant) (p after : Playback) (report : Report) :
    (Pipeline.run (scripts.map ScriptedStage.stage) config tenant).run p = (report, after) ↔
      ∃ called, Rehearsed p.cancelled scripts report called ∧
        after = p.after config tenant called := by
  constructor
  · intro h
    obtain ⟨other, called, hrehearsed⟩ := exists_rehearsed p.cancelled scripts
    obtain ⟨rfl, rfl⟩ := Prod.mk.inj ((run_of_rehearsed hrehearsed).symm.trans h)
    exact ⟨called, hrehearsed, rfl⟩
  · rintro ⟨called, hrehearsed, rfl⟩
    exact run_of_rehearsed hrehearsed

end GrafanaInstall.Testbed
