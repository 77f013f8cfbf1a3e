/-!
# Programs

A program is what the operator does, without what it is done to: it asks its surroundings for
something, goes on with the reply, and ends with a value. Its surroundings are a handler over
some state, so one program runs against a store in memory, a server, or a store that fails.
-/

namespace GrafanaInstall

/-- What may be asked, and what is replied to each. -/
structure Interface where
  Request : Type
  Reply : Request → Type

inductive Program (I : Interface) (α : Type) where
  | done (value : α)
  | ask (request : I.Request) (next : I.Reply request → Program I α)

/-- How some surroundings answer each request, and how that changes them. -/
abbrev Handler (I : Interface) (σ : Type) :=
  (request : I.Request) → σ → I.Reply request × σ

namespace Program

def bind : Program I α → (α → Program I β) → Program I β
  | .done value, next => next value
  | .ask request rest, next => .ask request fun reply => (rest reply).bind next

instance : Monad (Program I) where
  pure := .done
  bind := bind

def send (request : I.Request) : Program I (I.Reply request) :=
  .ask request .done

def run (handler : Handler I σ) : Program I α → σ → α × σ
  | .done value, state => (value, state)
  | .ask request next, state =>
    let (reply, state) := handler request state
    (next reply).run handler state

/-! ## Laws -/

theorem bind_done (program : Program I α) : program.bind .done = program := by
  induction program with
  | done => rfl
  | ask request next ih => simp only [bind, ih]

theorem bind_assoc (program : Program I α) (f : α → Program I β) (g : β → Program I γ) :
    (program.bind f).bind g = program.bind fun a => (f a).bind g := by
  induction program with
  | done => rfl
  | ask request next ih => simp only [bind, ih]

instance : LawfulMonad (Program I) := LawfulMonad.mk' _ bind_done (fun _ _ => rfl) bind_assoc

theorem run_bind (handler : Handler I σ) (program : Program I α) (f : α → Program I β) (s : σ) :
    (program.bind f).run handler s =
      (f (program.run handler s).1).run handler (program.run handler s).2 := by
  induction program generalizing s with
  | done => rfl
  | ask request next ih => exact ih _ _

end Program

end GrafanaInstall
