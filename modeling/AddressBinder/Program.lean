/-!
# Programs that issue requests

Everything the binder does with the world goes through requests, and a program says which request comes next for every
reply to the ones before.  Programs are data: the same program is run against scripted collaborators, over an
in-memory cloud on a simulated clock, or against any replies at all, and its meaning is what it does under each.
A program is finite along every run, so whatever recurses over it ends.
-/
namespace AddressBinder

/-- A kind of requests, with the type of the reply to each. -/
structure Signature where
  Request : Type
  Reply : Request → Type

/-- A program that issues requests of a kind and ends with a result. -/
inductive Program (σ : Signature) (α : Type) : Type where
  | done (a : α)
  | ask (r : σ.Request) (k : σ.Reply r → Program σ α)

namespace Program

variable {σ τ : Signature} {α β γ : Type}

/-- The program that issues one request and ends with its reply. -/
def request (r : σ.Request) : Program σ (σ.Reply r) := .ask r .done

/-- One program and then the one that its result selects. -/
def bind : Program σ α → (α → Program σ β) → Program σ β
  | .done a, f => f a
  | .ask r k, f => .ask r (fun reply => (k reply).bind f)

instance : Monad (Program σ) where
  pure := .done
  bind := bind

@[simp] theorem pure_eq (a : α) : (pure a : Program σ α) = .done a := rfl

@[simp] theorem bind_eq (p : Program σ α) (f : α → Program σ β) : p >>= f = p.bind f := rfl

@[simp] theorem done_bind (a : α) (f : α → Program σ β) : (Program.done a).bind f = f a := rfl

@[simp] theorem ask_bind (r : σ.Request) (k : σ.Reply r → Program σ α) (f : α → Program σ β) :
    (Program.ask r k).bind f = .ask r (fun reply => (k reply).bind f) := rfl

@[simp] theorem request_bind (r : σ.Request) (f : σ.Reply r → Program σ β) : (request r).bind f = .ask r f := rfl

@[simp] theorem bind_done : ∀ p : Program σ α, p.bind .done = p
  | .done _ => rfl
  | .ask r k => congrArg (Program.ask r) (funext fun reply => bind_done (k reply))

theorem bind_assoc : ∀ (p : Program σ α) (f : α → Program σ β) (g : β → Program σ γ),
    (p.bind f).bind g = p.bind (fun a => (f a).bind g)
  | .done _, _, _ => rfl
  | .ask r k, f, g => congrArg (Program.ask r) (funext fun reply => bind_assoc (k reply) f g)

/-! ## Serving requests by programs -/

/-- The program in which every request is served by a program over other requests. -/
def translate (serve : (r : σ.Request) → Program τ (σ.Reply r)) : Program σ α → Program τ α
  | .done a => .done a
  | .ask r k => (serve r).bind (fun reply => (k reply).translate serve)

theorem translate_bind (serve : (r : σ.Request) → Program τ (σ.Reply r)) :
    ∀ (p : Program σ α) (f : α → Program σ β),
      (p.bind f).translate serve = (p.translate serve).bind (fun a => (f a).translate serve)
  | .done _, _ => rfl
  | .ask r k, f => by
    simp only [ask_bind, translate, bind_assoc]
    exact congrArg (serve r).bind (funext fun reply => translate_bind serve (k reply) f)

/-! ## Running against a state -/

/-- Runs a program whose every request is served at once from a state. -/
def run {S : Type} (serve : (r : σ.Request) → S → σ.Reply r × S) : Program σ α → S → α × S
  | .done a, s => (a, s)
  | .ask r k, s => (k (serve r s).1).run serve (serve r s).2

theorem run_bind {S : Type} (serve : (r : σ.Request) → S → σ.Reply r × S) :
    ∀ (p : Program σ α) (f : α → Program σ β) (s : S),
      (p.bind f).run serve s = (f (p.run serve s).1).run serve (p.run serve s).2
  | .done _, _, _ => rfl
  | .ask r k, f, s => by
    simp only [ask_bind, run]
    exact run_bind serve (k (serve r s).1) f (serve r s).2

/-! ## Running as far as the state allows -/

/-- Runs a program until it ends or until its next request cannot be served in the state, and returns what is left. -/
def advance {S : Type} (serve : (r : σ.Request) → S → Option (σ.Reply r × S)) : Program σ α → S → Program σ α × S
  | .done a, s => (.done a, s)
  | .ask r k, s =>
    match serve r s with
    | none => (.ask r k, s)
    | some (reply, s) => (k reply).advance serve s

/-- Whether the program has a next request and it can be served in the state. -/
def canAdvance {S : Type} (serve : (r : σ.Request) → S → Option (σ.Reply r × S)) : Program σ α → S → Bool
  | .done _, _ => false
  | .ask r _, s => (serve r s).isSome

def result? : Program σ α → Option α
  | .done a => some a
  | .ask .. => none

end Program
end AddressBinder
