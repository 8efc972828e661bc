import Mathlib.Data.List.Induction
import AddressBinder.Binder.Operation
/-!
# Runs of a binder

Everything that can happen around one binder, one act at a time: the application launches operations, whenever and as
often as it likes; any activity serves its next request; a collaborator answers a call, with any reply and after any
delay; the clock moves on; the reader of the events takes them or goes away.  Between two requests of one activity all
others may go on, and time may pass: an activity that could go on may be held up for as long as the machine likes.
What was asked and what came back is kept in a log, which no program reads.
-/
namespace AddressBinder
namespace Lifecycle

inductive Role where
  | operation (op : Operation)
  | periodic
deriving DecidableEq

/-- How an operation ends, or a round of the periodic task. -/
inductive Finish where
  | operation (r : Operation.Result)
  | round (next : Option Nat)

/-- An activity: what is left of its program, and whether its next request is a call that is under way. -/
structure Activity where
  role : Role
  program : Program lifecycle Finish
  pending : Bool

inductive Deed where
  | issued (c : Call)
  | answered (r : Request) (reply : r.Reply)

/-- A line of the log: a deed of the activity with a number. -/
structure Line where
  number : Nat
  role : Role
  deed : Deed

/-- A binder under way. -/
structure Scene where
  time : Nat
  own : State
  /-- The periodic task, and then the operations in the order in which they were launched. -/
  activities : List Activity
  log : List Line
  /-- The events that the reader has taken. -/
  received : List Event

inductive Act where
  | launch (op : Operation)
  | look
  /-- The activity with a number asks: its next request is served by the binder itself, or it calls a collaborator. -/
  | move (n : Nat)
  /-- A collaborator answers the call that the activity with a number waits for. -/
  | answer (n : Nat) (c : Call) (reply : c.Reply)
  | tick (time : Nat)
  | drain
  | close

/-- Whether a request may have to wait before the binder serves it. -/
def Request.mayWait : Request → Bool
  | .clock (.wait _) => true
  | .own (.control .acquire) => true
  | .own (.control .awaitExit) => true
  | .own (.task .awaitArmed) => true
  | .own (.task (.nap _)) => true
  | _ => false

namespace Activity

def ofOperation (b : Binder) (op : Operation) : Activity :=
  ⟨.operation op, (op.program b).bind fun r => .done (.operation r), false⟩

def ofRound (p : Program lifecycle (Option Nat)) : Activity := ⟨.periodic, p.bind fun next => .done (.round next), false⟩

def periodic (b : Binder) : Activity := ofRound (firstRound b)

/-- The activity with a program left; a round that names a delay is followed by the next one. -/
def goOn (b : Binder) (a : Activity) : Program lifecycle Finish → Activity
  | .done (.round (some delay)) => ofRound (laterRound b delay)
  | p => ⟨a.role, p, false⟩

theorem goOn_cases (b : Binder) (a : Activity) (p : Program lifecycle Finish) :
    (∃ delay, a.goOn b p = .ofRound (laterRound b delay)) ∨ a.goOn b p = ⟨a.role, p, false⟩ := by
  unfold goOn
  split
  · exact .inl ⟨_, rfl⟩
  · exact .inr rfl

/-- Whether nothing is left to do, or something outside must happen first. -/
def isWaiting (a : Activity) : Bool :=
  match a.program with
  | .done _ => true
  | .ask r _ => a.pending || Request.mayWait r

/-- What an operation that has ended returned. -/
def result? (a : Activity) : Option Operation.Result :=
  match a.program with
  | .done (.operation r) => some r
  | _ => none

end Activity

section Numbers

variable {α : Type} {l before after : List α} {n k : Nat} {a a' : α}

theorem getElem?_set_cases (h : (l.set n a')[k]? = some a) : k = n ∧ a = a' ∨ k ≠ n ∧ l[k]? = some a := by
  by_cases hk : k = n
  · subst hk
    have hlt : k < l.length := by simpa using (List.getElem?_eq_some_iff.1 h).1
    rw [List.getElem?_set_self hlt] at h
    exact .inl ⟨rfl, (Option.some.inj h).symm⟩
  · rw [List.getElem?_set_ne (Ne.symm hk)] at h
    exact .inr ⟨hk, h⟩

theorem getElem?_concat_cases (h : (l ++ [a'])[k]? = some a) : k = l.length ∧ a = a' ∨ l[k]? = some a := by
  rcases Nat.lt_or_ge k l.length with hlt | hge
  · rw [List.getElem?_append_left hlt] at h
    exact .inr h
  · rw [List.getElem?_append_right hge, List.getElem?_singleton] at h
    split at h
    · exact .inl ⟨by omega, (Option.some.inj h).symm⟩
    · cases h

/-- Where an entry stands after one was added: it is the new one, or it stood there before. -/
theorem eq_concat_cases (h : l ++ [a] = before ++ a' :: after) :
    before = l ∧ a' = a ∧ after = [] ∨ ∃ rest, after = rest ++ [a] ∧ l = before ++ a' :: rest := by
  rcases List.eq_nil_or_concat after with rfl | ⟨rest, f, rfl⟩
  · obtain ⟨rfl, hlast⟩ := List.append_inj' h (by simp)
    exact .inl ⟨rfl, (List.cons.inj hlast).1.symm, rfl⟩
  · rw [List.concat_eq_append, ← List.cons_append, ← List.append_assoc] at h
    obtain ⟨rfl, hlast⟩ := List.append_inj' h (by simp)
    exact .inr ⟨rest, by rw [List.concat_eq_append, (List.cons.inj hlast).1], rfl⟩

end Numbers

namespace Scene

def initial (b : Binder) : Scene := ⟨0, .initial b.config.eventCapacity, [.periodic b], [], []⟩

/-- What the operation with a number returned, if it has ended. -/
def result? (x : Scene) (n : Nat) : Option Operation.Result := x.activities[n]?.bind Activity.result?

def issue (x : Scene) (n : Nat) (a : Activity) (c : Call) : Scene :=
  { x with
    activities := x.activities.set n { a with pending := true }
    log := x.log ++ [⟨n, a.role, .issued c⟩] }

def resume (b : Binder) (x : Scene) (n : Nat) (a : Activity) (r : Request) (reply : r.Reply)
    (p : Program lifecycle Finish) (own : State) : Scene :=
  { x with
    own
    activities := x.activities.set n (a.goOn b p)
    log := x.log ++ [⟨n, a.role, .answered r reply⟩] }

/-- Serves the next request of an activity, or lets it call a collaborator. -/
def serve (b : Binder) (x : Scene) (n : Nat) (a : Activity) :
    (r : Request) → (r.Reply → Program lifecycle Finish) → Option Scene
  | .call c, _ => if a.pending then none else some (x.issue n a c)
  | .clock r, k => (Clock.serve x.time r).map fun reply => x.resume b n a (.clock r) reply (k reply) x.own
  | .own o, k => (x.own.serve x.time o).map fun s => x.resume b n a (.own o) s.1 (k s.1) s.2

/-- Answers the call that an activity waits for. -/
def answer (b : Binder) (x : Scene) (n : Nat) (a : Activity) (c : Call) (reply : c.Reply) :
    (r : Request) → (r.Reply → Program lifecycle Finish) → Option Scene
  | .call c', k =>
    if h : c = c' then
      if a.pending then some (x.resume b n a (.call c) reply (k (h ▸ reply)) x.own) else none
    else none
  | _, _ => none

def step? (b : Binder) (x : Scene) : Act → Option Scene
  | .launch op => some { x with activities := x.activities ++ [.ofOperation b op] }
  | .look => some x
  | .move n =>
    match x.activities[n]? with
    | none => none
    | some a =>
      match a.program with
      | .done _ => none
      | .ask r k => x.serve b n a r k
  | .answer n c reply =>
    match x.activities[n]? with
    | none => none
    | some a =>
      match a.program with
      | .done _ => none
      | .ask r k => x.answer b n a c reply r k
  | .tick time => if x.time ≤ time then some { x with time } else none
  | .drain =>
    some { x with
      received := x.received ++ x.own.channel.drain.1
      own := { x.own with channel := x.own.channel.drain.2 } }
  | .close => some { x with own := { x.own with channel := x.own.channel.close } }

def run? (b : Binder) : Scene → List Act → Option Scene
  | x, [] => some x
  | x, act :: acts => (x.step? b act).bind fun y => y.run? b acts

/-- **A scene that a new binder reaches by some acts.** -/
def Reaches (b : Binder) (acts : List Act) (x : Scene) : Prop := (initial b).run? b acts = some x

/-! ## What an act can do -/

/-- A request is answered with a reply, which leaves the binder in a state; a call gets any reply and changes nothing. -/
def Answers (x : Scene) : (r : Request) → r.Reply → State → Prop
  | .call _, _, own => own = x.own
  | .clock r, reply, own => Clock.serve x.time r = some reply ∧ own = x.own
  | .own o, reply, own => x.own.serve x.time o = some (reply, own)

section Answers

variable {x : Scene} {own : State}

@[simp] theorem answers_call {c : Call} {reply : c.Reply} : x.Answers (.call c) reply own ↔ own = x.own := Iff.rfl

@[simp] theorem answers_clock {r : Clock.Request} {reply : r.Reply} :
    x.Answers (.clock r) reply own ↔ Clock.serve x.time r = some reply ∧ own = x.own := Iff.rfl

@[simp] theorem answers_note {n : Note} {reply : Unit} :
    x.Answers (.own (.note n)) reply own ↔ own = x.own.note x.time n := by
  cases reply
  simp [Answers, State.serve, eq_comm]

@[simp] theorem answers_markStarted {before : Bool} :
    x.Answers (.own (.control .markStarted)) before own ↔
      before = x.own.started ∧ own = { x.own with started := true } := by
  simp [Answers, State.serve, State.control, eq_comm]

@[simp] theorem answers_phase {phase : Phase} :
    x.Answers (.own (.control .phase)) phase own ↔ phase = x.own.status.phase ∧ own = x.own := by
  simp [Answers, State.serve, State.control, eq_comm]

@[simp] theorem answers_beginShutdown {begins : Bool} :
    x.Answers (.own (.control .beginShutdown)) begins own ↔
      begins = !x.own.status.phase.isTerminal ∧
        own = if begins then { x.own with status := x.own.status.move .shuttingDown } else x.own := by
  simp only [Answers, State.serve, State.control]
  cases x.own.status.phase.isTerminal <;> cases begins <;> simp [eq_comm]

@[simp] theorem answers_acquire {reply : Unit} :
    x.Answers (.own (.control .acquire)) reply own ↔ x.own.locked = false ∧ own = { x.own with locked := true } := by
  cases reply
  simp only [Answers, State.serve, State.control]
  cases x.own.locked <;> simp [eq_comm]

@[simp] theorem answers_release {reply : Unit} :
    x.Answers (.own (.control .release)) reply own ↔ own = { x.own with locked := false } := by
  cases reply
  simp [Answers, State.serve, State.control, eq_comm]

@[simp] theorem answers_arm {delay : Nat} {arms : Bool} :
    x.Answers (.own (.control (.arm delay))) arms own ↔
      arms = decide (x.own.schedule = .idle) ∧ own = if arms then { x.own with schedule := .armed delay } else x.own := by
  simp only [Answers, State.serve, State.control]
  by_cases h : x.own.schedule = .idle <;> cases arms <;> simp [h, eq_comm]

@[simp] theorem answers_disarm {wasArmed : Bool} :
    x.Answers (.own (.control .disarm)) wasArmed own ↔
      wasArmed = x.own.isArmed ∧ own = if wasArmed then { x.own with schedule := .cancelled } else x.own := by
  simp only [Answers, State.serve, State.control]
  cases x.own.isArmed <;> cases wasArmed <;> simp [eq_comm]

@[simp] theorem answers_awaitExit {reply : Unit} :
    x.Answers (.own (.control .awaitExit)) reply own ↔ x.own.schedule = .exited ∧ own = x.own := by
  cases reply
  simp only [Answers, State.serve, State.control]
  by_cases h : x.own.schedule = .exited <;> simp [h, eq_comm]

@[simp] theorem answers_awaitArmed {delay : Nat} :
    x.Answers (.own (.task .awaitArmed)) delay own ↔
      (x.own.schedule = .armed delay ∨ x.own.schedule = .cancelled ∧ delay = 0) ∧ own = x.own := by
  obtain ⟨time, ⟨status, channel, started, locked, schedule⟩, _, _, _⟩ := x
  cases schedule <;> simp [Answers, State.serve, Schedule.serve, eq_comm]

@[simp] theorem answers_nap {due : Nat} {cancelled : Bool} :
    x.Answers (.own (.task (.nap due))) cancelled own ↔
      (cancelled = true ∧ x.own.schedule = .cancelled ∨
        cancelled = false ∧ x.own.schedule ≠ .cancelled ∧ due ≤ x.time) ∧ own = x.own := by
  obtain ⟨time, ⟨status, channel, started, locked, schedule⟩, _, _, _⟩ := x
  cases schedule <;> cases cancelled <;> by_cases hd : due ≤ time <;>
    simp [Answers, State.serve, Schedule.serve, hd, eq_comm]

@[simp] theorem answers_isCancelled {cancelled : Bool} :
    x.Answers (.own (.task .isCancelled)) cancelled own ↔
      cancelled = decide (x.own.schedule = .cancelled) ∧ own = x.own := by
  simp only [Answers, State.serve, Schedule.serve, Option.map_some, Option.some.injEq, Prod.mk.injEq, beq_eq_decide]
  rw [eq_comm, eq_comm (b := own)]

@[simp] theorem answers_exit {reply : Unit} :
    x.Answers (.own (.task .exit)) reply own ↔ own = { x.own with schedule := .exited } := by
  cases reply
  simp [Answers, State.serve, Schedule.serve, eq_comm]

end Answers

/-- An act brings the activity with a number a reply: that to a call comes from outside. -/
def Brings (act : Act) (n : Nat) : (r : Request) → r.Reply → Prop
  | .call c, reply => act = .answer n c reply
  | _, _ => act = .move n

/-- An answer is brought to the activity that waits for it, and to no other one. -/
theorem brings_answer {n k : Nat} {c : Call} {reply : c.Reply} : ∀ {r : Request} {reply' : r.Reply},
    Brings (.answer n c reply) k r reply' →
      k = n ∧ (⟨r, reply'⟩ : (r : Request) × r.Reply) = ⟨.call c, reply⟩
  | .call _, _, h => by
    cases h
    exact ⟨rfl, rfl⟩
  | .clock _, _, h => by cases h
  | .own _, _, h => by cases h

/-- What an act can do: launch an operation, make an activity call or go on, or nothing that an activity sees but the
time. -/
inductive Turn (b : Binder) (x : Scene) : Act → Scene → Prop where
  | launch (op : Operation) : Turn b x (.launch op) { x with activities := x.activities ++ [.ofOperation b op] }
  | issue {n : Nat} {a : Activity} {c : Call} {k : Request.Reply (.call c) → Program lifecycle Finish}
      (hn : x.activities[n]? = some a) (hp : a.program = .ask (.call c) k) : Turn b x (.move n) (x.issue n a c)
  | resume {act : Act} {n : Nat} {a : Activity} {r : Request} {k : r.Reply → Program lifecycle Finish}
      (reply : r.Reply) (own : State) (hn : x.activities[n]? = some a) (hp : a.program = .ask r k)
      (ha : x.Answers r reply own) (hact : Brings act n r reply) : Turn b x act (x.resume b n a r reply (k reply) own)
  | aside {act : Act} (time : Nat) (channel : Channel) (received : List Event) (hle : x.time ≤ time)
      (htick : x.time = time ∨ act = .tick time) : Turn b x act { x with time, received, own := { x.own with channel } }

/-- **A call that an activity waits for is answered**, and nothing else. -/
theorem resumes_of_answer {b : Binder} {x y : Scene} {n : Nat} {c : Call} {reply : c.Reply}
    (h : x.step? b (.answer n c reply) = some y) : ∃ a k, x.activities[n]? = some a ∧ a.program = .ask (.call c) k ∧
      a.pending = true ∧ y = x.resume b n a (.call c) reply (k reply) x.own := by
  simp only [step?] at h
  split at h
  · cases h
  rename_i a hn
  split at h
  · cases h
  rename_i r k hp
  cases r with
  | call c' =>
    simp only [answer] at h
    split at h
    · rename_i hc
      subst hc
      split at h
      · rename_i hpending
        exact ⟨a, k, hn, hp, hpending, (Option.some.inj h).symm⟩
      · cases h
    · cases h
  | clock _ => cases h
  | own _ => cases h

/-- **An activity that moves calls a collaborator or is served by the binder**, and nothing else. -/
theorem moves_of_move {b : Binder} {x y : Scene} {n : Nat} (h : x.step? b (.move n) = some y) :
    ∃ a r k, x.activities[n]? = some a ∧ a.program = .ask r k ∧
      ((∃ c, r = .call c ∧ a.pending = false ∧ y = x.issue n a c) ∨
        ∃ reply own, (∀ c, r ≠ .call c) ∧ x.Answers r reply own ∧ y = x.resume b n a r reply (k reply) own) := by
  simp only [step?] at h
  split at h
  · cases h
  rename_i a hn
  split at h
  · cases h
  rename_i r k hp
  refine ⟨a, r, k, hn, hp, ?_⟩
  cases r with
  | call c =>
    simp only [serve] at h
    split at h
    · cases h
    · rename_i hpending
      exact .inl ⟨c, rfl, by simpa using hpending, (Option.some.inj h).symm⟩
  | clock r =>
    obtain ⟨reply, hr, rfl⟩ := Option.map_eq_some_iff.1 h
    exact .inr ⟨reply, x.own, nofun, ⟨hr, rfl⟩, rfl⟩
  | own o =>
    obtain ⟨⟨reply, own⟩, hs, rfl⟩ := Option.map_eq_some_iff.1 h
    exact .inr ⟨reply, own, nofun, hs, rfl⟩

theorem asks_of_answer {b : Binder} {x y : Scene} {n : Nat} {c : Call} {reply : c.Reply}
    (h : x.step? b (.answer n c reply) = some y) : ∃ a k, x.activities[n]? = some a ∧ a.program = .ask (.call c) k := by
  obtain ⟨a, k, hn, hp, -⟩ := resumes_of_answer h
  exact ⟨a, k, hn, hp⟩

/-- **An act does nothing else.** -/
theorem step?_turn {b : Binder} {x y : Scene} {act : Act} (h : x.step? b act = some y) : Turn b x act y := by
  cases act with
  | launch op =>
    obtain rfl := Option.some.inj h
    exact .launch op
  | look =>
    obtain rfl := Option.some.inj h
    exact .aside x.time x.own.channel x.received (Nat.le_refl _) (.inl rfl)
  | move n =>
    obtain ⟨a, r, k, hn, hp, ⟨c, rfl, -, rfl⟩ | ⟨reply, own, hr, ha, rfl⟩⟩ := moves_of_move h
    · exact .issue hn hp
    · cases r with
      | call c => exact absurd rfl (hr c)
      | clock _ | own _ => exact .resume reply own hn hp ha rfl
  | answer n c reply =>
    obtain ⟨a, k, hn, hp, -, rfl⟩ := resumes_of_answer h
    exact .resume reply x.own hn hp rfl rfl
  | tick time =>
    simp only [step?] at h
    split at h
    · rename_i ht
      obtain rfl := Option.some.inj h
      exact .aside time x.own.channel x.received ht (.inr rfl)
    · cases h
  | drain =>
    obtain rfl := Option.some.inj h
    exact .aside x.time _ _ (Nat.le_refl _) (.inl rfl)
  | close =>
    obtain rfl := Option.some.inj h
    exact .aside x.time _ x.received (Nat.le_refl _) (.inl rfl)

theorem run?_append (b : Binder) : ∀ (acts more : List Act) (x : Scene),
    x.run? b (acts ++ more) = (x.run? b acts).bind fun y => y.run? b more
  | [], _, _ => rfl
  | act :: acts, more, x => by
    simp only [List.cons_append, run?, Option.bind_assoc]
    exact congrArg _ (funext fun y => run?_append b acts more y)

theorem Reaches.initial (b : Binder) : Reaches b [] (initial b) := rfl

theorem reaches_concat {b : Binder} {acts : List Act} {act : Act} {y : Scene} :
    Reaches b (acts ++ [act]) y ↔ ∃ x, Reaches b acts x ∧ x.step? b act = some y := by
  unfold Reaches
  rw [run?_append]
  simp [run?, Option.bind_eq_some_iff]

theorem Reaches.stepwise {b : Binder} {P : List Act → Scene → Prop} (hinit : P [] (Scene.initial b))
    (hstep : ∀ {acts x act y}, Reaches b acts x → P acts x → x.step? b act = some y → P (acts ++ [act]) y)
    {acts : List Act} {x : Scene} (h : Reaches b acts x) : P acts x := by
  induction acts using List.reverseRecOn generalizing x with
  | nil =>
    obtain rfl := Option.some.inj h
    exact hinit
  | append_singleton acts act ih =>
    obtain ⟨w, hw, hs⟩ := reaches_concat.1 h
    exact hstep hw (ih hw) hs

/-- **What holds of a new binder and is kept by every act that can happen holds of every scene that is reached.** -/
theorem Reaches.induction {b : Binder} {P : List Act → Scene → Prop} (hinit : P [] (Scene.initial b))
    (hstep : ∀ {acts x act y}, Reaches b acts x → P acts x → Turn b x act y → P (acts ++ [act]) y) {acts : List Act}
    {x : Scene} (h : Reaches b acts x) : P acts x :=
  h.stepwise hinit fun hx hP hs => hstep hx hP (step?_turn hs)

end Scene
end Lifecycle
end AddressBinder
