import AddressBinder.Proofs.Lifecycle.Run
import AddressBinder.Proofs.Pass.Conduct
/-!
# The three parts of a binder's life

A start, a shutdown and the periodic task, each as a protocol: a position for every point at which it matters what the
others do, and the requests that may come there.  The programs keep to them whatever the replies are (`keeps_start`,
`keeps_shutdown`, `keeps_firstRound`, `keeps_laterRound`), so what can happen around a binder is decided by the
positions alone.
-/
namespace AddressBinder
namespace Lifecycle

open Program

/-! ## Positions -/

inductive Starting where
  | fresh
  /-- It is the first start, and waits for the lock. -/
  | queued
  | admitted
  | retrying
  /-- An attempt has begun, and has asked nothing yet. -/
  | begun
  /-- An attempt has attached an interface and reported it. -/
  | attached
  /-- An attempt has found that shutdown has begun. -/
  | abandoned
  /-- The end of the attempts is reported. -/
  | completed
  | arming
  /-- The schedule is armed, which is not reported yet. -/
  | armed
  | leaving
  | finished
deriving DecidableEq

inductive Stopping where
  | fresh
  /-- It has begun the shutdown, and waits for the lock. -/
  | closing
  | entered
  /-- It waits for the end of the periodic task. -/
  | draining
  | drained
  | unbinding
  /-- An attempt has detached an interface and reported it. -/
  | detached
  /-- The snapshot says that the binder is stopped, which is not reported yet. -/
  | stopped
  | leaving
  | finished
deriving DecidableEq

inductive Tasking where
  | unarmed
  | waking (delay : Nat)
  | dozing (due : Nat)
  | passing
  /-- The pass has filled the registry again and reported it. -/
  | resynced
  /-- The pass has reported what came of binding. -/
  | rebound
  /-- The result of the pass is reported, with the delay before the next one. -/
  | passed (delay : Nat)
  | exiting
  | finished
deriving DecidableEq

/-! ## Protocols -/

/-- What a start may ask. -/
def Starting.next? (b : Binder) : Starting → (r : Request) → r.Reply → Option Starting
  | .fresh => fun
    | .own (.control .markStarted), before => some (if before then .finished else .queued)
    | _, _ => none
  | .queued => fun
    | .own (.control .acquire), _ => some .admitted
    | _, _ => none
  | .admitted => fun
    | .own (.control .phase), phase => some (if Phase.isTerminal phase then .leaving else .retrying)
    | _, _ => none
  | .retrying => fun
    | .own (.control .phase), phase => some (if Phase.isTerminal phase then .abandoned else .begun)
    | .call c, _ => if c.isDetach ∨ c = .metadata then none else some .retrying
    | .clock _, _ => some .retrying
    | .own (.note (.observe (.bound _))), _ => some .retrying
    | .own (.note (.emit (.noInterfaceAvailable _))), _ => some .retrying
    | .own (.note (.emit (.attached ..))), _ => some .attached
    | .own (.note (.emit (.startupCompleted ..))), _ => some .completed
    | _, _ => none
  | .begun => fun
    | .call .metadata, _ => some .retrying
    | _, _ => none
  | .attached => fun
    | .own (.note (.emit (.startupCompleted true _))), _ => some .completed
    | _, _ => none
  | .abandoned => fun
    | .own (.note (.emit (.startupCompleted false _))), _ => some .completed
    | _, _ => none
  | .completed => fun
    | .own (.control .phase), phase => some (if Phase.isTerminal phase then .leaving else .arming)
    | _, _ => none
  | .arming => fun
    | .own (.control (.arm delay)), arms =>
      if delay = b.config.unboundInterval then some (if arms then .armed else .leaving) else none
    | _, _ => none
  | .armed => fun
    | .own (.note (.emit (.scheduleArmed delay))), _ => if delay = b.config.unboundInterval then some .leaving else none
    | _, _ => none
  | .leaving => fun
    | .own (.control .release), _ => some .finished
    | _, _ => none
  | .finished => fun _ _ => none

/-- What a shutdown may ask. -/
def Stopping.next? : Stopping → (r : Request) → r.Reply → Option Stopping
  | .fresh => fun
    | .own (.control .beginShutdown), begins => some (if begins then .closing else .finished)
    | _, _ => none
  | .closing => fun
    | .own (.control .acquire), _ => some .entered
    | _, _ => none
  | .entered => fun
    | .own (.control .disarm), wasArmed => some (if wasArmed then .draining else .unbinding)
    | _, _ => none
  | .draining => fun
    | .own (.control .awaitExit), _ => some .drained
    | _, _ => none
  | .drained => fun
    | .own (.note (.emit .scheduleCancelled)), _ => some .unbinding
    | _, _ => none
  | .unbinding => fun
    | .call c, _ => if c.isAttach then none else some .unbinding
    | .clock _, _ => some .unbinding
    | .own (.note (.emit (.detached ..))), _ => some .detached
    | .own (.note (.observe .stopped)), _ => some .stopped
    | _, _ => none
  | .detached => fun
    | .own (.note (.observe .stopped)), _ => some .stopped
    | _, _ => none
  | .stopped => fun
    | .own (.note (.emit .stopped)), _ => some .leaving
    | _, _ => none
  | .leaving => fun
    | .own (.control .release), _ => some .finished
    | _, _ => none
  | .finished => fun _ _ => none

/-- What the periodic task may ask. -/
def Tasking.next? (b : Binder) : Tasking → (r : Request) → r.Reply → Option Tasking
  | .unarmed => fun
    | .own (.task .awaitArmed), delay => some (.waking delay)
    | _, _ => none
  | .waking delay => fun
    | .clock .now, time => some (.dozing (Clock.endOfWait time delay))
    | _, _ => none
  | .dozing due => fun
    | .own (.task (.nap due')), cancelled =>
      if due' = due then some (if cancelled then .exiting else .passing) else none
    | _, _ => none
  | .passing => fun
    | .call c, _ => if c.isDetach then none else some .passing
    | .own (.note (.observe o)), _ => if o = .stopped then none else some .passing
    | .own (.note (.emit (.registryResynced _))), _ => some .resynced
    | .own (.note (.emit (.passCompleted true delay))), _ =>
      if delay = b.config.boundInterval then some (.passed delay) else none
    | .own (.note (.emit (.passFailed _ delay))), _ =>
      if delay = b.config.unboundInterval then some (.passed delay) else none
    | _, _ => none
  | .resynced => fun
    | .call c, _ => if c.isDetach then none else some .resynced
    | .own (.note (.observe o)), _ => if o = .stopped then none else some .resynced
    | .own (.note (.emit (.noInterfaceAvailable _))), _ => some .rebound
    | .own (.note (.emit (.attached ..))), _ => some .rebound
    | .own (.note (.emit (.passFailed _ delay))), _ =>
      if delay = b.config.unboundInterval then some (.passed delay) else none
    | _, _ => none
  | .rebound => fun
    | .own (.note (.observe o)), _ => if o = .stopped then none else some .rebound
    | .own (.note (.emit (.passCompleted false delay))), _ =>
      if delay = b.config.unboundInterval then some (.passed delay) else none
    | _, _ => none
  | .passed delay => fun
    | .own (.task .isCancelled), cancelled => some (if cancelled then .exiting else .waking delay)
    | _, _ => none
  | .exiting => fun
    | .own (.task .exit), _ => some .finished
    | _, _ => none
  | .finished => fun _ _ => none

theorem Starting.eq_of_next?_call {b : Binder} {p q : Starting} {c : Call} {reply : c.Reply}
    (h : p.next? b (.call c) reply = some q) :
    (p = .begun ∧ c = .metadata ∨ p = .retrying ∧ c ≠ .metadata) ∧ c.isDetach = false := by
  cases p with
  | retrying =>
    simp only [next?] at h
    split at h
    · cases h
    · rename_i hd
      obtain ⟨hd, hm⟩ := not_or.1 hd
      exact ⟨.inr ⟨rfl, hm⟩, by simpa using hd⟩
  | begun =>
    simp only [next?] at h
    split at h
    · rename_i heq _
      obtain rfl := Request.call.inj heq
      exact ⟨.inl ⟨rfl, rfl⟩, rfl⟩
    · cases h
  | _ => cases h

theorem Stopping.eq_of_next?_call {p q : Stopping} {c : Call} {reply : c.Reply}
    (h : p.next? (.call c) reply = some q) : p = .unbinding ∧ c.isAttach = false := by
  cases p with
  | unbinding =>
    simp only [next?] at h
    split at h
    · cases h
    · rename_i ha
      exact ⟨rfl, by simpa using ha⟩
  | _ => cases h

theorem Tasking.eq_of_next?_call {b : Binder} {p q : Tasking} {c : Call} {reply : c.Reply}
    (h : p.next? b (.call c) reply = some q) : (p = .passing ∨ p = .resynced) ∧ c.isDetach = false := by
  cases p with
  | passing =>
    simp only [next?] at h
    split at h
    · cases h
    · rename_i hd
      exact ⟨.inl rfl, by simpa using hd⟩
  | resynced =>
    simp only [next?] at h
    split at h
    · cases h
    · rename_i hd
      exact ⟨.inr rfl, by simpa using hd⟩
  | _ => cases h

/-! ## Passes within a part -/

variable {S α : Type} {b : Binder}

/-- A protocol as far as a pass goes. -/
def withinPass (next : Protocol lifecycle S) : Protocol pass S
  | s, .call c, reply => next s (.call c) reply
  | s, .note n, reply => next s (.own (.note n)) reply

theorem keeps_ofPass {next : Protocol lifecycle S} {Q : α → S → Prop} {p : Program pass α} {s : S}
    (h : p.Keeps (withinPass next) Q s) : (ofPass p).Keeps next Q s := by
  refine keeps_translate ?_ h
  intro s r hr
  cases r with
  | call c => exact fun reply => (hr reply).imp fun t ht => ⟨ht, ht⟩
  | note n => exact fun reply => (hr reply).imp fun t ht => ⟨ht, ht⟩

/-! ## The start -/

theorem views_begun : Pass.Views (withinPass (Starting.next? b)) .begun .retrying :=
  ⟨fun _ => rfl, fun c reply _ hd hm => by simp [withinPass, Starting.next?, hd, hm]⟩

theorem binds_retrying (n : String) : Pass.Binds (withinPass (Starting.next? b)) n .retrying .attached .retrying :=
  ⟨fun _ _ => rfl, fun _ _ _ => rfl, fun _ => rfl, fun _ _ _ => rfl, fun _ => rfl⟩

def StartupEnds : Except Error (Attempt Bool) → Starting → Prop
  | .ok (.done true), p => p = .retrying ∨ p = .attached
  | .ok (.done false), p => p = .abandoned
  | .ok .again, p => p = .retrying
  | .error _, p => p = .retrying

theorem keeps_startupAttempt : (startupAttempt b).Keeps (Starting.next? b) StartupEnds .retrying := by
  intro (phase : Phase)
  cases hphase : phase.isTerminal with
  | true => exact ⟨.abandoned, by simp [Starting.next?, hphase], by simp [hphase, StartupEnds]⟩
  | false =>
    refine ⟨.begun, by simp [Starting.next?, hphase], ?_⟩
    simp only [Program.done_bind, hphase, Bool.false_eq_true, if_false]
    refine keeps_bind.2 ((keeps_ofPass (Pass.keeps_attempt views_begun binds_retrying)).mono fun r p hp => ?_)
    match r, hp with
    | .error _, hp => exact hp
    | .ok true, hp => exact hp
    | .ok false, hp => exact hp

theorem keeps_armSchedule : (armSchedule b).Keeps (Starting.next? b) (fun _ p => p = .leaving) .completed := by
  intro (phase : Phase)
  cases hphase : phase.isTerminal with
  | true => exact ⟨.leaving, by simp [Starting.next?, hphase], by simp [hphase]⟩
  | false =>
    refine ⟨.arming, by simp [Starting.next?, hphase], ?_⟩
    simp only [Program.done_bind, hphase, Bool.false_eq_true, if_false]
    intro (arms : Bool)
    cases arms with
    | true => exact ⟨.armed, by simp [Starting.next?], fun _ => ⟨.leaving, by simp [Starting.next?], rfl⟩⟩
    | false => exact ⟨.leaving, by simp [Starting.next?], rfl⟩

def AttemptsEnd : Retry.Outcome Bool → Starting → Prop
  | .succeeded true _, p => p = .retrying ∨ p = .attached
  | .succeeded false _, p => p = .abandoned
  | .exhausted .., p => p = .retrying

theorem keeps_bindAndArm : (bindAndArm b).Keeps (Starting.next? b) (fun _ p => p = .leaving) .retrying := by
  have hrun : (Retry.run (policy b) (Clock.sleep clock) fun _ => startupAttempt b).Keeps (Starting.next? b)
      AttemptsEnd .retrying := by
    refine Retry.keeps_run (I := fun p => p = .retrying) ?_ ?_ (fun _ _ _ hp => hp) rfl
    · rintro number p rfl
      refine keeps_startupAttempt.mono fun r p hp => ?_
      match r, hp with
      | .ok (.done true), hp => exact hp
      | .ok (.done false), hp => exact hp
      | .ok .again, hp => exact hp
      | .error _, hp => exact hp
    · rintro ms p rfl
      exact fun _ => ⟨.retrying, rfl, fun _ => ⟨.retrying, rfl, rfl⟩⟩
  refine keeps_bind.2 (hrun.mono fun outcome p hp => ?_)
  have hemit : ∀ reply, (Starting.next? b p (.own (.note (.emit
      (.startupCompleted (outcome.value?.getD false) outcome.attempts)))) reply) = some .completed := by
    intro reply
    match outcome, hp with
    | .succeeded true _, .inl hp => subst hp; rfl
    | .succeeded true _, .inr hp => subst hp; rfl
    | .succeeded false _, hp => subst hp; rfl
    | .exhausted .., hp => subst hp; rfl
  exact fun reply => ⟨.completed, hemit reply, keeps_armSchedule⟩

/-- **A start keeps to its protocol.** -/
theorem keeps_start : (start b).Keeps (Starting.next? b) (fun _ p => p = .finished) .fresh := by
  intro (before : Bool)
  cases before with
  | true => exact ⟨.finished, rfl, rfl⟩
  | false =>
    refine ⟨.queued, rfl, fun _ => ⟨.admitted, rfl, fun (phase : Phase) => ?_⟩⟩
    cases hphase : phase.isTerminal with
    | true =>
      refine ⟨.leaving, by simp [Starting.next?, hphase], ?_⟩
      simp only [Program.done_bind, hphase, if_true]
      exact fun _ => ⟨.finished, rfl, rfl⟩
    | false =>
      refine ⟨.retrying, by simp [Starting.next?, hphase], ?_⟩
      simp only [Program.done_bind, hphase, Bool.false_eq_true, if_false]
      refine keeps_bind.2 (keeps_bindAndArm.mono fun _ p hp => ?_)
      subst hp
      exact fun _ => ⟨.finished, rfl, rfl⟩

/-! ## The shutdown -/

theorem views_unbinding : Pass.Views (withinPass Stopping.next?) .unbinding .unbinding :=
  ⟨fun _ => rfl, fun c reply ha _ _ => by simp [withinPass, Stopping.next?, ha]⟩

theorem unbinds_unbinding (id : String) : Pass.Unbinds (withinPass Stopping.next?) id .unbinding .detached where
  detach _ := rfl
  detached _ := rfl

theorem keeps_stopSchedule : stopSchedule.Keeps Stopping.next? (fun _ p => p = .unbinding) .entered := by
  intro (wasArmed : Bool)
  cases wasArmed with
  | true => exact ⟨.draining, rfl, fun _ => ⟨.drained, rfl, fun _ => ⟨.unbinding, rfl, rfl⟩⟩⟩
  | false => exact ⟨.unbinding, rfl, rfl⟩

def ShutdownEnds : Except Error (Attempt Pass.Unbound) → Stopping → Prop
  | .ok (.done _), p => p = .unbinding ∨ p = .detached
  | .ok .again, p => p = .unbinding
  | .error _, p => p = .unbinding

theorem keeps_shutdownAttempt : (shutdownAttempt b).Keeps Stopping.next? ShutdownEnds .unbinding := by
  refine keeps_bind.2 ((keeps_ofPass (Pass.keeps_unbind views_unbinding unbinds_unbinding)).mono fun r p hp => ?_)
  match r, hp with
  | .error _, hp => exact hp
  | .ok (.detached ..), hp => exact Or.inr hp
  | .ok .notBound, hp => exact Or.inl hp

theorem keeps_stopAndUnbind : (stopAndUnbind b).Keeps Stopping.next? (fun _ p => p = .leaving) .entered := by
  refine keeps_bind.2 (keeps_stopSchedule.mono fun _ p hp => ?_)
  subst hp
  have hrun : (Retry.run (policy b) (Clock.sleep clock) fun _ => shutdownAttempt b).Keeps Stopping.next?
      (fun _ p => p = .unbinding ∨ p = .detached) .unbinding := by
    refine Retry.keeps_run (I := fun p => p = .unbinding) ?_ ?_ (fun _ _ _ hp => Or.inl hp) rfl
    · rintro number p rfl
      refine keeps_shutdownAttempt.mono fun r p hp => ?_
      match r, hp with
      | .ok (.done _), hp => exact hp
      | .ok .again, hp => exact hp
      | .error _, hp => exact hp
    · rintro ms p rfl
      exact fun _ => ⟨.unbinding, rfl, fun _ => ⟨.unbinding, rfl, rfl⟩⟩
  refine keeps_bind.2 (hrun.mono fun _ p hp => ?_)
  have hobserve : ∀ reply, p.next? (.own (.note (.observe .stopped))) reply = some .stopped := by
    rcases hp with rfl | rfl <;> exact fun _ => rfl
  exact fun reply => ⟨.stopped, hobserve reply, fun _ => ⟨.leaving, rfl, rfl⟩⟩

/-- What is left of a shutdown that has begun it. -/
def closing (b : Binder) : Program lifecycle Unit :=
  (control .acquire).bind fun _ => (stopAndUnbind b).bind fun _ => control .release

theorem keeps_closing : (closing b).Keeps Stopping.next? (fun _ p => p = .finished) .closing := by
  have hrest : ((stopAndUnbind b).bind fun _ => control .release).Keeps Stopping.next? (fun _ p => p = .finished)
      .entered := keeps_bind.2 (keeps_stopAndUnbind.mono fun _ p hp _ => ⟨.finished, by rw [hp]; rfl, rfl⟩)
  exact fun _ => ⟨.entered, rfl, hrest⟩

/-- **A shutdown keeps to its protocol.** -/
theorem keeps_shutdown : (shutdown b).Keeps Stopping.next? (fun _ p => p = .finished) .fresh := by
  intro (begins : Bool)
  cases begins with
  | false => exact ⟨.finished, rfl, rfl⟩
  | true => exact ⟨.closing, rfl, keeps_closing⟩

/-! ## The periodic task -/

theorem views_passing : Pass.Views (withinPass (Tasking.next? b)) .passing .passing :=
  ⟨fun _ => rfl, fun c reply _ hd _ => by simp [withinPass, Tasking.next?, hd]⟩

theorem binds_resynced (n : String) : Pass.Binds (withinPass (Tasking.next? b)) n .resynced .rebound .rebound where
  list _ _ := rfl
  attach _ _ _ := rfl
  observe _ := by simp [withinPass, Tasking.next?]
  attached _ _ _ := rfl
  noneFree _ := rfl

def RestoreEnds : Except Error Bool → Tasking → Prop
  | .ok true, p => p = .passing
  | .ok false, p => p = .rebound
  | .error _, p => p = .passing ∨ p = .resynced

theorem resyncs_passing : Pass.Resyncs (withinPass (Tasking.next? b)) .passing .resynced where
  observe := by simp [withinPass, Tasking.next?]
  clear reply := views_passing.asks _ reply rfl rfl nofun
  fill reply := views_passing.asks _ reply rfl rfl nofun
  letIn _ reply := views_passing.asks _ reply rfl rfl nofun
  resynced _ := rfl

theorem keeps_reconcile : (Pass.reconcile b).Keeps (withinPass (Tasking.next? b)) RestoreEnds .passing := by
  refine keeps_andThen.2 ((Pass.keeps_context views_passing).mono fun r p hp => ?_)
  subst hp
  match r with
  | .error _ => exact Or.inl rfl
  | .ok ctx =>
    dsimp only
    cases ctx.boundInterface? with
    | none =>
      refine (Pass.keeps_rebind resyncs_passing (binds_resynced _)).mono fun r p hp => ?_
      match r, hp with
      | .error _, hp => exact hp
      | .ok true, hp => exact hp.elim
      | .ok false, hp => exact hp.elim id id
    | some i =>
      refine keeps_bind.2 ((Pass.keeps_observeHeld (fun ip => ?_) i).mono fun _ p hp => hp)
      simp [withinPass, Tasking.next?]

theorem keeps_periodic :
    (Pass.periodic b).Keeps (withinPass (Tasking.next? b)) (fun delay p => p = .passed delay) .passing := by
  refine keeps_bind.2 (keeps_reconcile.mono fun r p hp => ?_)
  match r, hp with
  | .ok true, hp =>
    subst hp
    refine .ask (fun _ => .passing) (fun _ => by simp [withinPass, Tasking.next?]) fun _ => ?_
    exact .ask (fun _ => .passed b.config.boundInterval) (fun _ => by simp [withinPass, Tasking.next?, Pass.nextDelay])
      fun _ => by simp [Pass.nextDelay]
  | .ok false, hp =>
    subst hp
    refine .ask (fun _ => .rebound) (fun _ => by simp [withinPass, Tasking.next?]) fun _ => ?_
    exact .ask (fun _ => .passed b.config.unboundInterval)
      (fun _ => by simp [withinPass, Tasking.next?, Pass.nextDelay]) fun _ => by simp [Pass.nextDelay]
  | .error e, hp =>
    refine .ask (fun _ => p) (fun _ => by rcases hp with rfl | rfl <;> simp [withinPass, Tasking.next?]) fun _ => ?_
    exact .ask (fun _ => .passed b.config.unboundInterval)
      (fun _ => by rcases hp with rfl | rfl <;> simp [withinPass, Tasking.next?]) fun _ => rfl

def RoundEnds : Option Nat → Tasking → Prop
  | some delay, p => p = .waking delay
  | none, p => p = .finished

theorem keeps_laterRound (delay : Nat) :
    (laterRound b delay).Keeps (Tasking.next? b) RoundEnds (.waking delay) := by
  refine .ask (fun time => .dozing (Clock.endOfWait time delay)) (fun _ => rfl) fun (time : Nat) => ?_
  intro (cancelled : Bool)
  cases cancelled with
  | true => exact ⟨.exiting, by simp [Tasking.next?], fun _ => ⟨.finished, rfl, rfl⟩⟩
  | false =>
    refine ⟨.passing, by simp [Tasking.next?], ?_⟩
    simp only [Program.done_bind, Bool.false_eq_true, if_false, scheduledPass, Program.bind_assoc]
    refine keeps_bind.2 ((keeps_ofPass keeps_periodic).mono fun next p hp => ?_)
    subst hp
    intro (cancelled : Bool)
    cases cancelled with
    | true => exact ⟨.exiting, rfl, fun _ => ⟨.finished, rfl, rfl⟩⟩
    | false => exact ⟨.waking next, rfl, rfl⟩

theorem keeps_firstRound : (firstRound b).Keeps (Tasking.next? b) RoundEnds .unarmed :=
  .ask (fun delay => .waking delay) (fun _ => rfl) fun delay => keeps_laterRound delay

end Lifecycle
end AddressBinder
