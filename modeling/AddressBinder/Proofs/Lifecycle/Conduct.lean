import AddressBinder.Proofs.Lifecycle.Part
/-!
# Protocols of a whole binder

A protocol that leaves all requests free but those of passes is kept by an operation as soon as the passes within keep it
from every position: the start by its attempts, the shutdown by its unbinds, a round of the periodic task by its pass.
-/
namespace AddressBinder

/-- Whether only a pass, a bind or an unbind reports the event. -/
def Event.isOfPass : Event → Bool
  | .startupCompleted .. | .scheduleArmed _ | .scheduleCancelled | .stopped => false
  | _ => true

namespace Lifecycle

open Program

/-- Whether the request tells of a pass. -/
def Own.isOfPass : Own → Bool
  | .note (.emit e) => e.isOfPass
  | _ => false

/-- A protocol that lets every request come that is no call of a collaborator and tells of no pass. -/
structure Lenient {S : Type} (next : Protocol lifecycle S) : Prop where
  lets_own : ∀ s o reply, o.isOfPass = false → ∃ t, next s (.own o) reply = some t
  lets_clock : ∀ s r reply, ∃ t, next s (.clock r) reply = some t

variable {S α : Type} {next : Protocol lifecycle S} {b : Binder}

theorem keepsAlways_ofPass {p : Program pass α} (h : p.KeepsAlways (withinPass next)) : (ofPass p).KeepsAlways next :=
  fun s => keeps_ofPass (h s)

namespace Lenient

theorem control (h : Lenient next) (c : Control) : (Lifecycle.control c).KeepsAlways next := fun s reply =>
  (h.lets_own s (.control c) reply rfl).imp fun _ ht => ⟨ht, trivial⟩

theorem task (h : Lenient next) (r : Schedule.Request) : (Lifecycle.task r).KeepsAlways next := fun s reply =>
  (h.lets_own s (.task r) reply rfl).imp fun _ ht => ⟨ht, trivial⟩

theorem note (h : Lenient next) {n : Note} (hn : (Own.note n).isOfPass = false) :
    (ofPass (Pass.note n)).KeepsAlways next := fun s reply =>
  (h.lets_own s (.note n) reply hn).imp fun _ ht => ⟨ht, trivial⟩

theorem clock (h : Lenient next) (r : Clock.Request) : (Lifecycle.clock r).KeepsAlways next := fun s reply =>
  (h.lets_clock s r reply).imp fun _ ht => ⟨ht, trivial⟩

theorem sleep (h : Lenient next) (ms : Nat) : (Clock.sleep Lifecycle.clock ms).KeepsAlways next :=
  (h.clock _).bind fun _ => h.clock _

/-! ## The start -/

theorem startupAttempt (h : Lenient next) (hattempt : (Pass.attempt b).KeepsAlways (withinPass next)) :
    (Lifecycle.startupAttempt b).KeepsAlways next := by
  refine (h.control _).bind fun (phase : Phase) => ?_
  cases phase.isTerminal with
  | true => exact keepsAlways_done _
  | false => exact (keepsAlways_ofPass hattempt).bind fun _ => keepsAlways_done _

theorem armSchedule (h : Lenient next) : (Lifecycle.armSchedule b).KeepsAlways next := by
  refine (h.control _).bind fun (phase : Phase) => ?_
  cases phase.isTerminal with
  | true => exact keepsAlways_done _
  | false =>
    refine (h.control _).bind fun (armed : Bool) => ?_
    cases armed with
    | true => exact h.note rfl
    | false => exact keepsAlways_done _

theorem start (h : Lenient next) (hattempt : (Pass.attempt b).KeepsAlways (withinPass next)) :
    (Lifecycle.start b).KeepsAlways next := by
  refine (h.control _).bind fun (before : Bool) => ?_
  cases before with
  | true => exact keepsAlways_done _
  | false =>
    refine (h.control _).bind fun _ => (h.control _).bind fun (phase : Phase) => ?_
    refine KeepsAlways.bind ?_ fun _ => h.control _
    cases phase.isTerminal with
    | true => exact keepsAlways_done _
    | false =>
      refine (Retry.keepsAlways_run (fun _ => h.startupAttempt hattempt) h.sleep).bind fun _ => ?_
      exact (h.note rfl).bind fun _ => h.armSchedule

/-! ## The shutdown -/

theorem stopSchedule (h : Lenient next) : Lifecycle.stopSchedule.KeepsAlways next := by
  refine (h.control _).bind fun (wasArmed : Bool) => ?_
  cases wasArmed with
  | true => exact (h.control _).bind fun _ => h.note rfl
  | false => exact keepsAlways_done _

theorem shutdownAttempt (h : (Pass.unbind b).KeepsAlways (withinPass next)) :
    (Lifecycle.shutdownAttempt b).KeepsAlways next :=
  (keepsAlways_ofPass h).bind fun r => by cases r <;> exact keepsAlways_done _

theorem shutdown (h : Lenient next) (hunbind : (Pass.unbind b).KeepsAlways (withinPass next)) :
    (Lifecycle.shutdown b).KeepsAlways next := by
  refine (h.control _).bind fun (begins : Bool) => ?_
  cases begins with
  | false => exact keepsAlways_done _
  | true =>
    refine (h.control _).bind fun _ => KeepsAlways.bind ?_ fun _ => h.control _
    refine h.stopSchedule.bind fun _ => ?_
    refine (Retry.keepsAlways_run (fun _ => shutdownAttempt hunbind) h.sleep).bind fun _ => ?_
    exact (h.note rfl).bind fun _ => h.note rfl

/-! ## The periodic task -/

theorem laterRound (h : Lenient next) (hpass : (Pass.periodic b).KeepsAlways (withinPass next)) (delay : Nat) :
    (Lifecycle.laterRound b delay).KeepsAlways next := by
  have hexit : (Schedule.Port.exit port).KeepsAlways next := (h.task _).bind fun _ => keepsAlways_done _
  refine (h.clock _).bind fun time => (h.task _).bind fun (cancelled : Bool) => ?_
  cases cancelled with
  | true => exact hexit
  | false =>
    refine KeepsAlways.bind ((keepsAlways_ofPass hpass).bind fun _ => keepsAlways_done _) fun next => ?_
    cases next with
    | none => exact hexit
    | some next =>
      refine (h.task _).bind fun (cancelled : Bool) => ?_
      cases cancelled with
      | true => exact hexit
      | false => exact keepsAlways_done _

theorem firstRound (h : Lenient next) (hpass : (Pass.periodic b).KeepsAlways (withinPass next)) :
    (Lifecycle.firstRound b).KeepsAlways next := (h.task _).bind (h.laterRound hpass)

end Lenient

end Lifecycle
end AddressBinder
