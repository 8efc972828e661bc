import AddressBinder.Proofs.Lifecycle.Part
/-!
# What a part does in one step

A step of a start, a shutdown or the periodic task: from a position and a state of the binder, perhaps with an event, to
the next position and state.  There is one rule per kind of step, with what the step finds and what it changes, and a
part does nothing else (`Starting.move_of_next?`, `Stopping.move_of_next?`, `Tasking.move_of_next?`).
-/
namespace AddressBinder

theorem Phase.isTerminal_move_of_not {old new : Phase} (h : new.isTerminal = false) :
    (old.move new).isTerminal = old.isTerminal := by
  cases old <;> cases new <;> simp_all [Phase.move, Phase.isTerminal]

theorem Phase.isTerminal_move {old new : Phase} (h : new.isTerminal = true) : (old.move new).isTerminal = true := by
  cases old <;> cases new <;> simp_all [Phase.move, Phase.isTerminal]

namespace Lifecycle

def Request.event? : Request → Option Event
  | .own (.note (.emit e)) => some e
  | _ => none

/-- A change of the binder's own state that decides nothing: only the snapshot's details and the channel differ. -/
structure Alike (s t : State) : Prop where
  started : t.started = s.started
  locked : t.locked = s.locked
  schedule : t.schedule = s.schedule
  terminal : t.status.phase.isTerminal = s.status.phase.isTerminal

theorem Alike.refl (s : State) : Alike s s := ⟨rfl, rfl, rfl, rfl⟩

theorem Alike.note (time : Nat) (s : State) : ∀ {n : Note}, n ≠ .observe .stopped → Alike s (s.note time n)
  | .emit _, _ => ⟨rfl, rfl, rfl, rfl⟩
  | .observe (.bound _), _ => ⟨rfl, rfl, rfl, Phase.isTerminal_move_of_not rfl⟩
  | .observe .unbound, _ => ⟨rfl, rfl, rfl, Phase.isTerminal_move_of_not rfl⟩
  | .observe (.pass none), _ => ⟨rfl, rfl, rfl, rfl⟩
  | .observe (.pass (some _)), _ => ⟨rfl, rfl, rfl, rfl⟩
  | .observe .stopped, h => absurd rfl h

/-! ## The start -/

inductive Starting.Move (b : Binder) (s : State) : Starting → Option Event → Starting → State → Prop where
  | refuse (h : s.started = true) : Move b s .fresh none .finished s
  | mark (h : s.started = false) : Move b s .fresh none .queued { s with started := true }
  | acquire (h : s.locked = false) : Move b s .queued none .admitted { s with locked := true }
  | turnAway (h : s.status.phase.isTerminal = true) : Move b s .admitted none .leaving s
  | begin (h : s.status.phase.isTerminal = false) : Move b s .admitted none .retrying s
  | abandon (h : s.status.phase.isTerminal = true) : Move b s .retrying none .abandoned s
  | attempt (h : s.status.phase.isTerminal = false) : Move b s .retrying none .begun s
  | view : Move b s .begun none .retrying s
  | work {t : State} (h : Alike s t) : Move b s .retrying none .retrying t
  | noneFree {t : State} (zone : String) (h : Alike s t) :
      Move b s .retrying (some (.noInterfaceAvailable zone)) .retrying t
  | attach {t : State} (i : String) (ip : Ipv4) (id : String) (h : Alike s t) :
      Move b s .retrying (some (.attached i ip id)) .attached t
  | complete {t : State} {p : Starting} (bound : Bool) (n : Nat)
      (hp : p = .retrying ∨ p = .attached ∧ bound = true ∨ p = .abandoned ∧ bound = false) (h : Alike s t) :
      Move b s p (some (.startupCompleted bound n)) .completed t
  | giveUp (h : s.status.phase.isTerminal = true) : Move b s .completed none .leaving s
  | goOn (h : s.status.phase.isTerminal = false) : Move b s .completed none .arming s
  | arm (h : s.schedule = .idle) :
      Move b s .arming none .armed { s with schedule := .armed b.config.unboundInterval }
  | skip (h : s.schedule ≠ .idle) : Move b s .arming none .leaving s
  | report {t : State} (h : Alike s t) :
      Move b s .armed (some (.scheduleArmed b.config.unboundInterval)) .leaving t
  | release : Move b s .leaving none .finished { s with locked := false }

theorem Starting.Move.ne_fresh {b : Binder} {s t : State} {p q : Starting} {e : Option Event} (h : p.Move b s e q t) :
    q ≠ .fresh := by
  cases h <;> nofun

/-- **A start does nothing else.** -/
theorem Starting.move_of_next? {b : Binder} {x : Scene} {p q : Starting} {r : Request} {reply : r.Reply} {own : State}
    (h : p.next? b r reply = some q) (ha : x.Answers r reply own) : p.Move b x.own r.event? q own := by
  cases p with
  | fresh =>
    simp only [next?] at h
    split at h
    · rename_i before
      obtain ⟨hb, rfl⟩ := Scene.answers_markStarted.1 ha
      cases before with
      | true =>
        obtain rfl := Option.some.inj h
        have hown : { x.own with started := true } = x.own := by rw [hb]
        rw [hown]
        exact .refuse hb.symm
      | false =>
        obtain rfl := Option.some.inj h
        exact .mark hb.symm
    · cases h
  | queued =>
    simp only [next?] at h
    split at h
    · obtain ⟨hl, rfl⟩ := Scene.answers_acquire.1 ha
      obtain rfl := Option.some.inj h
      exact .acquire hl
    · cases h
  | admitted =>
    simp only [next?] at h
    split at h
    · rename_i phase
      obtain ⟨rfl, rfl⟩ := Scene.answers_phase.1 ha
      obtain rfl := Option.some.inj h
      split
      · rename_i hphase
        exact .turnAway hphase
      · rename_i hphase
        exact .begin (by simpa using hphase)
    · cases h
  | retrying =>
    simp only [next?] at h
    split at h
    · rename_i phase
      obtain ⟨rfl, rfl⟩ := Scene.answers_phase.1 ha
      obtain rfl := Option.some.inj h
      split
      · rename_i hphase
        exact .abandon hphase
      · rename_i hphase
        exact .attempt (by simpa using hphase)
    · obtain rfl := Scene.answers_call.1 ha
      split at h
      · cases h
      · obtain rfl := Option.some.inj h
        exact .work (.refl _)
    · obtain ⟨-, rfl⟩ := Scene.answers_clock.1 ha
      obtain rfl := Option.some.inj h
      exact .work (.refl _)
    · obtain rfl := Scene.answers_note.1 ha
      obtain rfl := Option.some.inj h
      exact .work (.note _ _ (by simp))
    · obtain rfl := Scene.answers_note.1 ha
      obtain rfl := Option.some.inj h
      exact .noneFree _ (.note _ _ (by simp))
    · obtain rfl := Scene.answers_note.1 ha
      obtain rfl := Option.some.inj h
      exact .attach _ _ _ (.note _ _ (by simp))
    · obtain rfl := Scene.answers_note.1 ha
      obtain rfl := Option.some.inj h
      exact .complete _ _ (.inl rfl) (.note _ _ (by simp))
    · cases h
  | begun =>
    simp only [next?] at h
    split at h
    · obtain rfl := Scene.answers_call.1 ha
      obtain rfl := Option.some.inj h
      exact .view
    · cases h
  | attached =>
    simp only [next?] at h
    split at h
    · obtain rfl := Scene.answers_note.1 ha
      obtain rfl := Option.some.inj h
      exact .complete _ _ (.inr (.inl ⟨rfl, rfl⟩)) (.note _ _ (by simp))
    · cases h
  | abandoned =>
    simp only [next?] at h
    split at h
    · obtain rfl := Scene.answers_note.1 ha
      obtain rfl := Option.some.inj h
      exact .complete _ _ (.inr (.inr ⟨rfl, rfl⟩)) (.note _ _ (by simp))
    · cases h
  | completed =>
    simp only [next?] at h
    split at h
    · rename_i phase
      obtain ⟨rfl, rfl⟩ := Scene.answers_phase.1 ha
      obtain rfl := Option.some.inj h
      split
      · rename_i hphase
        exact .giveUp hphase
      · rename_i hphase
        exact .goOn (by simpa using hphase)
    · cases h
  | arming =>
    simp only [next?] at h
    split at h
    · rename_i delay arms
      split at h
      · rename_i hd
        obtain ⟨hi, rfl⟩ := Scene.answers_arm.1 ha
        obtain rfl := Option.some.inj h
        cases arms with
        | true => exact hd ▸ .arm (by simpa using hi.symm)
        | false => exact .skip (by simpa using hi.symm)
      · cases h
    · cases h
  | armed =>
    simp only [next?] at h
    split at h
    · split at h
      · rename_i hd
        obtain rfl := Scene.answers_note.1 ha
        obtain rfl := Option.some.inj h
        exact hd ▸ .report (.note _ _ (by simp))
      · cases h
    · cases h
  | leaving =>
    simp only [next?] at h
    split at h
    · obtain rfl := Scene.answers_release.1 ha
      obtain rfl := Option.some.inj h
      exact .release
    · cases h
  | finished => cases h

/-! ## The shutdown -/

inductive Stopping.Move (s : State) : Stopping → Option Event → Stopping → State → Prop where
  | refuse (h : s.status.phase.isTerminal = true) : Move s .fresh none .finished s
  | begin (h : s.status.phase.isTerminal = false) :
      Move s .fresh none .closing { s with status := s.status.move .shuttingDown }
  | acquire (h : s.locked = false) : Move s .closing none .entered { s with locked := true }
  | cancel (h : s.isArmed = true) : Move s .entered none .draining { s with schedule := .cancelled }
  | skip (h : s.isArmed = false) : Move s .entered none .unbinding s
  | drain (h : s.schedule = .exited) : Move s .draining none .drained s
  | report {t : State} (h : Alike s t) : Move s .drained (some .scheduleCancelled) .unbinding t
  | work {t : State} (h : Alike s t) : Move s .unbinding none .unbinding t
  | detach {t : State} (i id : String) (h : Alike s t) : Move s .unbinding (some (.detached i id)) .detached t
  | stop {p : Stopping} (time : Nat) (hp : p = .unbinding ∨ p = .detached) :
      Move s p none .stopped (s.note time (.observe .stopped))
  | finish {t : State} (h : Alike s t) : Move s .stopped (some .stopped) .leaving t
  | release : Move s .leaving none .finished { s with locked := false }

theorem Stopping.Move.ne_fresh {s t : State} {p q : Stopping} {e : Option Event} (h : p.Move s e q t) :
    q ≠ .fresh := by
  cases h <;> nofun

/-- **A shutdown does nothing else.** -/
theorem Stopping.move_of_next? {x : Scene} {p q : Stopping} {r : Request} {reply : r.Reply} {own : State}
    (h : p.next? r reply = some q) (ha : x.Answers r reply own) : p.Move x.own r.event? q own := by
  cases p with
  | fresh =>
    simp only [next?] at h
    split at h
    · rename_i begins
      obtain ⟨hb, rfl⟩ := Scene.answers_beginShutdown.1 ha
      obtain rfl := Option.some.inj h
      cases begins with
      | true => exact .begin (by simpa using hb.symm)
      | false => exact .refuse (by simpa using hb.symm)
    · cases h
  | closing =>
    simp only [next?] at h
    split at h
    · obtain ⟨hl, rfl⟩ := Scene.answers_acquire.1 ha
      obtain rfl := Option.some.inj h
      exact .acquire hl
    · cases h
  | entered =>
    simp only [next?] at h
    split at h
    · rename_i wasArmed
      obtain ⟨hw, rfl⟩ := Scene.answers_disarm.1 ha
      obtain rfl := Option.some.inj h
      cases wasArmed with
      | true => exact .cancel hw.symm
      | false => exact .skip hw.symm
    · cases h
  | draining =>
    simp only [next?] at h
    split at h
    · obtain ⟨he, rfl⟩ := Scene.answers_awaitExit.1 ha
      obtain rfl := Option.some.inj h
      exact .drain he
    · cases h
  | drained =>
    simp only [next?] at h
    split at h
    · obtain rfl := Scene.answers_note.1 ha
      obtain rfl := Option.some.inj h
      exact .report (.note _ _ (by simp))
    · cases h
  | unbinding =>
    simp only [next?] at h
    split at h
    · obtain rfl := Scene.answers_call.1 ha
      split at h
      · cases h
      · obtain rfl := Option.some.inj h
        exact .work (.refl _)
    · obtain ⟨-, rfl⟩ := Scene.answers_clock.1 ha
      obtain rfl := Option.some.inj h
      exact .work (.refl _)
    · obtain rfl := Scene.answers_note.1 ha
      obtain rfl := Option.some.inj h
      exact .detach _ _ (.note _ _ (by simp))
    · obtain rfl := Scene.answers_note.1 ha
      obtain rfl := Option.some.inj h
      exact .stop _ (.inl rfl)
    · cases h
  | detached =>
    simp only [next?] at h
    split at h
    · obtain rfl := Scene.answers_note.1 ha
      obtain rfl := Option.some.inj h
      exact .stop _ (.inr rfl)
    · cases h
  | stopped =>
    simp only [next?] at h
    split at h
    · obtain rfl := Scene.answers_note.1 ha
      obtain rfl := Option.some.inj h
      exact .finish (.note _ _ (by simp))
    · cases h
  | leaving =>
    simp only [next?] at h
    split at h
    · obtain rfl := Scene.answers_release.1 ha
      obtain rfl := Option.some.inj h
      exact .release
    · cases h
  | finished => cases h

/-! ## The periodic task -/

inductive Tasking.Move (b : Binder) (time : Nat) (s : State) : Tasking → Option Event → Tasking → State → Prop where
  | wake (delay : Nat) (h : s.schedule = .armed delay ∨ s.schedule = .cancelled) :
      Move b time s .unarmed none (.waking delay) s
  | doze (delay : Nat) : Move b time s (.waking delay) none (.dozing (Clock.endOfWait time delay)) s
  | start (due : Nat) (hdue : due ≤ time) (h : s.schedule ≠ .cancelled) : Move b time s (.dozing due) none .passing s
  | cancel (due : Nat) (h : s.schedule = .cancelled) : Move b time s (.dozing due) none .exiting s
  | work {t : State} {p : Tasking} (hp : p = .passing ∨ p = .resynced ∨ p = .rebound) (h : Alike s t) :
      Move b time s p none p t
  | resync {t : State} (count : Nat) (h : Alike s t) :
      Move b time s .passing (some (.registryResynced count)) .resynced t
  | noneFree {t : State} (zone : String) (h : Alike s t) :
      Move b time s .resynced (some (.noInterfaceAvailable zone)) .rebound t
  | attach {t : State} (i : String) (ip : Ipv4) (id : String) (h : Alike s t) :
      Move b time s .resynced (some (.attached i ip id)) .rebound t
  | completeBound {t : State} (h : Alike s t) :
      Move b time s .passing (some (.passCompleted true b.config.boundInterval)) (.passed b.config.boundInterval) t
  | completeUnbound {t : State} (h : Alike s t) :
      Move b time s .rebound (some (.passCompleted false b.config.unboundInterval))
        (.passed b.config.unboundInterval) t
  | fail {t : State} {p : Tasking} (failure : String) (hp : p = .passing ∨ p = .resynced) (h : Alike s t) :
      Move b time s p (some (.passFailed failure b.config.unboundInterval)) (.passed b.config.unboundInterval) t
  | goOn (delay : Nat) (h : s.schedule ≠ .cancelled) : Move b time s (.passed delay) none (.waking delay) s
  | leave (delay : Nat) (h : s.schedule = .cancelled) : Move b time s (.passed delay) none .exiting s
  | exit : Move b time s .exiting none .finished { s with schedule := .exited }

/-- **The periodic task does nothing else.** -/
theorem Tasking.move_of_next? {b : Binder} {x : Scene} {p q : Tasking} {r : Request} {reply : r.Reply} {own : State}
    (h : p.next? b r reply = some q) (ha : x.Answers r reply own) : p.Move b x.time x.own r.event? q own := by
  cases p with
  | unarmed =>
    simp only [next?] at h
    split at h
    · obtain ⟨hs, rfl⟩ := Scene.answers_awaitArmed.1 ha
      obtain rfl := Option.some.inj h
      exact .wake _ (hs.imp_right And.left)
    · cases h
  | waking delay =>
    simp only [next?] at h
    split at h
    · obtain ⟨ht, rfl⟩ := Scene.answers_clock.1 ha
      obtain rfl := Option.some.inj h
      obtain rfl := Option.some.inj ht
      exact .doze delay
    · cases h
  | dozing due =>
    simp only [next?] at h
    split at h
    · split at h
      · rename_i hd
        subst hd
        obtain ⟨hs, rfl⟩ := Scene.answers_nap.1 ha
        obtain rfl := Option.some.inj h
        rcases hs with ⟨rfl, hs⟩ | ⟨rfl, hs, hdue⟩
        · exact .cancel _ hs
        · exact .start _ hdue hs
      · cases h
    · cases h
  | passing =>
    simp only [next?] at h
    split at h
    · obtain rfl := Scene.answers_call.1 ha
      split at h
      · cases h
      · obtain rfl := Option.some.inj h
        exact .work (.inl rfl) (.refl _)
    · obtain rfl := Scene.answers_note.1 ha
      split at h
      · cases h
      · rename_i ho
        obtain rfl := Option.some.inj h
        exact .work (.inl rfl) (.note _ _ (by simpa using ho))
    · obtain rfl := Scene.answers_note.1 ha
      obtain rfl := Option.some.inj h
      exact .resync _ (.note _ _ (by simp))
    · obtain rfl := Scene.answers_note.1 ha
      split at h
      · rename_i hd
        obtain rfl := Option.some.inj h
        exact hd ▸ .completeBound (.note _ _ (by simp))
      · cases h
    · obtain rfl := Scene.answers_note.1 ha
      split at h
      · rename_i hd
        obtain rfl := Option.some.inj h
        exact hd ▸ .fail _ (.inl rfl) (.note _ _ (by simp))
      · cases h
    · cases h
  | resynced =>
    simp only [next?] at h
    split at h
    · obtain rfl := Scene.answers_call.1 ha
      split at h
      · cases h
      · obtain rfl := Option.some.inj h
        exact .work (.inr (.inl rfl)) (.refl _)
    · obtain rfl := Scene.answers_note.1 ha
      split at h
      · cases h
      · rename_i ho
        obtain rfl := Option.some.inj h
        exact .work (.inr (.inl rfl)) (.note _ _ (by simpa using ho))
    · obtain rfl := Scene.answers_note.1 ha
      obtain rfl := Option.some.inj h
      exact .noneFree _ (.note _ _ (by simp))
    · obtain rfl := Scene.answers_note.1 ha
      obtain rfl := Option.some.inj h
      exact .attach _ _ _ (.note _ _ (by simp))
    · obtain rfl := Scene.answers_note.1 ha
      split at h
      · rename_i hd
        obtain rfl := Option.some.inj h
        exact hd ▸ .fail _ (.inr rfl) (.note _ _ (by simp))
      · cases h
    · cases h
  | rebound =>
    simp only [next?] at h
    split at h
    · obtain rfl := Scene.answers_note.1 ha
      split at h
      · cases h
      · rename_i ho
        obtain rfl := Option.some.inj h
        exact .work (.inr (.inr rfl)) (.note _ _ (by simpa using ho))
    · obtain rfl := Scene.answers_note.1 ha
      split at h
      · rename_i hd
        obtain rfl := Option.some.inj h
        exact hd ▸ .completeUnbound (.note _ _ (by simp))
      · cases h
    · cases h
  | passed delay =>
    simp only [next?] at h
    split at h
    · rename_i cancelled
      obtain ⟨hs, rfl⟩ := Scene.answers_isCancelled.1 ha
      obtain rfl := Option.some.inj h
      cases cancelled with
      | true => exact .leave _ (by simpa using hs.symm)
      | false => exact .goOn _ (by simpa using hs.symm)
    · cases h
  | exiting =>
    simp only [next?] at h
    split at h
    · obtain rfl := Scene.answers_exit.1 ha
      obtain rfl := Option.some.inj h
      exact .exit
    · cases h
  | finished => cases h

end Lifecycle
end AddressBinder
