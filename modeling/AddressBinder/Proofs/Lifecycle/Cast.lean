import AddressBinder.Proofs.Lifecycle.Move
/-!
# Who plays which part

Of all starts that the application asks for, one at most gets beyond the mark that a start leaves, and of all shutdowns
one at most begins the shutdown; the others end without an effect.  So a run is told by three positions, those of the
start, of the shutdown and of the periodic task (`Cast`).  `Valid` says what the positions have to do with the binder's
own state and with each other; every step of a part keeps it (`Valid.start`, `Valid.shutdown`, `Valid.task`).
-/
namespace AddressBinder
namespace Lifecycle

open Program

def Starting.holds : Starting → Bool
  | .fresh | .queued | .finished => false
  | _ => true

/-- Whether a start works at binding and arming; it found that no shutdown had begun when it got the lock. -/
def Starting.works : Starting → Bool
  | .fresh | .queued | .admitted | .leaving | .finished => false
  | _ => true

/-- Whether a start has not armed the schedule yet, and may still do so. -/
def Starting.isEarly : Starting → Bool
  | .armed | .leaving | .finished => false
  | _ => true

def Stopping.holds : Stopping → Bool
  | .fresh | .closing | .finished => false
  | _ => true

/-- Whether a shutdown has not taken the lock yet. -/
def Stopping.isOutside : Stopping → Bool
  | .fresh | .closing => true
  | _ => false

/-- Whether a shutdown is done with the schedule. -/
def Stopping.isLate : Stopping → Bool
  | .fresh | .closing | .entered => false
  | _ => true

/-- Whether the periodic task goes on after this round, as far as it knows. -/
def Tasking.goesOn : Tasking → Bool
  | .exiting | .finished => false
  | _ => true

/-- The positions of the start, the shutdown and the periodic task, and the numbers of the activities that are the start
and the shutdown, once they are told from the others. -/
structure Cast where
  start : Starting
  shutdown : Stopping
  task : Tasking
  starter : Option Nat
  closer : Option Nat

def Cast.initial : Cast := ⟨.fresh, .fresh, .unarmed, none, none⟩

/-- What the stage of the schedule says about the positions. -/
def Scheduled (p : Starting) (d : Stopping) (t : Tasking) : Schedule.Stage → Prop
  | .idle => t = .unarmed ∧ p ≠ .armed ∧ d ≠ .draining ∧ d ≠ .drained
  | .armed _ => t.goesOn = true ∧ p.isEarly = false ∧ d.isLate = false
  | .cancelled => t ≠ .finished ∧ p = .finished ∧ d = .draining
  | .exited => t = .finished ∧ p = .finished ∧ d.isLate = true

/-- What the positions have to do with the binder's own state. -/
structure Valid (c : Cast) (s : State) : Prop where
  started : s.started = true ↔ c.start ≠ .fresh
  closing : s.status.phase.isTerminal = true ↔ c.shutdown ≠ .fresh
  locked : s.locked = true ↔ c.start.holds = true ∨ c.shutdown.holds = true
  apart : c.start.holds = true → c.shutdown.holds = false
  works : c.start.works = true → c.shutdown.isOutside = true
  scheduled : Scheduled c.start c.shutdown c.task s.schedule

theorem valid_initial (capacity : Nat) : Valid Cast.initial (.initial capacity) := by
  constructor <;> simp [Cast.initial, State.initial, Status.initial, Phase.isTerminal, Starting.holds, Stopping.holds,
    Stopping.isOutside, Scheduled]

theorem Valid.alike {c : Cast} {s t : State} (h : Valid c s) (ha : Alike s t) : Valid c t := by
  obtain ⟨h1, h2, h3, h4, h5, h6⟩ := h
  exact ⟨ha.started ▸ h1, ha.terminal ▸ h2, ha.locked ▸ h3, h4, h5, ha.schedule ▸ h6⟩

/-! ## The start -/

theorem Scheduled.idle {p : Starting} {d : Stopping} {t : Tasking} {stage : Schedule.Stage} (h : Scheduled p d t stage)
    (hp : p.isEarly = true) : stage = .idle := by
  cases stage with
  | idle => rfl
  | armed _ => exact absurd hp (h.2.1 ▸ Bool.false_ne_true)
  | cancelled => rw [h.2.1] at hp; cases hp
  | exited => rw [h.2.1] at hp; cases hp

theorem Scheduled.early {p q : Starting} {d : Stopping} {t : Tasking} {stage : Schedule.Stage}
    (h : Scheduled p d t stage) (hp : p.isEarly = true) (hq : q ≠ .armed) : Scheduled q d t stage := by
  obtain rfl := h.idle hp
  exact ⟨h.1, hq, h.2.2⟩

theorem Valid.restart {c : Cast} {s : State} {q : Starting} (n : Option Nat) (hv : Valid c s) (hp : c.start.holds = true)
    (hq : q.holds = true) (hw : q.works = true → c.start.works = true ∨ c.shutdown = .fresh)
    (hs : Scheduled q c.shutdown c.task s.schedule) : Valid { c with start := q, starter := n } s where
  started := by
    rw [hv.started]
    exact iff_of_true (by rintro h; rw [h] at hp; cases hp) (by rintro rfl; cases hq)
  closing := hv.closing
  locked := by rw [hv.locked, hp, hq]
  apart _ := hv.apart hp
  works h := (hw h).elim hv.works fun h => by rw [h]; rfl
  scheduled := hs

/-- **A step of the start keeps the positions and the state together.** -/
theorem Valid.start {b : Binder} {c : Cast} {s t : State} {e : Option Event} {q : Starting} (n : Option Nat)
    (hv : Valid c s) (hm : c.start.Move b s e q t) : Valid { c with start := q, starter := n } t := by
  have hs := hv.scheduled
  generalize hp : c.start = p at hm hs
  -- what the position `p` implies is read off it by evaluation
  have hfresh : c.start = .fresh ↔ p = .fresh := by rw [hp]
  have hholds : c.start.holds = p.holds := by rw [hp]
  have hworks : c.start.works = p.works := by rw [hp]
  cases hm with
  | refuse h => exact absurd hp (hv.started.1 h)
  | mark h =>
    refine ⟨by simp, hv.closing, ?_, nofun, nofun, hs.early rfl (by simp)⟩
    rw [hv.locked, hholds]
    exact Iff.rfl
  | acquire h =>
    have hd : c.shutdown.holds = false := by
      by_contra hd
      rw [hv.locked.2 (.inr (by simpa using hd))] at h
      cases h
    exact ⟨by simp [hv.started, hfresh], hv.closing, by simp [Starting.holds], fun _ => hd, nofun, hs.early rfl (by simp)⟩
  | turnAway h => exact hv.restart n hholds rfl nofun (hs.early rfl (by simp))
  | begin h =>
    have hd : c.shutdown = .fresh := by simpa [h] using hv.closing
    exact hv.restart n hholds rfl (fun _ => .inr hd) (hs.early rfl (by simp))
  | attempt h => exact hv.restart n hholds rfl (fun _ => .inl hworks) (hs.early rfl (by simp))
  | view => exact hv.restart n hholds rfl (fun _ => .inl hworks) (hs.early rfl (by simp))
  | abandon h => exact hv.restart n hholds rfl (fun _ => .inl hworks) (hs.early rfl (by simp))
  | work h => exact (hv.restart n hholds rfl (fun _ => .inl hworks) (hs.early rfl (by simp))).alike h
  | noneFree zone h => exact (hv.restart n hholds rfl (fun _ => .inl hworks) (hs.early rfl (by simp))).alike h
  | attach i ip id h => exact (hv.restart n hholds rfl (fun _ => .inl hworks) (hs.early rfl (by simp))).alike h
  | complete bound k hfrom h =>
    have hbefore : p.holds = true ∧ p.works = true ∧ p.isEarly = true := by
      rcases hfrom with rfl | ⟨rfl, -⟩ | ⟨rfl, -⟩ <;> exact ⟨rfl, rfl, rfl⟩
    exact (hv.restart n (hholds.trans hbefore.1) rfl (fun _ => .inl (hworks.trans hbefore.2.1))
      (hs.early hbefore.2.2 (by simp))).alike h
  | giveUp h => exact hv.restart n hholds rfl nofun (hs.early rfl (by simp))
  | goOn h => exact hv.restart n hholds rfl (fun _ => .inl hworks) (hs.early rfl (by simp))
  | arm h =>
    have hd : c.shutdown.isOutside = true := hv.works hworks
    rw [h] at hs
    refine ⟨by simp [hv.started, hfresh], hv.closing, ?_, fun _ => hv.apart hholds, fun _ => hd, ?_⟩
    · rw [hv.locked, hholds]
      exact Iff.rfl
    · refine ⟨by rw [hs.1]; rfl, rfl, ?_⟩
      cases hcd : c.shutdown <;> simp_all [Stopping.isOutside, Stopping.isLate]
  | skip h => exact absurd (hs.idle rfl) h
  | report h =>
    refine (hv.restart n hholds rfl (fun h => by cases h) ?_).alike h
    cases hst : s.schedule <;> simp_all [Scheduled, Starting.isEarly]
  | release =>
    have hd : c.shutdown.holds = false := hv.apart hholds
    refine ⟨by simp [hv.started, hfresh], hv.closing, by simp [hd, Starting.holds], nofun, nofun, ?_⟩
    cases hst : s.schedule <;> simp_all [Scheduled, Starting.isEarly]

/-! ## The shutdown -/

theorem Scheduled.late {p : Starting} {d e : Stopping} {t : Tasking} {stage : Schedule.Stage}
    (h : Scheduled p d t stage) (hd : d.isLate = true ∧ d ≠ .draining) (he : e.isLate = true)
    (hne : e ≠ .draining ∧ e ≠ .drained) : Scheduled p e t stage := by
  cases stage with
  | idle => exact ⟨h.1, h.2.1, hne⟩
  | armed _ => rw [h.2.2] at hd; cases hd.1
  | cancelled => exact absurd h.2.2 hd.2
  | exited => exact ⟨h.1, h.2.1, he⟩

/-- **A step of the shutdown goes with the schedule**, if no start works while the shutdown has the lock and the
shutdown is not refused. -/
theorem Scheduled.shutdown {p : Starting} {d q : Stopping} {t : Tasking} {s s' : State} {e : Option Event}
    (h : Scheduled p d t s.schedule) (hp : d.holds = true → p.holds = false)
    (hd : s.status.phase.isTerminal = true → d ≠ .fresh) (hm : d.Move s e q s') : Scheduled p q t s'.schedule := by
  cases hm with
  | refuse hphase => exact absurd rfl (hd hphase)
  | begin _ =>
    show Scheduled p .closing t s.schedule
    cases hst : s.schedule <;> simp_all [Scheduled, Stopping.isLate]
  | acquire _ =>
    show Scheduled p .entered t s.schedule
    cases hst : s.schedule <;> simp_all [Scheduled, Stopping.isLate]
  | cancel harmed =>
    have hstart : p.holds = false := hp rfl
    cases hst : s.schedule <;> simp_all [Scheduled, State.isArmed]
    cases p <;> cases t <;> simp_all [Starting.isEarly, Starting.holds, Tasking.goesOn]
  | skip harmed => cases hst : s.schedule <;> simp_all [Scheduled, State.isArmed, Stopping.isLate]
  | drain hexited => cases hst : s.schedule <;> simp_all [Scheduled, Stopping.isLate]
  | report ha => exact ha.schedule ▸ h.late (by simp [Stopping.isLate]) rfl (by simp)
  | work ha => exact ha.schedule ▸ h.late (by simp [Stopping.isLate]) rfl (by simp)
  | detach i id ha => exact ha.schedule ▸ h.late (by simp [Stopping.isLate]) rfl (by simp)
  | stop time hfrom =>
    have hbefore : d.isLate = true ∧ d ≠ .draining := by rcases hfrom with rfl | rfl <;> simp [Stopping.isLate]
    exact h.late hbefore rfl (by simp)
  | finish ha => exact ha.schedule ▸ h.late (by simp [Stopping.isLate]) rfl (by simp)
  | release => exact h.late (by simp [Stopping.isLate]) rfl (by simp)

theorem Valid.reshut {c : Cast} {s : State} {q : Stopping} (n : Option Nat) (hv : Valid c s)
    (hp : c.shutdown.holds = true) (hq : q.holds = true) (hs : Scheduled c.start q c.task s.schedule) :
    Valid { c with shutdown := q, closer := n } s where
  started := hv.started
  closing := by
    rw [hv.closing]
    exact iff_of_true (by rintro h; rw [h] at hp; cases hp) (by rintro rfl; cases hq)
  locked := by rw [hv.locked, hp, hq]
  apart h := absurd hp (by rw [hv.apart h]; simp)
  works h := by
    have ho := hv.works h
    cases hd : c.shutdown <;> simp_all [Stopping.holds, Stopping.isOutside]
  scheduled := hs

/-- **A step of the shutdown keeps the positions and the state together.** -/
theorem Valid.shutdown {c : Cast} {s t : State} {e : Option Event} {q : Stopping} (n : Option Nat)
    (hv : Valid c s) (hm : c.shutdown.Move s e q t) : Valid { c with shutdown := q, closer := n } t := by
  -- while a shutdown has the lock, no start works and none has it
  have hstart : c.shutdown.holds = true → c.start.holds = false := fun h => by
    by_contra hc
    rw [hv.apart (by simpa using hc)] at h
    cases h
  have hs : Scheduled c.start q c.task t.schedule := hv.scheduled.shutdown hstart hv.closing.1 hm
  generalize hp : c.shutdown = p at hm hstart
  have hholds : c.shutdown.holds = p.holds := by rw [hp]
  cases hm with
  | refuse h => exact absurd hp (hv.closing.1 h)
  | begin h =>
    refine ⟨hv.started, iff_of_true (Phase.isTerminal_move rfl) nofun, ?_, fun _ => rfl, fun _ => rfl, hs⟩
    show s.locked = true ↔ _
    rw [hv.locked, hholds]
    exact Iff.rfl
  | acquire h =>
    have hc : c.start.holds = false := by
      by_contra hc
      rw [hv.locked.2 (.inl (by simpa using hc))] at h
      cases h
    refine ⟨hv.started, by simp [hv.closing, hp], by simp [Stopping.holds], fun h => ?_, fun h => ?_, hs⟩
    · rw [hc] at h
      cases h
    · cases hcs : c.start <;> simp_all [Starting.works, Starting.holds]
  | cancel h =>
    have hc := hstart rfl
    refine ⟨hv.started, by simp [hv.closing, hp], ?_, fun h => ?_, fun h => ?_, hs⟩
    · show s.locked = true ↔ _
      rw [hv.locked, hholds]
      exact Iff.rfl
    · rw [hc] at h
      cases h
    · cases hcs : c.start <;> simp_all [Starting.works, Starting.holds]
  | skip h => exact hv.reshut n hholds rfl hs
  | drain h => exact hv.reshut n hholds rfl hs
  | report h => exact (hv.reshut n hholds rfl (h.schedule ▸ hs)).alike h
  | work h => exact (hv.reshut n hholds rfl (h.schedule ▸ hs)).alike h
  | detach i id h => exact (hv.reshut n hholds rfl (h.schedule ▸ hs)).alike h
  | stop time hfrom =>
    have hbefore : p.holds = true := by rcases hfrom with rfl | rfl <;> rfl
    have hstopped := hv.reshut n (hholds.trans hbefore) rfl hs
    exact ⟨hstopped.started, iff_of_true (Phase.isTerminal_move rfl) nofun, hstopped.locked, hstopped.apart,
      hstopped.works, hstopped.scheduled⟩
  | finish h => exact (hv.reshut n hholds rfl (h.schedule ▸ hs)).alike h
  | release =>
    have hc := hstart rfl
    refine ⟨hv.started, by simp [hv.closing, hp], by simp [hc, Stopping.holds], fun _ => rfl, fun h => ?_, hs⟩
    cases hcs : c.start <;> simp_all [Starting.works, Starting.holds]

/-! ## The periodic task -/

theorem Scheduled.underWay {p : Starting} {d : Stopping} {t u : Tasking} {stage : Schedule.Stage}
    (h : Scheduled p d t stage) (ht : t.goesOn = true ∧ t ≠ .unarmed) (hu : u.goesOn = true) : Scheduled p d u stage := by
  cases stage with
  | idle => exact absurd h.1 ht.2
  | armed _ => exact ⟨hu, h.2⟩
  | cancelled => exact ⟨(by rintro rfl; cases hu), h.2⟩
  | exited => rw [h.1] at ht; cases ht.1

/-- **A step of the periodic task goes with the schedule.** -/
theorem Scheduled.task {b : Binder} {time : Nat} {p : Starting} {d : Stopping} {t u : Tasking} {s s' : State}
    {e : Option Event} (h : Scheduled p d t s.schedule) (hm : t.Move b time s e u s') :
    Scheduled p d u s'.schedule := by
  cases hm with
  | wake delay hs =>
    rcases hs with hs | hs <;> rw [hs] at h ⊢
    · exact ⟨rfl, h.2⟩
    · exact ⟨by simp, h.2⟩
  | doze delay => exact h.underWay (by simp [Tasking.goesOn]) rfl
  | start due hdue hs => exact h.underWay (by simp [Tasking.goesOn]) rfl
  | cancel due hs =>
    rw [hs] at h ⊢
    exact ⟨by simp, h.2⟩
  | work hfrom ha => exact ha.schedule ▸ h
  | resync count ha => exact ha.schedule ▸ h.underWay (by simp [Tasking.goesOn]) rfl
  | noneFree zone ha => exact ha.schedule ▸ h.underWay (by simp [Tasking.goesOn]) rfl
  | attach i ip id ha => exact ha.schedule ▸ h.underWay (by simp [Tasking.goesOn]) rfl
  | completeBound ha => exact ha.schedule ▸ h.underWay (by simp [Tasking.goesOn]) rfl
  | completeUnbound ha => exact ha.schedule ▸ h.underWay (by simp [Tasking.goesOn]) rfl
  | fail failure hfrom ha =>
    have hbefore : t.goesOn = true ∧ t ≠ .unarmed := by rcases hfrom with rfl | rfl <;> simp [Tasking.goesOn]
    exact ha.schedule ▸ h.underWay hbefore rfl
  | goOn delay hs => exact h.underWay (by simp [Tasking.goesOn]) rfl
  | leave delay hs =>
    rw [hs] at h ⊢
    exact ⟨by simp, h.2⟩
  | exit => cases hst : s.schedule <;> simp_all [Scheduled, Tasking.goesOn, Stopping.isLate]

/-- The periodic task changes nothing but the schedule, the snapshot's details and the channel. -/
theorem Tasking.Move.frame {b : Binder} {time : Nat} {s s' : State} {t u : Tasking} {e : Option Event}
    (hm : t.Move b time s e u s') :
    s'.started = s.started ∧ s'.locked = s.locked ∧ s'.status.phase.isTerminal = s.status.phase.isTerminal := by
  have halike : ∀ {s'}, Alike s s' →
      s'.started = s.started ∧ s'.locked = s.locked ∧ s'.status.phase.isTerminal = s.status.phase.isTerminal :=
    fun h => ⟨h.started, h.locked, h.terminal⟩
  cases hm with
  | work _ h => exact halike h
  | resync _ h => exact halike h
  | noneFree _ h => exact halike h
  | attach _ _ _ h => exact halike h
  | completeBound h => exact halike h
  | completeUnbound h => exact halike h
  | fail _ _ h => exact halike h
  | _ => exact ⟨rfl, rfl, rfl⟩

/-- **A step of the periodic task keeps the positions and the state together.** -/
theorem Valid.task {b : Binder} {time : Nat} {c : Cast} {s t : State} {e : Option Event} {q : Tasking} (hv : Valid c s)
    (hm : c.task.Move b time s e q t) : Valid { c with task := q } t := by
  obtain ⟨hstarted, hlocked, hterminal⟩ := hm.frame
  exact ⟨hstarted ▸ hv.started, hterminal ▸ hv.closing, hlocked ▸ hv.locked, hv.apart, hv.works, hv.scheduled.task hm⟩

end Lifecycle
end AddressBinder
