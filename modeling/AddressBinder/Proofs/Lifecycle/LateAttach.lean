import AddressBinder.Proofs.Lifecycle.Follow
/-!
# Nothing is attached behind the back of a shutdown

Once a shutdown has asked a collaborator anything, no interface is attached any more; and once it has begun, a start
that is still retrying begins no attempt that reaches a collaborator, and arms no schedule.
-/
namespace AddressBinder
namespace Lifecycle

/-! ## What a line of the log says -/

namespace Line

def isCall (l : Line) : Bool :=
  match l.deed with
  | .issued _ => true
  | .answered .. => false

def isAttach (l : Line) : Bool :=
  match l.deed with
  | .issued c => c.isAttach
  | .answered .. => false

/-- Whether the metadata is asked for, which is the first call of every attempt. -/
def isView (l : Line) : Bool :=
  match l.deed with
  | .issued c => c = .metadata
  | .answered .. => false

/-- Whether the phase is read, as every attempt of a start does first. -/
def readsPhase (l : Line) : Bool :=
  match l.deed with
  | .answered (.own (.control .phase)) _ => true
  | _ => false

def beginsShutdown (l : Line) : Bool :=
  match l.deed with
  | .answered (.own (.control .beginShutdown)) begins => begins
  | _ => false

def arms (l : Line) : Bool :=
  match l.deed with
  | .answered (.own (.control (.arm _))) arms => arms
  | _ => false

def event? (l : Line) : Option Event :=
  match l.deed with
  | .answered r _ => r.event?
  | .issued _ => none

def endsStartup (l : Line) : Bool :=
  match l.event? with
  | some (.startupCompleted ..) => true
  | _ => false

end Line

/-! ## Positions -/

/-- Whether a start asks no collaborator any more. -/
def Starting.isDone : Starting → Bool
  | .fresh | .queued | .admitted | .retrying | .begun => false
  | _ => true

/-- Whether a start has reported the end of its attempts, and is still to arm the schedule or to report it. -/
def Starting.hasEnded : Starting → Bool
  | .completed | .arming | .armed => true
  | _ => false

/-- Whether a shutdown is at its unbind attempts or behind them. -/
def Stopping.unbinds : Stopping → Bool
  | .fresh | .closing | .entered | .draining | .drained => false
  | _ => true

theorem Starting.Move.done {b : Binder} {s t : State} {p q : Starting} {e : Option Event} (h : p.Move b s e q t)
    (hp : p.isDone = true) : q.isDone = true := by
  cases h <;> first | rfl | cases hp

theorem Starting.Move.hasEnded {b : Binder} {s t : State} {p q : Starting} {e : Option Event} (h : p.Move b s e q t)
    (hq : q.hasEnded = true) : p.hasEnded = true ∨ ∃ bound n, e = some (.startupCompleted bound n) := by
  cases h with
  | complete bound n => exact .inr ⟨bound, n, rfl⟩
  | _ => first | exact .inl rfl | cases hq

/-- Once shutdown has begun, a start begins no attempt and does not come to arm the schedule. -/
theorem Starting.Move.of_terminal {b : Binder} {s t : State} {p q : Starting} {e : Option Event} (h : p.Move b s e q t)
    (hs : s.status.phase.isTerminal = true) : q ≠ .begun ∧ q ≠ .arming := by
  cases h with
  | attempt h => rw [hs] at h; cases h
  | goOn h => rw [hs] at h; cases h
  | _ => exact ⟨nofun, nofun⟩

theorem Starting.isDone_of_phase {b : Binder} {p q : Starting} {phase : Phase}
    (h : p.next? b (.own (.control .phase)) phase = some q) (hphase : phase.isTerminal = true) : q.isDone = true := by
  cases p <;> simp only [next?, hphase, if_true, Option.some.injEq, reduceCtorEq] at h <;> subst h <;> rfl

theorem Starting.eq_arming_of_arm {b : Binder} {p q : Starting} {delay : Nat} {arms : Bool}
    (h : p.next? b (.own (.control (.arm delay))) arms = some q) : p = .arming := by
  cases p <;> first | rfl | cases h

theorem Stopping.Move.unbinds {s t : State} {p q : Stopping} {e : Option Event} (h : p.Move s e q t)
    (hp : p.unbinds = true) : q.unbinds = true := by
  cases h <;> first | rfl | cases hp

/-- **Once a shutdown is at its unbind attempts, nothing else can ask for an attachment.** -/
theorem Valid.not_attach {c : Cast} {s : State} {n : Nat} {role : Role} {call : Call} (hv : Valid c s)
    (hd : c.shutdown.unbinds = true) (h : c.MayCall n role call) : call.isAttach = false := by
  have hlate : c.shutdown.isLate = true ∧ c.shutdown.isOutside = false ∧ c.shutdown ≠ .draining := by
    cases hcd : c.shutdown <;> simp_all [Stopping.unbinds, Stopping.isLate, Stopping.isOutside]
  cases role with
  | periodic =>
    obtain ⟨ht, -⟩ := h
    have hs := hv.scheduled
    have hgoes : c.task.goesOn = true ∧ c.task ≠ .unarmed := by rcases ht with h | h <;> simp [h, Tasking.goesOn]
    cases hst : s.schedule with
    | idle => rw [hst] at hs; exact absurd hs.1 hgoes.2
    | armed _ => rw [hst] at hs; exact absurd hlate.1 (by simp [hs.2.2])
    | cancelled => rw [hst] at hs; exact absurd hs.2.2 hlate.2.2
    | exited => rw [hst] at hs; exact absurd hgoes.1 (by simp [hs.1, Tasking.goesOn])
  | operation op =>
    cases op with
    | start =>
      obtain ⟨-, hp, -⟩ := h
      have hw : c.start.works = true := by rcases hp with ⟨h, -⟩ | ⟨h, -⟩ <;> rw [h] <;> rfl
      exact absurd (hv.works hw) (by simp [hlate.2.1])
    | shutdown => exact h.2
    | _ => exact h.elim

/-! ## The invariant -/

/-- What holds since a shutdown began, of the lines before and after that. -/
structure Since (c : Cast) (before after : List Line) : Prop where
  closing : c.shutdown ≠ .fresh
  done : ∀ f ∈ after, f.role = .operation .start → f.readsPhase = true → c.start.isDone = true
  notBegun : ∀ f ∈ after, f.role = .operation .start → f.isCall = false → c.starter = some f.number → c.start ≠ .begun
  notArming : (∀ f ∈ before, f.endsStartup = false) → c.start ≠ .arming
  reads : after.Pairwise fun f g =>
    f.role = .operation .start ∧ f.readsPhase = true → ¬ (g.role = .operation .start ∧ g.isCall = true)
  views : after.Pairwise fun f g =>
    f.role = .operation .start ∧ f.isCall = false ∧ f.number = g.number →
      ¬ (g.role = .operation .start ∧ g.isView = true)
  idle : (∀ f ∈ before, f.endsStartup = false) → ∀ f ∈ after, f.arms = false

/-- What the log says about the positions, and that it is as it should be so far. -/
structure Hushed (c : Cast) (log : List Line) : Prop where
  unbinds : ∀ e ∈ log, e.role = .operation .shutdown → e.isCall = true → c.shutdown.unbinds = true
  ended : c.start.hasEnded = true → ∃ e ∈ log, e.endsStartup = true
  attach : log.Pairwise fun e f => e.role = .operation .shutdown ∧ e.isCall = true → f.isAttach = false
  since : ∀ before e after, log = before ++ e :: after → e.beginsShutdown = true → Since c before after

/-- What one line of the log and the move that goes with it must be like. -/
structure Hushes (c c' : Cast) (l : Line) : Prop where
  unbinds : c.shutdown.unbinds = true ∨ l.role = .operation .shutdown ∧ l.isCall = true → c'.shutdown.unbinds = true
  ended : c'.start.hasEnded = true → c.start.hasEnded = true ∨ l.endsStartup = true
  attach : c.shutdown.unbinds = true → l.isAttach = false
  closing : c.shutdown ≠ .fresh ∨ l.beginsShutdown = true → c'.shutdown ≠ .fresh
  begins : l.beginsShutdown = true → c'.start = c.start
  done : c.start.isDone = true → c'.start.isDone = true
  read : c.shutdown ≠ .fresh → l.role = .operation .start → l.readsPhase = true → c'.start.isDone = true
  call : l.role = .operation .start → l.isCall = true → c.start.isDone = false
  view : l.role = .operation .start → l.isView = true → c.starter = some l.number ∧ c.start = .begun
  begun : c.shutdown ≠ .fresh → c'.start = .begun →
    c.start = .begun ∧ c'.starter = c.starter ∧ (l.role = .operation .start → l.isCall = false → c.starter ≠ some l.number)
  arming : c.shutdown ≠ .fresh → c'.start = .arming → c.start = .arming
  arms : l.arms = true → c.start = .arming

theorem hushed_initial : Hushed .initial [] where
  unbinds _ he := absurd he List.not_mem_nil
  ended h := Bool.noConfusion h
  attach := .nil
  since before e after h := by simp at h

theorem Since.concat {c c' : Cast} {before after : List Line} {l : Line} (h : Since c before after)
    (hl : Hushes c c' l) : Since c' before (after ++ [l]) := by
  have hlast : ∀ {P : Line → Prop}, (∀ f ∈ after, P f) → P l → ∀ f ∈ after ++ [l], P f := fun ha hn f hf => by
    rcases List.mem_append.1 hf with hf | hf
    · exact ha f hf
    · rw [List.mem_singleton.1 hf]
      exact hn
  have hpairwise : ∀ {R : Line → Line → Prop}, after.Pairwise R → (∀ f ∈ after, R f l) → (after ++ [l]).Pairwise R :=
    fun ha hn => List.pairwise_append.2 ⟨ha, List.pairwise_singleton _ _, fun f hf g hg => by
      rw [List.mem_singleton.1 hg]
      exact hn f hf⟩
  refine ⟨hl.closing (.inl h.closing), ?_, ?_, ?_, ?_, ?_, ?_⟩
  -- first the positions, which the move keeps out of reach, and then the pairs, of which only those with `l` are new
  · exact hlast (fun f hf hr hp => hl.done (h.done f hf hr hp)) (hl.read h.closing)
  · refine hlast (fun f hf hr ha hs hb => ?_) (fun hr ha hs hb => ?_)
    · obtain ⟨hb, heq, -⟩ := hl.begun h.closing hb
      exact h.notBegun f hf hr ha (heq ▸ hs) hb
    · obtain ⟨-, heq, hne⟩ := hl.begun h.closing hb
      exact hne hr ha (heq ▸ hs)
  · exact fun hb ha => h.notArming hb (hl.arming h.closing ha)
  · refine hpairwise h.reads fun f hf ⟨hr, hp⟩ ⟨hr', hc⟩ => ?_
    have hdone := h.done f hf hr hp
    rw [hl.call hr' hc] at hdone
    cases hdone
  · refine hpairwise h.views fun f hf ⟨hr, ha, hn⟩ ⟨hr', hv⟩ => ?_
    obtain ⟨hs, hb⟩ := hl.view hr' hv
    exact h.notBegun f hf hr ha (hn ▸ hs) hb
  · refine fun hb => hlast (h.idle hb) ?_
    by_contra ha
    exact h.notArming hb (hl.arms (by simpa using ha))

theorem Hushed.concat {c c' : Cast} {log : List Line} {l : Line} (h : Hushed c log) (hl : Hushes c c' l) :
    Hushed c' (log ++ [l]) := by
  refine ⟨?_, ?_, ?_, ?_⟩
  · intro e he hr hc
    rcases List.mem_append.1 he with he | he
    · exact hl.unbinds (.inl (h.unbinds e he hr hc))
    · obtain rfl := List.mem_singleton.1 he
      exact hl.unbinds (.inr ⟨hr, hc⟩)
  · intro hc
    rcases hl.ended hc with hc | he
    · obtain ⟨e, he, hs⟩ := h.ended hc
      exact ⟨e, List.mem_append_left _ he, hs⟩
    · exact ⟨l, List.mem_append_right _ List.mem_cons_self, he⟩
  · refine List.pairwise_append.2 ⟨h.attach, List.pairwise_singleton _ _, fun e he f hf ⟨hr, hc⟩ => ?_⟩
    rw [List.mem_singleton.1 hf]
    exact hl.attach (h.unbinds e he hr hc)
  · intro before e after hlog he
    rcases eq_concat_cases hlog with ⟨rfl, rfl, rfl⟩ | ⟨rest, rfl, hinit⟩
    · -- shutdown begins with the new line
      have hnone : ∀ {P : Line → Prop}, ∀ f ∈ ([] : List Line), P f := fun f hf => absurd hf List.not_mem_nil
      refine ⟨hl.closing (.inr he), hnone, hnone, fun hb ha => ?_, .nil, .nil, fun _ => hnone⟩
      rw [hl.begins he] at ha
      obtain ⟨f, hf, hs⟩ := h.ended (by rw [ha]; rfl)
      rw [hb f hf] at hs
      cases hs
    · exact (h.since before e rest hinit he).concat hl

/-! ## Every move is hushed -/

section Moves

variable {b : Binder} {x : Scene} {c : Cast} {n : Nat} {role : Role}

theorem eq_of_readsPhase {r : Request} {reply : r.Reply}
    (h : (Line.mk n role (.answered r reply)).readsPhase = true) : r = .own (.control .phase) := by
  simp only [Line.readsPhase] at h
  split at h
  · rename_i heq
    cases heq
    rfl
  · cases h

theorem eq_of_beginsShutdown {r : Request} {reply : r.Reply}
    (h : (Line.mk n role (.answered r reply)).beginsShutdown = true) : r = .own (.control .beginShutdown) := by
  simp only [Line.beginsShutdown] at h
  split at h
  · rename_i heq
    cases heq
    rfl
  · cases h

theorem eq_of_arms {r : Request} {reply : r.Reply} (h : (Line.mk n role (.answered r reply)).arms = true) :
    ∃ delay, r = .own (.control (.arm delay)) := by
  simp only [Line.arms] at h
  split at h
  · rename_i heq
    cases heq
    exact ⟨_, rfl⟩
  · cases h

theorem hushes_issue {call : Call} (hv : Valid c x.own) (h : c.MayCall n role call) :
    Hushes c c ⟨n, role, .issued call⟩ where
  unbinds hc := by
    rcases hc with hc | ⟨hr, -⟩
    · exact hc
    · obtain rfl : role = .operation .shutdown := hr
      rw [h.1]
      rfl
  ended := .inl
  attach hd := hv.not_attach hd h
  closing hc := hc.elim id nofun
  begins := nofun
  done hd := hd
  read _ _ := nofun
  call hr _ := by
    obtain rfl : role = .operation .start := hr
    rcases h.2.1 with ⟨hp, -⟩ | ⟨hp, -⟩ <;> rw [hp] <;> rfl
  view hr hview := by
    obtain rfl : role = .operation .start := hr
    obtain rfl : call = .metadata := by simpa [Line.isView] using hview
    exact ⟨h.1, h.2.1.elim And.left fun hp => absurd rfl hp.2⟩
  begun _ hb := ⟨hb, rfl, fun _ => nofun⟩
  arming _ ha := ha
  arms := nofun

theorem hushes_refuse {r : Request} {reply : r.Reply} (h : c.Refuses n role r reply) :
    Hushes c c ⟨n, role, .answered r reply⟩ := by
  cases h with
  | start hs =>
    exact ⟨fun hc => hc.elim id nofun, .inl, fun _ => rfl, fun hc => hc.elim id nofun, nofun, id, fun _ _ => nofun,
      fun _ => nofun, fun _ => nofun, fun _ hb => ⟨hb, rfl, fun _ _ => hs⟩, fun _ ha => ha, nofun⟩
  | shutdown hs =>
    exact ⟨fun hc => hc.elim id nofun, .inl, fun _ => rfl, fun hc => hc.elim id nofun, nofun, id, fun _ => nofun,
      nofun, nofun, fun _ hb => ⟨hb, rfl, nofun⟩, fun _ ha => ha, nofun⟩

theorem hushes_start {r : Request} {reply : r.Reply} {own : State} {q : Starting} (hv : Valid c x.own)
    (hq : c.start.next? b r reply = some q) (ha : x.Answers r reply own) :
    Hushes c { c with start := q, starter := some n } ⟨n, .operation .start, .answered r reply⟩ := by
  have hmove := Starting.move_of_next? hq ha
  have hnot : (Line.mk n (.operation .start) (.answered r reply)).beginsShutdown = true → False := fun h => by
    obtain rfl := eq_of_beginsShutdown h
    cases hp : c.start <;> rw [hp] at hq <;> cases hq
  refine ⟨fun hc => hc.elim id nofun, fun hc => ?_, fun _ => rfl, fun hc => hc.elim id (absurd · hnot),
    fun h => (hnot h).elim, hmove.done, fun hc _ hr => ?_, fun _ => nofun, fun _ => nofun, fun hc hb => ?_,
    fun hc hb => ?_, fun h => ?_⟩
  · refine (hmove.hasEnded hc).imp_right fun ⟨bound, k, he⟩ => ?_
    simp only [Line.endsStartup, Line.event?, he]
  · obtain rfl := eq_of_readsPhase hr
    obtain ⟨rfl, -⟩ := Scene.answers_phase.1 ha
    exact Starting.isDone_of_phase hq (hv.closing.2 hc)
  · exact absurd hb (hmove.of_terminal (hv.closing.2 hc)).1
  · exact absurd hb (hmove.of_terminal (hv.closing.2 hc)).2
  · obtain ⟨delay, rfl⟩ := eq_of_arms h
    exact Starting.eq_arming_of_arm hq

theorem hushes_shutdown {r : Request} {reply : r.Reply} {own : State} {q : Stopping}
    (hq : c.shutdown.next? r reply = some q) (ha : x.Answers r reply own) :
    Hushes c { c with shutdown := q, closer := some n } ⟨n, .operation .shutdown, .answered r reply⟩ := by
  have hmove := Stopping.move_of_next? hq ha
  have hnot : (Line.mk n (.operation .shutdown) (.answered r reply)).arms = true → False := fun h => by
    obtain ⟨delay, rfl⟩ := eq_of_arms h
    cases hp : c.shutdown <;> rw [hp] at hq <;> cases hq
  exact ⟨fun hc => hc.elim hmove.unbinds nofun, .inl, fun _ => rfl, fun _ => hmove.ne_fresh, fun _ => rfl, id,
    fun _ => nofun, nofun, nofun, fun _ hb => ⟨hb, rfl, nofun⟩, fun _ ha => ha, fun h => (hnot h).elim⟩

theorem hushes_task {r : Request} {reply : r.Reply} {q : Tasking} (hq : c.task.next? b r reply = some q) :
    Hushes c { c with task := q } ⟨n, .periodic, .answered r reply⟩ := by
  have hnot : (Line.mk n .periodic (.answered r reply)).beginsShutdown = true → False := fun h => by
    obtain rfl := eq_of_beginsShutdown h
    cases hp : c.task <;> rw [hp] at hq <;> cases hq
  have hidle : (Line.mk n .periodic (.answered r reply)).arms = true → False := fun h => by
    obtain ⟨delay, rfl⟩ := eq_of_arms h
    cases hp : c.task <;> rw [hp] at hq <;> cases hq
  exact ⟨fun hc => hc.elim id nofun, .inl, fun _ => rfl, fun hc => hc.elim id (absurd · hnot), fun _ => rfl, id,
    fun _ => nofun, nofun, nofun, fun _ hb => ⟨hb, rfl, nofun⟩, fun _ ha => ha, fun h => (hidle h).elim⟩

theorem Hushed.moves {y : Scene} {c' : Cast} (hv : Valid c x.own) (h : Hushed c x.log) (hm : c.Moves b x c' y) :
    Hushed c' y.log := by
  cases hm with
  | still => exact h
  | issue n a call hcall => exact h.concat (hushes_issue hv hcall)
  | refuse n a r reply p hr => exact h.concat (hushes_refuse hr)
  | start n a r reply p own q hrole hq ha => exact h.concat (hrole ▸ hushes_start hv hq ha)
  | shutdown n a r reply p own q hrole hq ha => exact h.concat (hrole ▸ hushes_shutdown hq ha)
  | task n a r reply p own q hrole hq ha => exact h.concat (hrole ▸ hushes_task hq)

end Moves

/-- **No late attach.**  In a run that only starts, shuts down and looks, whatever the collaborators answer and when:
after a call of a shutdown nobody asks for an attachment.  And since a shutdown began, a start that has read the phase
calls nobody any more, a start that has had any answer begins no attempt that reaches a collaborator, and no schedule is
armed by a start whose attempts had not ended before. -/
theorem Scene.Reaches.no_late_attach {b : Binder} {acts : List Act} {x : Scene} (h : Reaches b acts x)
    (hacts : ∀ act ∈ acts, act.isLifecycle = true) :
    (x.log.Pairwise fun e f => e.role = .operation .shutdown ∧ e.isCall = true → f.isAttach = false) ∧
      ∀ before e after, x.log = before ++ e :: after → e.beginsShutdown = true →
        (after.Pairwise fun f g =>
          f.role = .operation .start ∧ f.readsPhase = true → ¬ (g.role = .operation .start ∧ g.isCall = true)) ∧
        (after.Pairwise fun f g =>
          f.role = .operation .start ∧ f.isCall = false ∧ f.number = g.number →
            ¬ (g.role = .operation .start ∧ g.isView = true)) ∧
        ((∀ f ∈ before, f.endsStartup = false) → ∀ f ∈ after, f.arms = false) := by
  obtain ⟨c, -, -, hc⟩ := h.cast (P := fun c x => Hushed c x.log) hushed_initial (fun _ hv hP hm => hP.moves hv hm) hacts
  refine ⟨hc.attach, fun before e after hlog he => ?_⟩
  obtain ⟨-, -, -, -, hreads, hviews, hidle⟩ := hc.since before e after hlog he
  exact ⟨hreads, hviews, hidle⟩

/-- A start whose first attempt fails, and a shutdown that begins in the pause before the next one. -/
def shutdownInPause : List Act :=
  [.launch .start, .move 1, .move 1, .move 1, .move 1, .move 1, .answer 1 .metadata (.error (.identity "down")), .move 1,
    .launch .shutdown, .move 2, .tick 1000, .move 1, .move 1, .look, .move 1, .move 1, .move 1, .move 2, .move 2, .move 2]

theorem no_late_attach_in_pause : ∃ x, Scene.Reaches ⟨.default, "memory"⟩ shutdownInPause x ∧
    (x.log.any fun e => e.role = .operation .shutdown ∧ e.isCall = true) = true ∧
    (x.log.any fun e => e.beginsShutdown) = true ∧
    x.log.Pairwise fun e f => e.role = .operation .shutdown ∧ e.isCall = true → f.isAttach = false := by
  have hsome : ((Scene.initial ⟨.default, "memory"⟩).run? ⟨.default, "memory"⟩ shutdownInPause).any (fun x =>
      (x.log.any fun e => e.role = .operation .shutdown ∧ e.isCall = true) && x.log.any fun e => e.beginsShutdown) = true := by
    rfl
  obtain ⟨x, hx, hlog⟩ := Option.any_eq_true _ _ |>.1 hsome
  obtain ⟨hcall, hbegin⟩ := Bool.and_eq_true_iff.1 hlog
  exact ⟨x, hx, hcall, hbegin, (Scene.Reaches.no_late_attach hx (by decide)).1⟩

end Lifecycle
end AddressBinder
