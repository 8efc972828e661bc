import AddressBinder.Proofs.Lifecycle.Follow
/-!
# Prompt runs

A run is prompt if the clock moves on only while all activities wait, as if what they do took no time.  In a prompt run the
periodic task sleeps until the arming of the schedule is reported (`Timely.moves`): a start that has armed the schedule
waits for nothing before it reports so, and the delay of an acceptable binder is never zero.
-/
namespace AddressBinder
namespace Lifecycle

variable {b : Binder} {c : Cast} {s t : State}

/-! ## Promptness -/

/-- Whether the clock moves on with an act only if all activities wait. -/
def Scene.clockWaits (x : Scene) : Act → Bool
  | .tick time => x.time = time || x.activities.all Activity.isWaiting
  | _ => true

/-- Whether whatever can go on goes on before the clock does, all along a run. -/
def Scene.isPrompt (b : Binder) : Scene → List Act → Bool
  | _, [] => true
  | x, act :: acts => x.clockWaits act && (x.step? b act).all fun y => y.isPrompt b acts

theorem Scene.isPrompt_concat {acts : List Act} {act : Act} {x y : Scene} (h : x.run? b acts = some y)
    (hp : x.isPrompt b (acts ++ [act]) = true) : x.isPrompt b acts = true ∧ y.clockWaits act = true := by
  induction acts generalizing x with
  | nil =>
    obtain rfl := Option.some.inj h
    exact ⟨rfl, (Bool.and_eq_true_iff.1 hp).1⟩
  | cons first acts ih =>
    obtain ⟨z, hz, hrun⟩ := Option.bind_eq_some_iff.1 h
    simp only [List.cons_append, isPrompt, hz, Option.all_some, Bool.and_eq_true] at hp ⊢
    obtain ⟨hrest, hlast⟩ := ih hrun hp.2
    exact ⟨⟨hp.1, hrest⟩, hlast⟩

theorem Scene.Turn.time {x y : Scene} {act : Act} (h : x.Turn b act y) (hw : x.clockWaits act = true) :
    y.time = x.time ∨ x.activities.all Activity.isWaiting = true := by
  cases h with
  | aside time channel received hle htick =>
    rcases htick with htick | rfl
    · exact .inl htick.symm
    · exact (Bool.or_eq_true_iff.1 hw).imp (fun h => (of_decide_eq_true h).symm) id
  | _ => exact .inl rfl

/-! ## The sleep of the periodic task -/

/-- Whether no pass can begin before the clock moves on. -/
def Tasking.Asleep (time : Nat) : Tasking → Prop
  | .unarmed => True
  | .waking delay => 0 < delay
  | .dozing due => time < due
  | _ => False

/-- Until the arming of the schedule is reported, the periodic task sleeps. -/
structure Timely (c : Cast) (x : Scene) : Prop where
  delay : ∀ d, x.own.schedule = .armed d → 0 < d
  asleep : c.start = .armed → c.task.Asleep x.time

theorem Starting.Move.schedule {p q : Starting} {e : Option Event} (h : p.Move b s e q t) :
    (q = .armed → s.schedule = .idle) ∧
      (t.schedule = s.schedule ∨ t.schedule = .armed b.config.unboundInterval) := by
  cases h with
  | arm h => exact ⟨fun _ => h, .inr rfl⟩
  | work h | noneFree _ h | attach _ _ _ h | complete _ _ _ h | report h => exact ⟨nofun, .inl h.schedule⟩
  | _ => exact ⟨nofun, .inl rfl⟩

theorem Stopping.Move.schedule {p q : Stopping} {e : Option Event} (h : p.Move s e q t) :
    t.schedule = s.schedule ∨ t.schedule = .cancelled := by
  cases h with
  | cancel => exact .inr rfl
  | report h | work h | detach _ _ h | finish h => exact .inl h.schedule
  | _ => exact .inl rfl

theorem Tasking.Move.schedule {time : Nat} {p q : Tasking} {e : Option Event} (h : p.Move b time s e q t) :
    t.schedule = s.schedule ∨ t.schedule = .exited := by
  cases h with
  | exit => exact .inr rfl
  | work _ h | resync _ h | noneFree _ h | attach _ _ _ h | completeBound h | completeUnbound h | fail _ _ h =>
    exact .inl h.schedule
  | _ => exact .inl rfl

/-- A task that sleeps at a schedule armed with a delay sleeps on. -/
theorem Tasking.Move.asleep {time d : Nat} {p q : Tasking} {e : Option Event} (h : p.Move b time s e q t)
    (hp : p.Asleep time) (hs : s.schedule = .armed d) (hd : 0 < d) : q.Asleep time := by
  cases h with
  | wake delay h =>
    rw [hs] at h
    rcases h with h | h
    · obtain rfl := Schedule.Stage.armed.inj h
      exact hd
    · cases h
  | doze delay =>
    have hmin : 0 < Nat.min delay Clock.longestWait := Nat.lt_min.2 ⟨hp, by decide⟩
    show time < time + Nat.min delay Clock.longestWait
    omega
  | start due hdue => exact absurd hdue (Nat.not_le.2 hp)
  | cancel due h =>
    rw [hs] at h
    cases h
  | work hfrom => rcases hfrom with rfl | rfl | rfl <;> exact hp.elim
  | fail text hfrom => rcases hfrom with rfl | rfl <;> exact hp.elim
  | _ => exact hp.elim

/-! ## The report of the arming -/

theorem mayWait_armed : ∀ {r : Request}, (∀ reply, ∃ q, Starting.armed.next? b r reply = some q) →
    Request.mayWait r = false
  | .call _, _ => rfl
  | .clock .now, _ => rfl
  | .own (.note _), _ => rfl
  | .clock (.wait _), h => by obtain ⟨q, hq⟩ := h (); cases hq
  | .own (.control c), h => by
    cases c with
    | acquire => obtain ⟨q, hq⟩ := h (); cases hq
    | awaitExit => obtain ⟨q, hq⟩ := h (); cases hq
    | _ => rfl
  | .own (.task t), h => by
    cases t with
    | awaitArmed => obtain ⟨q, hq⟩ := h (0 : Nat); cases hq
    | nap due => obtain ⟨q, hq⟩ := h true; cases hq
    | _ => rfl

/-- **While the arming is to be reported, the clock stands**: the report waits for nothing. -/
theorem Fits.awake {x : Scene} (hf : Fits b x c) (h : c.start = .armed) :
    x.activities.all Activity.isWaiting = false := by
  cases hs : c.starter with
  | none =>
    rw [hf.unstarted.1 hs] at h
    cases h
  | some n =>
    obtain ⟨⟨role, program, pending⟩, ha, hrole⟩ := hf.starter hs
    obtain rfl : role = .operation .start := hrole
    obtain ⟨p, hat, hk⟩ := hf.stands ha
    rw [Cast.StartAt, if_pos hs, h] at hat
    subst hat
    refine List.all_eq_false.2 ⟨_, List.mem_of_getElem? ha, ?_⟩
    cases program with
    | done f =>
      cases f with
      | operation _ => cases hk
      | round _ => exact hk.elim
    | ask r k =>
      have hpending : pending = false := by
        by_contra hp
        obtain ⟨call, k', heq⟩ := hf.calls ha (by simpa using hp)
        cases heq
        obtain ⟨t, ht, -⟩ := hk (.error (.other ""))
        cases ht
      have hmay := mayWait_armed fun reply => (hk reply).imp fun _ h => h.1
      simp [Activity.isWaiting, hpending, hmay]

theorem unboundInterval_pos {config : Config} {backend : String} (h : Binder.new config backend = .ok b) :
    0 < b.config.unboundInterval := by
  unfold Binder.new at h
  split at h
  · cases h
  · rename_i hvalid
    obtain rfl := Except.ok.inj h
    by_contra hzero
    have hzero : config.unboundInterval = 0 := Nat.eq_zero_of_not_pos hzero
    unfold Config.validate at hvalid
    split at hvalid
    · cases hvalid
    · split at hvalid <;> cases hvalid

/-- **While the clock waits for the activities, no pass begins before the arming of the schedule is reported.** -/
theorem Timely.moves {x y : Scene} {c' : Cast} (hb : 0 < b.config.unboundInterval) (hf : Fits b x c)
    (hv : Valid c x.own) (h : Timely c x) (hm : c.Moves b x c' y)
    (hwait : y.time = x.time ∨ x.activities.all Activity.isWaiting = true) : Timely c' y := by
  cases hm with
  | still time channel activities received hle =>
    refine ⟨h.delay, fun hc => ?_⟩
    rcases hwait with rfl | hwait
    · exact h.asleep hc
    · rw [hf.awake hc] at hwait
      cases hwait
  | issue => exact ⟨h.delay, h.asleep⟩
  | refuse => exact ⟨h.delay, h.asleep⟩
  | start n a r reply p own q hrole hq ha =>
    obtain ⟨hidle, hsched⟩ := (Starting.move_of_next? hq ha).schedule
    refine ⟨fun d hd => ?_, fun hc => ?_⟩
    · rcases hsched with hs | hs
      · exact h.delay d (hs ▸ hd)
      · obtain rfl := Schedule.Stage.armed.inj (hs.symm.trans hd)
        exact hb
    · have htask := hv.scheduled
      rw [hidle hc] at htask
      show c.task.Asleep x.time
      rw [htask.1]
      trivial
  | shutdown n a r reply p own q hrole hq ha =>
    refine ⟨fun d hd => ?_, h.asleep⟩
    rcases (Stopping.move_of_next? hq ha).schedule with hs | hs
    · exact h.delay d (hs ▸ hd)
    · cases hs.symm.trans hd
  | task n a r reply p own q hrole hq ha =>
    have hmove := Tasking.move_of_next? hq ha
    refine ⟨fun d hd => ?_, fun hc => ?_⟩
    · rcases hmove.schedule with hs | hs
      · exact h.delay d (hs ▸ hd)
      · cases hs.symm.trans hd
    · have hc : c.start = .armed := hc
      have hs := hv.scheduled
      rw [hc] at hs
      cases hst : x.own.schedule with
      | idle => rw [hst] at hs; exact absurd rfl hs.2.1
      | armed d => exact hmove.asleep (h.asleep hc) hst (h.delay d hst)
      | cancelled => rw [hst] at hs; cases hs.2.1
      | exited => rw [hst] at hs; cases hs.2.1

end Lifecycle
end AddressBinder
