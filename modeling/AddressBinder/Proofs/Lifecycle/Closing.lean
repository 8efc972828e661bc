import AddressBinder.Proofs.Lifecycle.Follow
import AddressBinder.Proofs.Lifecycle.Knowledge
/-!
# A life and its end

A binder that only starts and makes passes, and is shut down when these operations have ended.  While it is up, nothing
but the periodic task and the arming of the schedule matters to who may call when (`Up`); afterwards the shutdown and
the task are alone, and the task is over before the shutdown calls for anything (`Down.resume`).  A shutdown that was not
forestalled does not end before it knows that nothing is held, or that a call has failed (`Finding.Settles`).
-/
namespace AddressBinder
namespace Lifecycle

open Program

/-! ## Operations before a shutdown -/

/-- Whether a request has nothing to do with a shutdown, and does not speak for the periodic task. -/
def Request.isCivil : Request → Bool
  | .own (.note (.observe .stopped)) => false
  | .own (.control .beginShutdown) => false
  | .own (.control .disarm) => false
  | .own (.control .awaitExit) => false
  | .own (.task _) => false
  | _ => true

def civil : Protocol lifecycle Unit := fun _ r _ => if r.isCivil then some () else none

def isCivilOperation : Operation → Bool
  | .start | .runPass => true
  | _ => false

variable {b : Binder} {r : Request} {reply : r.Reply}

theorem isCivil_of_civil {s t : Unit} (h : civil s r reply = some t) : r.isCivil = true := by
  unfold civil at h
  split at h
  · assumption
  · cases h

theorem Starting.isCivil {p q : Starting} (h : p.next? b r reply = some q) : r.isCivil = true := by
  cases p with
  | finished => cases h
  | _ =>
    simp only [next?] at h
    split at h
    all_goals first | rfl | cases h

theorem Tasking.isCivil_withinPass {p q : Tasking} : ∀ {r : pass.Request} {reply : pass.Reply r},
    withinPass (Tasking.next? b) p r reply = some q → withinPass civil () r reply = some ()
  | .call _, _, _ => rfl
  | .note (.emit _), _, _ => rfl
  | .note (.observe o), _, h => by
    have ho : o ≠ .stopped := by
      rintro rfl
      cases p <;> cases h
    cases o with
    | stopped => exact absurd rfl ho
    | _ => rfl

theorem civil_ofOperation {op : Operation} (hop : isCivilOperation op = true) :
    (Activity.ofOperation b op).program.Keeps civil (OperationFinish ()) () := by
  cases op with
  | start =>
    refine keeps_operation ((keeps_start.map (f := fun _ => ()) ?_).mono fun _ _ _ => rfl)
    intro s r reply t h
    exact if_pos (Starting.isCivil h)
  | runPass =>
    refine keeps_operation (keeps_ofPass ((keeps_periodic.map (f := fun _ => ()) ?_).mono fun _ _ _ => rfl))
    intro s r reply t h
    exact Tasking.isCivil_withinPass h
  | _ => cases hop

/-- Such a request does not shut the binder down, and does no more to the schedule than to arm it. -/
theorem Scene.answers_civil {x : Scene} {own : State} : ∀ {r : Request} {reply : r.Reply}, x.Answers r reply own →
    r.isCivil = true → own.status.phase.isTerminal = x.own.status.phase.isTerminal ∧
      (own.schedule = x.own.schedule ∨ x.own.schedule = .idle ∧ ∃ delay, own.schedule = .armed delay)
  | .call _, _, ha, _ => by
    obtain rfl := Scene.answers_call.1 ha
    exact ⟨rfl, .inl rfl⟩
  | .clock _, _, ha, _ => by
    obtain ⟨-, rfl⟩ := Scene.answers_clock.1 ha
    exact ⟨rfl, .inl rfl⟩
  | .own (.note n), _, ha, hr => by
    obtain rfl := Scene.answers_note.1 ha
    have hn : n ≠ .observe .stopped := by
      rintro rfl
      cases hr
    have halike : Alike x.own (x.own.note x.time n) := .note _ _ hn
    exact ⟨halike.terminal, .inl halike.schedule⟩
  | .own (.task _), _, _, hr => by cases hr
  | .own (.control .markStarted), _, ha, _ => by
    obtain ⟨-, rfl⟩ := Scene.answers_markStarted.1 ha
    exact ⟨rfl, .inl rfl⟩
  | .own (.control .phase), _, ha, _ => by
    obtain ⟨-, rfl⟩ := Scene.answers_phase.1 ha
    exact ⟨rfl, .inl rfl⟩
  | .own (.control .acquire), _, ha, _ => by
    obtain ⟨-, rfl⟩ := Scene.answers_acquire.1 ha
    exact ⟨rfl, .inl rfl⟩
  | .own (.control .release), _, ha, _ => by
    obtain rfl := Scene.answers_release.1 ha
    exact ⟨rfl, .inl rfl⟩
  | .own (.control (.arm delay)), arms, ha, _ => by
    obtain ⟨harms, rfl⟩ := Scene.answers_arm.1 ha
    cases arms with
    | false => exact ⟨rfl, .inl rfl⟩
    | true =>
      have hidle : x.own.schedule = .idle := by simpa using harms.symm
      exact ⟨rfl, .inr ⟨hidle, delay, rfl⟩⟩
  | .own (.control .beginShutdown), _, _, hr => by cases hr
  | .own (.control .disarm), _, _, hr => by cases hr
  | .own (.control .awaitExit), _, _, hr => by cases hr

/-! ## While the binder is up -/

/-- Where an activity stands while the binder is up and its periodic task is at the position `t`. -/
def UpAt (b : Binder) (t : Tasking) (n : Nat) (a : Activity) : Prop :=
  match a.role with
  | .periodic => n = 0 ∧ a.program.Keeps (Tasking.next? b) RoundFinish t
  | .operation op => isCivilOperation op = true ∧ a.program.Keeps civil (OperationFinish ()) ()

/-- No shutdown has begun, and all activities are operations before one or the periodic task. -/
structure Up (b : Binder) (x : Scene) (t : Tasking) : Prop where
  phase : x.own.status.phase.isTerminal = false
  scheduled : Scheduled .finished .fresh t x.own.schedule
  stands : ∀ {n : Nat} {a : Activity}, x.activities[n]? = some a → UpAt b t n a

variable {x : Scene} {t : Tasking} {n : Nat} {a : Activity} {own : State} {f : r.Reply → Program lifecycle Finish}

theorem up_initial (b : Binder) : Up b (Scene.initial b) .unarmed where
  phase := rfl
  scheduled := ⟨rfl, nofun, nofun, nofun⟩
  stands {n a} hn := by
    match n, hn with
    | 0, hn =>
      obtain rfl := Option.some.inj hn
      exact ⟨rfl, keeps_ofRound keeps_firstRound⟩
    | _ + 1, hn => cases hn

theorem Up.resume (h : Up b x t) (hn : x.activities[n]? = some a) (hp : a.program = .ask r f)
    (ha : x.Answers r reply own) : ∃ u, Up b (x.resume b n a r reply (f reply) own) u := by
  have hat := h.stands hn
  obtain ⟨role, program, pending⟩ := a
  obtain rfl : program = .ask r f := hp
  cases role with
  | periodic =>
    obtain ⟨rfl, hk⟩ := hat
    obtain ⟨u, hu, hrest⟩ := hk reply
    have hmove := Tasking.move_of_next? hu ha
    obtain ⟨hrole, -, hgo⟩ := goOn_round (b := b) (a := ⟨.periodic, .ask r f, pending⟩) rfl hrest
    refine ⟨u, hmove.frame.2.2.trans h.phase, h.scheduled.task hmove, fun {m a'} hm => ?_⟩
    rcases getElem?_set_cases hm with ⟨rfl, rfl⟩ | ⟨hne, hm⟩
    · unfold UpAt
      rw [hrole]
      exact ⟨rfl, hgo⟩
    · -- only the task itself sees that it has moved
      have hat' := h.stands hm
      obtain ⟨role', program', pending'⟩ := a'
      cases role' with
      | periodic => exact absurd hat'.1 hne
      | operation op => exact hat'
  | operation op =>
    obtain ⟨hop, hk⟩ := hat
    obtain ⟨u, hu, hrest⟩ := hk reply
    obtain ⟨hphase, hschedule⟩ := Scene.answers_civil ha (isCivil_of_civil hu)
    have hgo := goOn_operation (b := b) ⟨.operation op, .ask r f, pending⟩ hrest
    refine ⟨t, hphase.trans h.phase, ?_, fun {m a'} hm => ?_⟩
    · show Scheduled .finished .fresh t own.schedule
      rcases hschedule with hs | ⟨hidle, delay, hs⟩
      · rw [hs]
        exact h.scheduled
      · have hbefore := h.scheduled
        rw [hidle] at hbefore
        obtain rfl := hbefore.1
        rw [hs]
        exact ⟨rfl, rfl, rfl⟩
    · rcases getElem?_set_cases hm with ⟨rfl, rfl⟩ | ⟨-, hm⟩
      · rw [hgo]
        exact ⟨hop, hrest⟩
      · exact h.stands hm

theorem Up.licence (h : Up b x t) (hn : x.activities[n]? = some a) : a.role.licence = .restore := by
  have hat := h.stands hn
  obtain ⟨role, program, pending⟩ := a
  cases role with
  | periodic => rfl
  | operation op => cases op <;> first | rfl | cases hat.1

/-- **The binder stays up as long as no shutdown is launched.** -/
theorem Up.turn {act : Act} {y : Scene} (h : Up b x t) (hact : ∀ op, act = .launch op → isCivilOperation op = true)
    (ht : x.Turn b act y) : ∃ u, Up b y u := by
  cases ht with
  | launch op =>
    refine ⟨t, h.phase, h.scheduled, fun {m a'} hm => ?_⟩
    rcases getElem?_concat_cases hm with ⟨-, rfl⟩ | hm
    · exact ⟨hact op rfl, civil_ofOperation (hact op rfl)⟩
    · exact h.stands hm
  | @issue n a c _ hn hp =>
    refine ⟨t, h.phase, h.scheduled, fun {m a'} hm => ?_⟩
    rcases getElem?_set_cases hm with ⟨rfl, rfl⟩ | ⟨-, hm⟩
    · have hat : UpAt b t m a := h.stands hn
      exact hat
    · exact h.stands hm
  | resume reply own hn hp ha _ => exact h.resume hn hp ha
  | aside => exact ⟨t, h.phase, h.scheduled, h.stands⟩

/-! ## What a shutdown finds out -/

/-- Nothing is held that could be released, or a call has failed. -/
def Finding.Settles : Finding → Prop
  | .viewed candidates me => (Decision.boundInterface? me.interfaces candidates).bind (·.attachmentId) = none
  | .released | .failed => True
  | _ => False

theorem Finding.Settles.aside {w : Finding} (h : w.Settles) : w.aside.Settles := by
  cases w with
  | listed => exact h.elim
  | granted => exact h.elim
  | _ => exact h

theorem settles_of_unbindLeaves {w : Finding} : ∀ {r : Except Error Pass.Unbound}, UnbindLeaves r w → w.Settles
  | .ok .notBound, h => by
    obtain ⟨candidates, me, rfl, hnone⟩ := h
    show (Decision.boundInterface? me.interfaces candidates).bind _ = none
    rw [hnone]
    rfl
  | .ok (.detached ..), h => by
    obtain rfl : w = .released := h
    trivial
  | .error _, h => by
    cases w with
    | viewed candidates me =>
      obtain ⟨i, hi, hid⟩ := h
      show (Decision.boundInterface? me.interfaces candidates).bind _ = none
      rw [hi]
      exact hid
    | failed => trivial
    | _ => cases h

theorem settles_shutdownAttempt (w : Finding) :
    (shutdownAttempt b).Keeps (Finding.next? .release) (fun _ w => w.Settles) w := by
  refine keeps_bind.2 ((keeps_ofPass (finding_unbind w)).mono fun r t ht => ?_)
  have hsettles : t.Settles := settles_of_unbindLeaves ht
  cases r <;> exact hsettles

/-- **A shutdown that makes an attempt ends only when nothing is held or a call has failed.** -/
theorem settles_stopAndUnbind (hb : 0 < b.config.retries) (w : Finding) :
    (stopAndUnbind b).Keeps (Finding.next? .release) (fun _ w => w.Settles) w := by
  have hrun : ∀ w, (Retry.run (policy b) (Clock.sleep clock) fun _ => shutdownAttempt b).Keeps (Finding.next? .release)
      (fun _ w => w.Settles) w := by
    refine Retry.keeps_run_of_pos hb (fun _ w => settles_shutdownAttempt w) fun ms w hw => ?_
    exact .ask (fun _ => w.aside) (fun _ => rfl) fun _ => .ask (fun _ => w.aside.aside) (fun _ => rfl) fun _ => hw.aside.aside
  have hnotes : ∀ w : Finding, w.Settles → ((ofPass (Pass.observe .stopped)).bind fun _ => emit .stopped).Keeps
      (Finding.next? .release) (fun _ w => w.Settles) w := fun w hw =>
    .ask (fun _ => w.aside) (fun _ => rfl) fun _ => .ask (fun _ => w.aside.aside) (fun _ => rfl) fun _ => hw.aside.aside
  refine keeps_bind.2 (((Finding.lenient_next? .release).stopSchedule w).mono fun _ w _ => ?_)
  exact keeps_bind.2 ((hrun w).mono fun _ w hw => hnotes w hw)

theorem settles_closing (hb : 0 < b.config.retries) (w : Finding) :
    (closing b).Keeps (Finding.next? .release) (fun _ w => w.Settles) w := by
  have hrest : ((stopAndUnbind b).bind fun _ => control .release).Keeps (Finding.next? .release) (fun _ w => w.Settles)
      w.aside := keeps_bind.2 ((settles_stopAndUnbind hb w.aside).mono fun _ w hw _ => ⟨w.aside, rfl, hw.aside⟩)
  exact fun _ => ⟨w.aside, rfl, hrest⟩

/-! ## The shutdown and the task -/

/-- Whether a shutdown still has to see to the end of the periodic task. -/
def Stopping.isBefore : Stopping → Bool
  | .fresh | .closing | .entered | .draining | .drained => true
  | _ => false

theorem Stopping.isBefore_of_next? {d d' : Stopping} (h : d.next? r reply = some d') :
    (d.isBefore = true → ∃ o, r = .own o) ∧ (d'.isBefore = true → d.isBefore = true) := by
  cases d with
  | finished => cases h
  | fresh | closing | entered | draining | drained =>
    simp only [next?] at h
    split at h
    · exact ⟨fun _ => ⟨_, rfl⟩, fun _ => rfl⟩
    · cases h
  | unbinding =>
    simp only [next?] at h
    refine ⟨fun hd => (by cases hd), fun hd => ?_⟩
    split at h
    · split at h
      · cases h
      · cases h
        cases hd
    all_goals cases h
    all_goals cases hd
  | detached | stopped | leaving =>
    simp only [next?] at h
    refine ⟨fun hd => (by cases hd), fun hd => ?_⟩
    split at h
    · cases h
      cases hd
    · cases h

/-- **The task is over, or was never armed, when the shutdown is through with it.** -/
theorem Scheduled.over_of_not_isBefore {d : Stopping} {stage : Schedule.Stage} (h : Scheduled .finished d t stage)
    (hd : d.isBefore = false) : t = .unarmed ∨ t = .finished := by
  cases stage with
  | idle => exact .inl h.1
  | armed _ =>
    have hlate : d.isLate = false := h.2.2
    cases d <;> simp_all [Stopping.isBefore, Stopping.isLate]
  | cancelled =>
    rw [h.2.2] at hd
    cases hd
  | exited => exact .inr h.1

/-- Where a shutdown stands that was not forestalled, and what it has found out. -/
inductive Closing (b : Binder) (own : State) (p : Program lifecycle Finish) : Stopping → Finding → Prop where
  | fresh (hp : p = (Activity.ofOperation b .shutdown).program) (hphase : own.status.phase.isTerminal = false) :
      Closing b own p .fresh .nothing
  | begun {d : Stopping} {w : Finding} (hd : d ≠ .fresh) (hp : p.Keeps Stopping.next? (OperationFinish .finished) d)
      (hw : p.Keeps (Finding.next? .release) (fun _ w => w.Settles) w) (hbefore : d.isBefore = true → w = .nothing) :
      Closing b own p d w

section Closing

variable {d : Stopping} {w : Finding} {p : Program lifecycle Finish} {s s' : State}

theorem Closing.alike (h : Closing b s p d w) (hs : s'.status.phase.isTerminal = s.status.phase.isTerminal) :
    Closing b s' p d w := by
  cases h with
  | fresh hp hphase => exact .fresh hp (hs.trans hphase)
  | begun hd hp hw hbefore => exact .begun hd hp hw hbefore

theorem Closing.not_fresh (h : Closing b s p d w) (hs : s.status.phase.isTerminal = true) : d ≠ .fresh := by
  cases h with
  | fresh _ hphase =>
    rw [hs] at hphase
    cases hphase
  | begun hd => exact hd

/-- **A shutdown goes on along both of its protocols.** -/
theorem Closing.resume (hb : 0 < b.config.retries) (h : Closing b x.own (.ask r f) d w) (ha : x.Answers r reply own) :
    ∃ d' w', d.next? r reply = some d' ∧ Finding.next? .release w r reply = some w' ∧ Closing b own (f reply) d' w' := by
  cases h with
  | fresh hp hphase =>
    have hask : Program.ask r f = .ask (σ := lifecycle) (.own (.control .beginShutdown)) fun (begins : Bool) =>
        ((if begins then closing b else .done ()).bind fun _ => .done .ended).bind fun r => .done (.operation r) := hp
    obtain ⟨rfl, hf⟩ := Program.ask.inj hask
    obtain rfl := eq_of_heq hf
    obtain ⟨hbegins, -⟩ := Scene.answers_beginShutdown.1 ha
    rw [hphase] at hbegins
    obtain rfl : reply = true := hbegins
    exact ⟨.closing, .nothing, rfl, rfl, .begun nofun (keeps_operation keeps_closing)
      (keeps_bind.2 (keeps_bind.2 ((settles_closing hb .nothing).mono fun _ _ hw => hw))) fun _ => rfl⟩
  | begun hd hp hw hbefore =>
    obtain ⟨d', hd', hp'⟩ := hp reply
    obtain ⟨w', hw', hk'⟩ := hw reply
    refine ⟨d', w', hd', hw', .begun (Stopping.move_of_next? hd' ha).ne_fresh hp' hk' fun hlater => ?_⟩
    obtain ⟨hown, hback⟩ := Stopping.isBefore_of_next? hd'
    obtain ⟨o, rfl⟩ := hown (hback hlater)
    rw [hbefore (hback hlater)] at hw'
    exact (Option.some.inj hw').symm

theorem Closing.goOn (h : Closing b s p d w) (a : Activity) : a.goOn b p = ⟨a.role, p, false⟩ := by
  cases h with
  | fresh hp _ =>
    subst hp
    rfl
  | begun _ hp _ _ => exact goOn_operation a hp

theorem Closing.settles {result : Finish} (h : Closing b s (.done result) d w) : d = .finished ∧ w.Settles := by
  cases h with
  | fresh hp => cases hp
  | begun _ hp hw _ =>
    refine ⟨?_, hw⟩
    cases result with
    | operation _ => exact hp
    | round _ => exact hp.elim

end Closing

/-- Where an activity stands once the shutdown with the number `z` is launched. -/
def DownAt (b : Binder) (own : State) (z : Nat) (d : Stopping) (w : Finding) (t : Tasking) (n : Nat) (a : Activity) : Prop :=
  match a.role with
  | .periodic => n = 0 ∧ a.program.Keeps (Tasking.next? b) RoundFinish t
  | .operation op =>
    (n = z → op = .shutdown ∧ Closing b own a.program d w) ∧ (n ≠ z → ∃ result, a.program = .done result)

/-- All operations have ended but for one shutdown, which was not forestalled. -/
structure Down (b : Binder) (x : Scene) (z : Nat) (d : Stopping) (w : Finding) (t : Tasking) : Prop where
  scheduled : Scheduled .finished d t x.own.schedule
  shutdown : ∃ a, x.activities[z]? = some a ∧ a.role = .operation .shutdown
  stands : ∀ {n : Nat} {a : Activity}, x.activities[n]? = some a → DownAt b x.own z d w t n a

section Down

variable {z : Nat} {d : Stopping} {w : Finding}

def Scene.Ended (x : Scene) : Prop :=
  ∀ a ∈ x.activities, ∀ op, a.role = .operation op → ∃ result, a.program = .done result

/-- **A shutdown that is launched when all operations have ended is not forestalled.** -/
theorem Up.shutdown (h : Up b x t) (hx : x.Ended) :
    Down b { x with activities := x.activities ++ [.ofOperation b .shutdown] } x.activities.length .fresh .nothing t where
  scheduled := h.scheduled
  shutdown := ⟨.ofOperation b .shutdown, by simp, rfl⟩
  stands {n a} hn := by
    rcases getElem?_concat_cases hn with ⟨rfl, rfl⟩ | hn
    · have hclosing : Closing b x.own (Activity.ofOperation b .shutdown).program .fresh .nothing := .fresh rfl h.phase
      exact ⟨fun _ => ⟨rfl, hclosing⟩, fun h => absurd rfl h⟩
    · have hat := h.stands hn
      have hended := hx a (List.mem_of_getElem? hn)
      have hne : n ≠ x.activities.length := Nat.ne_of_lt (List.getElem?_eq_some_iff.1 hn).1
      obtain ⟨role, program, pending⟩ := a
      cases role with
      | periodic => exact hat
      | operation op => exact ⟨fun h => absurd h hne, fun _ => hended op rfl⟩

theorem DownAt.alike {s s' : State} (h : DownAt b s z d w t n a)
    (hs : s'.status.phase.isTerminal = s.status.phase.isTerminal) : DownAt b s' z d w t n a := by
  obtain ⟨role, program, pending⟩ := a
  cases role with
  | periodic => exact h
  | operation op =>
    obtain ⟨hself, hothers⟩ := h
    exact ⟨fun hz => ⟨(hself hz).1, (hself hz).2.alike hs⟩, hothers⟩

section Steps

variable {pending : Bool} {op : Operation}

theorem Down.task (h : Down b x z d w t) (hn : x.activities[n]? = some ⟨.periodic, .ask r f, pending⟩)
    (ha : x.Answers r reply own) : ∃ u, t.next? b r reply = some u ∧
      Down b (x.resume b n ⟨.periodic, .ask r f, pending⟩ r reply (f reply) own) z d w u := by
  obtain ⟨rfl, hk⟩ := h.stands hn
  obtain ⟨u, hu, hrest⟩ := hk reply
  obtain ⟨a₀, hz, hrole₀⟩ := h.shutdown
  have hmove := Tasking.move_of_next? hu ha
  obtain ⟨hrole, -, hgo⟩ := goOn_round (b := b) (a := ⟨.periodic, .ask r f, pending⟩) rfl hrest
  refine ⟨u, hu, h.scheduled.task hmove, ⟨a₀, ?_, hrole₀⟩, fun {m a'} hm => ?_⟩
  · have hne : 0 ≠ z := by
      rintro rfl
      obtain rfl := Option.some.inj (hn.symm.trans hz)
      cases hrole₀
    exact (List.getElem?_set_ne hne).trans hz
  · rcases getElem?_set_cases hm with ⟨rfl, rfl⟩ | ⟨hne, hm⟩
    · unfold DownAt
      rw [hrole]
      exact ⟨rfl, hgo⟩
    · have hat : DownAt b own z d w t m a' := (h.stands hm).alike hmove.frame.2.2
      obtain ⟨role', program', pending'⟩ := a'
      cases role' with
      | periodic => exact absurd hat.1 hne
      | operation op' => exact hat

theorem Down.close (hb : 0 < b.config.retries) (h : Down b x z d w t)
    (hn : x.activities[n]? = some ⟨.operation op, .ask r f, pending⟩) (ha : x.Answers r reply own) :
    op = .shutdown ∧ (Activity.goOn b ⟨.operation op, .ask r f, pending⟩ (f reply)).role = .operation op ∧
      ∃ d' w', d.next? r reply = some d' ∧ Finding.next? .release w r reply = some w' ∧
        Down b (x.resume b n ⟨.operation op, .ask r f, pending⟩ r reply (f reply) own) z d' w' t := by
  obtain ⟨hself, hothers⟩ := h.stands hn
  obtain rfl : n = z := by
    refine Classical.byContradiction fun hne => ?_
    obtain ⟨result, hresult⟩ := hothers hne
    cases hresult
  obtain ⟨rfl, hclosing⟩ := hself rfl
  obtain ⟨d', w', hd', hw', hclosing'⟩ := hclosing.resume hb ha
  have hgo := hclosing'.goOn ⟨.operation .shutdown, .ask r f, pending⟩
  have hscheduled : Scheduled .finished d' t own.schedule :=
    h.scheduled.shutdown (fun _ => rfl) hclosing.not_fresh (Stopping.move_of_next? hd' ha)
  have hthere : (x.resume b n ⟨.operation .shutdown, .ask r f, pending⟩ r reply (f reply) own).activities[n]? =
      some ⟨.operation .shutdown, f reply, false⟩ := by
    rw [← hgo]
    exact List.getElem?_set_self (List.getElem?_eq_some_iff.1 hn).1
  refine ⟨rfl, by rw [hgo], d', w', hd', hw', hscheduled, ⟨_, hthere, rfl⟩, fun {m a'} hm => ?_⟩
  rcases getElem?_set_cases hm with ⟨rfl, rfl⟩ | ⟨hne, hm⟩
  · rw [hgo]
    exact ⟨fun _ => ⟨rfl, hclosing'⟩, fun h => absurd rfl h⟩
  · -- the others do not see how far the shutdown is
    have hat := h.stands hm
    obtain ⟨role', program', pending'⟩ := a'
    cases role' with
    | periodic => exact hat
    | operation op' => exact ⟨fun h => absurd h hne, hat.2⟩

/-- **Only the task and the shutdown go on**, each along its protocol. -/
theorem Down.resume (hb : 0 < b.config.retries) (h : Down b x z d w t) (hn : x.activities[n]? = some a)
    (hp : a.program = .ask r f) (ha : x.Answers r reply own) :
    (a.role = .periodic ∧ ∃ u, t.next? b r reply = some u ∧ Down b (x.resume b n a r reply (f reply) own) z d w u) ∨
      (a.goOn b (f reply)).role = .operation .shutdown ∧ ∃ d' w', d.next? r reply = some d' ∧
        Finding.next? .release w r reply = some w' ∧ Down b (x.resume b n a r reply (f reply) own) z d' w' t := by
  obtain ⟨role, program, pending⟩ := a
  obtain rfl : program = .ask r f := hp
  cases role with
  | periodic => exact .inl ⟨rfl, h.task hn ha⟩
  | operation op =>
    obtain ⟨rfl, hrole, hrest⟩ := h.close hb hn ha
    exact .inr ⟨hrole, hrest⟩

end Steps

theorem Down.issue {call : Call} (h : Down b x z d w t) (hn : x.activities[n]? = some a) :
    Down b (x.issue n a call) z d w t := by
  obtain ⟨a₀, hz, hrole₀⟩ := h.shutdown
  refine ⟨h.scheduled, ?_, fun {m a'} hm => ?_⟩
  · by_cases hnz : n = z
    · subst hnz
      obtain rfl := Option.some.inj (hn.symm.trans hz)
      exact ⟨_, List.getElem?_set_self (List.getElem?_eq_some_iff.1 hn).1, hrole₀⟩
    · exact ⟨a₀, (List.getElem?_set_ne hnz).trans hz, hrole₀⟩
  · rcases getElem?_set_cases hm with ⟨rfl, rfl⟩ | ⟨-, hm⟩
    · have hat : DownAt b x.own z d w t m a := h.stands hn
      exact hat
    · exact h.stands hm

theorem Down.nothing (h : Down b x z d w t) (hd : d.isBefore = true) : w = .nothing := by
  obtain ⟨a, hz, hrole⟩ := h.shutdown
  have hat := h.stands hz
  unfold DownAt at hat
  rw [hrole] at hat
  cases (hat.1 rfl).2 with
  | fresh => rfl
  | begun _ _ _ hbefore => exact hbefore hd

/-- **When the shutdown has ended too, it knows that nothing is held, or that a call has failed.** -/
theorem Down.settles (h : Down b x z d w t) (hx : x.Ended) : d = .finished ∧ w.Settles := by
  obtain ⟨a, hz, hrole⟩ := h.shutdown
  have hat := h.stands hz
  obtain ⟨result, hresult⟩ := hx a (List.mem_of_getElem? hz) .shutdown hrole
  unfold DownAt at hat
  rw [hrole, hresult] at hat
  exact (hat.1 rfl).2.settles

end Down

end Lifecycle
end AddressBinder
