import AddressBinder.Proofs.Lifecycle.Grammar
import AddressBinder.Proofs.Lifecycle.Promptness
/-!
# The events of a run

At every moment the events that a binder has reported are the beginning of a word of `Event.story`.  The positions of a
cast say which part of a word is told so far (`Told`).  That no pass speaks before the arming of the schedule is reported,
so that a word of `Event.life` begins with them, is a matter of time: it holds of every prompt run (`armsFirst_moves`), and
a start that is held up between the arming and its report breaks it (`events_of_overtaken_start`).
-/
namespace AddressBinder
namespace Lifecycle

open Computability Event

/-- The events that were reported, from first to last. -/
def Scene.events (x : Scene) : List Event := x.log.filterMap fun l =>
  match l.deed with
  | .answered r _ => r.event?
  | .issued _ => none

@[simp] theorem Scene.events_issue (x : Scene) (n : Nat) (a : Activity) (call : Call) :
    (x.issue n a call).events = x.events := by
  simp [events, issue]

@[simp] theorem Scene.events_resume (b : Binder) (x : Scene) (n : Nat) (a : Activity) (r : Request) (reply : r.Reply)
    (p : Program lifecycle Finish) (own : State) :
    (x.resume b n a r reply p own).events = x.events ++ r.event?.toList := by
  cases h : r.event? <;> simp [events, resume, h]

/-! ## What is told so far -/

/-- The startup as far as a start has told it. -/
def Starting.told : Starting → Language Event
  | .fresh | .queued | .admitted => 1
  | .retrying | .begun | .abandoned => noneFree∗
  | .attached => noneFree∗ * attachment
  | .completed | .arming | .armed => startup
  | .leaving | .finished => 1 + startup

def Tasking.told : Tasking → Language Event
  | .resynced => resync
  | .rebound => resync * (noneFree + attachment)
  | _ => 1

def Stopping.told : Stopping → Language Event
  | .detached => detachment
  | .stopped => 1 + detachment
  | .leaving | .finished => Event.closing
  | _ => 1

/-- The schedule as far as it is told. -/
def Cast.toldSchedule (b : Binder) (c : Cast) : Schedule.Stage → Language Event
  | .idle => 1
  | .armed _ =>
    if c.start = .armed then passing b * c.task.told else armedWithin b (passing b * c.task.told)
  | .cancelled => armedWithin b (passing b * c.task.told)
  | .exited => if c.shutdown = .draining ∨ c.shutdown = .drained then armedWithin b (passing b) else overtaking b

/-- What is told so far where a cast stands. -/
def Told (b : Binder) (c : Cast) (stage : Schedule.Stage) (es : List Event) : Prop :=
  ∃ u v w, es = u ++ v ++ w ∧ u ∈ c.start.told ∧ (stage ≠ .idle → u ∈ startup) ∧ v ∈ c.toldSchedule b stage ∧
    w ∈ c.shutdown.told

variable {b : Binder} {c : Cast} {s t : State} {es : List Event}

theorem Stopping.told_eq_one {d : Stopping} (h : d.isLate = false ∨ d = .draining) : d.told = 1 := by
  cases d <;> first | rfl | simp [isLate] at h

theorem Stopping.told_eq_one_of_isOutside {d : Stopping} (h : d.isOutside = true) : d.told = 1 := by
  cases d <;> first | rfl | cases h

/-! ## The start -/

/-- Before the schedule is armed, all that a working start finds told is its own. -/
theorem Told.of_works (h : Told b c s.schedule es) (hv : Valid c s) (hearly : c.start.isEarly = true)
    (hworks : c.start.works = true) : es ∈ c.start.told := by
  obtain ⟨u, v, w, rfl, hu, -, hv', hw⟩ := h
  rw [hv.scheduled.idle hearly] at hv'
  rw [Stopping.told_eq_one_of_isOutside (hv.works hworks)] at hw
  obtain rfl : v = [] := hv'
  obtain rfl : w = [] := hw
  simpa using hu

theorem Told.restart {q : Starting} (n : Option Nat) {stage : Schedule.Stage} (h : Told b c stage es)
    (hp : c.start ≠ .armed) (hq : q ≠ .armed) (hsub : ∀ u ∈ c.start.told, u ∈ q.told) :
    Told b { c with start := q, starter := n } stage es := by
  obtain ⟨u, v, w, rfl, hu, hne, hv', hw⟩ := h
  refine ⟨u, v, w, rfl, hsub u hu, hne, ?_, hw⟩
  cases stage with
  | armed d =>
    simp only [Cast.toldSchedule, if_neg hp] at hv'
    simpa only [Cast.toldSchedule, if_neg hq] using hv'
  | _ => exact hv'

theorem Told.speak {q : Starting} (n : Option Nat) (hv : Valid c s) (hearly : c.start.isEarly = true)
    (h : es ∈ q.told) (hd : [] ∈ c.shutdown.told) : Told b { c with start := q, starter := n } s.schedule es := by
  rw [hv.scheduled.idle hearly]
  exact ⟨es, [], [], by simp, h, fun h => absurd rfl h, rfl, hd⟩

theorem Told.start {e : Option Event} {q : Starting} (n : Option Nat) (h₀ : Told b c s.schedule es) (hv : Valid c s)
    (hm : c.start.Move b s e q t) :
    Told b { c with start := q, starter := n } t.schedule (es ++ e.toList) := by
  have hes : c.start.isEarly = true → c.start.works = true → es ∈ c.start.told := h₀.of_works hv
  have hnil : c.start.works = true → [] ∈ c.shutdown.told := fun hw => by
    rw [Stopping.told_eq_one_of_isOutside (hv.works hw)]
    rfl
  have hone : ∀ {l : Language Event}, ∀ u ∈ (1 : Language Event), u ∈ 1 + l := fun u hu => .inl hu
  generalize hp : c.start = p at hm hes hnil
  have hkeep := h₀.restart (q := q) n
  rw [hp] at hkeep
  cases hm with
  | refuse hs => exact absurd hp (hv.started.1 hs)
  | mark => simpa using hkeep nofun nofun fun _ hu => hu
  | acquire => simpa using hkeep nofun nofun fun _ hu => hu
  | turnAway => simpa using hkeep nofun nofun hone
  | begin => simpa using hkeep nofun nofun fun u hu => by rw [(Language.mem_one u).1 hu]; exact Language.nil_mem_kstar _
  | abandon => simpa using hkeep nofun nofun fun _ hu => hu
  | attempt => simpa using hkeep nofun nofun fun _ hu => hu
  | view => simpa using hkeep nofun nofun fun _ hu => hu
  | work h =>
    rw [h.schedule]
    simpa using hkeep nofun nofun fun _ hu => hu
  | noneFree zone h =>
    rw [h.schedule]
    exact Told.speak n hv (by rw [hp]; rfl) (append_mem_kstar (hes rfl rfl) ⟨zone, rfl⟩) (hnil rfl)
  | attach i ip id h =>
    rw [h.schedule]
    exact Told.speak n hv (by rw [hp]; rfl) (Language.append_mem_mul (hes rfl rfl) ⟨i, ip, id, rfl⟩) (hnil rfl)
  | complete bound k hfrom h =>
    rw [h.schedule]
    rcases hfrom with rfl | ⟨rfl, rfl⟩ | ⟨rfl, rfl⟩
    · have hend := Language.append_mem_mul (hes rfl rfl) (mem_startupEnd bound k)
      exact Told.speak n hv (by rw [hp]; rfl) hend (hnil rfl)
    · have hend : _ ∈ startup := append_mem_startup (hes rfl rfl) ⟨k, rfl⟩
      exact Told.speak n hv (by rw [hp]; rfl) hend (hnil rfl)
    · have hend := Language.append_mem_mul (hes rfl rfl) (mem_startupEnd false k)
      exact Told.speak n hv (by rw [hp]; rfl) hend (hnil rfl)
  | giveUp => simpa using hkeep nofun nofun fun _ hu => .inr hu
  | goOn => simpa using hkeep nofun nofun fun _ hu => hu
  | arm h =>
    have hmem := hes rfl rfl
    have htask := hv.scheduled
    rw [h] at htask
    refine ⟨es, [], [], by simp, hmem, fun _ => hmem, ?_, hnil rfl⟩
    simp only [Cast.toldSchedule, if_true, htask.1]
    exact Language.append_mem_mul (Language.nil_mem_kstar _) (show [] ∈ (1 : Language Event) from rfl)
  | skip h => exact absurd (hv.scheduled.idle (by rw [hp]; rfl)) h
  | report h =>
    rw [h.schedule]
    obtain ⟨u, v, w, rfl, hu, -, hv', hw⟩ := h₀
    have hstage := hv.scheduled
    have hw' : w = [] := by
      rw [Stopping.told_eq_one_of_isOutside (hv.works (by rw [hp]; rfl))] at hw
      exact hw
    rw [hp] at hu hstage
    cases hst : s.schedule with
    | idle => rw [hst] at hstage; exact absurd rfl hstage.2.1
    | armed d =>
      rw [hst] at hv'
      subst hw'
      simp only [Cast.toldSchedule, if_pos hp] at hv'
      refine ⟨u, v ++ [.scheduleArmed b.config.unboundInterval], [], by simp, .inr hu, fun _ => hu, ?_, hnil rfl⟩
      exact armedWithin_concat hv'
    | cancelled => rw [hst] at hstage; cases hstage.2.1
    | exited => rw [hst] at hstage; cases hstage.2.1
  | release => simpa using hkeep nofun nofun fun _ hu => hu

/-! ## The shutdown -/

theorem Told.reshut {d : Stopping} (n : Option Nat) {stage : Schedule.Stage} (h : Told b c stage es)
    (hstage : (c.shutdown = .draining ∨ c.shutdown = .drained) ↔ (d = .draining ∨ d = .drained))
    (hsub : ∀ w ∈ c.shutdown.told, w ∈ d.told) : Told b { c with shutdown := d, closer := n } stage es := by
  obtain ⟨u, v, w, rfl, hu, hne, hv', hw⟩ := h
  refine ⟨u, v, w, rfl, hu, hne, ?_, hsub w hw⟩
  cases stage with
  | exited => simpa only [Cast.toldSchedule, hstage] using hv'
  | _ => exact hv'

theorem Told.conclude {d : Stopping} (n : Option Nat) {stage : Schedule.Stage} {e : Event} (h : Told b c stage es)
    (hp : c.shutdown ≠ .draining ∧ c.shutdown ≠ .drained) (hd : d ≠ .draining ∧ d ≠ .drained)
    (hsub : ∀ w ∈ c.shutdown.told, w ++ [e] ∈ d.told) :
    Told b { c with shutdown := d, closer := n } stage (es ++ [e]) := by
  obtain ⟨u, v, w, rfl, hu, hne, hv', hw⟩ := h
  refine ⟨u, v, w ++ [e], by simp, hu, hne, ?_, hsub w hw⟩
  cases stage with
  | exited => simpa [Cast.toldSchedule, hp, hd] using hv'
  | _ => exact hv'

theorem Told.shutdown {e : Option Event} {d : Stopping} (n : Option Nat) (h₀ : Told b c s.schedule es)
    (hv : Valid c s) (hm : c.shutdown.Move s e d t) :
    Told b { c with shutdown := d, closer := n } t.schedule (es ++ e.toList) := by
  have hstage := hv.scheduled
  have hkeep := h₀.reshut (d := d) n
  have hend := fun e => h₀.conclude (d := d) (e := e) n
  generalize hp : c.shutdown = p at hm hstage hkeep hend
  cases hm with
  | refuse hs => exact absurd hp (hv.closing.1 hs)
  | begin => simpa using hkeep (by simp) fun _ hw => hw
  | acquire => simpa using hkeep (by simp) fun _ hw => hw
  | cancel h =>
    obtain ⟨u, v, w, rfl, hu, hne, hv', hw⟩ := h₀
    have hstart : c.start ≠ .armed := fun hc => by
      have := hv.apart (by rw [hc]; rfl)
      rw [hp] at this
      cases this
    cases hst : s.schedule with
    | armed d =>
      rw [hst] at hv' hne
      simp only [Cast.toldSchedule, if_neg hstart] at hv'
      rw [hp] at hw
      exact ⟨u, v, w, by simp, hu, fun _ => hne nofun, hv', hw⟩
    | _ => simp [State.isArmed, hst] at h
  | skip h => simpa using hkeep (by simp) fun _ hw => hw
  | drain h => simpa using hkeep (by simp) fun _ hw => hw
  | report h =>
    rw [h.schedule]
    obtain ⟨u, v, w, rfl, hu, hne, hv', hw⟩ := h₀
    rw [hp] at hw
    obtain rfl : w = [] := hw
    cases hst : s.schedule with
    | exited =>
      rw [hst] at hv' hne
      simp only [Cast.toldSchedule, hp, or_true, if_true] at hv'
      have hend := append_mem_overtaking hv'
      refine ⟨u, v ++ [.scheduleCancelled], [], by simp, hu, hne, ?_, rfl⟩
      simpa [Cast.toldSchedule] using hend
    | _ => rw [hst] at hstage; simp [Scheduled, Stopping.isLate] at hstage
  | work h =>
    rw [h.schedule]
    simpa using hkeep (by simp) fun _ hw => hw
  | detach i id h =>
    rw [h.schedule]
    refine hend _ (by simp) (by simp) fun w hw => ?_
    obtain rfl : w = [] := hw
    exact ⟨i, id, rfl⟩
  | stop time hfrom =>
    show Told b _ s.schedule (es ++ [])
    rw [List.append_nil]
    rcases hfrom with rfl | rfl
    · exact hkeep (by simp) fun _ hw => .inl hw
    · exact hkeep (by simp) fun _ hw => .inr hw
  | finish h =>
    rw [h.schedule]
    exact hend _ (by simp) (by simp) fun w hw => append_mem_closing hw
  | release => simpa using hkeep (by simp) fun _ hw => hw

/-! ## The periodic task -/

/-- **The periodic task goes on**, while the schedule is armed or cancelled: what it says continues what it said. -/
theorem Told.retask {q : Tasking} {stage : Schedule.Stage} (e : Option Event) (h : Told b c stage es)
    (hstage : Scheduled c.start c.shutdown c.task stage) (hout : stage ≠ .idle ∧ stage ≠ .exited)
    (hstep : ∀ r ∈ passing b, ∀ k ∈ c.task.told, r ++ k ++ e.toList ∈ passing b * q.told) :
    Told b { c with task := q } stage (es ++ e.toList) := by
  obtain ⟨u, v, w, rfl, hu, hne, hv', hw⟩ := h
  have hdown : c.shutdown.told = 1 := by
    cases stage with
    | idle => exact absurd rfl hout.1
    | armed d => exact Stopping.told_eq_one (.inl hstage.2.2)
    | cancelled => exact Stopping.told_eq_one (.inr hstage.2.2)
    | exited => exact absurd rfl hout.2
  have hw' := hw
  rw [hdown] at hw'
  obtain rfl : w = [] := hw'
  have hgo : ∀ v ∈ passing b * c.task.told, v ++ e.toList ∈ passing b * q.told := fun v hv => by
    obtain ⟨r, hr, k, hk, rfl⟩ := Language.mem_mul.1 hv
    exact hstep r hr k hk
  -- the shutdown has told nothing yet, so what the task says stands at the end
  refine ⟨u, v ++ e.toList, [], by simp, hu, hne, ?_, hw⟩
  cases stage with
  | idle => exact absurd rfl hout.1
  | armed d =>
    simp only [Cast.toldSchedule] at hv' ⊢
    split at hv'
    · rename_i hs
      rw [if_pos hs]
      exact hgo v hv'
    · rename_i hs
      rw [if_neg hs]
      exact append_mem_armedWithin hv' hgo
  | cancelled => exact append_mem_armedWithin hv' hgo
  | exited => exact absurd rfl hout.2

theorem mem_mul_passed {r : List Event} {delay : Nat} (hr : r ∈ passing b) :
    r ∈ passing b * (Tasking.passed delay).told := by
  show r ∈ passing b * 1
  rwa [mul_one]

theorem Told.task {time : Nat} {e : Option Event} {q : Tasking} (h₀ : Told b c s.schedule es) (hv : Valid c s)
    (hm : c.task.Move b time s e q t) : Told b { c with task := q } t.schedule (es ++ e.toList) := by
  have hstage := hv.scheduled
  have hout : c.task.goesOn = true ∧ c.task ≠ .unarmed → s.schedule ≠ .idle ∧ s.schedule ≠ .exited := fun h => by
    refine ⟨fun hs => ?_, fun hs => ?_⟩ <;> rw [hs] at hstage
    · exact h.2 hstage.1
    · rw [hstage.1] at h
      cases h.1
  have hgo := fun hout => h₀.retask (q := q) e hstage hout
  generalize hp : c.task = p at hm hout hgo
  -- nothing is under way and nothing is said
  have hquiet : p.told = 1 → q.told = 1 → ∀ r ∈ passing b, ∀ k ∈ p.told, r ++ k ++ [] ∈ passing b * q.told := by
    intro h1 h2 r hr k hk
    rw [h1] at hk
    obtain rfl : k = [] := hk
    rw [h2, mul_one]
    simpa using hr
  cases hm with
  | wake delay h =>
    refine hgo ?_ (hquiet rfl rfl)
    rcases h with h | h <;> rw [h] <;> exact ⟨nofun, nofun⟩
  | doze delay => exact hgo (hout ⟨rfl, nofun⟩) (hquiet rfl rfl)
  | start due => exact hgo (hout ⟨rfl, nofun⟩) (hquiet rfl rfl)
  | cancel due => exact hgo (hout ⟨rfl, nofun⟩) (hquiet rfl rfl)
  | goOn delay => exact hgo (hout ⟨rfl, nofun⟩) (hquiet rfl rfl)
  | leave delay => exact hgo (hout ⟨rfl, nofun⟩) (hquiet rfl rfl)
  | work hfrom h =>
    rw [h.schedule]
    refine hgo (hout (by rcases hfrom with rfl | rfl | rfl <;> exact ⟨rfl, nofun⟩)) fun r hr k hk => ?_
    simpa using Language.append_mem_mul hr hk
  | resync count h =>
    rw [h.schedule]
    refine hgo (hout ⟨rfl, nofun⟩) fun r hr k hk => ?_
    obtain rfl : k = [] := hk
    rw [List.append_nil]
    exact Language.append_mem_mul hr ⟨count, rfl⟩
  | noneFree zone h =>
    rw [h.schedule]
    refine hgo (hout ⟨rfl, nofun⟩) fun r hr k hk => ?_
    rw [List.append_assoc]
    exact Language.append_mem_mul hr (Language.append_mem_mul hk (.inl ⟨zone, rfl⟩))
  | attach i ip id h =>
    rw [h.schedule]
    refine hgo (hout ⟨rfl, nofun⟩) fun r hr k hk => ?_
    rw [List.append_assoc]
    exact Language.append_mem_mul hr (Language.append_mem_mul hk (.inr ⟨i, ip, id, rfl⟩))
  | completeBound h =>
    rw [h.schedule]
    refine hgo (hout ⟨rfl, nofun⟩) fun r hr k hk => ?_
    obtain rfl : k = [] := hk
    rw [List.append_nil]
    exact mem_mul_passed (append_mem_passing hr (.inl (.inl rfl)))
  | completeUnbound h =>
    rw [h.schedule]
    refine hgo (hout ⟨rfl, nofun⟩) fun r hr k hk => ?_
    rw [List.append_assoc]
    exact mem_mul_passed (append_mem_passing hr (.inl (.inr (Language.mem_mul.2 ⟨k, hk, _, rfl, rfl⟩))))
  | fail text hfrom h =>
    rw [h.schedule]
    have hon : p.goesOn = true ∧ p ≠ .unarmed := by rcases hfrom with rfl | rfl <;> exact ⟨rfl, nofun⟩
    refine hgo (hout hon) fun r hr k hk => ?_
    have hk' : k ∈ 1 + resync := by
      rcases hfrom with rfl | rfl
      · exact .inl hk
      · exact .inr hk
    rw [List.append_assoc]
    exact mem_mul_passed (append_mem_passing hr (.inr (Language.append_mem_mul hk' ⟨text, rfl⟩)))
  | exit =>
    obtain ⟨u, v, w, rfl, hu, hne, hv', hw⟩ := h₀
    rw [hp] at hstage
    cases hst : s.schedule with
    | cancelled =>
      rw [hst] at hstage hv' hne
      rw [Cast.toldSchedule, hp] at hv'
      change v ∈ armedWithin b (passing b * 1) at hv'
      rw [mul_one] at hv'
      exact ⟨u, v, w, by simp, hu, fun _ => hne nofun, by simpa [Cast.toldSchedule, hstage.2.2] using hv', hw⟩
    | _ => rw [hst] at hstage; simp [Scheduled, Tasking.goesOn] at hstage

/-! ## Words -/

theorem Starting.told_prefix (p : Starting) {u : List Event} (hu : u ∈ p.told) : ∃ u', u ++ u' ∈ 1 + startup := by
  have hnil : u ∈ 1 + startup → ∃ u', u ++ u' ∈ 1 + startup := fun h => ⟨[], by rwa [List.append_nil]⟩
  cases p with
  | fresh | queued | admitted => exact hnil (.inl hu)
  | retrying | begun | abandoned => exact ⟨_, .inr (Language.append_mem_mul hu (mem_startupEnd false 0))⟩
  | attached => exact ⟨_, .inr (append_mem_startup hu ⟨0, rfl⟩)⟩
  | completed | arming | armed => exact hnil (.inr hu)
  | leaving | finished => exact hnil hu

/-- A start that does not work has told its part to the end. -/
theorem Starting.told_whole {p : Starting} {u : List Event} (hp : p.works = false) (hu : u ∈ p.told) :
    u ∈ 1 + startup := by
  cases p with
  | fresh | queued | admitted => exact .inl hu
  | leaving | finished => exact hu
  | _ => cases hp

theorem Tasking.told_prefix (t : Tasking) {k : List Event} (hk : k ∈ t.told) :
    k = [] ∨ ∃ k', k ++ k' ∈ periodicPass b := by
  cases t with
  | resynced => exact .inr ⟨_, .inr (Language.append_mem_mul (.inr hk) ⟨"", rfl⟩)⟩
  | rebound => exact .inr ⟨_, .inl (.inr (Language.mem_mul.2 ⟨k, hk, _, rfl, rfl⟩))⟩
  | _ => exact .inl hk

theorem Stopping.told_prefix (d : Stopping) {w : List Event} (hw : w ∈ d.told) : ∃ w', w ++ w' ∈ Event.closing := by
  cases d with
  | detached => exact ⟨_, append_mem_closing (.inr hw)⟩
  | stopped => exact ⟨_, append_mem_closing hw⟩
  | leaving | finished => exact ⟨[], by rwa [List.append_nil]⟩
  | _ => exact ⟨_, append_mem_closing (.inl hw)⟩

/-- Passes that are told so far can be told to their end. -/
theorem exists_append_mem_passing (t : Tasking) {v : List Event} (hv : v ∈ passing b * t.told) : ∃ v', v ++ v' ∈ passing b := by
  obtain ⟨r, hr, k, hk, rfl⟩ := Language.mem_mul.1 hv
  rcases t.told_prefix (b := b) hk with rfl | ⟨k', hk'⟩
  · exact ⟨[], by simpa using hr⟩
  · exact ⟨k', by simpa using append_mem_passing hr hk'⟩

/-- A schedule whose arming is told already can be told to its end. -/
theorem exists_append_mem_overtaking (t : Tasking) {v : List Event} (hv : v ∈ armedWithin b (passing b * t.told)) :
    ∃ v', v ++ v' ∈ overtaking b := by
  obtain ⟨p, q, hpq, rfl⟩ := hv
  obtain ⟨v', hv'⟩ := exists_append_mem_passing t hpq
  rw [List.append_assoc] at hv'
  exact ⟨v' ++ [.scheduleCancelled], by simpa using append_mem_overtaking ⟨p, q ++ v', hv', rfl⟩⟩

/-- **What is told so far is the beginning of a word.** -/
theorem Told.prefix_story (h : Told b c s.schedule es) (hv : Valid c s) : ∃ w ∈ story b, es <+: w := by
  obtain ⟨u, v, w, rfl, hu, hne, hv', hw⟩ := h
  have hstage := hv.scheduled
  have hstopped : [.stopped] ∈ Event.closing := append_mem_closing (d := []) (.inl rfl)
  obtain ⟨w', hw'⟩ := c.shutdown.told_prefix hw
  -- the schedule is told so far, and the end is not
  have hrunning : (∃ v', v ++ v' ∈ overtaking b) → c.shutdown.told = 1 → s.schedule ≠ .idle →
      ∃ x ∈ story b, u ++ v ++ w <+: x := fun ⟨v', hv''⟩ hdown hidle => by
    rw [hdown] at hw
    obtain rfl : w = [] := hw
    exact ⟨_, mem_lifeWith_of_schedule (hne hidle) hv'' hstopped, by simp⟩
  cases hst : s.schedule with
  | idle =>
    rw [hst] at hv'
    obtain rfl : v = [] := hv'
    cases hworks : c.start.works with
    | true =>
      rw [Stopping.told_eq_one_of_isOutside (hv.works hworks)] at hw
      obtain rfl : w = [] := hw
      obtain ⟨u', hu'⟩ := c.start.told_prefix hu
      exact ⟨_, mem_lifeWith_of_startup hu' hstopped, by simp⟩
    | false => exact ⟨_, mem_lifeWith_of_startup (Starting.told_whole hworks hu) hw', by simp⟩
  | armed d =>
    rw [hst] at hv' hstage hrunning
    simp only [Cast.toldSchedule] at hv'
    have hdown : c.shutdown.told = 1 := Stopping.told_eq_one (.inl hstage.2.2)
    split at hv'
    · obtain ⟨v', hpasses⟩ := exists_append_mem_passing c.task hv'
      exact hrunning ⟨_, by simpa using append_mem_overtaking (armedWithin_concat hpasses)⟩ hdown nofun
    · exact hrunning (exists_append_mem_overtaking c.task hv') hdown nofun
  | cancelled =>
    rw [hst] at hv' hstage hrunning
    exact hrunning (exists_append_mem_overtaking c.task hv') (Stopping.told_eq_one (.inr hstage.2.2)) nofun
  | exited =>
    rw [hst] at hv' hstage hne
    simp only [Cast.toldSchedule] at hv'
    split at hv'
    · rename_i hd
      have hdown : c.shutdown.told = 1 := by rcases hd with hd | hd <;> rw [hd] <;> rfl
      rw [hdown] at hw
      obtain rfl : w = [] := hw
      exact ⟨_, mem_lifeWith_of_schedule (hne nofun) (append_mem_overtaking hv') hstopped, by simp⟩
    · exact ⟨_, mem_lifeWith_of_schedule (hne nofun) hv' hw', by simp⟩

theorem told_initial : Told b .initial .idle [] :=
  ⟨[], [], [], rfl, rfl, fun h => absurd rfl h, rfl, rfl⟩

theorem Cast.Refuses.event?_eq_none {n : Nat} {role : Role} {r : Request} {reply : r.Reply}
    (h : c.Refuses n role r reply) : r.event? = none := by
  cases h <;> rfl

/-- **Every move tells the story on.** -/
theorem Told.moves {x y : Scene} {c' : Cast} (hv : Valid c x.own) (h : Told b c x.own.schedule x.events)
    (hm : c.Moves b x c' y) : Told b c' y.own.schedule y.events := by
  cases hm with
  | still => exact h
  | issue n a call hcall =>
    rw [Scene.events_issue]
    exact h
  | refuse n a r reply p hr =>
    rw [Scene.events_resume, hr.event?_eq_none, Option.toList, List.append_nil]
    exact h
  | start n a r reply p own q hrole hq ha =>
    rw [Scene.events_resume]
    exact h.start (some n) hv (Starting.move_of_next? hq ha)
  | shutdown n a r reply p own q hrole hq ha =>
    rw [Scene.events_resume]
    exact h.shutdown (some n) hv (Stopping.move_of_next? hq ha)
  | task n a r reply p own q hrole hq ha =>
    rw [Scene.events_resume]
    exact h.task hv (Tasking.move_of_next? hq ha)

/-! ## Passes and the arming -/

theorem Starting.Move.isPeriodic {p q : Starting} {e : Option Event} {f : Event} (h : p.Move b s e q t)
    (hf : e = some f) : f.isPeriodic = false := by
  subst hf
  cases h <;> rfl

theorem Stopping.Move.isPeriodic {p q : Stopping} {e : Option Event} {f : Event} (h : p.Move s e q t)
    (hf : e = some f) : f.isPeriodic = false := by
  subst hf
  cases h <;> rfl

theorem Tasking.Move.of_isPeriodic {time : Nat} {p q : Tasking} {e : Option Event} {f : Event}
    (h : p.Move b time s e q t) (hf : e = some f) (he : f.isPeriodic = true) :
    p = .passing ∨ p = .resynced ∨ p = .rebound := by
  subst hf
  cases h with
  | resync | completeBound => exact .inl rfl
  | completeUnbound => exact .inr (.inr rfl)
  | fail _ hfrom => exact hfrom.imp_right .inl
  | noneFree | attach => cases he

theorem isArming_of_armedWithin {l : Language Event} {w : List Event} (hw : w ∈ armedWithin b l) :
    ∃ f ∈ w, f.isArming = true := by
  obtain ⟨p, q, -, rfl⟩ := hw
  exact ⟨_, List.mem_append_right _ List.mem_cons_self, rfl⟩

/-- Once the schedule is armed, its arming is told, unless the start is about to report it. -/
theorem Told.armed (h : Told b c s.schedule es) (hstart : c.start ≠ .armed) (hidle : s.schedule ≠ .idle) :
    ∃ f ∈ es, f.isArming = true := by
  obtain ⟨u, v, w, rfl, -, -, hv', -⟩ := h
  have hwithin : ∃ f ∈ v, f.isArming = true := by
    cases hst : s.schedule with
    | idle => exact absurd hst hidle
    | armed d =>
      rw [hst] at hv'
      simp only [Cast.toldSchedule, if_neg hstart] at hv'
      exact isArming_of_armedWithin hv'
    | cancelled =>
      rw [hst] at hv'
      exact isArming_of_armedWithin hv'
    | exited =>
      rw [hst] at hv'
      simp only [Cast.toldSchedule] at hv'
      split at hv'
      · exact isArming_of_armedWithin hv'
      · obtain ⟨r, hr, k, -, rfl⟩ := Language.mem_mul.1 hv'
        obtain ⟨f, hf, harming⟩ := isArming_of_armedWithin hr
        exact ⟨f, List.mem_append_left _ hf, harming⟩
  obtain ⟨f, hf, harming⟩ := hwithin
  exact ⟨f, by simp [hf], harming⟩

theorem armsFirst_append {e : Option Event} (h : ArmsFirst es)
    (he : ∀ f, e = some f → f.isPeriodic = true → ∃ g ∈ es, g.isArming = true) : ArmsFirst (es ++ e.toList) := by
  cases e with
  | none => rwa [Option.toList, List.append_nil]
  | some f => exact h.concat (he f rfl)

/-- **While the clock waits for the activities, no pass speaks before the arming of the schedule is told.** -/
theorem armsFirst_moves {x y : Scene} {c' : Cast} (hv : Valid c x.own) (ht : Timely c x)
    (h : Told b c x.own.schedule x.events) (hes : ArmsFirst x.events) (hm : c.Moves b x c' y) : ArmsFirst y.events := by
  cases hm with
  | still => exact hes
  | issue n a call hcall =>
    rw [Scene.events_issue]
    exact hes
  | refuse n a r reply p hr =>
    rw [Scene.events_resume, hr.event?_eq_none]
    exact armsFirst_append hes nofun
  | start n a r reply p own q hrole hq ha =>
    rw [Scene.events_resume]
    refine armsFirst_append hes fun f hf hpass => ?_
    rw [(Starting.move_of_next? hq ha).isPeriodic hf] at hpass
    cases hpass
  | shutdown n a r reply p own q hrole hq ha =>
    rw [Scene.events_resume]
    refine armsFirst_append hes fun f hf hpass => ?_
    rw [(Stopping.move_of_next? hq ha).isPeriodic hf] at hpass
    cases hpass
  | task n a r reply p own q hrole hq ha =>
    rw [Scene.events_resume]
    refine armsFirst_append hes fun f hf hpass => ?_
    have hpos := (Tasking.move_of_next? hq ha).of_isPeriodic hf hpass
    -- a pass is under way, so the task does not sleep and the schedule is not idle
    refine h.armed (fun hc => ?_) fun hidle => ?_
    · have hasleep := ht.asleep hc
      rcases hpos with hp | hp | hp <;> rw [hp] at hasleep <;> exact hasleep
    · have hstage := hv.scheduled
      rw [hidle] at hstage
      rcases hpos with hp | hp | hp <;> cases hp.symm.trans hstage.1

/-- **The event protocol.**  In a run of an acceptable binder that only starts, shuts down and looks, whatever the
collaborators answer and when, the events reported so far are the beginning of a word of `Event.story`: of a life, but for
the arming of the schedule, which the start reports after it armed it and which the first passes may overtake.  The events
begin a word of `Event.life` just when no pass speaks before the arming is told, and so they do whenever the clock waits for
the activities.  In any case nothing follows the end, at most one detachment is reported, and between an arming and a
detachment there is a cancellation. -/
theorem Scene.Reaches.events_of_story {config : Config} {backend : String} {acts : List Act} {x : Scene}
    (hb : Binder.new config backend = .ok b) (h : Reaches b acts x) (hacts : ∀ act ∈ acts, act.isLifecycle = true) :
    (∃ w ∈ story b, x.events <+: w) ∧
      ((∃ w ∈ life b, x.events <+: w) ↔ ArmsFirst x.events) ∧
      ((Scene.initial b).isPrompt b acts = true → ∃ w ∈ life b, x.events <+: w) ∧
      (x.events.Pairwise fun e _ => e ≠ .stopped) ∧
      (x.events.Pairwise fun e f => e.isDetached = true → f.isDetached = false) ∧
      ∀ s delay t i id r, x.events = s ++ .scheduleArmed delay :: t ++ .detached i id :: r → .scheduleCancelled ∈ t := by
  have hpos := unboundInterval_pos hb
  obtain ⟨c, -, hv, htold, hprompt⟩ := h.castAlong
    (P := fun acts c x => Told b c x.own.schedule x.events ∧
      ((Scene.initial b).isPrompt b acts = true → Timely c x ∧ ArmsFirst x.events))
    ⟨told_initial, fun _ => ⟨⟨nofun, nofun⟩, armsFirst_nil⟩⟩
    (fun hx hf hv hP hturn hm => ⟨hP.1.moves hv hm, fun hprompt => by
      obtain ⟨hbefore, hwaits⟩ := Scene.isPrompt_concat hx hprompt
      obtain ⟨ht, hes⟩ := hP.2 hbefore
      exact ⟨ht.moves hpos hf hv hm (hturn.time hwaits), armsFirst_moves hv ht hP.1 hes hm⟩⟩) hacts
  obtain ⟨w, hw, hpre⟩ := htold.prefix_story hv
  have hlife := prefix_life_iff hw hpre
  refine ⟨⟨w, hw, hpre⟩, hlife, fun h => hlife.2 (hprompt h).2, (pairwise_stopped hw).sublist hpre.sublist,
    (pairwise_detached hw).sublist hpre.sublist, ?_⟩
  rintro s delay t i id r heq
  obtain ⟨rest, rfl⟩ := hpre
  rw [heq, List.append_assoc, List.cons_append] at hw
  exact cancelled_mem_of_detached hw

/-- A configuration with a single attempt, and with names of a zone. -/
def singleAttempt : Config :=
  { Config.default with retries := 1, discovery := ⟨false, TextMap.empty.insert "a" ["10.0.0.1"], none⟩ }

/-- A start that finds no metadata, a pass that finds none either, and a shutdown. -/
def wholeLife : List Act :=
  [.launch .start, .move 1, .move 1, .move 1, .move 1, .move 1, .answer 1 .metadata (.error (.identity "down")),
    .move 1, .move 1, .move 1, .move 1, .move 1, .move 0, .move 0, .tick 60000, .move 0, .move 0,
    .answer 0 .metadata (.error (.identity "down")), .move 0, .move 0, .move 0, .move 0, .launch .shutdown, .move 2,
    .move 2, .move 2, .move 0, .move 0, .move 2, .move 2, .move 2, .answer 2 .metadata (.error (.identity "down")),
    .move 2, .move 2, .move 2]

theorem events_of_whole_life : ∃ x, Scene.Reaches ⟨singleAttempt, "memory"⟩ wholeLife x ∧ x.events.length = 5 ∧
    ∃ w ∈ life ⟨singleAttempt, "memory"⟩, x.events <+: w := by
  have hsome : ((Scene.initial ⟨singleAttempt, "memory"⟩).run? ⟨singleAttempt, "memory"⟩ wholeLife).any
      (fun x => x.events.length = 5) = true := by rfl
  obtain ⟨x, hx, hlength⟩ := Option.any_eq_true _ _ |>.1 hsome
  have hnew : Binder.new singleAttempt "memory" = .ok ⟨singleAttempt, "memory"⟩ := by rfl
  have hprompt : (Scene.initial ⟨singleAttempt, "memory"⟩).isPrompt ⟨singleAttempt, "memory"⟩ wholeLife = true := by rfl
  exact ⟨x, hx, by simpa using hlength, (Scene.Reaches.events_of_story hnew hx (by decide)).2.2.1 hprompt⟩

/-- The same with the shortest interval that is accepted. -/
def hastyAttempt : Config := { singleAttempt with unboundInterval := 1 }

/-- A start that arms the schedule and is held up before it reports the arming: the first pass begins and fails. -/
def overtakenStart : List Act :=
  [.launch .start, .move 1, .move 1, .move 1, .move 1, .move 1, .answer 1 .metadata (.error (.identity "down")),
    .move 1, .move 1, .move 1, .move 0, .move 0, .tick 1, .move 0, .move 0,
    .answer 0 .metadata (.error (.identity "down")), .move 0, .move 0, .move 1]

/-- **A pass may overtake the arming**, so that the events begin no word of `Event.life`. -/
theorem events_of_overtaken_start : Binder.new hastyAttempt "memory" = .ok ⟨hastyAttempt, "memory"⟩ ∧
    (∀ act ∈ overtakenStart, act.isLifecycle = true) ∧
    ∃ x, Scene.Reaches ⟨hastyAttempt, "memory"⟩ overtakenStart x ∧
      x.events = [.startupCompleted false 1, .passFailed (Error.identity "down").message 1, .scheduleArmed 1] ∧
      ¬ ∃ w ∈ life ⟨hastyAttempt, "memory"⟩, x.events <+: w := by
  have hsome : ((Scene.initial ⟨hastyAttempt, "memory"⟩).run? ⟨hastyAttempt, "memory"⟩ overtakenStart).any
      (fun x => x.events =
        [.startupCompleted false 1, .passFailed (Error.identity "down").message 1, .scheduleArmed 1]) = true := by rfl
  obtain ⟨x, hx, hevents⟩ := Option.any_eq_true _ _ |>.1 hsome
  have hevents := of_decide_eq_true hevents
  refine ⟨rfl, by decide, x, hx, hevents, fun ⟨w, hw, hpre⟩ => ?_⟩
  have hfirst := (armsFirst_of_mem_life hw).mono hpre
  obtain ⟨f, hf, harming⟩ := hfirst [.startupCompleted false 1] _ [.scheduleArmed 1] hevents rfl
  rw [List.mem_singleton.1 hf] at harming
  cases harming

end Lifecycle
end AddressBinder
