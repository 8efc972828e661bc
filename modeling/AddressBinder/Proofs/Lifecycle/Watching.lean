import AddressBinder.Proofs.Lifecycle.Events
/-!
# Whoever watches changes nothing

A binder tells its events into a channel and never looks at it.  What a run does, apart from what is told, is computed
on scenes from which the channel is erased (`step?_unwatched`); so two runs that differ in nothing but the capacity of
the channel and the acts of its reader take the same course, whatever of the events is read.
-/
namespace AddressBinder

/-- The binder with a channel of another capacity. -/
def Binder.withCapacity (b : Binder) (capacity : Nat) : Binder :=
  { b with config := { b.config with eventCapacity := capacity } }

theorem Channel.waiting_send (c : Channel) (e : Event) : (c.send e).waiting.Sublist (c.waiting ++ [e]) := by
  unfold send
  split
  · exact List.Sublist.refl _
  · exact List.sublist_append_left _ _

namespace Lifecycle

/-- Whether it is the reader of the events who acts. -/
def Act.isReader : Act → Bool
  | .drain | .close => true
  | _ => false

/-- What is to be seen of a binder from outside, the events apart. -/
structure View where
  time : Nat
  status : Status
  /-- The calls with their arguments, and what was answered. -/
  log : List Line
  /-- What the operations have returned so far. -/
  results : List (Option Operation.Result)

namespace State

/-- The state with nothing of its channel. -/
def unwatched (s : State) : State := { s with channel := .ofCapacity 0 }

@[simp] theorem schedule_unwatched (s : State) : s.unwatched.schedule = s.schedule := rfl

@[simp] theorem isArmed_unwatched (s : State) : s.unwatched.isArmed = s.isArmed := rfl

theorem control_unwatched (s : State) (c : Control) :
    s.unwatched.control c = (s.control c).map fun answer => (answer.1, answer.2.unwatched) := by
  cases c with
  | markStarted | phase | release => rfl
  | beginShutdown => cases h : s.status.phase.isTerminal <;> simp [control, h, unwatched]
  | acquire => cases h : s.locked <;> simp [control, h, unwatched]
  | arm delay => by_cases h : s.schedule = .idle <;> simp [control, h, unwatched]
  | disarm =>
    cases h : s.isArmed with
    | false => simp [control, h]
    | true =>
      simp [control, h]
      rfl
  | awaitExit => by_cases h : s.schedule = .exited <;> simp [control, h]

/-- **A request is served alike whatever the channel is**; only an event leaves the two channels to be told apart. -/
theorem serve_unwatched (time : Nat) (s : State) (o : Own) :
    (s.unwatched.serve time o).map (fun answer => (answer.1, answer.2.unwatched)) =
      (s.serve time o).map fun answer => (answer.1, answer.2.unwatched) := by
  cases o with
  | note n => cases n <;> rfl
  | control c =>
    simp only [serve, control_unwatched, Option.map_map]
    rfl
  | task r =>
    simp only [serve, Option.map_map]
    rfl

theorem channel_of_control {s : State} {c : Control} {answer : c.Reply × State} (h : s.control c = some answer) :
    answer.2.channel = s.channel := by
  cases c with
  | markStarted | phase | release =>
    obtain rfl := Option.some.inj h
    rfl
  | beginShutdown | acquire | arm _ | disarm | awaitExit =>
    simp only [control] at h
    split at h <;> cases h <;> rfl

end State

namespace Scene

variable {b : Binder} {acts : List Act} {x y : Scene}

/-- The scene with nothing of the channel and its reader. -/
def unwatched (x : Scene) : Scene := { x with own := x.own.unwatched, received := [] }

def view (x : Scene) : View := ⟨x.time, x.own.status, x.log, x.activities.map Activity.result?⟩

/-- What is to be seen after each act of a run but those of the reader, if the acts can happen. -/
def course? (b : Binder) : Scene → List Act → Option (List View)
  | _, [] => some []
  | x, act :: acts => (x.step? b act).bind fun y =>
    (y.course? b acts).map fun views => if act.isReader then views else y.view :: views

theorem view_unwatched (x : Scene) : x.unwatched.view = x.view := rfl

/-! ## The channel is never read -/

theorem serve_unwatched (x : Scene) (n : Nat) (a : Activity) :
    ∀ (r : Request) (k : r.Reply → Program lifecycle Finish),
      (x.unwatched.serve b n a r k).map unwatched = (x.serve b n a r k).map unwatched
  | .call c, k => by
    simp only [serve]
    split <;> rfl
  | .clock r, k => by
    simp only [serve, Option.map_map]
    rfl
  | .own o, k => by
    have hserve := congrArg (Option.map fun answer : o.Reply × State =>
      (x.resume b n a (.own o) answer.1 (k answer.1) answer.2).unwatched) (x.own.serve_unwatched x.time o)
    simp only [serve, Option.map_map] at hserve ⊢
    exact hserve

theorem answer_unwatched (x : Scene) (n : Nat) (a : Activity) (c : Call) (reply : c.Reply) :
    ∀ (r : Request) (k : r.Reply → Program lifecycle Finish),
      (x.unwatched.answer b n a c reply r k).map unwatched = (x.answer b n a c reply r k).map unwatched
  | .call c', k => by
    by_cases hc : c = c'
    · subst hc
      cases hpending : a.pending with
      | false => simp [answer, hpending]
      | true =>
        simp [answer, hpending]
        rfl
    · simp [answer, hc]
  | .clock _, _ => rfl
  | .own _, _ => rfl

@[simp] theorem activities_unwatched (x : Scene) : x.unwatched.activities = x.activities := rfl

/-- **An act does the same to a scene without its channel**, and can happen there just when it can happen. -/
theorem step?_unwatched (b : Binder) (x : Scene) (act : Act) :
    (x.unwatched.step? b act).map unwatched = (x.step? b act).map unwatched := by
  cases act with
  | launch _ | look | drain | close => rfl
  | tick time =>
    by_cases ht : x.time ≤ time
    · have ht' : x.unwatched.time ≤ time := ht
      simp only [step?, if_pos ht, if_pos ht']
      rfl
    · have ht' : ¬ x.unwatched.time ≤ time := ht
      simp only [step?, if_neg ht, if_neg ht']
  | move n =>
    cases hn : x.activities[n]? with
    | none => simp [step?, hn]
    | some a =>
      cases hp : a.program with
      | done _ => simp [step?, hn, hp]
      | ask r k => simpa [step?, hn, hp] using serve_unwatched x n a r k
  | answer n c reply =>
    cases hn : x.activities[n]? with
    | none => simp [step?, hn]
    | some a =>
      cases hp : a.program with
      | done _ => simp [step?, hn, hp]
      | ask r k => simpa [step?, hn, hp] using answer_unwatched x n a c reply r k

theorem unwatched_of_reader {act : Act} (hact : act.isReader = true) :
    ∃ y, x.step? b act = some y ∧ y.unwatched = x.unwatched := by
  cases act with
  | drain | close => exact ⟨_, rfl, rfl⟩
  | _ => cases hact

theorem course?_unwatched : ∀ (acts : List Act) (x : Scene), x.unwatched.course? b acts = x.course? b acts
  | [], _ => rfl
  | act :: acts, x => by
    let after (y : Scene) := (y.course? b acts).map fun views => if act.isReader then views else y.view :: views
    have hafter : ∀ y : Scene, after y.unwatched = after y := fun y => by
      simp only [after, course?_unwatched acts y, view_unwatched]
    have herase : ∀ o : Option Scene, o.bind after = (o.map unwatched).bind after := fun o => by
      cases o with
      | none => rfl
      | some y => exact (hafter y).symm
    show (x.unwatched.step? b act).bind after = (x.step? b act).bind after
    rw [herase, step?_unwatched, ← herase]

/-- **The acts of the reader may be left out.** -/
theorem course?_filter : ∀ (acts : List Act) (x : Scene),
    x.course? b (acts.filter fun act => !act.isReader) = x.course? b acts
  | [], _ => rfl
  | act :: acts, x => by
    cases hact : act.isReader with
    | true =>
      obtain ⟨y, hy, herase⟩ := unwatched_of_reader (b := b) (x := x) hact
      have hskip : x.course? b (act :: acts) = y.course? b acts := by simp [course?, hy, hact]
      rw [List.filter_cons_of_neg (by simp [hact]), course?_filter acts x, hskip, ← course?_unwatched acts y, herase,
        course?_unwatched]
    | false =>
      rw [List.filter_cons_of_pos (by simp [hact])]
      simp only [course?, hact]
      exact congrArg _ (funext fun y => by rw [course?_filter acts y])

/-! ## The capacity of the channel -/

theorem goOn_withCapacity (b : Binder) (capacity : Nat) (a : Activity) (p : Program lifecycle Finish) :
    a.goOn (b.withCapacity capacity) p = a.goOn b p := by
  unfold Activity.goOn
  split <;> rfl

theorem step?_withCapacity (b : Binder) (capacity : Nat) (x : Scene) (act : Act) :
    x.step? (b.withCapacity capacity) act = x.step? b act := by
  have hresume : ∀ n a r reply p own,
      x.resume (b.withCapacity capacity) n a r reply p own = x.resume b n a r reply p own := fun n a r reply p own => by
    simp only [resume, goOn_withCapacity]
  cases act with
  | launch op => cases op <;> rfl
  | look | tick _ | drain | close => rfl
  | move n =>
    have hserve : ∀ a r k, x.serve (b.withCapacity capacity) n a r k = x.serve b n a r k := fun a r k => by
      cases r <;> simp only [serve, hresume]
    simp only [step?, hserve]
  | answer n c reply =>
    have hanswer : ∀ a r k, x.answer (b.withCapacity capacity) n a c reply r k = x.answer b n a c reply r k :=
      fun a r k => by cases r <;> simp only [answer, hresume]
    simp only [step?, hanswer]

theorem course?_withCapacity (b : Binder) (capacity : Nat) : ∀ (acts : List Act) (x : Scene),
    x.course? (b.withCapacity capacity) acts = x.course? b acts
  | [], _ => rfl
  | act :: acts, x => by
    simp only [course?, step?_withCapacity, course?_withCapacity b capacity acts]

theorem unwatched_initial (b : Binder) (capacity : Nat) :
    (initial (b.withCapacity capacity)).unwatched = (initial b).unwatched := rfl

/-! ## What is delivered -/

/-- What was read and what waits to be read are events that were emitted, in their order. -/
def Delivers (x : Scene) : Prop := (x.received ++ x.own.channel.waiting).Sublist x.events

theorem waiting_of_answers {r : Request} {reply : r.Reply} {own : State} (h : x.Answers r reply own) :
    own.channel.waiting.Sublist (x.own.channel.waiting ++ r.event?.toList) := by
  cases r with
  | call c =>
    rw [answers_call.1 h]
    simp [Request.event?]
  | clock r =>
    rw [(answers_clock.1 h).2]
    simp [Request.event?]
  | own o =>
    cases o with
    | note n =>
      rw [answers_note.1 h]
      cases n with
      | observe o => simp [Request.event?, State.note]
      | emit e => exact x.own.channel.waiting_send e
    | control c =>
      have hchannel : own.channel = x.own.channel := State.channel_of_control h
      simp [hchannel, Request.event?]
    | task r =>
      obtain ⟨_, -, heq⟩ := Option.map_eq_some_iff.1 h
      obtain rfl := (Prod.mk.inj heq).2
      simp [Request.event?]

theorem Delivers.resume {n : Nat} {a : Activity} {r : Request} {reply : r.Reply} {p : Program lifecycle Finish}
    {own : State} (hx : x.Delivers) (ha : x.Answers r reply own) : (x.resume b n a r reply p own).Delivers := by
  unfold Delivers
  rw [events_resume]
  have hold : (x.received ++ x.own.channel.waiting ++ r.event?.toList).Sublist (x.events ++ r.event?.toList) :=
    hx.append_right _
  rw [List.append_assoc] at hold
  exact ((waiting_of_answers ha).append_left _).trans hold

theorem Delivers.step {act : Act} (hx : x.Delivers)
    (h : x.step? b act = some y) : y.Delivers := by
  cases act with
  | launch op =>
    obtain rfl := Option.some.inj h
    exact hx
  | look =>
    obtain rfl := Option.some.inj h
    exact hx
  | tick time =>
    simp only [step?] at h
    split at h
    · obtain rfl := Option.some.inj h
      exact hx
    · cases h
  | drain =>
    obtain rfl := Option.some.inj h
    simpa [Delivers, Channel.drain, events] using hx
  | close =>
    obtain rfl := Option.some.inj h
    have hread : x.received.Sublist x.events := (List.sublist_append_left _ _).trans hx
    simpa [Delivers, Channel.close, events] using hread
  | move n =>
    obtain ⟨a, r, k, hn, hp, ⟨c, rfl, -, rfl⟩ | ⟨reply, own, -, ha, rfl⟩⟩ := moves_of_move h
    · unfold Delivers
      rw [events_issue]
      exact hx
    · exact hx.resume ha
  | answer n c reply =>
    obtain ⟨a, k, hn, hp, -, rfl⟩ := resumes_of_answer h
    exact hx.resume rfl

theorem Reaches.delivers (h : Reaches b acts x) : x.Delivers :=
  h.stepwise (P := fun _ x => x.Delivers) (List.Sublist.refl _) fun _ hx hs => hx.step hs

/-- **Whoever watches changes nothing.**  Of two runs whose acts are the same but for those of the reader, and whose
channels may hold any number of events, each can happen just when the other can, and what is to be seen is the same after
each act: the time, the snapshot, the calls with their arguments, and what the operations returned.  The reader can act at
any moment, which is not to be seen; and what it gets are events that were emitted, in their order. -/
theorem readers_change_nothing (b : Binder) (capacity : Nat) {acts acts' : List Act}
    (h : (acts.filter fun act => !act.isReader) = acts'.filter fun act => !act.isReader) :
    (initial (b.withCapacity capacity)).course? (b.withCapacity capacity) acts' = (initial b).course? b acts ∧
      (∀ (x : Scene) (act : Act), act.isReader = true → ∃ y, x.step? b act = some y ∧ y.view = x.view) ∧
      (∀ x, Reaches b acts x → x.received.Sublist x.events) ∧
      ∀ x, Reaches (b.withCapacity capacity) acts' x → x.received.Sublist x.events := by
  refine ⟨?_, fun x act hact => ?_, fun x hx => ?_, fun x hx => ?_⟩
  · calc (initial (b.withCapacity capacity)).course? (b.withCapacity capacity) acts'
        = (initial (b.withCapacity capacity)).course? b acts' := course?_withCapacity b capacity acts' _
      _ = (initial b).course? b acts' := by
        rw [← course?_unwatched, unwatched_initial, course?_unwatched]
      _ = (initial b).course? b acts := by rw [← course?_filter, ← h, course?_filter]
  · obtain ⟨y, hy, herase⟩ := unwatched_of_reader (b := b) (x := x) hact
    have hview := congrArg view herase
    exact ⟨y, hy, hview⟩
  · exact (List.sublist_append_left _ _).trans hx.delivers
  · exact (List.sublist_append_left _ _).trans hx.delivers

/-- A life whose events are read in the end, and one whose reader goes away before it begins. -/
theorem readers_change_nothing_in_whole_life : ∃ x x', Reaches ⟨singleAttempt, "memory"⟩ (wholeLife ++ [.drain]) x ∧
    Reaches (Binder.withCapacity ⟨singleAttempt, "memory"⟩ 1) (.close :: wholeLife) x' ∧
    x.received.length = 5 ∧ x'.received = [] ∧
    (initial (Binder.withCapacity ⟨singleAttempt, "memory"⟩ 1)).course? (Binder.withCapacity ⟨singleAttempt, "memory"⟩ 1)
      (.close :: wholeLife) = (initial ⟨singleAttempt, "memory"⟩).course? ⟨singleAttempt, "memory"⟩
        (wholeLife ++ [.drain]) := by
  have hread : ((initial ⟨singleAttempt, "memory"⟩).run? ⟨singleAttempt, "memory"⟩ (wholeLife ++ [.drain])).any
      (fun x => x.received.length = 5) = true := by rfl
  have hunread : ((initial (Binder.withCapacity ⟨singleAttempt, "memory"⟩ 1)).run?
      (Binder.withCapacity ⟨singleAttempt, "memory"⟩ 1) (.close :: wholeLife)).any
      (fun x => x.received = []) = true := by rfl
  obtain ⟨x, hx, hlength⟩ := Option.any_eq_true _ _ |>.1 hread
  obtain ⟨x', hx', hnil⟩ := Option.any_eq_true _ _ |>.1 hunread
  have hsame : List.filter (fun act => !act.isReader) (wholeLife ++ [Act.drain]) =
      List.filter (fun act => !act.isReader) (Act.close :: wholeLife) := by
    simp [Act.isReader]
  exact ⟨x, x', hx, hx', by simpa using hlength, by simpa using hnil,
    (readers_change_nothing ⟨singleAttempt, "memory"⟩ 1 hsame).1⟩

end Scene

end Lifecycle
end AddressBinder
