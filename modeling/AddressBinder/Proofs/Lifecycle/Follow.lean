import AddressBinder.Proofs.Lifecycle.Cast
/-!
# Runs and their casts

When the application only starts, shuts down and looks, a cast goes with every scene of a run: all activities stand
where it says (`Fits`), and it is valid for the binder's own state.  `Cast.Moves` says what one act does to a scene and
its cast, and `Scene.Reaches.cast` turns it into an induction over runs.
-/
namespace AddressBinder
namespace Lifecycle

open Program

def Act.isLifecycle : Act → Bool
  | .launch .start | .launch .shutdown => true
  | .launch _ => false
  | _ => true

def OperationFinish {S : Type} (last : S) : Finish → S → Prop
  | .operation _, p => p = last
  | .round _, _ => False

def RoundFinish : Finish → Tasking → Prop
  | .operation _, _ => False
  | .round next, p => RoundEnds next p

/-- Where a start with a number stands: the first one where the cast says, the others at their beginning or end. -/
def Cast.StartAt (c : Cast) (n : Nat) (p : Starting) : Prop :=
  if c.starter = some n then p = c.start else p = .fresh ∨ p = .finished

def Cast.ShutdownAt (c : Cast) (n : Nat) (p : Stopping) : Prop :=
  if c.closer = some n then p = c.shutdown else p = .fresh ∨ p = .finished

def Stands (b : Binder) (c : Cast) (n : Nat) (a : Activity) : Prop :=
  match a.role with
  | .periodic => n = 0 ∧ a.program.Keeps (Tasking.next? b) RoundFinish c.task
  | .operation .start => ∃ p, c.StartAt n p ∧ a.program.Keeps (Starting.next? b) (OperationFinish .finished) p
  | .operation .shutdown => ∃ p, c.ShutdownAt n p ∧ a.program.Keeps Stopping.next? (OperationFinish .finished) p
  | .operation _ => False

/-- The activities of a scene stand where a cast says. -/
structure Fits (b : Binder) (x : Scene) (c : Cast) : Prop where
  stands : ∀ {n : Nat} {a : Activity}, x.activities[n]? = some a → Stands b c n a
  calls : ∀ {n : Nat} {a : Activity}, x.activities[n]? = some a → a.pending = true →
    ∃ call k, a.program = .ask (.call call) k
  starter : ∀ {n : Nat}, c.starter = some n → ∃ a, x.activities[n]? = some a ∧ a.role = .operation .start
  closer : ∀ {n : Nat}, c.closer = some n → ∃ a, x.activities[n]? = some a ∧ a.role = .operation .shutdown
  unstarted : c.starter = none ↔ c.start = .fresh
  unclosed : c.closer = none ↔ c.shutdown = .fresh

/-! ## Activities as they begin and go on -/

section Activities

variable {b : Binder} {S : Type} {next : Protocol lifecycle S}

theorem keeps_operation {α : Type} {p : Program lifecycle α} {f : α → Operation.Result} {s last : S}
    (h : p.Keeps next (fun _ t => t = last) s) :
    ((p.bind fun a => .done (f a)).bind fun r => .done (.operation r)).Keeps next (OperationFinish last) s := by
  refine keeps_bind.2 (keeps_bind.2 (h.mono fun a t ht => ?_))
  exact ht

theorem keeps_ofRound {p : Program lifecycle (Option Nat)} {t : Tasking} (h : p.Keeps (Tasking.next? b) RoundEnds t) :
    (Activity.ofRound p).program.Keeps (Tasking.next? b) RoundFinish t :=
  keeps_bind.2 (h.mono fun _ _ ht => ht)

theorem goOn_operation {p : Program lifecycle Finish} {s last : S} (a : Activity)
    (h : p.Keeps next (OperationFinish last) s) : a.goOn b p = ⟨a.role, p, false⟩ := by
  match p, h with
  | .done (.operation _), _ => rfl
  | .done (.round _), h => exact h.elim
  | .ask _ _, _ => rfl

theorem goOn_round {a : Activity} {p : Program lifecycle Finish} {t : Tasking} (ha : a.role = .periodic)
    (h : p.Keeps (Tasking.next? b) RoundFinish t) :
    (a.goOn b p).role = .periodic ∧ (a.goOn b p).pending = false ∧
      (a.goOn b p).program.Keeps (Tasking.next? b) RoundFinish t := by
  match p, h with
  | .done (.operation _), h => exact h.elim
  | .done (.round none), h => exact ⟨ha, rfl, h⟩
  | .done (.round (some delay)), h =>
    obtain rfl : t = .waking delay := h
    exact ⟨rfl, rfl, keeps_ofRound (keeps_laterRound delay)⟩
  | .ask _ _, h => exact ⟨ha, rfl, h⟩

end Activities

/-! ## What one act does -/

/-- Whether an activity with a number may call a collaborator where the cast stands. -/
def Cast.MayCall (c : Cast) (n : Nat) (role : Role) (call : Call) : Prop :=
  match role with
  | .periodic => (c.task = .passing ∨ c.task = .resynced) ∧ call.isDetach = false
  | .operation .start => c.starter = some n ∧
    (c.start = .begun ∧ call = .metadata ∨ c.start = .retrying ∧ call ≠ .metadata) ∧ call.isDetach = false
  | .operation .shutdown => c.shutdown = .unbinding ∧ call.isAttach = false
  | .operation _ => False

/-- An operation ends at its beginning, because another one of its kind was first. -/
inductive Cast.Refuses (c : Cast) (n : Nat) : Role → (r : Request) → r.Reply → Prop where
  | start (h : c.starter ≠ some n) : Refuses c n (.operation .start) (.own (.control .markStarted)) true
  | shutdown (h : c.closer ≠ some n) : Refuses c n (.operation .shutdown) (.own (.control .beginShutdown)) false

/-- What one act does to a scene and to the cast that goes with it. -/
inductive Cast.Moves (b : Binder) (x : Scene) (c : Cast) : Cast → Scene → Prop where
  | still (time : Nat) (channel : Channel) (activities : List Activity) (received : List Event) (hle : x.time ≤ time) :
      Moves b x c c { x with time, activities, received, own := { x.own with channel } }
  | issue (n : Nat) (a : Activity) (call : Call) (h : c.MayCall n a.role call) : Moves b x c c (x.issue n a call)
  | refuse (n : Nat) (a : Activity) (r : Request) (reply : r.Reply) (p : Program lifecycle Finish)
      (h : c.Refuses n a.role r reply) : Moves b x c c (x.resume b n a r reply p x.own)
  | start (n : Nat) (a : Activity) (r : Request) (reply : r.Reply) (p : Program lifecycle Finish) (own : State)
      (q : Starting) (hrole : a.role = .operation .start) (hq : c.start.next? b r reply = some q)
      (ha : x.Answers r reply own) : Moves b x c { c with start := q, starter := some n } (x.resume b n a r reply p own)
  | shutdown (n : Nat) (a : Activity) (r : Request) (reply : r.Reply) (p : Program lifecycle Finish) (own : State)
      (q : Stopping) (hrole : a.role = .operation .shutdown) (hq : c.shutdown.next? r reply = some q)
      (ha : x.Answers r reply own) :
      Moves b x c { c with shutdown := q, closer := some n } (x.resume b n a r reply p own)
  | task (n : Nat) (a : Activity) (r : Request) (reply : r.Reply) (p : Program lifecycle Finish) (own : State)
      (q : Tasking) (hrole : a.role = .periodic) (hq : c.task.next? b r reply = some q) (ha : x.Answers r reply own) :
      Moves b x c { c with task := q } (x.resume b n a r reply p own)

/-! ## The cast follows -/

section Following

variable {b : Binder} {x : Scene} {c : Cast} {n : Nat} {a : Activity}

/-- Whoever stands at a start's position other than the first one is not affected by the first one. -/
theorem Cast.StartAt.other {m : Nat} {p q : Starting} (h : c.StartAt m p) (hne : m ≠ n)
    (hs : c.starter = none ∨ c.starter = some n) : Cast.StartAt { c with start := q, starter := some n } m p := by
  have hm : c.starter ≠ some m := by
    rcases hs with hs | hs <;> rw [hs]
    · simp
    · simpa using Ne.symm hne
  rw [Cast.StartAt, if_neg hm] at h
  rwa [Cast.StartAt, if_neg (by simpa using Ne.symm hne)]

theorem Cast.ShutdownAt.other {m : Nat} {p q : Stopping} (h : c.ShutdownAt m p) (hne : m ≠ n)
    (hs : c.closer = none ∨ c.closer = some n) : Cast.ShutdownAt { c with shutdown := q, closer := some n } m p := by
  have hm : c.closer ≠ some m := by
    rcases hs with hs | hs <;> rw [hs]
    · simp
    · simpa using Ne.symm hne
  rw [Cast.ShutdownAt, if_neg hm] at h
  rwa [Cast.ShutdownAt, if_neg (by simpa using Ne.symm hne)]

/-- **One activity goes on, and the cast with it.** -/
theorem Fits.set {y : Scene} {c' : Cast} {a' : Activity} (hf : Fits b x c) (hn : x.activities[n]? = some a)
    (hy : y.activities = x.activities.set n a') (hrole : a'.role = a.role) (hstands : Stands b c' n a')
    (hcalls : a'.pending = true → ∃ call k, a'.program = .ask (.call call) k)
    (hothers : ∀ m a, m ≠ n → Stands b c m a → Stands b c' m a)
    (hstarter : ∀ m, c'.starter = some m → c.starter = some m ∨ m = n ∧ a.role = .operation .start)
    (hcloser : ∀ m, c'.closer = some m → c.closer = some m ∨ m = n ∧ a.role = .operation .shutdown)
    (hunstarted : c'.starter = none ↔ c'.start = .fresh) (hunclosed : c'.closer = none ↔ c'.shutdown = .fresh) :
    Fits b y c' := by
  have hlt : n < x.activities.length := (List.getElem?_eq_some_iff.1 hn).1
  have hself : y.activities[n]? = some a' := by rw [hy, List.getElem?_set_self hlt]
  have hother : ∀ m, m ≠ n → y.activities[m]? = x.activities[m]? := fun m hm => by
    rw [hy, List.getElem?_set_ne (Ne.symm hm)]
  have hcases : ∀ {m : Nat} {a₀ : Activity}, y.activities[m]? = some a₀ →
      m = n ∧ a₀ = a' ∨ m ≠ n ∧ x.activities[m]? = some a₀ := fun hm => getElem?_set_cases (hy ▸ hm)
  -- every activity keeps its role
  have hroles : ∀ {m : Nat} {a₀ : Activity} {role : Role}, x.activities[m]? = some a₀ → a₀.role = role →
      ∃ a₁ : Activity, y.activities[m]? = some a₁ ∧ a₁.role = role := by
    intro m a₀ role hm hr
    by_cases hmn : m = n
    · subst hmn
      rw [hn] at hm
      obtain rfl := Option.some.inj hm
      exact ⟨a', hself, hrole.trans hr⟩
    · exact ⟨a₀, (hother m hmn).trans hm, hr⟩
  refine ⟨fun {m a₀} hm => ?_, fun {m a₀} hm => ?_, fun {m} hm => ?_, fun {m} hm => ?_, hunstarted, hunclosed⟩
  · rcases hcases hm with ⟨rfl, rfl⟩ | ⟨hmn, hm⟩
    · exact hstands
    · exact hothers m a₀ hmn (hf.stands hm)
  · rcases hcases hm with ⟨rfl, rfl⟩ | ⟨-, hm⟩
    · exact hcalls
    · exact hf.calls hm
  · rcases hstarter m hm with h | ⟨rfl, h⟩
    · obtain ⟨a₀, ha₀, hr⟩ := hf.starter h
      exact hroles ha₀ hr
    · exact hroles hn h
  · rcases hcloser m hm with h | ⟨rfl, h⟩
    · obtain ⟨a₀, ha₀, hr⟩ := hf.closer h
      exact hroles ha₀ hr
    · exact hroles hn h

theorem fits_initial (b : Binder) : Fits b (Scene.initial b) .initial where
  stands {n a} hn := by
    match n, hn with
    | 0, hn =>
      obtain rfl := Option.some.inj hn
      exact ⟨rfl, keeps_ofRound keeps_firstRound⟩
    | _ + 1, hn => cases hn
  calls {n a} hn hp := by
    match n, hn with
    | 0, hn =>
      obtain rfl := Option.some.inj hn
      cases hp
    | _ + 1, hn => cases hn
  starter := nofun
  closer := nofun
  unstarted := iff_of_true rfl rfl
  unclosed := iff_of_true rfl rfl

theorem Fits.launch {op : Operation} (hf : Fits b x c) (hop : (Act.launch op).isLifecycle = true) :
    Fits b { x with activities := x.activities ++ [.ofOperation b op] } c := by
  have hold : ∀ {m : Nat} {a : Activity}, x.activities[m]? = some a →
      (x.activities ++ [.ofOperation b op])[m]? = some a := fun {m a} hm => by
    rw [List.getElem?_append_left (List.getElem?_eq_some_iff.1 hm).1, hm]
  have hnew : ∀ {m : Nat} {a : Activity}, x.activities[m]? = some a → x.activities.length ≠ m := fun hm =>
    Nat.ne_of_gt (List.getElem?_eq_some_iff.1 hm).1
  refine ⟨fun hm => ?_, fun hm hp => ?_, fun hm => ?_, fun hm => ?_, hf.unstarted, hf.unclosed⟩
  · rcases getElem?_concat_cases hm with ⟨rfl, rfl⟩ | hm
    · cases op with
      | start =>
        refine ⟨.fresh, ?_, keeps_operation keeps_start⟩
        rw [Cast.StartAt, if_neg]
        · exact .inl rfl
        · rintro hs
          obtain ⟨a, ha, -⟩ := hf.starter hs
          exact hnew ha rfl
      | shutdown =>
        refine ⟨.fresh, ?_, keeps_operation keeps_shutdown⟩
        rw [Cast.ShutdownAt, if_neg]
        · exact .inl rfl
        · rintro hs
          obtain ⟨a, ha, -⟩ := hf.closer hs
          exact hnew ha rfl
      | _ => cases hop
    · exact hf.stands hm
  · rcases getElem?_concat_cases hm with ⟨rfl, rfl⟩ | hm
    · cases hp
    · exact hf.calls hm hp
  · obtain ⟨a, ha, hr⟩ := hf.starter hm
    exact ⟨a, hold ha, hr⟩
  · obtain ⟨a, ha, hr⟩ := hf.closer hm
    exact ⟨a, hold ha, hr⟩

/-- What stands where a cast says asks what the position allows. -/
theorem Stands.mayCall {call : Call} {k : Request.Reply (.call call) → Program lifecycle Finish} (h : Stands b c n a)
    (hp : a.program = .ask (.call call) k) : c.MayCall n a.role call := by
  -- a reply that every call may get
  let reply : call.Reply := .error (.other "")
  obtain ⟨role, program, pending⟩ := a
  obtain rfl : program = .ask (.call call) k := hp
  match role, h with
  | .periodic, h =>
    obtain ⟨t, ht, -⟩ := h.2 reply
    exact Tasking.eq_of_next?_call ht
  | .operation .start, ⟨p, hat, hk⟩ =>
    obtain ⟨t, ht, -⟩ := hk reply
    obtain ⟨hpos, hd⟩ := Starting.eq_of_next?_call ht
    rw [Cast.StartAt] at hat
    split at hat
    · rename_i hs
      exact ⟨hs, hat ▸ hpos, hd⟩
    · rcases hat with rfl | rfl <;> rcases hpos with ⟨h, -⟩ | ⟨h, -⟩ <;> cases h
  | .operation .shutdown, ⟨p, hat, hk⟩ =>
    obtain ⟨t, ht, -⟩ := hk reply
    obtain ⟨rfl, ha⟩ := Stopping.eq_of_next?_call ht
    rw [Cast.ShutdownAt] at hat
    split at hat
    · exact ⟨hat.symm, ha⟩
    · rcases hat with hat | hat <;> cases hat

theorem Fits.issue {call : Call} {k : Request.Reply (.call call) → Program lifecycle Finish} (hf : Fits b x c)
    (hn : x.activities[n]? = some a) (hp : a.program = .ask (.call call) k) : Fits b (x.issue n a call) c :=
  hf.set hn rfl rfl (hf.stands hn : Stands b c n a) (fun _ => ⟨call, k, hp⟩) (fun _ _ _ h => h) (fun _ => .inl)
    (fun _ => .inl) hf.unstarted hf.unclosed

theorem Stands.restart {m : Nat} {q : Starting} (h : Stands b c m a) (hne : m ≠ n)
    (hs : c.starter = none ∨ c.starter = some n) : Stands b { c with start := q, starter := some n } m a := by
  obtain ⟨role, program, pending⟩ := a
  match role, h with
  | .periodic, h => exact h
  | .operation .start, ⟨p, hat, hk⟩ => exact ⟨p, hat.other hne hs, hk⟩
  | .operation .shutdown, h => exact h

theorem Stands.reshut {m : Nat} {q : Stopping} (h : Stands b c m a) (hne : m ≠ n)
    (hs : c.closer = none ∨ c.closer = some n) : Stands b { c with shutdown := q, closer := some n } m a := by
  obtain ⟨role, program, pending⟩ := a
  match role, h with
  | .periodic, h => exact h
  | .operation .start, h => exact h
  | .operation .shutdown, ⟨p, hat, hk⟩ => exact ⟨p, hat.other hne hs, hk⟩

/-- What follows a step: the cast moves with the scene, and goes with it again. -/
def Follows (b : Binder) (x : Scene) (c : Cast) (y : Scene) : Prop :=
  ∃ c', c.Moves b x c' y ∧ Fits b y c' ∧ Valid c' y.own

section Steps

variable {r : Request} {k : r.Reply → Program lifecycle Finish} {reply : r.Reply} {own : State} {pending : Bool}

theorem Fits.start {q : Starting} (hf : Fits b x c) (hv : Valid c x.own)
    (hn : x.activities[n]? = some ⟨.operation .start, .ask r k, pending⟩) (ha : x.Answers r reply own)
    (hs : c.starter = none ∨ c.starter = some n) (hq : c.start.next? b r reply = some q)
    (hk : (k reply).Keeps (Starting.next? b) (OperationFinish .finished) q) :
    Follows b x c (x.resume b n ⟨.operation .start, .ask r k, pending⟩ r reply (k reply) own) := by
  have hmove := Starting.move_of_next? hq ha
  have hgo := goOn_operation (b := b) ⟨.operation .start, .ask r k, pending⟩ hk
  refine ⟨{ c with start := q, starter := some n }, .start n _ r reply (k reply) own q rfl hq ha, ?_,
    hv.start (some n) hmove⟩
  refine hf.set hn rfl (by rw [hgo]) ?_ (fun h => by rw [hgo] at h; cases h) (fun m _ hne h => h.restart hne hs)
    (fun m hm => .inr ⟨(Option.some.inj hm).symm, rfl⟩) (fun _ => .inl) (by simp [hmove.ne_fresh]) hf.unclosed
  rw [hgo]
  exact ⟨q, by simp [Cast.StartAt], hk⟩

theorem Fits.shutdown {q : Stopping} (hf : Fits b x c) (hv : Valid c x.own)
    (hn : x.activities[n]? = some ⟨.operation .shutdown, .ask r k, pending⟩) (ha : x.Answers r reply own)
    (hs : c.closer = none ∨ c.closer = some n) (hq : c.shutdown.next? r reply = some q)
    (hk : (k reply).Keeps Stopping.next? (OperationFinish .finished) q) :
    Follows b x c (x.resume b n ⟨.operation .shutdown, .ask r k, pending⟩ r reply (k reply) own) := by
  have hmove := Stopping.move_of_next? hq ha
  have hgo := goOn_operation (b := b) ⟨.operation .shutdown, .ask r k, pending⟩ hk
  refine ⟨{ c with shutdown := q, closer := some n }, .shutdown n _ r reply (k reply) own q rfl hq ha, ?_,
    hv.shutdown (some n) hmove⟩
  refine hf.set hn rfl (by rw [hgo]) ?_ (fun h => by rw [hgo] at h; cases h) (fun m _ hne h => h.reshut hne hs)
    (fun _ => .inl) (fun m hm => .inr ⟨(Option.some.inj hm).symm, rfl⟩) hf.unstarted (by simp [hmove.ne_fresh])
  rw [hgo]
  exact ⟨q, by simp [Cast.ShutdownAt], hk⟩

theorem Fits.task (hf : Fits b x c) (hv : Valid c x.own)
    (hn : x.activities[n]? = some ⟨.periodic, .ask r k, pending⟩) (ha : x.Answers r reply own) :
    Follows b x c (x.resume b n ⟨.periodic, .ask r k, pending⟩ r reply (k reply) own) := by
  obtain ⟨rfl, hk⟩ := hf.stands hn
  obtain ⟨q, hq, hrest⟩ := hk reply
  obtain ⟨hrole, hpending, hgo⟩ := goOn_round (b := b) (a := ⟨.periodic, .ask r k, pending⟩) rfl hrest
  refine ⟨{ c with task := q }, .task 0 _ r reply (k reply) own q rfl hq ha, ?_,
    hv.task (Tasking.move_of_next? hq ha)⟩
  refine hf.set hn rfl hrole ?_ (by rw [hpending]; nofun) (fun m a hne h => ?_) (fun _ => .inl) (fun _ => .inl)
    hf.unstarted hf.unclosed
  · rw [Stands, hrole]
    exact ⟨rfl, hgo⟩
  · obtain ⟨role, program, pending⟩ := a
    match role, h with
    | .periodic, h => exact absurd h.1 hne
    | .operation .start, h => exact h
    | .operation .shutdown, h => exact h

/-- A step of a start that is not the first one: it is refused, unless it becomes the first one now. -/
theorem Fits.newStart {q : Starting} (hf : Fits b x c) (hv : Valid c x.own)
    (hn : x.activities[n]? = some ⟨.operation .start, .ask r k, pending⟩) (ha : x.Answers r reply own)
    (hs : c.starter ≠ some n) (hq : Starting.fresh.next? b r reply = some q)
    (hk : (k reply).Keeps (Starting.next? b) (OperationFinish .finished) q) :
    Follows b x c (x.resume b n ⟨.operation .start, .ask r k, pending⟩ r reply (k reply) own) := by
  have hmove := Starting.move_of_next? hq ha
  simp only [Starting.next?] at hq
  split at hq
  · rename_i before
    obtain ⟨hb, rfl⟩ := Scene.answers_markStarted.1 ha
    cases before with
    | false =>
      have hfresh : c.start = .fresh := by
        by_contra h
        rw [hv.started.2 h] at hb
        cases hb
      exact hf.start hv hn ha (.inl (hf.unstarted.2 hfresh)) (by rw [hfresh]; exact hq) hk
    | true =>
      obtain rfl := Option.some.inj hq
      have hown : { x.own with started := true } = x.own := by rw [hb]
      have hgo := goOn_operation (b := b)
        ⟨.operation .start, .ask (.own (.control .markStarted)) k, pending⟩ hk
      rw [hown]
      have hm : c.Moves b x c (x.resume b n ⟨.operation .start, .ask (.own (.control .markStarted)) k, pending⟩
          (.own (.control .markStarted)) true (k true) x.own) := .refuse n _ _ _ _ (.start hs)
      refine ⟨c, hm, hf.set hn rfl (by rw [hgo]) ?_ (fun h => by rw [hgo] at h; cases h)
        (fun _ _ _ h => h) (fun _ => .inl) (fun _ => .inl) hf.unstarted hf.unclosed, hv⟩
      rw [hgo]
      exact ⟨.finished, by simp [Cast.StartAt, hs], hk⟩
  · cases hq

theorem Fits.newShutdown {q : Stopping} (hf : Fits b x c) (hv : Valid c x.own)
    (hn : x.activities[n]? = some ⟨.operation .shutdown, .ask r k, pending⟩) (ha : x.Answers r reply own)
    (hs : c.closer ≠ some n) (hq : Stopping.fresh.next? r reply = some q)
    (hk : (k reply).Keeps Stopping.next? (OperationFinish .finished) q) :
    Follows b x c (x.resume b n ⟨.operation .shutdown, .ask r k, pending⟩ r reply (k reply) own) := by
  simp only [Stopping.next?] at hq
  split at hq
  · rename_i begins
    obtain ⟨hb, rfl⟩ := Scene.answers_beginShutdown.1 ha
    cases begins with
    | true =>
      have hfresh : c.shutdown = .fresh := by
        by_contra h
        rw [hv.closing.2 h] at hb
        cases hb
      exact hf.shutdown hv hn ha (.inl (hf.unclosed.2 hfresh)) (by rw [hfresh]; exact hq) hk
    | false =>
      obtain rfl := Option.some.inj hq
      have hgo := goOn_operation (b := b)
        ⟨.operation .shutdown, .ask (.own (.control .beginShutdown)) k, pending⟩ hk
      have hm : c.Moves b x c (x.resume b n ⟨.operation .shutdown, .ask (.own (.control .beginShutdown)) k, pending⟩
          (.own (.control .beginShutdown)) false (k false) x.own) := .refuse n _ _ _ _ (.shutdown hs)
      refine ⟨c, hm, hf.set hn rfl (by rw [hgo]) ?_ (fun h => by rw [hgo] at h; cases h)
        (fun _ _ _ h => h) (fun _ => .inl) (fun _ => .inl) hf.unstarted hf.unclosed, hv⟩
      rw [hgo]
      exact ⟨.finished, by simp [Cast.ShutdownAt, hs], hk⟩
  · cases hq

/-- **A request of any activity is answered, and the cast follows.** -/
theorem Fits.resume (hf : Fits b x c) (hv : Valid c x.own) (hn : x.activities[n]? = some a)
    (hp : a.program = .ask r k) (ha : x.Answers r reply own) :
    Follows b x c (x.resume b n a r reply (k reply) own) := by
  have hstands := hf.stands hn
  obtain ⟨role, program, pending⟩ := a
  obtain rfl : program = .ask r k := hp
  match role, hstands with
  | .periodic, _ => exact hf.task hv hn ha
  | .operation .start, ⟨p, hat, hk⟩ =>
    obtain ⟨q, hq, hrest⟩ := hk reply
    rw [Cast.StartAt] at hat
    split at hat
    · rename_i hs
      exact hf.start hv hn ha (.inr hs) (hat ▸ hq) hrest
    · rename_i hs
      rcases hat with rfl | rfl
      · exact hf.newStart hv hn ha hs hq hrest
      · cases hq
  | .operation .shutdown, ⟨p, hat, hk⟩ =>
    obtain ⟨q, hq, hrest⟩ := hk reply
    rw [Cast.ShutdownAt] at hat
    split at hat
    · rename_i hs
      exact hf.shutdown hv hn ha (.inr hs) (hat ▸ hq) hrest
    · rename_i hs
      rcases hat with rfl | rfl
      · exact hf.newShutdown hv hn ha hs hq hrest
      · cases hq

end Steps

/-- **The cast follows every act.** -/
theorem Fits.turn {act : Act} {y : Scene} (hf : Fits b x c) (hv : Valid c x.own) (hact : act.isLifecycle = true)
    (h : x.Turn b act y) : Follows b x c y := by
  cases h with
  | launch op =>
    exact ⟨c, .still x.time x.own.channel _ x.received (Nat.le_refl _), hf.launch hact, hv⟩
  | issue hn hp => exact ⟨c, .issue _ _ _ ((hf.stands hn).mayCall hp), hf.issue hn hp, hv⟩
  | resume reply own hn hp ha _ => exact hf.resume hv hn hp ha
  | aside time channel received hle _ =>
    exact ⟨c, .still time channel x.activities received hle,
      ⟨hf.stands, hf.calls, hf.starter, hf.closer, hf.unstarted, hf.unclosed⟩, hv.alike ⟨rfl, rfl, rfl, rfl⟩⟩

end Following

/-- **An induction over the runs that only start, shut down and look**, act by act: what holds of a new binder and is kept
by every act, with the cast that moves along, holds of every run and the scene that it reaches, for some cast that goes with
it. -/
theorem Scene.Reaches.castAlong {b : Binder} {P : List Act → Cast → Scene → Prop} (hinit : P [] .initial (Scene.initial b))
    (hstep : ∀ {acts : List Act} {act : Act} {x y : Scene} {c c' : Cast}, Reaches b acts x → Fits b x c → Valid c x.own →
      P acts c x → x.Turn b act y → c.Moves b x c' y → P (acts ++ [act]) c' y)
    {acts : List Act} {x : Scene} (h : Reaches b acts x) (hacts : ∀ act ∈ acts, act.isLifecycle = true) :
    ∃ c, Fits b x c ∧ Valid c x.own ∧ P acts c x := by
  revert hacts
  refine h.induction (P := fun acts x =>
    (∀ act ∈ acts, act.isLifecycle = true) → ∃ c, Fits b x c ∧ Valid c x.own ∧ P acts c x) ?_ ?_
  · exact fun _ => ⟨.initial, fits_initial b, valid_initial _, hinit⟩
  · intro acts x act y hx ih hturn hacts
    obtain ⟨c, hf, hv, hP⟩ := ih fun a ha => hacts a (List.mem_append_left _ ha)
    obtain ⟨c', hm, hf', hv'⟩ := hf.turn hv (hacts act (List.mem_append_right _ List.mem_cons_self)) hturn
    exact ⟨c', hf', hv', hstep hx hf hv hP hturn hm⟩

/-- The same for what does not speak of the acts. -/
theorem Scene.Reaches.cast {b : Binder} {P : Cast → Scene → Prop} (hinit : P .initial (Scene.initial b))
    (hstep : ∀ {x y : Scene} {c c' : Cast}, Fits b x c → Valid c x.own → P c x → c.Moves b x c' y → P c' y)
    {acts : List Act} {x : Scene} (h : Reaches b acts x) (hacts : ∀ act ∈ acts, act.isLifecycle = true) :
    ∃ c, Fits b x c ∧ Valid c x.own ∧ P c x :=
  h.castAlong (P := fun _ => P) hinit (fun _ hf hv hP _ hm => hstep hf hv hP hm) hacts

end Lifecycle
end AddressBinder
