import AddressBinder.Proofs.Lifecycle.Closing
import AddressBinder.Proofs.Lifecycle.LateAttach
/-!
# Runs without a shutdown

All operations but a shutdown may be launched, as often as the application likes.  A cast goes with every scene here too
(`Unclosed`): passes, binds and unbinds have no part in it.  So a start finds what it hopes for: no phase that it reads
is one after shutdown has begun, and the schedule that it arms was not armed before (`Reaches.hoped`).
-/
namespace AddressBinder
namespace Lifecycle

open Program

/-! ## Operations without a part -/

/-- Whether a request is one of a pass, and does not say that the binder is stopped. -/
def Request.isPlain : Request → Bool
  | .call _ => true
  | .own (.note n) => n ≠ .observe .stopped
  | _ => false

def plain : Protocol lifecycle Unit := fun _ r _ => if r.isPlain then some () else none

section Plain

variable {b : Binder} {op : Operation} {α : Type} {p : Program pass α}

theorem plain_note {n : Note} (hn : n ≠ .observe .stopped) (reply : Unit) :
    withinPass plain () (.note n) reply = some () := by
  simp [withinPass, plain, Request.isPlain, hn]

theorem views_plain : Pass.Views (withinPass plain) () () := ⟨fun _ => rfl, fun _ _ _ _ _ => rfl⟩

theorem binds_plain (n : String) : Pass.Binds (withinPass plain) n () () () where
  list _ _ := rfl
  attach _ _ _ := rfl
  observe _ := rfl
  attached _ _ _ := rfl
  noneFree _ := rfl

theorem unbinds_plain (id : String) : Pass.Unbinds (withinPass plain) id () () where
  detach _ := rfl
  detached _ := rfl

theorem Tasking.plain_withinPass {t u : Tasking} : ∀ {r : pass.Request} {reply : pass.Reply r},
    withinPass (Tasking.next? b) t r reply = some u → withinPass plain () r reply = some ()
  | .call _, _, _ => rfl
  | .note n, reply, h => by
    refine plain_note ?_ reply
    rintro rfl
    cases t <;> cases h

theorem plain_context : (Pass.context b).Keeps (withinPass plain) (fun _ _ => True) () :=
  (Pass.keeps_context views_plain).mono fun _ _ _ => trivial

theorem plain_bind : (Pass.bind b).Keeps (withinPass plain) (fun _ _ => True) () := by
  refine keeps_andThen.2 (plain_context.mono fun r _ _ => ?_)
  cases r with
  | error e => trivial
  | ok ctx => exact (Pass.keeps_bindIn (binds_plain _)).mono fun _ _ _ => trivial

theorem plain_alreadyBound : (Pass.alreadyBound b).Keeps (withinPass plain) (fun _ _ => True) () := by
  refine keeps_andThen.2 (plain_context.mono fun r _ _ => ?_)
  cases r <;> trivial

theorem plain_periodic : (Pass.periodic b).Keeps (withinPass plain) (fun _ _ => True) () :=
  (keeps_periodic.map fun _ _ _ _ h => Tasking.plain_withinPass h).mono fun _ _ _ => trivial

/-- Whether an operation has a part in the life of a binder. -/
def Operation.hasPart : Operation → Bool
  | .start | .shutdown => true
  | _ => false

theorem plain_ofOperation (hop : Operation.hasPart op = false) :
    (Activity.ofOperation b op).program.Keeps plain (OperationFinish ()) () := by
  cases op with
  | start | shutdown => cases hop
  | runPass => exact keeps_operation (keeps_ofPass (plain_periodic.mono fun _ _ _ => rfl))
  | alreadyBound => exact keeps_operation (keeps_ofPass (plain_alreadyBound.mono fun _ _ _ => rfl))
  | bind => exact keeps_operation (keeps_ofPass (plain_bind.mono fun _ _ _ => rfl))
  | unbind =>
    exact keeps_operation (keeps_ofPass ((Pass.keeps_unbind views_plain unbinds_plain).mono fun _ _ _ => rfl))

end Plain

/-- Such a request decides nothing in the binder's own state. -/
theorem Scene.alike_of_plain {x : Scene} {own : State} : ∀ {r : Request} {reply : r.Reply}, x.Answers r reply own →
    r.isPlain = true → Alike x.own own
  | .call _, _, ha, _ => by
    obtain rfl := Scene.answers_call.1 ha
    exact .refl _
  | .own (.note n), _, ha, hr => by
    obtain rfl := Scene.answers_note.1 ha
    exact .note _ _ (by simpa [Request.isPlain] using hr)
  | .clock _, _, _, hr => by cases hr
  | .own (.control _), _, _, hr => by cases hr
  | .own (.task _), _, _, hr => by cases hr

/-! ## The invariant -/

/-- Where an activity with a number stands as long as no shutdown is launched. -/
def UnclosedAt (b : Binder) (c : Cast) (n : Nat) (a : Activity) : Prop :=
  match a.role with
  | .periodic => n = 0 ∧ a.program.Keeps (Tasking.next? b) RoundFinish c.task
  | .operation .start => ∃ p, c.StartAt n p ∧ a.program.Keeps (Starting.next? b) (OperationFinish .finished) p
  | .operation .shutdown => False
  | .operation _ => a.program.Keeps plain (OperationFinish ()) ()

/-- No shutdown was launched, and a cast goes with the scene. -/
structure Unclosed (b : Binder) (x : Scene) (c : Cast) : Prop where
  valid : Valid c x.own
  shutdown : c.shutdown = .fresh
  stands : ∀ {n : Nat} {a : Activity}, x.activities[n]? = some a → UnclosedAt b c n a
  starter : ∀ {n : Nat}, c.starter = some n → n < x.activities.length
  unstarted : c.starter = none ↔ c.start = .fresh

variable {b : Binder} {x y : Scene} {c c' : Cast} {n : Nat} {a : Activity} {acts : List Act}

theorem unclosed_initial (b : Binder) : Unclosed b (Scene.initial b) .initial where
  valid := valid_initial _
  shutdown := rfl
  stands {n a} hn := by
    cases n with
    | zero =>
      obtain rfl := Option.some.inj hn
      exact ⟨rfl, keeps_ofRound keeps_firstRound⟩
    | succ n => cases hn
  starter := nofun
  unstarted := iff_of_true rfl rfl

theorem Unclosed.launch {op : Operation} (h : Unclosed b x c) (hop : op ≠ .shutdown) :
    Unclosed b { x with activities := x.activities ++ [.ofOperation b op] } c where
  valid := h.valid
  shutdown := h.shutdown
  stands {m a} hm := by
    rcases getElem?_concat_cases hm with ⟨rfl, rfl⟩ | hm
    · cases op with
      | start =>
        refine ⟨.fresh, ?_, keeps_operation keeps_start⟩
        rw [Cast.StartAt, if_neg fun hs => Nat.lt_irrefl _ (h.starter hs)]
        exact .inl rfl
      | shutdown => exact absurd rfl hop
      | runPass | alreadyBound | bind | unbind => exact plain_ofOperation rfl
    · exact h.stands hm
  starter hm := by
    have hlt := h.starter hm
    rw [List.length_append]
    omega
  unstarted := h.unstarted

/-- **One activity goes on, and the cast with it.** -/
theorem Unclosed.set {a' : Activity} (h : Unclosed b x c) (hn : x.activities[n]? = some a)
    (hy : y.activities = x.activities.set n a') (hvalid : Valid c' y.own) (hshutdown : c'.shutdown = .fresh)
    (hstands : UnclosedAt b c' n a') (hothers : ∀ m a, m ≠ n → UnclosedAt b c m a → UnclosedAt b c' m a)
    (hstarter : ∀ m, c'.starter = some m → c.starter = some m ∨ m = n)
    (hunstarted : c'.starter = none ↔ c'.start = .fresh) : Unclosed b y c' where
  valid := hvalid
  shutdown := hshutdown
  stands {m a} hm := by
    rw [hy] at hm
    rcases getElem?_set_cases hm with ⟨rfl, rfl⟩ | ⟨hne, hm⟩
    · exact hstands
    · exact hothers m a hne (h.stands hm)
  starter {m} hm := by
    rw [hy, List.length_set]
    rcases hstarter m hm with hm | rfl
    · exact h.starter hm
    · exact (List.getElem?_eq_some_iff.1 hn).1
  unstarted := hunstarted

section Steps

variable {r : Request} {k : r.Reply → Program lifecycle Finish} {reply : r.Reply} {own : State} {pending : Bool}

theorem Unclosed.start {q : Starting} (h : Unclosed b x c)
    (hn : x.activities[n]? = some ⟨.operation .start, .ask r k, pending⟩) (ha : x.Answers r reply own)
    (hs : c.starter = none ∨ c.starter = some n) (hq : c.start.next? b r reply = some q)
    (hk : (k reply).Keeps (Starting.next? b) (OperationFinish .finished) q) :
    Unclosed b (x.resume b n ⟨.operation .start, .ask r k, pending⟩ r reply (k reply) own)
      { c with start := q, starter := some n } := by
  have hmove := Starting.move_of_next? hq ha
  have hgo := goOn_operation (b := b) ⟨.operation .start, .ask r k, pending⟩ hk
  refine h.set hn rfl (h.valid.start (some n) hmove) h.shutdown ?_ (fun m a' hne hat => ?_)
    (fun m hm => .inr (Option.some.inj hm).symm) (by simp [hmove.ne_fresh])
  · rw [hgo]
    exact ⟨q, by simp [Cast.StartAt], hk⟩
  · obtain ⟨role, program, pending'⟩ := a'
    cases role with
    | periodic => exact hat
    | operation op =>
      cases op with
      | start =>
        obtain ⟨p, hp, hkeeps⟩ := hat
        exact ⟨p, hp.other hne hs, hkeeps⟩
      | shutdown | runPass | alreadyBound | bind | unbind => exact hat

/-- A start that is not the first one is refused, unless it becomes the first one now. -/
theorem Unclosed.newStart {q : Starting} (h : Unclosed b x c)
    (hn : x.activities[n]? = some ⟨.operation .start, .ask r k, pending⟩) (ha : x.Answers r reply own)
    (hs : c.starter ≠ some n) (hq : Starting.fresh.next? b r reply = some q)
    (hk : (k reply).Keeps (Starting.next? b) (OperationFinish .finished) q) :
    ∃ c', Unclosed b (x.resume b n ⟨.operation .start, .ask r k, pending⟩ r reply (k reply) own) c' := by
  have hq' := hq
  simp only [Starting.next?] at hq'
  split at hq'
  · rename_i before
    obtain ⟨hbefore, rfl⟩ := Scene.answers_markStarted.1 ha
    cases before with
    | false =>
      have hfresh : c.start = .fresh := by
        by_contra hc
        rw [h.valid.started.2 hc] at hbefore
        cases hbefore
      exact ⟨_, h.start hn ha (.inl (h.unstarted.2 hfresh)) (by rw [hfresh]; exact hq) hk⟩
    | true =>
      obtain rfl := Option.some.inj hq'
      have hown : { x.own with started := true } = x.own := by rw [hbefore]
      have hgo := goOn_operation (b := b) ⟨.operation .start, .ask (.own (.control .markStarted)) k, pending⟩ hk
      rw [hown]
      refine ⟨c, h.set hn rfl h.valid h.shutdown ?_ (fun _ _ _ hat => hat) (fun _ => .inl) h.unstarted⟩
      rw [hgo]
      exact ⟨.finished, by simp [Cast.StartAt, hs], hk⟩
  · cases hq'

theorem Unclosed.task (h : Unclosed b x c) (hn : x.activities[n]? = some ⟨.periodic, .ask r k, pending⟩)
    (ha : x.Answers r reply own) :
    ∃ c', Unclosed b (x.resume b n ⟨.periodic, .ask r k, pending⟩ r reply (k reply) own) c' := by
  obtain ⟨rfl, hk⟩ := h.stands hn
  obtain ⟨u, hu, hrest⟩ := hk reply
  obtain ⟨hrole, -, hgo⟩ := goOn_round (b := b) (a := ⟨.periodic, .ask r k, pending⟩) rfl hrest
  refine ⟨{ c with task := u }, h.set hn rfl (h.valid.task (Tasking.move_of_next? hu ha)) h.shutdown ?_
    (fun m a' hne hat => ?_) (fun _ => .inl) h.unstarted⟩
  · rw [UnclosedAt, hrole]
    exact ⟨rfl, hgo⟩
  · obtain ⟨role, program, pending'⟩ := a'
    cases role with
    | periodic => exact absurd hat.1 hne
    | operation op => cases op <;> exact hat

theorem isPlain_of_plain {s t : Unit} (h : plain s r reply = some t) : r.isPlain = true := by
  unfold plain at h
  split at h
  · assumption
  · cases h

/-- **A request of any activity is answered, and a cast still goes with the scene.** -/
theorem Unclosed.resume (h : Unclosed b x c) (hn : x.activities[n]? = some a) (hp : a.program = .ask r k)
    (ha : x.Answers r reply own) : ∃ c', Unclosed b (x.resume b n a r reply (k reply) own) c' := by
  have hat := h.stands hn
  obtain ⟨role, program, pending⟩ := a
  obtain rfl : program = .ask r k := hp
  cases role with
  | periodic => exact h.task hn ha
  | operation op =>
    cases op with
    | shutdown => exact hat.elim
    | start =>
      obtain ⟨p, hat, hk⟩ := hat
      obtain ⟨q, hq, hrest⟩ := hk reply
      rw [Cast.StartAt] at hat
      split at hat
      · rename_i hs
        exact ⟨_, h.start hn ha (.inr hs) (hat ▸ hq) hrest⟩
      · rename_i hs
        rcases hat with rfl | rfl
        · exact h.newStart hn ha hs hq hrest
        · cases hq
    | runPass | alreadyBound | bind | unbind =>
      obtain ⟨u, hu, hrest⟩ := hat reply
      have halike := Scene.alike_of_plain ha (isPlain_of_plain hu)
      refine ⟨c, h.set hn rfl (h.valid.alike halike) h.shutdown ?_ (fun _ _ _ hat => hat) (fun _ => .inl) h.unstarted⟩
      rw [goOn_operation _ hrest]
      exact hrest

end Steps

theorem Unclosed.turn {act : Act} (h : Unclosed b x c) (hact : act ≠ .launch .shutdown) (hturn : x.Turn b act y) :
    ∃ c', Unclosed b y c' := by
  cases hturn with
  | launch op =>
    refine ⟨c, h.launch ?_⟩
    rintro rfl
    exact hact rfl
  | issue hn hp =>
    have hat := h.stands hn
    exact ⟨c, h.set hn rfl h.valid h.shutdown hat (fun _ _ _ hat => hat) (fun _ => .inl) h.unstarted⟩
  | resume reply own hn hp ha _ => exact h.resume hn hp ha
  | aside =>
    exact ⟨c, h.valid.alike ⟨rfl, rfl, rfl, rfl⟩, h.shutdown, h.stands, h.starter, h.unstarted⟩

/-- **As long as no shutdown is launched, a cast goes with the scene.** -/
theorem Scene.Reaches.unclosed (h : Reaches b acts x) (hacts : ∀ act ∈ acts, act ≠ .launch .shutdown) :
    ∃ c, Unclosed b x c := by
  revert hacts
  refine h.induction (P := fun acts x => (∀ act ∈ acts, act ≠ .launch .shutdown) → ∃ c, Unclosed b x c) ?_ ?_
  · intro _
    exact ⟨_, unclosed_initial b⟩
  · intro acts x act y _ ih hturn hacts
    obtain ⟨c, hc⟩ := ih fun act hact => hacts act (List.mem_append_left _ hact)
    exact hc.turn (hacts act (by simp)) hturn

/-! ## What a start finds -/

/-- Whether a reply is what a start hopes for: shutdown has not begun, and the schedule was not armed before. -/
def Request.IsHoped : (r : Request) → r.Reply → Prop
  | .own (.control .phase), phase => Phase.isTerminal phase = false
  | .own (.control (.arm _)), arms => arms = true
  | _, _ => True

section Finds

variable {r : Request} {k : r.Reply → Program lifecycle Finish} {reply : r.Reply} {own : State}

theorem Unclosed.not_terminal (h : Unclosed b x c) : x.own.status.phase.isTerminal = false := by
  rw [← Bool.not_eq_true, h.valid.closing, h.shutdown]
  exact fun h => h rfl

/-- A start that asks for the lock is the first one. -/
theorem Unclosed.unlocked {f : Unit → Program lifecycle Finish} (h : Unclosed b x c) (hn : x.activities[n]? = some a)
    (hrole : a.role = .operation .start) (hp : a.program = .ask (.own (.control .acquire)) f) :
    x.own.locked = false := by
  have hat := h.stands hn
  rw [UnclosedAt, hrole, hp] at hat
  obtain ⟨p, hat, hk⟩ := hat
  obtain ⟨q, hq, -⟩ := hk ()
  have hqueued : p = .queued := by cases p <;> first | rfl | cases hq
  subst hqueued
  rw [Cast.StartAt] at hat
  split at hat
  · rw [← Bool.not_eq_true, h.valid.locked, h.shutdown, ← hat]
    simp [Starting.holds, Stopping.holds]
  · simp at hat

/-- A start that comes to arm the schedule finds it idle. -/
theorem Unclosed.idle {delay : Nat} {f : Bool → Program lifecycle Finish} (h : Unclosed b x c)
    (hn : x.activities[n]? = some a) (hp : a.program = .ask (.own (.control (.arm delay))) f) :
    x.own.schedule = .idle := by
  have hat := h.stands hn
  obtain ⟨role, program, pending⟩ := a
  obtain rfl : program = .ask (.own (.control (.arm delay))) f := hp
  cases role with
  | periodic =>
    obtain ⟨u, hu, -⟩ := hat.2 true
    generalize c.task = t at hu
    cases t <;> cases hu
  | operation op =>
    cases op with
    | shutdown => exact hat.elim
    | start =>
      obtain ⟨p, hat, hk⟩ := hat
      obtain ⟨q, hq, -⟩ := hk true
      obtain rfl := Starting.eq_arming_of_arm hq
      rw [Cast.StartAt] at hat
      split at hat
      · exact h.valid.scheduled.idle (by rw [← hat]; rfl)
      · simp at hat
    | runPass | alreadyBound | bind | unbind =>
      obtain ⟨u, hu, -⟩ := hat true
      cases hu

theorem Unclosed.hoped (h : Unclosed b x c) (hn : x.activities[n]? = some a) (hp : a.program = .ask r k)
    (ha : x.Answers r reply own) : r.IsHoped reply := by
  cases r with
  | call _ | clock _ => trivial
  | own o =>
    cases o with
    | note _ | task _ => trivial
    | control ctl =>
      cases ctl with
      | phase =>
        obtain ⟨rfl, -⟩ := Scene.answers_phase.1 ha
        exact h.not_terminal
      | arm delay =>
        obtain ⟨rfl, -⟩ := Scene.answers_arm.1 ha
        exact decide_eq_true (h.idle hn hp)
      | _ => trivial

end Finds

/-- **As long as no shutdown is launched, every reply is one that a start hopes for.** -/
theorem Scene.Reaches.hoped (h : Reaches b acts x) (hacts : ∀ act ∈ acts, act ≠ .launch .shutdown) (n : Nat) :
    ∀ e ∈ x.exchanges n, e.1.IsHoped e.2 := by
  revert hacts
  refine h.induction (P := fun acts x =>
    (∀ act ∈ acts, act ≠ .launch .shutdown) → ∀ e ∈ x.exchanges n, e.1.IsHoped e.2) ?_ ?_
  · exact fun _ e he => absurd he List.not_mem_nil
  · intro acts x act y hx ih hturn hacts
    have hbefore := fun act hact => hacts act (List.mem_append_left _ hact)
    cases hturn with
    | launch | aside => exact ih hbefore
    | issue _ _ =>
      rw [exchanges_issue]
      exact ih hbefore
    | resume reply own hn hp ha _ =>
      obtain ⟨c, hc⟩ := hx.unclosed hbefore
      intro e he
      rcases mem_exchanges_resume.1 he with he | ⟨-, rfl⟩
      · exact ih hbefore e he
      · exact hc.hoped hn hp ha

end Lifecycle
end AddressBinder
