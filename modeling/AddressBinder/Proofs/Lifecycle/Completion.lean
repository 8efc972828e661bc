import AddressBinder.Proofs.Lifecycle.Memoryless
import AddressBinder.Proofs.Lifecycle.Unclosed
/-!
# Coming to an end

A start that no shutdown disturbs can always be brought to its end, by answers that its collaborators give
(`comesFrom_any`): the lock is free for it, and its pauses end as time passes.
-/
namespace AddressBinder
namespace Lifecycle

open Program

namespace Scene

variable {b : Binder} {acts more : List Act} {x y : Scene} {n k : Nat} {a : Activity}

theorem run?_cons {act : Act} {z : Scene} (hact : x.step? b act = some z) (hmore : z.run? b more = some y) :
    x.run? b (act :: more) = some y := by
  rw [run?, hact]
  exact hmore

/-- What does not have to wait is served at once. -/
theorem serves_own {o : Own} (ho : Request.mayWait (.own o) = false) (time : Nat) (s : State) :
    ∃ answer, s.serve time o = some answer := by
  cases o with
  | note _ => exact ⟨_, rfl⟩
  | task r =>
    cases r with
    | awaitArmed | nap _ => cases ho
    | isCancelled | exit => exact ⟨_, rfl⟩
  | control c =>
    cases c with
    | acquire | awaitExit => cases ho
    | markStarted | phase | release => exact ⟨_, rfl⟩
    | beginShutdown | arm _ | disarm =>
      simp only [State.serve, State.control]
      split <;> exact ⟨_, rfl⟩

theorem activities_resume (ha : x.activities[k]? = some a) (r : Request) (reply : r.Reply) (p : Program lifecycle Finish)
    (own : State) : (x.resume b k a r reply p own).activities[k]? = some (a.goOn b p) :=
  List.getElem?_set_self (List.getElem?_eq_some_iff.1 ha).1

/-- **Time can always pass**, up to any moment. -/
theorem step?_tick (b : Binder) (x : Scene) (due : Nat) :
    x.step? b (.tick (max x.time due)) = some { x with time := max x.time due } := if_pos (Nat.le_max_left _ _)

end Scene

/-! ## The end of a start -/

variable {b : Binder} {x y : Scene} {c : Cast} {n : Nat} {a : Activity} {acts more : List Act}

theorem Own.nonempty_reply (o : Own) : Nonempty o.Reply := by
  cases o with
  | note _ => exact ⟨()⟩
  | task r => cases r <;> exact ⟨default⟩
  | control ctl =>
    cases ctl with
    | phase => exact ⟨Phase.stopped⟩
    | _ => exact ⟨default⟩

/-- What a start asks and has to wait for is the lock, or the time. -/
theorem Starting.mayWait {p q : Starting} {r : Request} {reply : r.Reply} (h : p.next? b r reply = some q)
    (hr : r.mayWait = true) : r = .own (.control .acquire) ∨ ∃ due, r = .clock (.wait due) := by
  cases r with
  | call _ => cases hr
  | clock r =>
    cases r with
    | now => cases hr
    | wait due => exact .inr ⟨due, rfl⟩
  | own o =>
    cases o with
    | note _ => cases hr
    | task _ => cases p <;> cases h
    | control ctl =>
      cases ctl with
      | acquire => exact .inl rfl
      | awaitExit => cases p <;> cases h
      | _ => cases hr

theorem calls_of_ne_call {r : Request} {reply : r.Reply} (h : ∀ c, r ≠ .call c) : calls [⟨r, reply⟩] = [] := by
  cases r with
  | call c => exact absurd rfl (h c)
  | clock _ | own _ => rfl

section GoesOn

variable {r : Request} {f : r.Reply → Program lifecycle Finish} {ω : Collaborators}

theorem Unclosed.keeps (h : Unclosed b x c) (hn : x.activities[n]? = some a) (hrole : a.role = .operation .start) :
    ∃ p : Starting, a.program.Keeps (Starting.next? b) (OperationFinish .finished) p := by
  have hat := h.stands hn
  rw [UnclosedAt, hrole] at hat
  obtain ⟨p, -, hk⟩ := hat
  exact ⟨p, hk⟩

theorem Unclosed.goOn (h : Unclosed b x c) (hn : x.activities[n]? = some a) (hrole : a.role = .operation .start)
    (hp : a.program = .ask r f) (reply : r.Reply) : a.goOn b (f reply) = ⟨a.role, f reply, false⟩ := by
  obtain ⟨p, hk⟩ := h.keeps hn hrole
  rw [hp] at hk
  obtain ⟨q, -, hrest⟩ := hk reply
  exact goOn_operation a hrest

/-- A start that asks the binder for something to wait for asks for the lock, which is free. -/
theorem Unclosed.serves {o : Own} {f : o.Reply → Program lifecycle Finish} (h : Unclosed b x c)
    (hn : x.activities[n]? = some a) (hrole : a.role = .operation .start) (hp : a.program = .ask (.own o) f) :
    ∃ answer, x.own.serve x.time o = some answer := by
  cases hwait : Request.mayWait (.own o) with
  | false => exact Scene.serves_own hwait _ _
  | true =>
    obtain ⟨p, hk⟩ := h.keeps hn hrole
    rw [hp] at hk
    obtain ⟨reply⟩ := o.nonempty_reply
    obtain ⟨q, hq, -⟩ := hk reply
    rcases Starting.mayWait hq hwait with hlock | ⟨due, hclock⟩
    · cases hlock
      have hfree := h.unlocked hn hrole hp
      exact ⟨((), { x.own with locked := true }), by simp [State.serve, State.control, hfree]⟩
    · cases hclock

theorem Unclosed.served (h : Unclosed b x c) (hn : x.activities[n]? = some a) (hrole : a.role = .operation .start)
    (hp : a.program = .ask r f) (hcall : ∀ call, r ≠ .call call) (htime : ∀ due, r = .clock (.wait due) → due ≤ x.time) :
    ∃ reply own, x.step? b (.move n) = some (x.resume b n a r reply (f reply) own) := by
  cases r with
  | call call => exact absurd rfl (hcall call)
  | clock r =>
    cases r with
    | now => exact ⟨x.time, x.own, by simp only [Scene.step?, hn, hp]; rfl⟩
    | wait due =>
      have hserve : Clock.serve x.time (.wait due) = some () := if_pos (htime due rfl)
      exact ⟨(), x.own, by simp only [Scene.step?, hn, hp, Scene.serve, hserve, Option.map_some]⟩
  | own o =>
    obtain ⟨⟨reply, own⟩, hserve⟩ := h.serves hn hrole hp
    exact ⟨reply, own, by simp only [Scene.step?, hn, hp, Scene.serve, hserve, Option.map_some]⟩

/-- A start comes to its end from a scene, by answers that its collaborators give. -/
def Comes (b : Binder) (n : Nat) (ω : Collaborators) (x : Scene) : Prop :=
  ∃ more y, x.run? b more = some y ∧ (∀ act ∈ more, act ≠ .launch .shutdown) ∧ ω.Gave (y.answered n) ∧
    ∃ a r, y.activities[n]? = some a ∧ a.role = .operation .start ∧ a.program = .done (.operation r)

theorem Comes.after (hrun : x.run? b more = some y) (hmore : ∀ act ∈ more, act ≠ .launch .shutdown)
    (h : Comes b n ω y) : Comes b n ω x := by
  obtain ⟨more', z, hrun', hmore', hz⟩ := h
  refine ⟨more ++ more', z, ?_, List.forall_mem_append.2 ⟨hmore, hmore'⟩, hz⟩
  rw [Scene.run?_append, hrun]
  exact hrun'

theorem Comes.step {act : Act} (hact : x.step? b act = some y) (hne : act ≠ .launch .shutdown) (h : Comes b n ω y) :
    Comes b n ω x :=
  h.after (Scene.run?_cons hact rfl) fun act' hact' => by rwa [List.mem_singleton.1 hact']

/-- A start with a program left comes to its end wherever it stands, if the answers so far are those of its
collaborators. -/
def ComesFrom (b : Binder) (n : Nat) (ω : Collaborators) (p : Program lifecycle Finish) : Prop :=
  ∀ (x : Scene) (c : Cast) (a : Activity), Unclosed b x c → x.activities[n]? = some a → a.role = .operation .start →
    a.program = p → ω.Gave (x.answered n) → Comes b n ω x

theorem comesFrom_done (f : Finish) : ComesFrom b n ω (.done f) := by
  intro x c a h hn hrole hp hgave
  obtain ⟨p, hk⟩ := h.keeps hn hrole
  rw [hp] at hk
  cases f with
  | operation r => exact ⟨[], x, rfl, fun _ hact => absurd hact List.not_mem_nil, hgave, a, r, hn, hrole, hp⟩
  | round next => exact hk.elim

theorem ComesFrom.resumed {act : Act} {reply : r.Reply} {own : State} (hrest : ComesFrom b n ω (f reply))
    (h : Unclosed b x c) (hn : x.activities[n]? = some a) (hrole : a.role = .operation .start) (hp : a.program = .ask r f)
    (hact : x.step? b act = some (x.resume b n a r reply (f reply) own)) (hne : act ≠ .launch .shutdown)
    (hgave : ω.Gave (x.answered n ++ calls [⟨r, reply⟩])) : Comes b n ω x := by
  obtain ⟨c', hc'⟩ := h.turn hne (Scene.step?_turn hact)
  have hafter := Scene.activities_resume (b := b) hn r reply (f reply) own
  rw [h.goOn hn hrole hp reply] at hafter
  refine .step hact hne (hrest _ c' _ hc' hafter hrole rfl ?_)
  rwa [Scene.answered_resume, if_pos rfl]

theorem comesFrom_call {call : Call} {f : Request.Reply (.call call) → Program lifecycle Finish}
    (hrest : ∀ reply, ComesFrom b n ω (f reply)) : ComesFrom b n ω (.ask (.call call) f) := by
  have hwaits : ∀ (x : Scene) (c : Cast) (a : Activity), Unclosed b x c → x.activities[n]? = some a →
      a.role = .operation .start → a.program = .ask (.call call) f → a.pending = true → ω.Gave (x.answered n) →
      Comes b n ω x := by
    intro x c a h hn hrole hp hpending hgave
    have hact := Scene.step?_answer (b := b) (ω (x.answered n) call) hn hp hpending
    exact (hrest _).resumed h hn hrole hp hact (by simp) (Collaborators.gave_concat.2 ⟨hgave, rfl⟩)
  intro x c a h hn hrole hp hgave
  by_cases hpending : a.pending = true
  · exact hwaits x c a h hn hrole hp hpending hgave
  · have hact := Scene.step?_issue (b := b) hn hp (by simpa using hpending)
    obtain ⟨c', hc'⟩ := h.turn (by simp) (Scene.step?_turn hact)
    refine .step hact (by simp) (hwaits _ c' { a with pending := true } hc' ?_ hrole hp rfl ?_)
    · exact List.getElem?_set_self (List.getElem?_eq_some_iff.1 hn).1
    · rwa [Scene.answered_issue]

theorem comesFrom_served (hcall : ∀ call, r ≠ .call call) (hrest : ∀ reply, ComesFrom b n ω (f reply)) :
    ComesFrom b n ω (.ask r f) := by
  have hserved : ∀ (x : Scene) (c : Cast) (a : Activity), Unclosed b x c → x.activities[n]? = some a →
      a.role = .operation .start → a.program = .ask r f → ω.Gave (x.answered n) →
      (∀ due, r = .clock (.wait due) → due ≤ x.time) → Comes b n ω x := by
    intro x c a h hn hrole hp hgave htime
    obtain ⟨reply, own, hact⟩ := h.served hn hrole hp hcall htime
    refine (hrest reply).resumed h hn hrole hp hact (by simp) ?_
    rwa [calls_of_ne_call hcall, List.append_nil]
  intro x c a h hn hrole hp hgave
  by_cases hwait : ∃ due, r = .clock (.wait due)
  · obtain ⟨due, rfl⟩ := hwait
    have hact := Scene.step?_tick b x due
    obtain ⟨c', hc'⟩ := h.turn (by simp) (Scene.step?_turn hact)
    refine .step hact (by simp) (hserved _ c' a hc' hn hrole hp hgave fun due' heq => ?_)
    cases heq
    exact Nat.le_max_right _ _
  · exact hserved x c a h hn hrole hp hgave fun due heq => absurd ⟨due, heq⟩ hwait

/-- **A start that no shutdown disturbs comes to its end.** -/
theorem comesFrom_any (b : Binder) (n : Nat) (ω : Collaborators) (p : Program lifecycle Finish) : ComesFrom b n ω p := by
  induction p with
  | done f => exact comesFrom_done f
  | ask r f ih =>
    cases r with
    | call call => exact comesFrom_call ih
    | clock _ | own _ => exact comesFrom_served (by simp) ih

end GoesOn

end Lifecycle
end AddressBinder
