import AddressBinder.Proofs.Lifecycle.Events
import AddressBinder.Proofs.Lifecycle.Knowledge
import AddressBinder.Proofs.Pass.Decide
/-!
# Passes without memory

A pass, a bind, an unbind and the question whether an address is held are programs that ask collaborators and leave
notes; nothing that the binder itself keeps can answer them.  So what such an operation calls for and returns is computed
from the answers of its collaborators alone (`Collaborators.serve`), wherever in the life of a binder it is launched and
whatever goes on beside it (`Scene.passes_are_memoryless`).
-/
namespace AddressBinder

theorem Lifecycle.ofPass_map {α β : Type} (p : Program pass α) (f : α → β) :
    ofPass (p.bind fun a => .done (f a)) = (ofPass p).bind fun a => .done (f a) := by
  unfold ofPass
  rw [Program.translate_bind]
  rfl

namespace Operation

/-- Whether the operation is one pass, or the part of one that binds, unbinds, or looks. -/
def isPass : Operation → Bool
  | .start | .shutdown => false
  | _ => true

theorem program_of_pass {b : Binder} {op : Operation} (h : op.isPass = true) :
    ∃ p : Program pass Result, op.program b = Lifecycle.ofPass p := by
  cases op with
  | start | shutdown => cases h
  | runPass | alreadyBound | bind | unbind => exact ⟨_, (Lifecycle.ofPass_map _ _).symm⟩

end Operation

/-- What the collaborators answer to a call, by what was called for and answered before. -/
abbrev Collaborators := List Called → (c : Call) → c.Reply

namespace Collaborators

variable {ω : Collaborators} {cs : List Called} {c : Call} {reply : c.Reply} {α : Type}

/-- The answers are those that the collaborators give. -/
def Gave (ω : Collaborators) (cs : List Called) : Prop :=
  ∀ before c reply after, cs = before ++ ⟨c, reply⟩ :: after → reply = ω before c

theorem gave_nil : ω.Gave [] := by
  intro before c reply after h
  simp at h

theorem gave_concat : ω.Gave (cs ++ [⟨c, reply⟩]) ↔ ω.Gave cs ∧ reply = ω cs c := by
  constructor
  · intro h
    refine ⟨fun before c' reply' after hcs => ?_, h cs c reply [] rfl⟩
    exact h before c' reply' (after ++ [⟨c, reply⟩]) (by rw [hcs, List.append_assoc]; rfl)
  · rintro ⟨h, hreply⟩ before c' reply' after hcs
    rcases Lifecycle.eq_concat_cases hcs with ⟨rfl, heq, -⟩ | ⟨rest, -, hinit⟩
    · cases heq
      exact hreply
    · exact h before c' reply' rest hinit

/-- Serves the requests of a pass, and keeps the calls with their answers. -/
def serve (ω : Collaborators) : (r : Pass.Request) → List Called → r.Reply × List Called
  | .call c, before => (ω before c, before ++ [⟨c, ω before c⟩])
  | .note _, before => ((), before)

theorem prefix_run : ∀ (p : Program pass α) (cs : List Called), cs <+: (p.run ω.serve cs).2
  | .done _, _ => List.prefix_rfl
  | .ask (.note _) k, cs => prefix_run (k ()) cs
  | .ask (.call c) k, cs => (List.prefix_append cs _).trans (prefix_run (k (ω cs c)) _)

theorem gave_run : ∀ (p : Program pass α) {cs : List Called}, ω.Gave cs → ω.Gave (p.run ω.serve cs).2
  | .done _, _, h => h
  | .ask (.note _) k, _, h => gave_run (k ()) h
  | .ask (.call _) k, _, h => gave_run (k _) (gave_concat.2 ⟨h, rfl⟩)

end Collaborators

namespace Lifecycle

open Program

/-- The call that a line says was made, if it is about the activity with a number. -/
def Line.call? (n : Nat) (l : Line) : Option Call :=
  match l.deed with
  | .issued c => if l.number = n then some c else none
  | .answered .. => none

/-- The call that an activity waits for. -/
def Activity.awaited? (a : Activity) : Option Call :=
  match a.program with
  | .ask (.call c) _ => if a.pending then some c else none
  | _ => none

theorem Activity.awaited?_of_not_pending {a : Activity} (h : a.pending = false) : a.awaited? = none := by
  unfold awaited?
  split
  · simp [h]
  · rfl

theorem Activity.program_of_awaited? {a : Activity} {c : Call} (h : a.awaited? = some c) :
    ∃ f, a.program = .ask (.call c) f := by
  unfold awaited? at h
  split at h
  · rename_i c' f hp
    obtain ⟨-, hc⟩ := Option.ite_none_right_eq_some.1 h
    obtain rfl := Option.some.inj hc
    exact ⟨f, hp⟩
  · cases h

theorem Activity.program_of_result? {a : Activity} {r : Operation.Result} (h : a.result? = some r) :
    a.program = .done (.operation r) := by
  unfold result? at h
  split at h
  · rename_i r' hp
    rw [hp, Option.some.inj h]
  · cases h

namespace Scene

variable {b : Binder} {acts : List Act} {x y : Scene} {n k : Nat} {a : Activity}

/-- The calls that the activity with a number has made, in order. -/
def issued (x : Scene) (n : Nat) : List Call := x.log.filterMap (Line.call? n)

/-- Those that were answered, with the answers. -/
def answered (x : Scene) (n : Nat) : List Called := calls (x.exchanges n)

theorem issued_issue (c : Call) : (x.issue n a c).issued k = if n = k then x.issued k ++ [c] else x.issued k := by
  unfold issued issue
  rw [List.filterMap_append]
  by_cases h : n = k <;> simp [Line.call?, h]

theorem issued_resume (r : Request) (reply : r.Reply) (p : Program lifecycle Finish) (own : State) :
    (x.resume b n a r reply p own).issued k = x.issued k := by
  unfold issued resume
  rw [List.filterMap_append]
  simp [Line.call?]

theorem answered_issue (c : Call) : (x.issue n a c).answered k = x.answered k := by
  unfold answered
  rw [exchanges_issue]

theorem answered_resume (r : Request) (reply : r.Reply) (p : Program lifecycle Finish) (own : State) :
    (x.resume b n a r reply p own).answered k =
      if n = k then x.answered k ++ calls [⟨r, reply⟩] else x.answered k := by
  unfold answered
  rw [exchanges_resume]
  by_cases h : n = k
  · rw [if_pos h, if_pos h]
    exact List.filterMap_append
  · rw [if_neg h, if_neg h]

theorem Reaches.number_lt (h : Reaches b acts x) : ∀ l ∈ x.log, l.number < x.activities.length := by
  refine h.induction (P := fun _ x => ∀ l ∈ x.log, l.number < x.activities.length) ?_ ?_
  · exact fun l hl => absurd hl List.not_mem_nil
  · intro acts x act y _ hx hturn l hl
    cases hturn with
    | launch op =>
      show l.number < (x.activities ++ [_]).length
      rw [List.length_append]
      exact Nat.lt_add_right _ (hx l hl)
    | aside => exact hx l hl
    | issue hn _ | resume _ _ hn _ _ _ =>
      have hlt := (List.getElem?_eq_some_iff.1 hn).1
      show l.number < (x.activities.set _ _).length
      rw [List.length_set]
      rcases List.mem_append.1 hl with hl | hl
      · exact hx l hl
      · rw [List.mem_singleton.1 hl]
        exact hlt

end Scene

/-! ## What is left of a pass -/

/-- What is left of an operation whose pass has come so far. -/
def remainder (q : Program pass Operation.Result) : Program lifecycle Finish :=
  (ofPass q).bind fun r => .done (.operation r)

theorem goOn_remainder (b : Binder) (a : Activity) :
    ∀ q : Program pass Operation.Result, a.goOn b (remainder q) = ⟨a.role, remainder q, false⟩
  | .done _ => rfl
  | .ask (.call _) _ => rfl
  | .ask (.note _) _ => rfl

theorem remainder_eq_done {f : Finish} : ∀ {q : Program pass Operation.Result}, remainder q = .done f →
    ∃ r, q = .done r ∧ f = .operation r
  | .done r, h => ⟨r, rfl, by cases h; rfl⟩
  | .ask (.call _) _, h => by cases h
  | .ask (.note _) _, h => by cases h

theorem remainder_eq_call {c : Call} {f : Request.Reply (.call c) → Program lifecycle Finish} :
    ∀ {q : Program pass Operation.Result}, remainder q = .ask (.call c) f →
      ∃ g, q = .ask (.call c) g ∧ ∀ reply, f reply = remainder (g reply)
  | .done _, h => by cases h
  | .ask (.call _) g, h => by
    cases h
    exact ⟨g, rfl, fun _ => rfl⟩
  | .ask (.note _) _, h => by cases h

theorem remainder_eq_ask {r : Request} {f : r.Reply → Program lifecycle Finish} (hr : ∀ c, r ≠ .call c) :
    ∀ {q : Program pass Operation.Result}, remainder q = .ask r f →
      ∃ n g, q = .ask (.note n) g ∧ r = .own (.note n) ∧ ∀ reply, f reply = remainder (g ())
  | .done _, h => by cases h
  | .ask (.call c) _, h => by
    cases h
    exact absurd rfl (hr c)
  | .ask (.note n) g, h => by
    cases h
    exact ⟨n, g, rfl, rfl, fun _ => rfl⟩

theorem remainder_resume {r : Request} {f : r.Reply → Program lifecycle Finish} {q : Program pass Operation.Result}
    (h : remainder q = .ask r f) (reply : r.Reply) : ∃ q', f reply = remainder q' := by
  cases r with
  | call c =>
    obtain ⟨g, -, hg⟩ := remainder_eq_call h
    exact ⟨_, hg reply⟩
  | clock _ | own _ =>
    obtain ⟨_, g, -, -, hg⟩ := remainder_eq_ask (by simp) h
    exact ⟨_, hg reply⟩

namespace Scene

variable {b : Binder} {acts : List Act} {x y : Scene} {n k : Nat} {p : Program pass Operation.Result}

theorem activity_resume {a : Activity} {r : Request} {reply : r.Reply} {q : Program pass Operation.Result} {own : State}
    (hn : x.activities[n]? = some a) :
    (x.resume b n a r reply (remainder q) own).activities[n]? = some ⟨a.role, remainder q, false⟩ := by
  rw [← goOn_remainder b]
  exact List.getElem?_set_self (List.getElem?_eq_some_iff.1 hn).1

theorem answered_resume_call {a : Activity} {c : Call} {reply : c.Reply} {p : Program lifecycle Finish} {own : State} :
    (x.resume b n a (.call c) reply p own).answered n = x.answered n ++ [⟨c, reply⟩] := by
  rw [answered_resume, if_pos rfl]
  rfl

theorem answered_resume_note {a : Activity} {m : Note} {reply : Unit} {p : Program lifecycle Finish} {own : State} :
    (x.resume b n a (.own (.note m)) reply p own).answered n = x.answered n := by
  rw [answered_resume, if_pos rfl]
  exact List.append_nil _

/-- The activity with a number is somewhere in a pass: whatever its collaborators are, if the answers so far are theirs,
what is left of the pass makes the whole of it. -/
def Undergoes (p : Program pass Operation.Result) (k : Nat) (x : Scene) : Prop :=
  ∃ a q, x.activities[k]? = some a ∧ a.program = remainder q ∧
    x.issued k = (x.answered k).map (·.1) ++ a.awaited?.toList ∧
    ∀ ω : Collaborators, ω.Gave (x.answered k) → q.run ω.serve (x.answered k) = p.run ω.serve []

theorem Undergoes.frame (h : x.Undergoes p k) (hactivity : y.activities[k]? = x.activities[k]?)
    (hissued : y.issued k = x.issued k) (hanswered : y.answered k = x.answered k) : y.Undergoes p k := by
  obtain ⟨a, q, ha, hp, hi, hrun⟩ := h
  exact ⟨a, q, hactivity.trans ha, hp, by rw [hissued, hanswered, hi], by rwa [hanswered]⟩

theorem Undergoes.issue {a : Activity} {c : Call} {f : Request.Reply (.call c) → Program lifecycle Finish}
    (h : x.Undergoes p k) (hn : x.activities[n]? = some a) (hp : a.program = .ask (.call c) f)
    (hpending : a.pending = false) : (x.issue n a c).Undergoes p k := by
  by_cases hk : n = k
  · subst hk
    obtain ⟨a', q, ha', hp', hi, hrun⟩ := h
    obtain rfl := Option.some.inj (ha'.symm.trans hn)
    refine ⟨{ a' with pending := true }, q, ?_, hp', ?_, ?_⟩
    · exact List.getElem?_set_self (List.getElem?_eq_some_iff.1 hn).1
    · rw [issued_issue, if_pos rfl, answered_issue, hi]
      simp [Activity.awaited?, hp, hpending]
    · rwa [answered_issue]
  · refine h.frame (List.getElem?_set_ne hk) ?_ (answered_issue c)
    rw [issued_issue, if_neg hk]

/-- An answer to a note leaves the pass as it is, and one to a call is the next that the pass goes by. -/
theorem Undergoes.resume {a : Activity} {r : Request} {f : r.Reply → Program lifecycle Finish} {reply : r.Reply}
    {own : State} (h : x.Undergoes p k) (hn : x.activities[n]? = some a) (hp : a.program = .ask r f)
    (hpending : ∀ c, r = .call c → a.pending = true) : (x.resume b n a r reply (f reply) own).Undergoes p k := by
  by_cases hk : n = k
  · subst hk
    obtain ⟨a', q, ha', hq, hi, hrun⟩ := h
    obtain rfl := Option.some.inj (ha'.symm.trans hn)
    rw [hp] at hq
    cases r with
    | call c =>
      obtain ⟨g, rfl, hg⟩ := remainder_eq_call hq.symm
      rw [hg]
      have hawaited : a'.awaited? = some c := by simp [Activity.awaited?, hp, hpending c rfl]
      refine ⟨_, _, activity_resume hn, rfl, ?_, fun ω hgave => ?_⟩
      · rw [issued_resume, answered_resume_call, hi, hawaited]
        simp [Activity.awaited?_of_not_pending]
      · rw [answered_resume_call] at hgave ⊢
        obtain ⟨hbefore, rfl⟩ := Collaborators.gave_concat.1 hgave
        exact hrun ω hbefore
    | clock _ =>
      obtain ⟨_, _, -, heq, -⟩ := remainder_eq_ask (by simp) hq.symm
      cases heq
    | own _ =>
      obtain ⟨note, g, rfl, heq, hg⟩ := remainder_eq_ask (by simp) hq.symm
      cases heq
      rw [hg]
      have hawaited : a'.awaited? = none := by simp [Activity.awaited?, hp]
      refine ⟨_, _, activity_resume hn, rfl, ?_, fun ω hgave => ?_⟩
      · rw [issued_resume, answered_resume_note, hi, hawaited]
        simp [Activity.awaited?_of_not_pending]
      · rw [answered_resume_note] at hgave ⊢
        exact hrun ω hgave
  · refine h.frame (List.getElem?_set_ne hk) (issued_resume _ _ _ _) ?_
    rw [answered_resume, if_neg hk]

/-- **Nothing but an answer of its collaborators takes a pass on.** -/
theorem Undergoes.step {act : Act} (h : x.Undergoes p k) (hs : x.step? b act = some y) : y.Undergoes p k := by
  cases act with
  | launch op =>
    obtain rfl := Option.some.inj hs
    obtain ⟨a, -, ha, -⟩ := id h
    exact h.frame (List.getElem?_append_left (List.getElem?_eq_some_iff.1 ha).1) rfl rfl
  | look | drain | close =>
    obtain rfl := Option.some.inj hs
    exact h.frame rfl rfl rfl
  | tick time =>
    simp only [step?] at hs
    split at hs
    · obtain rfl := Option.some.inj hs
      exact h.frame rfl rfl rfl
    · cases hs
  | move n =>
    obtain ⟨a, r, f, hn, hp, ⟨c, rfl, hpending, rfl⟩ | ⟨reply, own, hr, -, rfl⟩⟩ := moves_of_move hs
    · exact h.issue hn hp hpending
    · exact h.resume hn hp fun c hc => absurd hc (hr c)
  | answer n c reply =>
    obtain ⟨a, f, hn, hp, hpending, rfl⟩ := resumes_of_answer hs
    exact h.resume hn hp fun _ _ => hpending

theorem Undergoes.run {more : List Act} (h : x.Undergoes p k) (hr : x.run? b more = some y) : y.Undergoes p k := by
  induction more generalizing x with
  | nil =>
    obtain rfl := Option.some.inj hr
    exact h
  | cons act more ih =>
    obtain ⟨z, hz, hr⟩ := Option.bind_eq_some_iff.1 hr
    exact ih (h.step hz) hr

/-- Nothing is on record of an activity that is still to be launched. -/
theorem Reaches.exchanges_unnumbered (h : Reaches b acts x) : x.exchanges x.activities.length = [] :=
  List.filterMap_eq_nil_iff.2 fun l hl => by
    have hlt := h.number_lt l hl
    unfold Line.exchange?
    split
    · rfl
    · rw [if_neg (by omega)]

theorem Reaches.unnumbered (h : Reaches b acts x) :
    x.issued x.activities.length = [] ∧ x.answered x.activities.length = [] := by
  refine ⟨List.filterMap_eq_nil_iff.2 fun l hl => ?_, by rw [answered, h.exchanges_unnumbered]; rfl⟩
  have hlt := h.number_lt l hl
  unfold Line.call?
  split
  · rw [if_neg (by omega)]
  · rfl

theorem program_launched {op : Operation} (h : op.program b = ofPass p) :
    (Activity.ofOperation b op).program = remainder p := by
  show (op.program b).bind _ = _
  rw [h]
  rfl

theorem Reaches.undergoes {op : Operation} (h : Reaches b acts x) (hprogram : op.program b = ofPass p) :
    Undergoes p x.activities.length { x with activities := x.activities ++ [.ofOperation b op] } := by
  obtain ⟨hissued, hanswered⟩ := h.unnumbered
  refine ⟨.ofOperation b op, p, List.getElem?_concat_length, program_launched hprogram, ?_, fun ω _ => ?_⟩
  · show x.issued _ = (x.answered _).map _ ++ _
    rw [hissued, hanswered, Activity.awaited?_of_not_pending rfl]
    rfl
  · show p.run ω.serve (x.answered _) = _
    rw [hanswered]

theorem Undergoes.outcome {ω : Collaborators} (h : x.Undergoes p k) (hgave : ω.Gave (x.answered k)) :
    x.issued k <+: (p.run ω.serve []).2.map (·.1) ∧
      ∀ r, x.result? k = some r → p.run ω.serve [] = (r, x.answered k) := by
  obtain ⟨a, q, ha, hq, hi, hrun⟩ := h
  rw [← hrun ω hgave, hi]
  refine ⟨?_, fun r hr => ?_⟩
  · cases hawaited : a.awaited? with
    | none => simpa using (Collaborators.prefix_run q _).map Sigma.fst
    | some c =>
      obtain ⟨f, hp⟩ := Activity.program_of_awaited? hawaited
      obtain ⟨g, rfl, -⟩ := remainder_eq_call (hq.symm.trans hp)
      have hpre := (Collaborators.prefix_run (ω := ω) (g (ω (x.answered k) c)) (x.answered k ++ [⟨c, ω (x.answered k) c⟩])).map (·.1)
      rw [List.map_append] at hpre
      exact hpre
  · unfold result? at hr
    rw [ha] at hr
    have hdone := Activity.program_of_result? hr
    obtain ⟨r', rfl, hr'⟩ := remainder_eq_done (hq.symm.trans hdone)
    cases hr'
    rfl

section Steps

variable {a : Activity}

theorem step?_note {m : Note} {f : Unit → Program lifecycle Finish} (ha : x.activities[k]? = some a)
    (hp : a.program = .ask (.own (.note m)) f) :
    x.step? b (.move k) = some (x.resume b k a (.own (.note m)) () (f ()) (x.own.note x.time m)) := by
  simp only [step?, ha, hp]
  rfl

theorem step?_issue {c : Call} {f : Request.Reply (.call c) → Program lifecycle Finish} (ha : x.activities[k]? = some a)
    (hp : a.program = .ask (.call c) f) (hpending : a.pending = false) :
    x.step? b (.move k) = some (x.issue k a c) := by
  simp [step?, ha, hp, serve, hpending]

theorem step?_answer {c : Call} {f : Request.Reply (.call c) → Program lifecycle Finish} (reply : c.Reply)
    (ha : x.activities[k]? = some a) (hp : a.program = .ask (.call c) f) (hpending : a.pending = true) :
    x.step? b (.answer k c reply) = some (x.resume b k a (.call c) reply (f reply) x.own) := by
  simp [step?, ha, hp, answer, hpending]

end Steps

/-- **A pass can always be brought to its end**, by answers that its collaborators give. -/
theorem completes (b : Binder) (ω : Collaborators) : ∀ (q : Program pass Operation.Result) (x : Scene) (a : Activity),
    x.activities[k]? = some a → a.program = remainder q → a.pending = false →
      ∃ more y, x.run? b more = some y ∧ y.result? k = some (q.run ω.serve (x.answered k)).1 ∧
        y.answered k = (q.run ω.serve (x.answered k)).2
  | .done r, x, a, ha, hp, _ => ⟨[], x, rfl, by simp [result?, ha, Activity.result?, hp, remainder]; rfl, rfl⟩
  | .ask (.note m) g, x, a, ha, hp, _ => by
    have hp : a.program = .ask (.own (.note m)) fun _ => remainder (g ()) := hp
    let z := x.resume b k a (.own (.note m)) () (remainder (g ())) (x.own.note x.time m)
    have hz : x.step? b (.move k) = some z := step?_note ha hp
    obtain ⟨more, y, hy, hr, hc⟩ := completes b ω (g ()) z _ (activity_resume ha) rfl rfl
    rw [answered_resume_note] at hr hc
    exact ⟨.move k :: more, y, by rw [run?, hz]; exact hy, hr, hc⟩
  | .ask (.call c) g, x, a, ha, hp, hpending => by
    have hp : a.program = .ask (.call c) fun reply => remainder (g reply) := hp
    let reply := ω (x.answered k) c
    let asking : Activity := { a with pending := true }
    let z := (x.issue k a c).resume b k asking (.call c) reply (remainder (g reply)) x.own
    have hasked : x.step? b (.move k) = some (x.issue k a c) := step?_issue ha hp hpending
    have ha' : (x.issue k a c).activities[k]? = some asking :=
      List.getElem?_set_self (List.getElem?_eq_some_iff.1 ha).1
    have hz : (x.issue k a c).step? b (.answer k c reply) = some z := step?_answer reply ha' hp rfl
    obtain ⟨more, y, hy, hr, hc⟩ := completes b ω (g reply) z _ (activity_resume ha') rfl rfl
    rw [answered_resume_call, answered_issue] at hr hc
    exact ⟨.move k :: .answer k c reply :: more, y, by rw [run?, hasked, Option.bind_some, run?, hz]; exact hy, hr, hc⟩

/-- **Passes are memoryless.**  For every operation that is a pass, and whatever its collaborators answer by what they
were asked before, there is one result and one list of calls.  Wherever in the life of a binder the operation is launched,
and whatever else happens then: as long as its calls are answered so, those it has made are the first of that list, and
when it ends it has made them all and returns that result; and it can be brought to its end so. -/
theorem passes_are_memoryless (b : Binder) {op : Operation} (hop : op.isPass = true) (ω : Collaborators) :
    ∃ (r : Operation.Result) (cs : List Called), ω.Gave cs ∧ ∀ acts x, Reaches b acts x →
      (∀ more y, Reaches b (acts ++ .launch op :: more) y → ω.Gave (y.answered x.activities.length) →
        y.issued x.activities.length <+: cs.map (·.1) ∧
        ∀ r', y.result? x.activities.length = some r' → r' = r ∧ y.answered x.activities.length = cs) ∧
      ∃ more y, Reaches b (acts ++ .launch op :: more) y ∧ y.result? x.activities.length = some r ∧
        y.answered x.activities.length = cs := by
  obtain ⟨p, hprogram⟩ := Operation.program_of_pass (b := b) hop
  refine ⟨(p.run ω.serve []).1, (p.run ω.serve []).2, Collaborators.gave_run p Collaborators.gave_nil,
    fun acts x hx => ?_⟩
  have hreach : ∀ {more y}, Reaches b (acts ++ .launch op :: more) y ↔
      run? b { x with activities := x.activities ++ [.ofOperation b op] } more = some y := fun {more y} => by
    have hx : (initial b).run? b acts = some x := hx
    unfold Reaches
    rw [run?_append, hx]
    rfl
  have hlaunched := hx.undergoes hprogram
  refine ⟨fun more y hy hgave => ?_, ?_⟩
  · obtain ⟨hpre, hresult⟩ := (hlaunched.run (hreach.1 hy)).outcome hgave
    refine ⟨hpre, fun r' hr' => ?_⟩
    rw [hresult r' hr']
    exact ⟨rfl, rfl⟩
  · obtain ⟨more, y, hy, hr, hc⟩ := completes b ω p { x with activities := x.activities ++ [.ofOperation b op] } _
      List.getElem?_concat_length (program_launched hprogram) rfl
    have hanswered : answered { x with activities := x.activities ++ [.ofOperation b op] } x.activities.length = [] :=
      hx.unnumbered.2
    rw [hanswered] at hr hc
    exact ⟨more, y, hreach.2 hy, hr, hc⟩

end Scene

/-- Collaborators of an instance with nothing attached and one free interface. -/
def obliging : Collaborators := fun _ c =>
  match c with
  | .metadata => .ok ⟨"i-1", "a"⟩
  | .serviceUrls _ => .ok ["10.0.0.1"]
  | .provider (.describeInstance _) => .ok (some ⟨"i-1", "s", []⟩)
  | .provider (.describeInterfaces _) => .ok [.free "eni-1" ⟨10, 0, 0, 1⟩ "s"]
  | .provider (.attach ..) => .ok "eni-attach-1"
  | .provider (.detach _) => .ok ()
  | .clearRegistry => .ok ()
  | .syncUp => .ok 2
  | .openForTraffic _ => .ok ()

/-- A binder that is stopped after a failed pass binds as a new one does. -/
theorem passes_are_memoryless_when_stopped : ∃ (r : Operation.Result) (cs : List Called),
    (∃ more y, Scene.Reaches ⟨singleAttempt, "memory"⟩ (.launch .bind :: more) y ∧ y.result? 1 = some r ∧
      y.answered 1 = cs) ∧
    ∃ x more y, Scene.Reaches ⟨singleAttempt, "memory"⟩ wholeLife x ∧ x.own.status.phase = .stopped ∧
      x.own.status.lastPassAt = some 60000 ∧
      Scene.Reaches ⟨singleAttempt, "memory"⟩ (wholeLife ++ .launch .bind :: more) y ∧ y.result? 3 = some r ∧
      y.answered 3 = cs := by
  have hsome : ((Scene.initial ⟨singleAttempt, "memory"⟩).run? ⟨singleAttempt, "memory"⟩ wholeLife).any (fun x =>
      x.own.status.phase = .stopped && x.own.status.lastPassAt = some 60000 && x.activities.length = 3) = true := by rfl
  obtain ⟨x, hx, hstatus⟩ := Option.any_eq_true _ _ |>.1 hsome
  simp only [Bool.and_eq_true, decide_eq_true_eq] at hstatus
  obtain ⟨⟨hphase, hlast⟩, hlength⟩ := hstatus
  obtain ⟨r, cs, -, hruns⟩ := Scene.passes_are_memoryless ⟨singleAttempt, "memory"⟩
    (show Operation.bind.isPass = true from rfl) obliging
  obtain ⟨more, y, hy, hr, hc⟩ := (hruns [] _ (.initial _)).2
  obtain ⟨more', y', hy', hr', hc'⟩ := (hruns wholeLife x hx).2
  rw [hlength] at hr' hc'
  exact ⟨r, cs, ⟨more, y, hy, hr, hc⟩, x, more', y', hx, hphase, hlast, hy', hr', hc'⟩

end Lifecycle
end AddressBinder
