import AddressBinder.Proofs.Fleet.Outlook
import AddressBinder.Proofs.Lifecycle.Completion
/-!
# The snapshot at rest

A binder whose operations and scheduled passes come one at a time, on a cloud that nobody else changes.  Whenever nothing
is under way, the snapshot shows what the instance holds, unless an unbind has released it and the snapshot was not
written since, or a shutdown that makes no attempt has struck what is still held (`InTurn.snapshot_at_rest`).
-/
namespace AddressBinder

namespace Lifecycle

open Program

/-- Whether an operation is under way, or a pass of the periodic task. -/
def Activity.isUnderWay (a : Activity) : Bool :=
  match a.role, a.program with
  | .operation _, .done _ => false
  | .operation _, .ask .. => true
  | .periodic, .ask (.call _) _ => true
  | .periodic, .ask (.own (.note _)) _ => true
  | .periodic, _ => false

def Line.overlooks (before : Bool) (l : Line) : Bool :=
  match l.deed with
  | .issued _ => before
  | .answered r reply => l.role.overlooks before r reply

/-- Whether the snapshot overlooks that an unbind has released an interface. -/
def Scene.overlooks (x : Scene) : Bool := x.log.foldl Line.overlooks false

/-- Whether a request is one of the periodic task between two passes. -/
def Request.isOfTask : Request → Bool
  | .clock _ | .own (.task _) => true
  | _ => false

/-- The periodic task is between passes: what it asks next leads to no pass, or to the whole of one. -/
def Between (b : Binder) : Program lifecycle (Option Nat) → Prop
  | .done _ => True
  | .ask r k => r.isOfTask = true ∧
      ∀ reply, Between b (k reply) ∨ k reply = (scheduledPass b).bind (Schedule.afterPass port)

variable {b : Binder}

theorem between_afterPass (delay : Option Nat) : Between b (Schedule.afterPass port delay) := by
  cases delay with
  | none => exact ⟨rfl, fun _ => .inl trivial⟩
  | some delay =>
    refine ⟨rfl, fun cancelled => .inl ?_⟩
    cases cancelled with
    | true => exact ⟨rfl, fun _ => .inl trivial⟩
    | false => trivial

theorem between_laterRound (delay : Nat) : Between b (laterRound b delay) := by
  refine ⟨rfl, fun time => .inl ⟨rfl, fun cancelled => ?_⟩⟩
  cases cancelled with
  | true => exact .inl ⟨rfl, fun _ => .inl trivial⟩
  | false => exact .inr rfl

theorem between_firstRound : Between b (firstRound b) := ⟨rfl, fun delay => .inl (between_laterRound delay)⟩

section Elsewhere

variable {α : Type} {p : α → Bool} {x y : α}

/-- Where at most one entry is as asked, an entry at another place is not. -/
theorem eq_false_of_countP_le_one : ∀ {l : List α} {j k : Nat}, l.countP p ≤ 1 → l[j]? = some x → p x = true →
    l[k]? = some y → k ≠ j → p y = false
  | [], _, _, _, hx, _, _, _ => by cases hx
  | z :: l, 0, 0, _, _, _, _, hne => absurd rfl hne
  | z :: l, 0, k + 1, hle, hx, hp, hy, _ => by
    obtain rfl := Option.some.inj hx
    rw [List.countP_cons_of_pos hp] at hle
    have hrest : l.countP p = 0 := by omega
    exact Bool.eq_false_iff.2 (List.countP_eq_zero.1 hrest y (List.mem_of_getElem? hy))
  | z :: l, j + 1, 0, hle, hx, hp, hy, _ => by
    obtain rfl := Option.some.inj hy
    refine Bool.eq_false_iff.2 fun hz => ?_
    rw [List.countP_cons_of_pos hz] at hle
    have hrest : l.countP p = 0 := by omega
    exact absurd hp (List.countP_eq_zero.1 hrest x (List.mem_of_getElem? hx))
  | z :: l, j + 1, k + 1, hle, hx, hp, hy, hne => by
    have hrest : l.countP p ≤ 1 := by
      rw [List.countP_cons] at hle
      omega
    exact eq_false_of_countP_le_one hrest hx hp hy (fun h => hne (congrArg (· + 1) h))

end Elsewhere

end Lifecycle

namespace Fleet

open Program Lifecycle

variable {c d : Cloud} {own : String} {candidates : Candidates} {b : Binder} {w t : Outlook} {a a' : Activity}
  {r : Lifecycle.Request} {k : r.Reply → Program lifecycle Finish} {reply : r.Reply}

/-! ## One activity -/

/-- An activity with nothing under way. -/
inductive Resting (b : Binder) : Activity → Prop where
  | ended {op : Operation} {f : Finish} {pending : Bool} : Resting b ⟨.operation op, .done f, pending⟩
  | between {p : Program lifecycle (Option Nat)} {pending : Bool} (h : Between b p) :
      Resting b ⟨.periodic, p.bind fun next => .done (.round next), pending⟩

/-- What is left of a round of the periodic task, from within its pass on. -/
def restOfRound (q : Program pass Nat) : Program lifecycle Finish :=
  (ofPass q).bind fun delay => (Schedule.afterPass port (some delay)).bind fun next => .done (.round next)

/-- An activity that is under way, and leaves the binder at ease if nothing interferes. -/
inductive Engaged (c : Cloud) (own : String) (candidates : Candidates) (b : Binder) (w : Outlook) : Activity → Prop where
  | operating {op : Operation} {r : Lifecycle.Request} {k : r.Reply → Program lifecycle Finish} {pending : Bool}
      (h : (Program.ask r k).Secures (undisturbed own candidates (.operation op))
        (fun _ t => AtEase c own candidates b.config.retries t) w) :
      Engaged c own candidates b w ⟨.operation op, .ask r k, pending⟩
  | passing {r : Pass.Request} {k : r.Reply → Program pass Nat} {pending : Bool}
      (h : (Program.ask r k).Secures (undisturbedPass own candidates .periodic)
        (fun _ t => AtEase c own candidates b.config.retries t) w) :
      Engaged c own candidates b w ⟨.periodic, restOfRound (.ask r k), pending⟩

theorem Resting.not_underWay (h : Resting b a) : a.isUnderWay = false := by
  cases h with
  | ended => rfl
  | @between p _ h =>
    cases p with
    | done _ => rfl
    | ask r k =>
      obtain ⟨hr, -⟩ := h
      match r, hr with
      | .clock _, _ => rfl
      | .own (.task _), _ => rfl

theorem Engaged.underWay (h : Engaged c own candidates b w a) : a.isUnderWay = true := by
  cases h with
  | operating => rfl
  | @passing r _ _ _ => cases r <;> rfl

theorem goOn_restOfRound (a : Activity) (q : Program pass Nat) : a.goOn b (restOfRound q) = ⟨a.role, restOfRound q, false⟩ := by
  cases q with
  | done _ => rfl
  | ask r _ => cases r <;> rfl

theorem resting_goOn {p : Program lifecycle (Option Nat)} (h : Between b p) (ha : a.role = .periodic) :
    Resting b (a.goOn b (p.bind fun next => .done (.round next))) := by
  obtain ⟨role, _, _⟩ := a
  obtain rfl : role = .periodic := ha
  cases p with
  | ask _ _ => exact .between h
  | done next =>
    cases next with
    | none => exact .between (p := .done none) h
    | some delay => exact .between (between_laterRound delay)

/-- **An activity that rests changes nothing when it goes on**, and comes to rest again or begins a pass. -/
theorem Resting.resume (c : Cloud) (own : String) (candidates : Candidates) (h : Resting b a)
    (hp : a.program = .ask r k) : r.isOfTask = true ∧
    ∀ reply, Resting b (a.goOn b (k reply)) ∨ (a.goOn b (k reply)).isUnderWay = true ∧
      ∀ {w : Outlook}, AtEase c own candidates b.config.retries w → Engaged c own candidates b w (a.goOn b (k reply)) := by
  cases h with
  | ended => cases hp
  | @between p _ h =>
    cases p with
    | done _ => cases hp
    | ask r' k' =>
      cases hp
      refine ⟨h.1, fun reply => (h.2 reply).imp (fun hk => resting_goOn hk rfl) fun hpass => ?_⟩
      have hround : ((k' reply).bind fun next => .done (.round next)) = restOfRound (Pass.periodic b) := by
        rw [hpass]
        simp only [scheduledPass, restOfRound, bind_assoc, done_bind]
      dsimp only
      rw [hround, goOn_restOfRound]
      exact ⟨rfl, fun hw => .passing (AtEase.maintains_periodic _ hw)⟩

/-- **An activity that is under way goes on, or comes to rest and leaves the binder at ease.** -/
theorem Engaged.resume (h : Engaged c own candidates b w a) (hp : a.program = .ask r k)
    (hr : undisturbed own candidates a.role w r reply t) :
    Resting b (a.goOn b (k reply)) ∧ AtEase c own candidates b.config.retries t ∨
      Engaged c own candidates b t (a.goOn b (k reply)) := by
  cases h with
  | operating h =>
    cases hp
    have hrest := h reply t hr
    cases hk : k reply with
    | ask r' k' =>
      rw [hk] at hrest
      exact .inr (.operating hrest)
    | done f =>
      rw [hk] at hrest
      refine .inl ⟨?_, hrest⟩
      rcases f with _ | _ | delay
      · exact .ended
      · exact .ended
      · exact .between (between_laterRound delay)
  | @passing r' k' _ h =>
    have hrest : (∃ q : Program pass Nat, k reply = restOfRound q ∧
        q.Secures (undisturbedPass own candidates .periodic) (fun _ t => AtEase c own candidates b.config.retries t) t) := by
      cases r' with
      | call _ | note _ =>
        cases hp
        exact ⟨k' reply, rfl, h reply t hr⟩
    obtain ⟨q, hq, hsecures⟩ := hrest
    rw [hq, goOn_restOfRound]
    cases q with
    | ask _ _ => exact .inr (.passing hsecures)
    | done delay => exact .inl ⟨.between (between_afterPass (some delay)), hsecures⟩

/-! ## A scene -/

/-- What decides whether the snapshot of a scene is true. -/
def outlook (x : Scene) (d : Cloud) : Outlook := ⟨x.own.status, x.overlooks, d⟩

theorem overlooks_issue {x : Scene} {n : Nat} (call : Call) : (x.issue n a call).overlooks = x.overlooks := by
  simp [Scene.overlooks, Scene.issue, List.foldl_append, Line.overlooks]

theorem outlook_resume {x : Scene} {n : Nat} {p : Program lifecycle Finish} {s : State} :
    outlook (x.resume b n a r reply p s) d = ⟨s.status, a.role.overlooks x.overlooks r reply, d⟩ := by
  simp [outlook, Scene.overlooks, Scene.resume, List.foldl_append, Line.overlooks]

/-- **What does not come from the cloud is replied as when nothing else happens.** -/
theorem undisturbed_of_answers {x : Scene} {role : Role} {s : State} (ha : x.Answers r reply s) (ho : Outer own r reply)
    (hs : Smooth candidates r reply) :
    undisturbed own candidates role (outlook x d) r reply ⟨s.status, role.overlooks x.overlooks r reply, d⟩ := by
  cases r with
  | clock _ =>
    obtain ⟨-, rfl⟩ := ha
    rfl
  | call call =>
    obtain rfl := ha
    cases call with
    | provider _ => exact ho.elim
    | metadata | serviceUrls _ | clearRegistry | syncUp | openForTraffic _ => exact ⟨ho, hs, rfl⟩
  | own o =>
    cases o with
    | note n =>
      obtain rfl := Scene.answers_note.1 ha
      cases n with
      | observe o => exact ⟨x.time, rfl⟩
      | emit e => rfl
    | task r =>
      obtain ⟨served, -, hserved⟩ := Option.map_eq_some_iff.1 ha
      obtain ⟨rfl, rfl⟩ := Prod.mk.inj hserved
      rfl
    | control ctl =>
      cases ctl with
      | markStarted =>
        obtain ⟨-, rfl⟩ := Scene.answers_markStarted.1 ha
        rfl
      | phase =>
        obtain ⟨-, rfl⟩ := Scene.answers_phase.1 ha
        rfl
      | beginShutdown =>
        obtain ⟨hbegins, rfl⟩ := Scene.answers_beginShutdown.1 ha
        refine ⟨hbegins, ?_⟩
        cases reply <;> rfl
      | acquire =>
        obtain ⟨-, rfl⟩ := Scene.answers_acquire.1 ha
        rfl
      | release =>
        obtain rfl := Scene.answers_release.1 ha
        rfl
      | arm delay =>
        obtain ⟨-, rfl⟩ := Scene.answers_arm.1 ha
        cases reply <;> rfl
      | disarm =>
        obtain ⟨-, rfl⟩ := Scene.answers_disarm.1 ha
        cases reply <;> rfl
      | awaitExit =>
        obtain ⟨-, rfl⟩ := Scene.answers_awaitExit.1 ha
        rfl

theorem eq_of_isOfTask {role : Role} (hr : r.isOfTask = true) (h : undisturbed own candidates role w r reply t) :
    t = w := by
  cases r with
  | clock _ => exact h
  | call _ => cases hr
  | own o =>
    cases o with
    | task _ => exact h
    | note _ | control _ => cases hr

/-- Nothing is under way. -/
def Quiet (x : Scene) : Prop := ∀ a ∈ x.activities, a.isUnderWay = false

/-- The activities of a scene rest or are under way, undisturbed; when all rest, the binder is at ease. -/
structure Settled (c : Cloud) (own : String) (candidates : Candidates) (b : Binder) (x : Scene) (d : Cloud) : Prop where
  single : x.activities.countP Activity.isUnderWay ≤ 1
  placed : ∀ {n : Nat} {a : Activity}, x.activities[n]? = some a →
    Resting b a ∨ Engaged c own candidates b (outlook x d) a
  ease : Quiet x → AtEase c own candidates b.config.retries (outlook x d)

variable {x y : Scene} {n : Nat} {d' : Cloud}

theorem quiet_of_others (hn : x.activities[n]? = some a) (ha : a.isUnderWay = false)
    (hothers : ∀ {m : Nat} {e : Activity}, m ≠ n → x.activities[m]? = some e → e.isUnderWay = false) : Quiet x := by
  intro e he
  obtain ⟨m, hm⟩ := List.getElem?_of_mem he
  by_cases hne : m = n
  · subst hne
    obtain rfl := Option.some.inj (hn.symm.trans hm)
    exact ha
  · exact hothers hne hm

/-- Beside an activity that is under way, all others rest. -/
theorem Settled.others (h : Settled c own candidates b x d) (hn : x.activities[n]? = some a) (ha : a.isUnderWay = true)
    {m : Nat} (hm : x.activities[m]? = some a') (hne : m ≠ n) : Resting b a' := by
  have hnot := eq_false_of_countP_le_one h.single hn ha hm hne
  refine (h.placed hm).resolve_right fun hengaged => ?_
  rw [hengaged.underWay] at hnot
  cases hnot

/-- A scene in which one activity has gone on is settled when the others and this one are in their places. -/
theorem settled_of_set (hset : y.activities = x.activities.set n a')
    (hsingle : y.activities.countP Activity.isUnderWay ≤ 1)
    (hothers : ∀ {m : Nat} {e : Activity}, m ≠ n → x.activities[m]? = some e →
      Resting b e ∨ Engaged c own candidates b (outlook y d) e)
    (hnew : Resting b a' ∨ Engaged c own candidates b (outlook y d) a')
    (hease : Quiet y → AtEase c own candidates b.config.retries (outlook y d)) :
    Settled c own candidates b y d := by
  refine ⟨hsingle, fun {m e} hm => ?_, hease⟩
  rcases getElem?_set_cases (hset ▸ hm) with ⟨-, rfl⟩ | ⟨hne, hm⟩
  · exact hnew
  · exact hothers hne hm

/-- **An activity that gets the reply that it would get undisturbed leaves the scene settled**, while no two are under
way. -/
theorem Settled.resume (h : Settled c own candidates b x d) (hn : x.activities[n]? = some a) (hp : a.program = .ask r k)
    (hset : y.activities = x.activities.set n (a.goOn b (k reply)))
    (hr : undisturbed own candidates a.role (outlook x d) r reply (outlook y d'))
    (hsingle : y.activities.countP Activity.isUnderWay ≤ 1) : Settled c own candidates b y d' := by
  have hnew : y.activities[n]? = some (a.goOn b (k reply)) := by
    rw [hset, List.getElem?_set_self (List.getElem?_eq_some_iff.1 hn).1]
  have hold : ∀ {m : Nat} {e : Activity}, m ≠ n → x.activities[m]? = some e → y.activities[m]? = some e := fun hne hm => by
    rw [hset, List.getElem?_set_ne (Ne.symm hne), hm]
  rcases h.placed hn with hrests | hengaged
  · -- what a task asks between passes changes nothing, and so all others are as they were
    obtain ⟨htask, hstep⟩ := hrests.resume c own candidates hp
    have hsame : outlook y d' = outlook x d := eq_of_isOfTask htask hr
    have hquiet : (∀ {m : Nat} {e : Activity}, m ≠ n → x.activities[m]? = some e → e.isUnderWay = false) →
        AtEase c own candidates b.config.retries (outlook y d') := fun hothers => by
      rw [hsame]
      exact h.ease (quiet_of_others hn hrests.not_underWay hothers)
    refine settled_of_set hset hsingle (fun _ hm => hsame ▸ h.placed hm) ?_ fun hy => hquiet fun hne hm =>
      hy _ (List.mem_of_getElem? (hold hne hm))
    refine (hstep reply).imp id fun hbegins => hbegins.2 (hquiet fun hne hm => ?_)
    exact eq_false_of_countP_le_one hsingle hnew hbegins.1 (hold hne hm) hne
  · refine settled_of_set hset hsingle (fun hne hm => .inl (h.others hn hengaged.underWay hm hne)) ?_ fun hy => ?_
    · exact (hengaged.resume hp hr).imp And.left id
    · refine ((hengaged.resume hp hr).resolve_right fun hgoes => ?_).2
      have hquiet := hy _ (List.mem_of_getElem? hnew)
      rw [hgoes.underWay] at hquiet
      cases hquiet

/-- **An operation that is launched finds nothing under way**, and the binder at ease. -/
theorem Settled.launch (h : Settled c own candidates b x d) (op : Operation)
    (hset : y.activities = x.activities ++ [.ofOperation b op]) (hsame : outlook y d = outlook x d)
    (hsingle : y.activities.countP Activity.isUnderWay ≤ 1) : Settled c own candidates b y d := by
  have hunderWay : (Activity.ofOperation b op).isUnderWay = true := by cases op <;> rfl
  have hnew : y.activities[x.activities.length]? = some (.ofOperation b op) := by
    rw [hset]
    exact List.getElem?_concat_length
  have hquiet : Quiet x := fun e he => by
    obtain ⟨m, hm⟩ := List.getElem?_of_mem he
    have hlt : m < x.activities.length := (List.getElem?_eq_some_iff.1 hm).1
    have hstays : y.activities[m]? = some e := by rw [hset, List.getElem?_append_left hlt, hm]
    exact eq_false_of_countP_le_one hsingle hnew hunderWay hstays (Nat.ne_of_lt hlt)
  have hprogram : (Activity.ofOperation b op).program.Secures (undisturbed own candidates (.operation op))
      (fun _ t => AtEase c own candidates b.config.retries t) (outlook y d) :=
    secures_bind.2 (AtEase.maintains_program op _ (hsame ▸ h.ease hquiet))
  obtain ⟨r, k, hask⟩ : ∃ r k, (Activity.ofOperation b op).program = .ask r k := by cases op <;> exact ⟨_, _, rfl⟩
  refine ⟨hsingle, fun {m e} hm => ?_, fun hy => ?_⟩
  · rcases getElem?_concat_cases (hset ▸ hm) with ⟨-, rfl⟩ | hm
    · rw [hask] at hprogram
      have hactivity : Activity.ofOperation b op = ⟨.operation op, .ask r k, false⟩ := by rw [← hask]; rfl
      rw [hactivity]
      exact .inr (.operating hprogram)
    · rw [hsame]
      exact h.placed hm
  · have hnot := hy _ (List.mem_of_getElem? hnew)
    rw [hunderWay] at hnot
    cases hnot

theorem Settled.issue (h : Settled c own candidates b x d) (hn : x.activities[n]? = some a) (call : Call)
    (hsingle : (x.issue n a call).activities.countP Activity.isUnderWay ≤ 1) :
    Settled c own candidates b (x.issue n a call) d := by
  have hsame : outlook (x.issue n a call) d = outlook x d := by
    unfold outlook
    rw [overlooks_issue]
    rfl
  refine settled_of_set rfl hsingle (fun _ hm => hsame ▸ h.placed hm) ?_ fun hy => ?_
  · rw [hsame]
    refine (h.placed hn).imp (fun hrests => ?_) fun hengaged => ?_
    · cases hrests with
      | ended => exact .ended
      | between hbetween => exact .between hbetween
    · cases hengaged with
      | operating hsecures => exact .operating hsecures
      | passing hsecures => exact .passing hsecures
  · rw [hsame]
    have hwaits : ({ a with pending := true } : Activity).isUnderWay = false :=
      hy _ (List.mem_of_getElem? (List.getElem?_set_self (List.getElem?_eq_some_iff.1 hn).1))
    refine h.ease (quiet_of_others hn hwaits fun {m e} hne hm => ?_)
    exact hy e (List.mem_of_getElem? ((List.getElem?_set_ne (Ne.symm hne)).trans hm))

/-- **Whatever happens around the binder leaves its scene settled**, if its collaborators work and no two activities are
under way. -/
theorem Settled.turn {act : Lifecycle.Act} (h : Settled c own candidates b x d) (ht : x.Turn b act y)
    (hsmooth : ∀ k r reply, Scene.Brings act k r reply → Outer own r reply ∧ Smooth candidates r reply)
    (hsingle : y.activities.countP Activity.isUnderWay ≤ 1) : Settled c own candidates b y d := by
  cases ht with
  | launch op => exact h.launch op rfl rfl hsingle
  | issue hn _ => exact h.issue hn _ hsingle
  | resume reply s hn hp ha hact =>
    obtain ⟨ho, hs⟩ := hsmooth _ _ _ hact
    refine h.resume hn hp rfl ?_ hsingle
    rw [outlook_resume]
    exact undisturbed_of_answers ha ho hs
  | aside => exact ⟨hsingle, h.placed, h.ease⟩

/-- **So does a call that the cloud serves.** -/
theorem Settled.serve {call : ProviderCall} (h : Settled c own candidates b x d)
    (hy : x.step? b (.answer n (.provider call) (Cloud.serve call d).1) = some y)
    (hsingle : y.activities.countP Activity.isUnderWay ≤ 1) :
    Settled c own candidates b y (Cloud.serve call d).2 := by
  obtain ⟨a, f, hn, hp, -, rfl⟩ := Scene.resumes_of_answer hy
  refine h.resume hn hp rfl ?_ hsingle
  rw [outlook_resume]
  exact ⟨rfl, rfl⟩

/-! ## Runs in turn -/

/-- Of no binder more than one activity is under way. -/
def isInTurn (f : Fleet) : Bool := f.members.all fun m => m.scene.activities.countP Activity.isUnderWay ≤ 1

/-- **A fleet that is reached by some acts, while the operations and the passes of each binder come one at a time.** -/
def InTurn (c : Cloud) (crew : List (Binder × String)) (acts : List Act) (f : Fleet) : Prop :=
  acts.foldlM (fun e act => (e.step? act).filter isInTurn) (initial c crew) = some f

/-- No operation is under way, and no pass. -/
def AtRest (f : Fleet) : Prop := ∀ m ∈ f.members, Quiet m.scene

variable {crew : List (Binder × String)} {acts : List Act} {f : Fleet}

theorem inTurn_concat {act : Act} {g : Fleet} :
    InTurn c crew (acts ++ [act]) g ↔ ∃ f, InTurn c crew acts f ∧ f.step? act = some g ∧ g.isInTurn = true := by
  unfold InTurn
  rw [List.foldlM_append]
  simp [Option.bind_eq_some_iff, Option.filter_eq_some_iff]

theorem single_of_isInTurn {m : Member} (hf : f.members = [m]) (h : f.isInTurn = true) :
    m.scene.activities.countP Activity.isUnderWay ≤ 1 := by
  have hall := List.all_eq_true.1 h m (hf ▸ List.mem_cons_self)
  exact of_decide_eq_true hall

/-- **What holds of a binder alone and its cloud**, as long as nothing but itself changes them. -/
theorem InTurn.induction {Q : Act → Prop} {P : Scene → Cloud → Prop} (hcalm : ∀ act, Q act → act.IsUndisturbed candidates)
    (hinit : P (Scene.initial b) c)
    (haround : ∀ {n : Nat} {act : Lifecycle.Act} {x y : Scene} {d : Cloud}, Q (.around n act) → P x d → x.Turn b act y →
      (∀ k r reply, Scene.Brings act k r reply → Outer own r reply ∧ Smooth candidates r reply) →
      y.activities.countP Activity.isUnderWay ≤ 1 → P y d)
    (hserve : ∀ {k : Nat} {call : ProviderCall} {x y : Scene} {d : Cloud}, P x d →
      x.step? b (.answer k (.provider call) (Cloud.serve call d).1) = some y →
      y.activities.countP Activity.isUnderWay ≤ 1 → P y (Cloud.serve call d).2)
    (hacts : ∀ act ∈ acts, Q act) (h : InTurn c [(b, own)] acts f) :
    ∃ x, f.members = [⟨b, own, x⟩] ∧ P x f.cloud := by
  induction acts using List.reverseRecOn generalizing f with
  | nil =>
    obtain rfl := Option.some.inj h
    exact ⟨Scene.initial b, rfl, hinit⟩
  | append_singleton acts act ih =>
    obtain ⟨e, he, hs, hturn⟩ := inTurn_concat.1 h
    obtain ⟨x, hx, hP⟩ := ih (fun a ha => hacts a (List.mem_append_left _ ha)) he
    have hact : Q act := hacts act (List.mem_append_right _ List.mem_cons_self)
    obtain ⟨y, hy, ⟨n, act', rfl, hcloud, hscene, hsmooth⟩ | ⟨k, call, hcloud, hserved⟩⟩ :=
      (step?_turn hs).alone hx (hcalm act hact)
    · rw [hcloud]
      exact ⟨y, hy, haround hact hP hscene hsmooth (single_of_isInTurn hy hturn)⟩
    · rw [hcloud]
      exact ⟨y, hy, hserve hP hserved (single_of_isInTurn hy hturn)⟩

theorem settled_initial (hi : c.Indexed) (hv : c.Vacant) (hwork : Working own c)
    (hnone : ∀ k, ¬ c.HoldsAt own candidates k) : Settled c own candidates b (Scene.initial b) c := by
  have hh : Cloud.Home own candidates (c.home own candidates) := Cloud.home_home hi hv
  have hwhole : Cloud.Whole (c.home own candidates) c := fun k => (Cloud.home_of_not_holdsAt (hnone k)).symm
  refine ⟨List.countP_le_length, fun {n a} hn => ?_, fun _ => ⟨hh, hnone, hwork, .nothing hnone hwhole, ?_⟩⟩
  · obtain rfl := List.mem_singleton.1 (List.mem_of_getElem? hn)
    exact .inl (.between between_firstRound)
  · exact .telling (fun ip => iff_of_false nofun (hwhole.not_holdsAddress hh ip)) fun _ => rfl

theorem InTurn.settled (hi : c.Indexed) (hv : c.Vacant) (hwork : Working own c)
    (hnone : ∀ k, ¬ c.HoldsAt own candidates k) (hacts : ∀ act ∈ acts, act.IsUndisturbed candidates)
    (h : InTurn c [(b, own)] acts f) : ∃ x, f.members = [⟨b, own, x⟩] ∧ Settled c own candidates b x f.cloud := by
  refine h.induction (fun _ hact => hact) (settled_initial hi hv hwork hnone) ?_ ?_ hacts
  · exact fun _ hsettled hscene hsmooth hsingle => hsettled.turn hscene hsmooth hsingle
  · exact fun hsettled hserved hsingle => hsettled.serve hserved hsingle

/-! ## What nobody unbinds -/

theorem overlooks_of_ne {role : Role} (h : role ≠ .operation .unbind) : role.overlooks false r reply = false := by
  have hnot : (role == .operation .unbind) = false := beq_eq_false_iff_ne.2 h
  unfold Role.overlooks
  split
  · rw [hnot]
    rfl
  · rfl
  · rfl

/-- No activity is an unbind, and the snapshot overlooks nothing. -/
def NeverUnbound (x : Scene) : Prop := (∀ a ∈ x.activities, a.role ≠ .operation .unbind) ∧ x.overlooks = false

theorem NeverUnbound.turn {act : Lifecycle.Act} (h : NeverUnbound x) (hact : act ≠ .launch .unbind)
    (ht : x.Turn b act y) : NeverUnbound y := by
  obtain ⟨hroles, hoverlooks⟩ := h
  cases ht with
  | launch op =>
    refine ⟨fun e he => ?_, hoverlooks⟩
    rcases List.mem_append.1 he with he | he
    · exact hroles e he
    · obtain rfl := List.mem_singleton.1 he
      rintro hop
      obtain rfl : op = .unbind := Role.operation.inj hop
      exact hact rfl
  | @issue n a call _ hn _ =>
    have hrole : a.role ≠ .operation .unbind := hroles a (List.mem_of_getElem? hn)
    refine ⟨fun e he => ?_, (overlooks_issue call).trans hoverlooks⟩
    rcases List.mem_or_eq_of_mem_set he with he | rfl
    · exact hroles e he
    · exact hrole
  | @resume _ n a r k reply s hn _ _ _ =>
    have hrole : a.role ≠ .operation .unbind := hroles a (List.mem_of_getElem? hn)
    refine ⟨fun e he => ?_, ?_⟩
    · rcases List.mem_or_eq_of_mem_set he with he | rfl
      · exact hroles e he
      · rcases Activity.goOn_cases b a (k reply) with ⟨delay, hgoes⟩ | hgoes
        · rw [hgoes]
          nofun
        · rw [hgoes]
          exact hrole
    · have hoverlooked : (x.resume b n a r reply (k reply) s).overlooks = a.role.overlooks x.overlooks r reply :=
        congrArg Outlook.overlooks (outlook_resume (d := Cloud.empty))
      rw [hoverlooked, hoverlooks]
      exact overlooks_of_ne hrole
  | aside => exact ⟨hroles, hoverlooks⟩

theorem InTurn.neverUnbound (hacts : ∀ act ∈ acts, act.IsUndisturbed candidates)
    (hunbind : ∀ act ∈ acts, act.launch? ≠ some .unbind) (h : InTurn c [(b, own)] acts f) :
    ∃ x, f.members = [⟨b, own, x⟩] ∧ NeverUnbound x := by
  have hboth : ∀ act ∈ acts, act.IsUndisturbed candidates ∧ act.launch? ≠ some .unbind := fun act ha =>
    ⟨hacts act ha, hunbind act ha⟩
  refine h.induction (P := fun x _ => NeverUnbound x) (fun _ hact => hact.1) ?_ ?_ ?_ hboth
  · refine ⟨fun a ha => ?_, rfl⟩
    obtain rfl := List.mem_singleton.1 ha
    nofun
  · intro n act x y d hact hnever hscene _ _
    refine hnever.turn ?_ hscene
    rintro rfl
    exact hact.2 rfl
  · intro k call x y d hnever hserved _
    refine hnever.turn ?_ (Scene.step?_turn hserved)
    nofun

/-! ## At rest -/

/-- **What the snapshot shows at rest.**  One binder on an instance that holds nothing at first, on a cloud that nobody
else changes and in which at most attaching fails, with fixed candidates and collaborators that work; its operations and
its scheduled passes come one at a time, in any order.  Whenever nothing is under way, the snapshot shows the candidate
address that the instance holds, and none if it holds none, but in two cases: an unbind has released the address that it
shows, and it was not written since; or a shutdown that was to make no attempt has struck the address that is still held.
A binder that makes attempts is in the first case just when the snapshot overlooks a release, so never as long as nothing
is unbound. -/
theorem InTurn.snapshot_at_rest (hi : c.Indexed) (hv : c.Vacant) (hp : c.Preregistered) (hqueries : c.failQueries = false)
    (hdetaches : c.failDetaches = false) (hregistered : c.instances.contains own = true)
    (hnone : ∀ k, ¬ c.HoldsAt own candidates k) (hacts : ∀ act ∈ acts, act.IsUndisturbed candidates)
    (h : InTurn c [(b, own)] acts f) (hrest : f.AtRest) : ∃ x, f.members = [⟨b, own, x⟩] ∧
      (x.own.status.Tells f.cloud own candidates ∨
        (x.overlooks = true ∧ (∃ ip, x.own.status.boundAddress = some ip) ∧
          ∀ ip, ¬ f.cloud.HoldsAddress own candidates ip) ∨
        (b.config.retries = 0 ∧ x.own.status.phase = .stopped ∧ x.own.status.boundAddress = none ∧
          ∃ ip, f.cloud.HoldsAddress own candidates ip)) ∧
      (0 < b.config.retries → (x.own.status.Tells f.cloud own candidates ↔ x.overlooks = false)) ∧
      ((∀ act ∈ acts, act.launch? ≠ some .unbind) → x.overlooks = false) := by
  obtain ⟨x, hx, hsettled⟩ := h.settled hi hv ⟨hregistered, hqueries, hdetaches, hp.sound⟩ hnone hacts
  have hquiet : Quiet x := hrest ⟨b, own, x⟩ (by rw [hx]; exact List.mem_cons_self)
  refine ⟨x, hx, ?_, fun hretries => ?_, fun hunbind => ?_⟩
  · cases (hsettled.ease hquiet).verdict with
    | telling htells _ => exact .inl htells
    | overlooked ip hoverlooks hshown hheld => exact .inr (.inl ⟨hoverlooks, ⟨ip, hshown⟩, hheld⟩)
    | struck ip hretries hphase hshown hheld => exact .inr (.inr ⟨hretries, hphase, hshown, ip, hheld⟩)
  · cases (hsettled.ease hquiet).verdict with
    | telling htells hseen => exact iff_of_true htells (hseen hretries)
    | overlooked ip hoverlooks hshown hheld =>
      refine iff_of_false (fun htells => hheld ip ((htells ip).1 hshown)) fun hseen => ?_
      exact absurd (hoverlooks.symm.trans hseen) nofun
    | struck ip hzero _ _ _ => omega
  · obtain ⟨y, hy, -, hoverlooks⟩ := h.neverUnbound hacts hunbind
    obtain rfl : y = x := congrArg Member.scene (List.cons.inj (hy.symm.trans hx)).1
    exact hoverlooks

def poolCandidates : Candidates := ⟨[⟨10, 0, 0, 2⟩, ⟨10, 0, 0, 1⟩]⟩

/-- What an activity does to attach the free interface. -/
def taking (n : Nat) : List Act :=
  moves n 1 ++ [.serve 0 n (.describeInterfaces ⟨[⟨10, 0, 0, 2⟩, ⟨10, 0, 0, 1⟩], some .available, some "s"⟩)] ++
    moves n 1 ++ [.serve 0 n (.attach "eni-1" "i-a" 1)] ++ moves n 2

/-- A bind that attaches the free interface, and an unbind. -/
def thereAndBack : List Act :=
  .around 0 (.launch .bind) :: inquiry 1 ++ taking 1 ++ .around 0 (.launch .unbind) :: inquiry 2 ++ moves 2 1 ++
    [.serve 0 2 (.detach "eni-attach-00000001")] ++ moves 2 1

/-- A pass, which attaches the interface again. -/
def andThere : List Act :=
  .around 0 (.launch .runPass) :: inquiry 3 ++ moves 3 2 ++ [.around 0 (.answer 3 .clearRegistry (.ok ()))] ++
    moves 3 1 ++ [.around 0 (.answer 3 .syncUp (.ok 0))] ++ moves 3 1 ++
    [.around 0 (.answer 3 (.openForTraffic 0) (.ok ()))] ++ moves 3 1 ++ taking 3 ++ moves 3 2

theorem undisturbed_thereAndBack : ∀ act ∈ thereAndBack ++ andThere, act.IsUndisturbed poolCandidates := by
  have hurls : Candidates.ofEntries "z" ["10.0.0.2", "10.0.0.1"] = .ok poolCandidates := rfl
  simp [thereAndBack, andThere, taking, inquiry, moves, Act.IsUndisturbed, Supplies, hurls]

theorem atRest_of_all {f : Fleet} (h : (f.members.all fun m => m.scene.activities.all fun a => !a.isUnderWay) = true) :
    f.AtRest := by
  intro m hm a ha
  have hall := List.all_eq_true.1 (List.all_eq_true.1 h m hm) a ha
  simpa using hall

theorem not_holdsAddress_of_all (h : (d.interfaces.values.all fun i => !i.isHeldBy own) = true) (ip : Ipv4) :
    ¬ d.HoldsAddress own candidates ip := by
  rintro ⟨key, i, hi, hheld, -⟩
  have hnot := List.all_eq_true.1 h i (TextMap.mem_values.2 ⟨key, hi⟩)
  rw [hheld] at hnot
  cases hnot

theorem not_holdsAt_pool (k : String) : ¬ pool.HoldsAt "i-a" poolCandidates k := by
  have hforeign : ∀ key i, pool.interfaces.get? key = some i → ¬ i.isHeldBy "i-a" = true :=
    TextMap.forall_get?.2 (by decide)
  rintro ⟨i, hi, hmine, -⟩
  exact hforeign k i hi hmine

/-- A snapshot that shows an address which the instance does not hold. -/
theorem snapshot_shows_what_is_released : ∃ f x, InTurn pool [(⟨.default, "memory"⟩, "i-a")] thereAndBack f ∧
    (∀ act ∈ thereAndBack, act.IsUndisturbed poolCandidates) ∧ (∀ k, ¬ pool.HoldsAt "i-a" poolCandidates k) ∧ f.AtRest ∧
    f.members = [⟨⟨.default, "memory"⟩, "i-a", x⟩] ∧ x.own.status.boundAddress = some ⟨10, 0, 0, 1⟩ ∧
    ∀ ip, ¬ f.cloud.HoldsAddress "i-a" poolCandidates ip := by
  have hrun : ∃ f x, InTurn pool [(⟨.default, "memory"⟩, "i-a")] thereAndBack f ∧
      f.members = [⟨⟨.default, "memory"⟩, "i-a", x⟩] ∧ x.own.status.boundAddress = some ⟨10, 0, 0, 1⟩ ∧
      (f.members.all fun m => m.scene.activities.all fun a => !a.isUnderWay) = true ∧
      (f.cloud.interfaces.values.all fun i => !i.isHeldBy "i-a") = true := ⟨_, _, rfl, rfl, rfl, rfl, rfl⟩
  obtain ⟨f, x, hf, hx, hshown, hrest, hfree⟩ := hrun
  exact ⟨f, x, hf, fun act ha => undisturbed_thereAndBack act (List.mem_append_left _ ha), not_holdsAt_pool,
    atRest_of_all hrest, hx, hshown, not_holdsAddress_of_all hfree⟩

theorem snapshot_at_rest_after_pass : ∃ f x, InTurn pool [(⟨.default, "memory"⟩, "i-a")] (thereAndBack ++ andThere) f ∧
    f.AtRest ∧ f.members = [⟨⟨.default, "memory"⟩, "i-a", x⟩] ∧ x.own.status.boundAddress = some ⟨10, 0, 0, 1⟩ ∧
    x.own.status.Tells f.cloud "i-a" poolCandidates := by
  have hrun : ∃ f x, InTurn pool [(⟨.default, "memory"⟩, "i-a")] (thereAndBack ++ andThere) f ∧
      f.members = [⟨⟨.default, "memory"⟩, "i-a", x⟩] ∧ x.own.status.boundAddress = some ⟨10, 0, 0, 1⟩ ∧
      x.overlooks = false ∧ (f.members.all fun m => m.scene.activities.all fun a => !a.isUnderWay) = true :=
    ⟨_, _, rfl, rfl, rfl, rfl, rfl⟩
  obtain ⟨f, x, hf, hx, hshown, hseen, hrest⟩ := hrun
  have hindexed : pool.Indexed := TextMap.forall_get?.2 (by decide)
  have hvacant : pool.Vacant := TextMap.forall_get?.2 (by decide)
  obtain ⟨y, hy, -, htells, -⟩ := hf.snapshot_at_rest hindexed hvacant preregistered_pool rfl rfl (by decide)
    not_holdsAt_pool undisturbed_thereAndBack (atRest_of_all hrest)
  obtain rfl : y = x := congrArg Member.scene (List.cons.inj (hy.symm.trans hx)).1
  exact ⟨f, y, hf, atRest_of_all hrest, hx, hshown, (htells (by decide)).2 hseen⟩

end Fleet
end AddressBinder
