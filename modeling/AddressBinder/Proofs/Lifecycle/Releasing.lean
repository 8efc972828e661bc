import AddressBinder.Proofs.Lifecycle.Completion
import AddressBinder.Proofs.Lifecycle.Startup
import AddressBinder.Proofs.Pass.Unbinding
/-!
# What a shutdown detaches

A shutdown is attempts to unbind, as many as the configuration allows at most, and all but the last of them have failed
(`Unbindings`).  Whatever it has called for so far, answered or not, is the beginning of such a sequence, so at any
moment it has asked for no more detachments than attempts are allowed, for none after one that succeeded, and each time
for what its attempt had just picked out of its own view.
-/
namespace AddressBinder
namespace Lifecycle

open Program Pass

/-! ## The calls of an activity -/

namespace Scene

variable {b : Binder} {acts : List Act} {x : Scene} {n : Nat} {a : Activity}

theorem awaited?_goOn (b : Binder) (a : Activity) (p : Program lifecycle Finish) : (a.goOn b p).awaited? = none := by
  unfold Activity.goOn
  split <;> exact Activity.awaited?_of_not_pending rfl

theorem issued_resume_eq {r : Request} {f : r.Reply → Program lifecycle Finish} {reply : r.Reply}
    {p : Program lifecycle Finish} {own : State} (hp : a.program = .ask r f)
    (hpending : ∀ c, r = .call c → a.pending = true) (h : x.issued n = (x.answered n).map (·.1) ++ a.awaited?.toList) :
    (x.resume b n a r reply p own).issued n = ((x.resume b n a r reply p own).answered n).map (·.1) := by
  rw [issued_resume, answered_resume, if_pos rfl, List.map_append, h]
  cases r with
  | call c =>
    simp [Activity.awaited?, hp, hpending c rfl]
    rfl
  | clock _ | own _ =>
    simp [Activity.awaited?, hp]
    rfl

/-- **The calls that an activity has made** are those that were answered and the one under way. -/
theorem Reaches.issued_eq (h : Reaches b acts x) : ∀ (n : Nat) (a : Activity), x.activities[n]? = some a →
    x.issued n = (x.answered n).map (·.1) ++ a.awaited?.toList := by
  refine h.stepwise (P := fun _ x => ∀ (n : Nat) (a : Activity), x.activities[n]? = some a →
    x.issued n = (x.answered n).map (·.1) ++ a.awaited?.toList) ?_ ?_
  · intro n a hn
    cases n with
    | zero =>
      obtain rfl := Option.some.inj hn
      rfl
    | succ n => cases hn
  intro acts x act y hreach ih hs n a hn
  have hresume : ∀ {m : Nat} {a' : Activity} {r : Request} {f : r.Reply → Program lifecycle Finish} {reply : r.Reply}
      {own : State}, x.activities[m]? = some a' → a'.program = .ask r f → (∀ c, r = .call c → a'.pending = true) →
      y = x.resume b m a' r reply (f reply) own → y.issued n = (y.answered n).map (·.1) ++ a.awaited?.toList := by
    intro m a' r f reply own hm hp hpending hy
    subst hy
    rcases getElem?_set_cases hn with ⟨rfl, rfl⟩ | ⟨hne, hn⟩
    · rw [awaited?_goOn, issued_resume_eq hp hpending (ih n a' hm)]
      exact (List.append_nil _).symm
    · rw [issued_resume, answered_resume, if_neg (Ne.symm hne)]
      exact ih n a hn
  cases act with
  | launch op =>
    obtain rfl := Option.some.inj hs
    rcases getElem?_concat_cases hn with ⟨rfl, rfl⟩ | hn
    · obtain ⟨hissued, hanswered⟩ := hreach.unnumbered
      show x.issued _ = (x.answered _).map _ ++ _
      rw [hissued, hanswered, Activity.awaited?_of_not_pending rfl]
      rfl
    · exact ih n a hn
  | look | drain | close =>
    obtain rfl := Option.some.inj hs
    exact ih n a hn
  | tick time =>
    simp only [step?] at hs
    split at hs
    · obtain rfl := Option.some.inj hs
      exact ih n a hn
    · cases hs
  | move m =>
    obtain ⟨a', r, f, hm, hp, ⟨c, rfl, hpending, rfl⟩ | ⟨reply, own, hr, -, hy⟩⟩ := moves_of_move hs
    · rw [issued_issue, answered_issue]
      rcases getElem?_set_cases hn with ⟨rfl, rfl⟩ | ⟨hne, hn⟩
      · rw [if_pos rfl, ih n a' hm]
        simp [Activity.awaited?, hp, hpending]
      · rw [if_neg (Ne.symm hne), ih n a hn]
    · exact hresume hm hp (fun c hc => absurd hc (hr c)) hy
  | answer m c reply =>
    obtain ⟨a', f, hm, hp, hpending, hy⟩ := resumes_of_answer hs
    exact hresume hm hp (fun _ _ => hpending) hy

end Scene

/-! ## The attempts of a shutdown -/

/-- The attempts of a shutdown, in order. -/
structure Unbindings (b : Binder) (attempts : List Unbinding) : Prop where
  length_le : attempts.length ≤ b.config.retries
  goes : ∀ t ∈ attempts, t.Goes b
  unfinished : ∀ t ∈ attempts.dropLast, ∃ e, t.result = .error e

variable {b : Binder} {es : List (Exchange lifecycle)} {attempts : List Unbinding}

/-- A round of the retry as an attempt; a shutdown does not make progress short of its goal. -/
def Unbinding.ofRound (r : Retry.Round lifecycle Unbound) : Unbinding where
  calls := calls r.attempt
  result :=
    match r.ends with
    | .error e => .error e
    | .ok (.done u) => .ok u
    | .ok .again => .ok .notBound

theorem goes_shutdownAttempt {r : Except Error (Attempt Unbound)} (h : (shutdownAttempt b).Leads es (.done r)) :
    ∃ result, Unbinding.Goes b ⟨calls es, result⟩ ∧ r = result.map .done := by
  obtain ⟨result, es, nothing, rfl, hunbind, hdone⟩ := leads_bind.1 h
  obtain ⟨es', hes', hcalls⟩ := calls_ofPass hunbind
  refine ⟨result, ?_, ?_⟩
  · cases result with
    | error e | ok u =>
      obtain ⟨rfl, -⟩ := leads_done.1 hdone
      rw [List.append_nil, hcalls]
      exact goes_unbind hes'
  · cases result with
    | error e | ok u => exact (leads_done.1 hdone).2

/-- **A round of a shutdown is an attempt to unbind**, and its pause asks no collaborator. -/
theorem goes_ofRound {r : Retry.Round lifecycle Unbound} {number left : Nat}
    (h : r.Goes (policy b) (Clock.sleep clock) (fun _ => shutdownAttempt b) number left) :
    (Unbinding.ofRound r).Goes b ∧ r.ends = (Unbinding.ofRound r).result.map .done ∧ calls r.pause = [] := by
  obtain ⟨result, hresult, hends⟩ := goes_shutdownAttempt h.attempt
  have hsame : Unbinding.ofRound r = ⟨calls r.attempt, result⟩ := by
    unfold Unbinding.ofRound
    rw [hends]
    cases result <;> rfl
  rw [hsame]
  refine ⟨hresult, hends, ?_⟩
  by_cases hquiet : Retry.error? r.ends = none ∨ left = 0
  · rw [h.hurries hquiet]
    rfl
  · obtain ⟨hfailed, hleft⟩ := not_or.1 hquiet
    obtain ⟨time, hpause⟩ := leads_sleep (h.pauses hfailed hleft)
    rw [hpause]
    rfl

/-- **The rounds of a shutdown are its attempts.** -/
theorem unbindings_of_runs {rounds : List (Retry.Round lifecycle Unbound)} {outcome : Retry.Outcome Unbound}
    (h : Retry.Runs (policy b) (Clock.sleep clock) (fun _ => shutdownAttempt b) b.config.retries 1 none rounds outcome) :
    Unbindings b (rounds.map Unbinding.ofRound) ∧
      calls (rounds.flatMap Retry.Round.exchanges) = (rounds.map Unbinding.ofRound).flatMap (·.calls) := by
  have hround : ∀ r ∈ rounds, (Unbinding.ofRound r).Goes b ∧ r.ends = (Unbinding.ofRound r).result.map .done ∧
      calls r.pause = [] := by
    intro r hr
    obtain ⟨i, hi⟩ := List.getElem?_of_mem hr
    exact goes_ofRound (h.goes i r hi)
  refine ⟨⟨?_, ?_, ?_⟩, ?_⟩
  · rw [List.length_map]
    exact h.length_le
  · intro t ht
    obtain ⟨r, hr, rfl⟩ := List.mem_map.1 ht
    exact (hround r hr).1
  · intro t ht
    rw [← List.map_dropLast] at ht
    obtain ⟨r, hr, rfl⟩ := List.mem_map.1 ht
    have hends := (hround r (List.mem_of_mem_dropLast hr)).2.1
    have hdone := h.unfinished r hr
    rw [hends] at hdone
    cases hresult : (Unbinding.ofRound r).result with
    | error e => exact ⟨e, rfl⟩
    | ok u =>
      rw [hresult] at hdone
      cases hdone
  · rw [List.flatMap_map]
    refine Eq.trans List.filterMap_flatMap (List.flatMap_congr fun r hr => ?_)
    show calls (r.attempt ++ r.pause) = _
    rw [calls_append, (hround r hr).2.2, List.append_nil]
    rfl

theorem calls_stopSchedule (h : stopSchedule.Leads es (.done ())) : calls es = [] := by
  obtain ⟨(wasArmed : Bool), es, rfl, hrest⟩ := leads_ask.1 h
  cases wasArmed with
  | false =>
    obtain ⟨rfl, -⟩ := leads_done.1 hrest
    rfl
  | true =>
    obtain ⟨⟨⟩, es, rfl, hemit⟩ := leads_ask.1 hrest
    obtain ⟨⟨⟩, es, rfl, hdone⟩ := leads_ask.1 hemit
    obtain ⟨rfl, -⟩ := leads_done.1 hdone
    rfl

/-- **A shutdown calls its collaborators in its attempts only.** -/
theorem unbindings_of_shutdown (h : (shutdown b).Leads es (.done ())) :
    ∃ attempts, Unbindings b attempts ∧ calls es = attempts.flatMap (·.calls) := by
  obtain ⟨(begins : Bool), es, rfl, hrest⟩ := leads_ask.1 h
  cases begins with
  | false =>
    obtain ⟨rfl, -⟩ := leads_done.1 hrest
    exact ⟨[], ⟨Nat.zero_le _, nofun, nofun⟩, rfl⟩
  | true =>
    obtain ⟨⟨⟩, es, rfl, hstop⟩ := leads_ask.1 hrest
    have hstop : ((stopAndUnbind b).bind fun _ => control .release).Leads es (.done ()) := hstop
    obtain ⟨⟨⟩, es, release, rfl, hunbind, hrelease⟩ := leads_bind.1 hstop
    obtain ⟨⟨⟩, release, rfl, hdone⟩ := leads_ask.1 hrelease
    obtain ⟨rfl, -⟩ := leads_done.1 hdone
    obtain ⟨⟨⟩, cancel, es, rfl, hcancel, hretry⟩ := leads_bind.1 hunbind
    obtain ⟨outcome, es, ending, rfl, hrun, hend⟩ := leads_bind.1 hretry
    obtain ⟨⟨⟩, ending, rfl, hemit⟩ := leads_ask.1 hend
    obtain ⟨⟨⟩, ending, rfl, hdone⟩ := leads_ask.1 hemit
    obtain ⟨rfl, -⟩ := leads_done.1 hdone
    obtain ⟨rounds, rfl, hruns⟩ := Retry.leads_run hrun
    obtain ⟨hattempts, hcalls⟩ := unbindings_of_runs hruns
    refine ⟨_, hattempts, ?_⟩
    rw [← hcalls]
    show calls (cancel ++ _ ++ _) = _
    rw [calls_append, calls_append, calls_append, calls_stopSchedule hcancel]
    show [] ++ (_ ++ []) ++ [] = _
    rw [List.nil_append, List.append_nil, List.append_nil]

/-! ## What the attempts detach -/

section Detachments

variable {i : Nat} {c : Called}

/-- A call of the attempts is a call of one of them. -/
theorem exists_attempt_of_getElem? : ∀ {attempts : List Unbinding} {i : Nat},
    (attempts.flatMap (·.calls))[i]? = some c → ∃ before t after j, attempts = before ++ t :: after ∧
      t.calls[j]? = some c ∧ i = (before.flatMap (·.calls)).length + j
  | [], i, h => by cases h
  | t :: attempts, i, h => by
    rw [List.flatMap_cons] at h
    by_cases hi : i < t.calls.length
    · rw [List.getElem?_append_left hi] at h
      exact ⟨[], t, attempts, i, rfl, h, by simp⟩
    · rw [List.getElem?_append_right (by omega)] at h
      obtain ⟨before, s, after, j, rfl, hj, hat⟩ := exists_attempt_of_getElem? h
      refine ⟨t :: before, s, after, j, rfl, hj, ?_⟩
      rw [List.flatMap_cons, List.length_append]
      omega

theorem Unbindings.detachments_le (h : Unbindings b attempts) :
    ((attempts.flatMap (·.calls)).filter fun c => c.1.isDetach).length ≤ b.config.retries := by
  refine Nat.le_trans ?_ h.length_le
  have hgoes := h.goes
  clear h
  induction attempts with
  | nil => exact Nat.le_refl 0
  | cons t attempts ih =>
    obtain ⟨ht, hrest⟩ := List.forall_mem_cons.1 hgoes
    have hone := ht.detachments_le
    have hmany := ih hrest
    rw [List.flatMap_cons, List.filter_append, List.length_append, List.length_cons]
    omega

/-- **A detachment comes right after a view**, and names what is picked out of that; one that succeeds is the last
call. -/
theorem Unbindings.detachment (h : Unbindings b attempts) (hc : (attempts.flatMap (·.calls))[i]? = some c)
    (hdetach : c.1.isDetach = true) : ∃ (before : List Called) (v : Evidence) (e : Interface) (id : String)
      (reply : Except Error Unit), (attempts.flatMap (·.calls)).take i = before ++ v.view ∧
      c = Pass.detachment id reply ∧ v.Picks e ∧ e.attachmentId = some id ∧
      (reply = .ok () → (attempts.flatMap (·.calls)).length = i + 1) := by
  obtain ⟨before, t, after, j, rfl, hj, rfl⟩ := exists_attempt_of_getElem? hc
  have ht : t.Goes b := h.goes t (by simp)
  obtain ⟨v, e, id, reply, hcalls, rfl, hc, he, hid, hresult⟩ := ht.detachment hj hdetach
  refine ⟨before.flatMap (·.calls), v, e, id, reply, ?_, hc, he, hid, ?_⟩
  · rw [List.flatMap_append, List.flatMap_cons, hcalls, List.take_length_add_append]
    simp
  · rintro rfl
    -- what has not failed is the last attempt
    have hlast : after = [] := by
      by_contra hmore
      have hinner : t ∈ (before ++ t :: after).dropLast := by
        simp [List.dropLast_append_of_ne_nil, List.dropLast_cons_of_ne_nil hmore]
      obtain ⟨failure, hfailed⟩ := h.unfinished t hinner
      rw [hresult] at hfailed
      cases hfailed
    subst hlast
    simp [List.flatMap_append, hcalls, Nat.add_assoc]

end Detachments

namespace Scene

variable {acts : List Act} {x : Scene} {n : Nat} {a : Activity}

theorem nonempty_reply (r : Request) : Nonempty r.Reply := by
  cases r with
  | call c => exact ⟨(.error default : Except Error c.Yield)⟩
  | clock r => cases r <;> exact ⟨default⟩
  | own o => exact o.nonempty_reply

/-- **What a shutdown has called for** is the beginning of the calls of some attempts, whether it has ended or not. -/
theorem Reaches.unbindings (h : Reaches b acts x) (hn : x.activities[n]? = some a)
    (hrole : a.role = .operation .shutdown) : ∃ attempts, Unbindings b attempts ∧ x.answered n <+: attempts.flatMap (·.calls) ∧
      x.issued n <+: (attempts.flatMap (·.calls)).map (·.1) ∧
      ∀ r, x.result? n = some r → x.answered n = attempts.flatMap (·.calls) := by
  obtain ⟨rest, f, hrest⟩ := exists_leads_done nonempty_reply a.program
  obtain ⟨r, es, nothing, hes, hop, hdone⟩ := leads_bind.1 ((h.leads n a .shutdown hn hrole).append hrest)
  obtain ⟨rfl, -⟩ := leads_done.1 hdone
  obtain ⟨⟨⟩, es, nothing, rfl, hshutdown, hdone⟩ := leads_bind.1 hop
  obtain ⟨rfl, -⟩ := leads_done.1 hdone
  obtain ⟨attempts, hattempts, hcalls⟩ := unbindings_of_shutdown hshutdown
  rw [List.append_nil, List.append_nil] at hes
  rw [← hes, calls_append] at hcalls
  refine ⟨attempts, hattempts, ⟨_, hcalls⟩, ?_, fun r hr => ?_⟩
  · rw [h.issued_eq n a hn, ← hcalls, List.map_append]
    cases hawaited : a.awaited? with
    | none =>
      rw [Option.toList_none, List.append_nil]
      exact List.prefix_append _ _
    | some c =>
      obtain ⟨k, hp⟩ := Activity.program_of_awaited? hawaited
      rw [hp] at hrest
      obtain ⟨reply, rest, rfl, -⟩ := leads_ask.1 hrest
      exact (List.prefix_append_right_inj _).2 ⟨_, rfl⟩
  · have hended : a.program = .done (.operation r) := by
      rw [result?, hn] at hr
      exact Activity.program_of_result? hr
    rw [hended] at hrest
    obtain ⟨rfl, -⟩ := leads_done.1 hrest
    rw [← hcalls]
    exact (List.append_nil _).symm

end Scene

theorem getElem?_of_prefix {α : Type} {l m : List α} {i : Nat} {a : α} (h : l <+: m) (hi : l[i]? = some a) :
    m[i]? = some a := by
  obtain ⟨rest, rfl⟩ := h
  rw [List.getElem?_append_left (List.getElem?_eq_some_iff.1 hi).1, hi]

/-- **A shutdown detaches only what it may**, whatever its collaborators answer and whatever else goes on.  At every moment
it has asked for no more detachments than attempts are allowed, and after one that succeeded it calls for nothing.  Each
names the attachment of the interface whose address is the best candidate of those that the description right before it
lists, and that its attempt has resolved.  Its calls are those of its attempts, and an attempt that sees no candidate
address held ends there, without a failure.  An unbind over a cloud whose ids tell the attachments apart, when it
succeeds, frees exactly the interface it picked, which always has an id; otherwise no interface changes. -/
theorem detaches_what_it_may (b : Binder) :
    (∀ acts x n a, Scene.Reaches b acts x → x.activities[n]? = some a → a.role = .operation .shutdown →
      ((x.issued n).filter Call.isDetach).length ≤ b.config.retries ∧
      (∀ (i : Nat) id, (x.answered n)[i]? = some (detachment id (.ok ())) → (x.issued n).length = i + 1) ∧
      (∀ (i : Nat) id, (x.issued n)[i]? = some (.provider (.detach id)) →
        ∃ (before : List Called) (v : Evidence) (e : Interface), (x.answered n).take i = before ++ v.view ∧ v.Picks e ∧
          Decision.IsCandidate v.candidates e ∧ e.attachmentId = some id) ∧
      ∃ attempts, Unbindings b attempts ∧ x.answered n <+: attempts.flatMap (·.calls) ∧
        (∀ r, x.result? n = some r → x.answered n = attempts.flatMap (·.calls)) ∧
        ∀ t ∈ attempts, ∀ v : Evidence, v.Resolved → v.view <+: t.calls →
          (∀ e ∈ v.me.interfaces, ¬ Decision.IsCandidate v.candidates e) → t = ⟨v.view, .ok .notBound⟩) ∧
    ∀ c d es r, c.Distinct → (unbind b).Leads es (.done r) → OnCloud c (Pass.calls es) d →
      Frees c d ⟨Pass.calls es, r⟩ := by
  refine ⟨fun acts x n a h hn hrole => ?_, fun c d es r hdistinct hleads hc => (goes_unbind hleads).frees hdistinct hc⟩
  obtain ⟨attempts, hattempts, hanswered, hissued, hended⟩ := h.unbindings hn hrole
  -- at most one call is not answered yet
  have hlength : (x.issued n).length = (x.answered n).length + a.awaited?.toList.length := by
    rw [h.issued_eq n a hn, List.length_append, List.length_map]
  refine ⟨?_, fun i id hi => ?_, fun i id hi => ?_, attempts, hattempts, hanswered, hended, ?_⟩
  · have hle := (hissued.filter Call.isDetach).length_le
    rw [List.filter_map, List.length_map] at hle
    exact Nat.le_trans hle hattempts.detachments_le
  · have hat : (attempts.flatMap (·.calls))[i]? = some (detachment id (.ok ())) := getElem?_of_prefix hanswered hi
    obtain ⟨-, -, -, id', reply, -, heq, -, -, hlast⟩ := hattempts.detachment hat rfl
    cases heq
    have hle := hissued.length_le
    rw [List.length_map, hlast rfl] at hle
    have hlt := (List.getElem?_eq_some_iff.1 hi).1
    omega
  · have hat := getElem?_of_prefix hissued hi
    rw [List.getElem?_map, Option.map_eq_some_iff] at hat
    obtain ⟨c, hc, hdetach⟩ := hat
    obtain ⟨before, v, e, id', reply, htake, rfl, he, hid, -⟩ := hattempts.detachment hc (by rw [hdetach]; rfl)
    cases hdetach
    refine ⟨before, v, e, ?_, he, he.2.isCandidate, hid⟩
    have hlt := (List.getElem?_eq_some_iff.1 hi).1
    have hone : a.awaited?.toList.length ≤ 1 := by cases a.awaited? <;> simp
    rw [List.prefix_iff_eq_take.1 hanswered, List.take_take, Nat.min_eq_left (by omega), htake]
  · intro t ht v hv hview hnone
    exact (hattempts.goes t ht).notBound_of_view hv hview hnone

/-- An interface with an address of the zone, attached to the instance. -/
def heldInterface : Interface := ⟨"eni-1", some ⟨10, 0, 0, 1⟩, .inUse, some ⟨"legacy-1", "i-1", 1⟩, "s"⟩

def holdingCloud : Cloud := (Cloud.empty.addInstance "i-1" "s").addInterface heldInterface

/-- A shutdown that finds the interface held, and whose detachment is under way. -/
def detaching : List Act :=
  [.launch .shutdown, .move 1, .move 1, .move 1, .move 1, .answer 1 .metadata (.ok ⟨"i-1", "a"⟩), .move 1,
    .answer 1 (.serviceUrls "a") (.ok ["10.0.0.1"]), .move 1,
    .answer 1 (.provider (.describeInstance "i-1")) (.ok (some ⟨"i-1", "s", [heldInterface]⟩)), .move 1]

/-- The exchanges of an unbind over the cloud. -/
def unbindingRun : List (Exchange pass) :=
  [⟨.call .metadata, .ok ⟨"i-1", "a"⟩⟩, ⟨.call (.serviceUrls "a"), .ok ["10.0.0.1"]⟩,
    ⟨.call (.provider (.describeInstance "i-1")), .ok (some ⟨"i-1", "s", [heldInterface]⟩)⟩,
    ⟨.call (.provider (.detach "legacy-1")), .ok ()⟩, ⟨.note (.emit (.detached "eni-1" "legacy-1")), ()⟩]

theorem distinct_holdingCloud : holdingCloud.Distinct := by
  have hall : ∀ key i, holdingCloud.interfaces.get? key = some i → key = "eni-1" := TextMap.forall_get?.2 (by decide)
  intro k l a a' hk hl _
  obtain ⟨i, hi, -⟩ := Option.bind_eq_some_iff.1 hk
  obtain ⟨j, hj, -⟩ := Option.bind_eq_some_iff.1 hl
  rw [hall k i hi, hall l j hj]

theorem detaches_what_it_may_of_held : ∃ x d, Scene.Reaches ⟨singleAttempt, "memory"⟩ detaching x ∧
    ((x.issued 1).filter Call.isDetach).length ≤ 1 ∧
    (∃ (before : List Called) (v : Evidence) (e : Interface), (x.answered 1).take 3 = before ++ v.view ∧ v.Picks e ∧
      e.attachmentId = some "legacy-1") ∧
    OnCloud holdingCloud (Pass.calls unbindingRun) d ∧
    Frees holdingCloud d ⟨Pass.calls unbindingRun, .ok (.detached "eni-1" "legacy-1")⟩ := by
  have hsome : ((Scene.initial ⟨singleAttempt, "memory"⟩).run? ⟨singleAttempt, "memory"⟩ detaching).map
      (fun x => (x.activities[1]?.map Activity.role, (x.issued 1)[3]?)) =
        some (some (.operation .shutdown), some (.provider (.detach "legacy-1"))) := by rfl
  obtain ⟨x, hx, hseen⟩ := Option.map_eq_some_iff.1 hsome
  simp only [Prod.mk.injEq, Option.map_eq_some_iff] at hseen
  obtain ⟨⟨a, ha, hrole⟩, hissued⟩ := hseen
  have hleads : (unbind ⟨singleAttempt, "memory"⟩).Leads unbindingRun (.done (.ok (.detached "eni-1" "legacy-1"))) :=
    .cons _ (.cons _ (.cons _ (.cons _ (.cons _ (.nil _)))))
  have hcloud : OnCloud holdingCloud (Pass.calls unbindingRun) (Cloud.serve (.detach "legacy-1")
      (Cloud.serve (.describeInstance "i-1") holdingCloud).2).2 := ⟨rfl, rfl, rfl⟩
  obtain ⟨hshutdown, hunbind⟩ := detaches_what_it_may ⟨singleAttempt, "memory"⟩
  obtain ⟨hcount, -, hnames, -⟩ := hshutdown detaching x 1 a hx ha hrole
  obtain ⟨before, v, e, hbefore, he, -, hid⟩ := hnames 3 "legacy-1" hissued
  exact ⟨x, _, hx, hcount, ⟨before, v, e, hbefore, he, hid⟩, hcloud,
    hunbind _ _ _ _ distinct_holdingCloud hleads hcloud⟩

end Lifecycle
end AddressBinder
