import AddressBinder.Proofs.Lifecycle.Completion
import AddressBinder.Proofs.Lifecycle.Startup
/-!
# The outcome of a start

The first start of a binder marks it, and the others find the mark (`Reaches.marked`).  As long as no shutdown is
launched, whatever else goes on, a start that has ended either found the mark or went through its attempts and armed the
schedule, and one that has not ended can be brought to that (`Reaches.startup_outcome`).
-/
namespace AddressBinder
namespace Lifecycle

open Program

/-! ## The mark of a start -/

namespace Scene

variable {b : Binder} {acts : List Act} {x : Scene} {n : Nat} {a : Activity}

/-- Nothing but a start marks the binder as started. -/
theorem Answers.started_of_ne {r : Request} {reply : r.Reply} {own : State} (h : x.Answers r reply own)
    (hr : r ≠ .own (.control .markStarted)) : own.started = x.own.started := by
  cases r with
  | call c => rw [answers_call.1 h]
  | clock r => rw [(answers_clock.1 h).2]
  | own o =>
    cases o with
    | note m =>
      rw [answers_note.1 h]
      cases m <;> rfl
    | task r =>
      cases r with
      | awaitArmed => rw [(answers_awaitArmed.1 h).2]
      | nap due => rw [(answers_nap.1 h).2]
      | isCancelled => rw [(answers_isCancelled.1 h).2]
      | exit => rw [answers_exit.1 h]
    | control ctl =>
      cases ctl with
      | markStarted => exact absurd rfl hr
      | phase => rw [(answers_phase.1 h).2]
      | acquire => rw [(answers_acquire.1 h).2]
      | release => rw [answers_release.1 h]
      | awaitExit => rw [(answers_awaitExit.1 h).2]
      | beginShutdown =>
        rw [(answers_beginShutdown.1 h).2]
        split <;> rfl
      | arm delay =>
        rw [(answers_arm.1 h).2]
        split <;> rfl
      | disarm =>
        rw [(answers_disarm.1 h).2]
        split <;> rfl

/-- **A start is refused only after another one was first.** -/
theorem Reaches.marked (h : Reaches b acts x) :
    (x.own.started = true → ∃ m, (⟨.own (.control .markStarted), false⟩ : Exchange lifecycle) ∈ x.exchanges m) ∧
      ∀ m, (⟨.own (.control .markStarted), true⟩ : Exchange lifecycle) ∈ x.exchanges m → x.own.started = true := by
  refine h.induction (P := fun _ x =>
    (x.own.started = true → ∃ m, (⟨.own (.control .markStarted), false⟩ : Exchange lifecycle) ∈ x.exchanges m) ∧
      ∀ m, (⟨.own (.control .markStarted), true⟩ : Exchange lifecycle) ∈ x.exchanges m → x.own.started = true) ?_ ?_
  · exact ⟨nofun, fun m hm => absurd hm List.not_mem_nil⟩
  · intro acts x act y _ ih hturn
    obtain ⟨hfirst, hothers⟩ := ih
    cases hturn with
    | launch | aside => exact ⟨hfirst, hothers⟩
    | issue _ _ =>
      simp only [exchanges_issue]
      exact ⟨hfirst, hothers⟩
    | @resume _ k a r f reply own hn hp ha _ =>
      by_cases hr : r = .own (.control .markStarted)
      · subst hr
        obtain ⟨rfl, rfl⟩ := answers_markStarted.1 ha
        refine ⟨fun _ => ?_, fun _ _ => rfl⟩
        cases hbefore : x.own.started with
        | true =>
          obtain ⟨m, hm⟩ := hfirst hbefore
          exact ⟨m, mem_exchanges_resume.2 (.inl hm)⟩
        | false => exact ⟨k, mem_exchanges_resume.2 (.inr ⟨rfl, rfl⟩)⟩
      · have hstarted := ha.started_of_ne hr
        refine ⟨fun hown => ?_, fun m hm => ?_⟩
        · obtain ⟨m, hm⟩ := hfirst (hstarted.symm.trans hown)
          exact ⟨m, mem_exchanges_resume.2 (.inl hm)⟩
        · rcases mem_exchanges_resume.1 hm with hm | ⟨-, heq⟩
          · exact hstarted.trans (hothers m hm)
          · cases heq
            exact absurd rfl hr

/-! ## The outcome of a start -/

/-- A wait is over only when its time has come. -/
theorem Reaches.waited (h : Reaches b acts x) :
    ∀ n due, (⟨.clock (.wait due), ()⟩ : Exchange lifecycle) ∈ x.exchanges n → due ≤ x.time := by
  refine h.induction (P := fun _ x =>
    ∀ n due, (⟨.clock (.wait due), ()⟩ : Exchange lifecycle) ∈ x.exchanges n → due ≤ x.time) ?_ ?_
  · exact fun n due hm => absurd hm List.not_mem_nil
  · intro acts x act y _ ih hturn n due hm
    cases hturn with
    | launch => exact ih n due hm
    | aside time _ _ hle _ => exact Nat.le_trans (ih n due hm) hle
    | issue _ _ =>
      rw [exchanges_issue] at hm
      exact ih n due hm
    | resume reply own hn hp ha _ =>
      rcases mem_exchanges_resume.1 hm with hm | ⟨-, heq⟩
      · exact ih n due hm
      · cases heq
        obtain ⟨hserve, -⟩ := answers_clock.1 ha
        show due ≤ x.time
        by_contra hlate
        rw [Clock.serve, if_neg hlate] at hserve
        cases hserve

theorem Reaches.leads_start (h : Reaches b acts x) (hn : x.activities[n]? = some a) (hrole : a.role = .operation .start)
    {r : Operation.Result} (hr : x.result? n = some r) : r = .ended ∧ (start b).Leads (x.exchanges n) (.done ()) := by
  rw [result?, hn] at hr
  have hleads := h.leads n a .start hn hrole
  rw [Activity.program_of_result? hr] at hleads
  obtain ⟨r', es, rest, hes, hop, hdone⟩ := leads_bind.1 hleads
  obtain ⟨rfl, hfinish⟩ := leads_done.1 hdone
  obtain ⟨⟨⟩, es, rest, rfl, hstart, hdone⟩ := leads_bind.1 hop
  obtain ⟨rfl, rfl⟩ := leads_done.1 hdone
  rw [hes, List.append_nil, List.append_nil]
  exact ⟨Finish.operation.inj hfinish, hstart⟩

theorem Reaches.refused (h : Reaches b acts x) (hes : x.exchanges n = [⟨.own (.control .markStarted), true⟩]) :
    ∃ m ≠ n, (⟨.own (.control .markStarted), false⟩ : Exchange lifecycle) ∈ x.exchanges m := by
  obtain ⟨hfirst, hothers⟩ := h.marked
  obtain ⟨m, hm⟩ := hfirst (hothers n (by rw [hes]; exact List.mem_singleton_self _))
  refine ⟨m, ?_, hm⟩
  rintro rfl
  rw [hes, List.mem_singleton] at hm
  cases hm

/-- **The outcome of a start** that no shutdown disturbs, whatever its collaborators answer and whatever else goes on.  One
that comes after another only finds that.  The first one makes its attempts, no more than the configuration allows, and
every attempt asks for the metadata, for the URLs and for the instance at most once, in that order.  Nothing is called for
after an attachment.  It reports whether the last attempt left the instance bound, and how many there were; if it did not,
all that are allowed were made.  A pause follows just the attempts that failed and were not the last, and it is over only
when its time has come.  In the end the schedule is armed with the unbound interval, and the start ends without a failure;
and it can be brought to its end. -/
theorem Reaches.startup_outcome (h : Reaches b acts x) (hacts : ∀ act ∈ acts, act ≠ .launch .shutdown)
    (hn : x.activities[n]? = some a) (hrole : a.role = .operation .start) :
    (∀ r, x.result? n = some r → r = .ended ∧
      ((x.exchanges n = [⟨.own (.control .markStarted), true⟩] ∧
          ∃ m ≠ n, (⟨.own (.control .markStarted), false⟩ : Exchange lifecycle) ∈ x.exchanges m) ∨
        ∃ trials bound phase phase',
          x.exchanges n = beforeTrials phase ++
            (trials.flatMap Trial.exchanges ++ afterTrials b bound trials.length phase') ∧
          Trials b trials bound ∧
          (∀ t ∈ trials, ∃ zone id filter interfaceId instanceId, (calls t.asked).map Sigma.fst <+:
            [.metadata, .serviceUrls zone, .provider (.describeInstance id), .provider (.describeInterfaces filter),
              .provider (.attach interfaceId instanceId 1)]) ∧
          ∀ c ∈ (x.answered n).dropLast, Pass.isGrant c = false)) ∧
      (∀ due, (⟨.clock (.wait due), ()⟩ : Exchange lifecycle) ∈ x.exchanges n → due ≤ x.time) ∧
      ∀ ω : Collaborators, ω.Gave (x.answered n) → ∃ more y, x.run? b more = some y ∧
        (∀ act ∈ more, act ≠ .launch .shutdown) ∧ ω.Gave (y.answered n) ∧ y.result? n = some .ended := by
  refine ⟨?_, h.waited n, ?_⟩
  · intro r hr
    obtain ⟨rfl, hleads⟩ := h.leads_start hn hrole hr
    refine ⟨rfl, ?_⟩
    rcases Lifecycle.leads_start hleads (h.hoped hacts n) with hes | ⟨phase, phase', rounds, outcome, hes, hruns⟩
    · exact .inl ⟨hes, h.refused hes⟩
    · have hhoped := h.hoped hacts n
      rw [hes] at hhoped
      obtain ⟨endings, hendings⟩ := exists_discerned hruns (hoped_append.1 (hoped_append.1 hhoped).2).1
      have htrials := trials_of_discerned hruns hendings
      have hattempts := (reports_of_discerned hruns hendings).1
      have hrounds : rounds.flatMap Retry.Round.exchanges =
          (rounds.map (Trial.ofRound endings)).flatMap Trial.exchanges := by
        rw [List.flatMap_map]
        rfl
      rw [hattempts, hrounds, ← List.length_map (Trial.ofRound endings)] at hes
      refine .inr ⟨_, _, phase, phase', hes, htrials, fun t ht => htrials.asks ht, ?_⟩
      rw [answered, hes, htrials.calls_whole]
      exact htrials.grants
  · intro ω hgave
    obtain ⟨c, hc⟩ := h.unclosed hacts
    obtain ⟨more, y, hrun, hmore, hgave', a', r, hn', hrole', hdone⟩ := comesFrom_any b n ω a.program x c a hc hn hrole rfl hgave
    have hy : Reaches b (acts ++ more) y := by
      unfold Reaches at h ⊢
      rw [run?_append, h]
      exact hrun
    have hr : y.result? n = some r := by simp [result?, hn', Activity.result?, hdone]
    obtain ⟨rfl, -⟩ := hy.leads_start hn' hrole' hr
    exact ⟨more, y, hrun, hmore, hgave', hr⟩

end Scene

/-! ## A start with one failure -/

def twoAttempts : Config := { singleAttempt with retries := 2 }

/-- A start that finds no metadata, and pauses. -/
def failingOnce : List Act :=
  [.launch .start, .move 1, .move 1, .move 1, .move 1, .move 1, .answer 1 .metadata (.error (.identity "down")), .move 1]

def attachingThen : List Act :=
  [.tick 1000, .move 1, .move 1, .move 1, .answer 1 .metadata (.ok ⟨"i-1", "a"⟩), .move 1,
    .answer 1 (.serviceUrls "a") (.ok ["10.0.0.1"]), .move 1,
    .answer 1 (.provider (.describeInstance "i-1")) (.ok (some ⟨"i-1", "s", []⟩)), .move 1,
    .answer 1 (.provider (.describeInterfaces ⟨[⟨10, 0, 0, 1⟩], some .available, some "s"⟩))
      (.ok [.free "eni-1" ⟨10, 0, 0, 1⟩ "s"]), .move 1,
    .answer 1 (.provider (.attach "eni-1" "i-1" 1)) (.ok "eni-attach-1"), .move 1, .move 1, .move 1, .move 1, .move 1,
    .move 1, .move 1]

/-- Collaborators whose metadata service is down at first. -/
def downAtFirst : Collaborators := fun before c =>
  match c with
  | .metadata => if before.isEmpty then .error (.identity "down") else obliging before .metadata
  | c => obliging before c

/-- A start whose first attempt fails, at its end and in its pause. -/
theorem startup_outcome_of_failing_once : ∃ x y, Scene.Reaches ⟨twoAttempts, "memory"⟩ failingOnce x ∧
    Scene.Reaches ⟨twoAttempts, "memory"⟩ (failingOnce ++ attachingThen) y ∧ y.result? 1 = some .ended ∧
    (∃ trials bound phase phase', y.exchanges 1 = beforeTrials phase ++
      (trials.flatMap Trial.exchanges ++ afterTrials ⟨twoAttempts, "memory"⟩ bound trials.length phase') ∧
      Trials ⟨twoAttempts, "memory"⟩ trials bound) ∧
    ∃ more z, x.run? ⟨twoAttempts, "memory"⟩ more = some z ∧ downAtFirst.Gave (z.answered 1) ∧
      z.result? 1 = some .ended := by
  have hpausing : ((Scene.initial ⟨twoAttempts, "memory"⟩).run? ⟨twoAttempts, "memory"⟩ failingOnce).map
      (fun x => (x.activities[1]?.map Activity.role, x.answered 1)) =
        some (some (.operation .start), [⟨.metadata, .error (.identity "down")⟩]) := by rfl
  have hended : ((Scene.initial ⟨twoAttempts, "memory"⟩).run? ⟨twoAttempts, "memory"⟩
      (failingOnce ++ attachingThen)).map
        (fun y => (y.activities[1]?.map Activity.role, y.result? 1, (y.exchanges 1).length)) =
          some (some (.operation .start), some .ended, 20) := by rfl
  obtain ⟨x, hx, hseen⟩ := Option.map_eq_some_iff.1 hpausing
  obtain ⟨y, hy, hseen'⟩ := Option.map_eq_some_iff.1 hended
  simp only [Prod.mk.injEq, Option.map_eq_some_iff] at hseen hseen'
  obtain ⟨⟨a, ha, hrole⟩, hanswered⟩ := hseen
  obtain ⟨⟨a', ha', hrole'⟩, hresult, hlength⟩ := hseen'
  obtain ⟨-, houtcome⟩ := (Scene.Reaches.startup_outcome hy (by simp [failingOnce, attachingThen]) ha' hrole').1 _ hresult
  have hgave : downAtFirst.Gave (x.answered 1) := by
    rw [hanswered]
    exact Collaborators.gave_concat.2 ⟨Collaborators.gave_nil, rfl⟩
  obtain ⟨more, z, hrun, -, hgave', hdone⟩ :=
    (Scene.Reaches.startup_outcome hx (by simp [failingOnce]) ha hrole).2.2 downAtFirst hgave
  refine ⟨x, y, hx, hy, hresult, ?_, more, z, hrun, hgave', hdone⟩
  rcases houtcome with ⟨hes, -⟩ | ⟨trials, bound, phase, phase', hes, htrials, -⟩
  · rw [hes] at hlength
    cases hlength
  · exact ⟨trials, bound, phase, phase', hes, htrials⟩

/-- **A pause is not always as long as the configuration says**: one of more than thirty years is over after thirty. -/
theorem begins_again_early_of_longSleep : ∃ config x, Binder.new config "memory" = .ok ⟨config, "memory"⟩ ∧
    Scene.Reaches ⟨config, "memory"⟩ (failingOnce ++ [.tick Clock.longestWait, .move 1, .move 1, .move 1]) x ∧
    x.answered 1 = [⟨.metadata, .error (.identity "down")⟩] ∧ x.issued 1 = [.metadata, .metadata] ∧
    x.time < config.retrySleep := by
  have hseen : ((Scene.initial ⟨{ twoAttempts with retrySleep := Clock.longestWait + 1 }, "memory"⟩).run?
      ⟨{ twoAttempts with retrySleep := Clock.longestWait + 1 }, "memory"⟩
      (failingOnce ++ [.tick Clock.longestWait, .move 1, .move 1, .move 1])).map
        (fun x => (x.answered 1, x.issued 1, x.time)) =
          some ([⟨.metadata, .error (.identity "down")⟩], [.metadata, .metadata], Clock.longestWait) := by rfl
  obtain ⟨x, hx, hseen⟩ := Option.map_eq_some_iff.1 hseen
  simp only [Prod.mk.injEq] at hseen
  obtain ⟨hanswered, hissued, htime⟩ := hseen
  refine ⟨{ twoAttempts with retrySleep := Clock.longestWait + 1 }, x, rfl, hx, hanswered, hissued, ?_⟩
  rw [htime]
  exact Nat.lt_succ_self _

end Lifecycle
end AddressBinder
