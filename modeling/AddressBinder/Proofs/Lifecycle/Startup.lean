import AddressBinder.Proofs.Lifecycle.Unclosed
import AddressBinder.Proofs.Pass.Journey
import AddressBinder.Proofs.Program.Rounds
/-!
# What a start does

The exchanges of an operation are a run of its program (`Reaches.leads`), and a run of a start is what comes before its
attempts, the rounds of its retry, and the arming of the schedule (`leads_start`).  A round is an attempt and its pause
(`Trial`): the attempt goes its way to an end, and by the end it is known what follows.
-/
namespace AddressBinder
namespace Lifecycle

open Program

namespace Scene

variable {b : Binder} {acts : List Act} {x : Scene}

/-- **What an operation has exchanged leads from its program to what is left of it.** -/
theorem Reaches.leads (h : Reaches b acts x) : ∀ (n : Nat) (a : Activity) (op : Operation), x.activities[n]? = some a →
    a.role = .operation op → (Activity.ofOperation b op).program.Leads (x.exchanges n) a.program := by
  refine h.stepwise (P := fun _ x => ∀ (n : Nat) (a : Activity) (op : Operation), x.activities[n]? = some a →
    a.role = .operation op → (Activity.ofOperation b op).program.Leads (x.exchanges n) a.program) ?_ ?_
  · intro n a op hn hrole
    cases n with
    | zero =>
      obtain rfl := Option.some.inj hn
      cases hrole
    | succ n => cases hn
  · intro acts x act y hreach ih hs n a op hn hrole
    have hheir := (step?_turn hs).heir hn
    cases hheir with
    | same hn hrole' hp hes =>
      rw [hes, hp]
      exact ih n _ op hn (hrole'.symm.trans hrole)
    | launched op' hact hk =>
      subst hact hk
      obtain rfl := Option.some.inj hs
      obtain rfl : op' = op := Role.operation.inj hrole
      have hnothing : exchanges { x with activities := x.activities ++ [.ofOperation b op'] } x.activities.length = [] :=
        hreach.exchanges_unnumbered
      rw [hnothing]
      exact .nil _
    | @resumed a r f reply own hx hp ha hact hown hes =>
      rw [hes]
      -- an operation does not go on with a round
      unfold Activity.goOn at hrole ⊢
      split at hrole
      · cases hrole
      · have hbefore := ih n a op hx hrole
        rw [hp] at hbefore
        exact hbefore.concat reply

end Scene

/-! ## The run of a start -/

def beforeTrials (phase : Phase) : List (Exchange lifecycle) :=
  [⟨.own (.control .markStarted), false⟩, ⟨.own (.control .acquire), ()⟩, ⟨.own (.control .phase), phase⟩]

/-- What a start exchanges after its attempts: it reports them, arms the schedule, and reports that. -/
def afterTrials (b : Binder) (bound : Bool) (attempts : Nat) (phase : Phase) : List (Exchange lifecycle) :=
  [⟨.own (.note (.emit (.startupCompleted bound attempts))), ()⟩, ⟨.own (.control .phase), phase⟩,
    ⟨.own (.control (.arm b.config.unboundInterval)), true⟩,
    ⟨.own (.note (.emit (.scheduleArmed b.config.unboundInterval))), ()⟩, ⟨.own (.control .release), ()⟩]

def Hoped (es : List (Exchange lifecycle)) : Prop := ∀ e ∈ es, e.1.IsHoped e.2

variable {b : Binder} {es es' : List (Exchange lifecycle)}

theorem hoped_append : Hoped (es ++ es') ↔ Hoped es ∧ Hoped es' := List.forall_mem_append

theorem hoped_cons {e : Exchange lifecycle} : Hoped (e :: es) ↔ e.1.IsHoped e.2 ∧ Hoped es := List.forall_mem_cons

abbrev StartupRuns (b : Binder) (rounds : List (Retry.Round lifecycle Bool)) (outcome : Retry.Outcome Bool) : Prop :=
  Retry.Runs (policy b) (Clock.sleep clock) (fun _ => startupAttempt b) b.config.retries 1 none rounds outcome

theorem leads_armSchedule (h : (armSchedule b).Leads es (.done ())) (hes : Hoped es) :
    ∃ phase, es = [⟨.own (.control .phase), phase⟩, ⟨.own (.control (.arm b.config.unboundInterval)), true⟩,
      ⟨.own (.note (.emit (.scheduleArmed b.config.unboundInterval))), ()⟩] := by
  obtain ⟨(phase : Phase), es, rfl, hrest⟩ := leads_ask.1 h
  obtain ⟨hphase, hes⟩ := hoped_cons.1 hes
  have hphase : phase.isTerminal = false := hphase
  simp only [Program.done_bind, hphase, Bool.false_eq_true, if_false] at hrest
  obtain ⟨(armed : Bool), es, rfl, hreport⟩ := leads_ask.1 hrest
  obtain rfl : armed = true := (hoped_cons.1 hes).1
  obtain ⟨⟨⟩, es, rfl, hdone⟩ := leads_ask.1 hreport
  obtain ⟨rfl, -⟩ := leads_done.1 hdone
  exact ⟨phase, rfl⟩

/-- **A start**, when the replies are those that it hopes for: it is refused, or it makes its attempts and arms the
schedule. -/
theorem leads_start (h : (start b).Leads es (.done ())) (hes : Hoped es) :
    es = [⟨.own (.control .markStarted), true⟩] ∨ ∃ phase phase' rounds outcome,
      es = beforeTrials phase ++ (rounds.flatMap Retry.Round.exchanges ++
        afterTrials b (outcome.value?.getD false) outcome.attempts phase') ∧ StartupRuns b rounds outcome := by
  obtain ⟨(before : Bool), es, rfl, hmarked⟩ := leads_ask.1 h
  cases before with
  | true =>
    obtain ⟨rfl, -⟩ := leads_done.1 hmarked
    exact .inl rfl
  | false =>
    obtain ⟨⟨⟩, es, rfl, hlocked⟩ := leads_ask.1 hmarked
    obtain ⟨(phase : Phase), es, rfl, hrest⟩ := leads_ask.1 hlocked
    obtain ⟨-, -, hphase, hes⟩ := by simpa only [hoped_cons] using hes
    have hphase : phase.isTerminal = false := hphase
    simp only [Program.done_bind, hphase, Bool.false_eq_true, if_false] at hrest
    obtain ⟨⟨⟩, es, release, rfl, hbind, hrelease⟩ := leads_bind.1 hrest
    obtain ⟨⟨⟩, release, rfl, hdone⟩ := leads_ask.1 hrelease
    obtain ⟨rfl, -⟩ := leads_done.1 hdone
    obtain ⟨outcome, attempts, es, rfl, hrun, hreport⟩ := leads_bind.1 hbind
    obtain ⟨rounds, rfl, hruns⟩ := Retry.leads_run hrun
    obtain ⟨⟨⟩, es, rfl, harm⟩ := leads_ask.1 hreport
    obtain ⟨⟨-, -, hes⟩, -⟩ := by simpa only [hoped_append, hoped_cons] using hes
    obtain ⟨phase', rfl⟩ := leads_armSchedule harm hes
    exact .inr ⟨phase, phase', rounds, outcome, by simp [beforeTrials, afterTrials], hruns⟩

/-! ## Attempts and their ends -/

/-- An attempt of a start, how it ended, and the pause after it, if there is one. -/
structure Trial where
  asked : List (Exchange lifecycle)
  ending : Pass.Ending
  pause : List (Exchange lifecycle)

def Trial.exchanges (t : Trial) : List (Exchange lifecycle) := t.asked ++ t.pause

/-- The attempts of a start, in order, and whether it reports that the instance is bound. -/
structure Trials (b : Binder) (trials : List Trial) (bound : Bool) : Prop where
  length_le : trials.length ≤ b.config.retries
  goes : ∀ t ∈ trials, ∃ j, Pass.Goes b [] j t.ending (calls t.asked)
  unbound : ∀ t ∈ trials.dropLast, t.ending.isBound = false
  reports : bound = true ↔ ∃ t, trials.getLast? = some t ∧ t.ending.isBound = true
  exhausted : bound = false → trials.length = b.config.retries
  pauses : ∀ (i : Nat) (t : Trial), trials[i]? = some t → t.ending.error? ≠ none → i + 1 < b.config.retries →
    ∃ time, t.pause =
      [⟨.clock .now, time⟩, ⟨.clock (.wait (Clock.endOfWait time b.config.retrySleep)), ()⟩]
  hurries : ∀ (i : Nat) (t : Trial), trials[i]? = some t → t.ending.error? = none ∨ i + 1 = b.config.retries →
    t.pause = []

/-- A round as a trial, if it is known how each round ended. -/
def Trial.ofRound (ending : Retry.Round lifecycle Bool → Pass.Ending) (r : Retry.Round lifecycle Bool) : Trial :=
  ⟨r.attempt, ending r, r.pause⟩

section Trials

variable {rounds : List (Retry.Round lifecycle Bool)} {outcome : Retry.Outcome Bool} {ending : Pass.Ending}

theorem done?_startupResult :
    Retry.done? (startupResult ending.attempted) = if ending.isBound then some true else none := by
  cases ending <;> rfl

theorem error?_startupResult : Retry.error? (startupResult ending.attempted) = ending.error? := by
  cases ending <;> rfl

theorem goes_startupAttempt {r : Except Error (Attempt Bool)} (h : (startupAttempt b).Leads es (.done r)) (hes : Hoped es) :
    ∃ ending, (∃ j, Pass.Goes b [] j ending (calls es)) ∧ r = startupResult ending.attempted := by
  obtain ⟨(phase : Phase), es, rfl, hrest⟩ := leads_ask.1 h
  have hphase : phase.isTerminal = false := (hoped_cons.1 hes).1
  simp only [Program.done_bind, hphase, Bool.false_eq_true, if_false] at hrest
  obtain ⟨held, es, nothing, rfl, hattempt, hdone⟩ := leads_bind.1 hrest
  obtain ⟨rfl, rfl⟩ := leads_done.1 hdone
  obtain ⟨es', hes', hcalls⟩ := calls_ofPass hattempt
  obtain ⟨j, ending, hgoes, rfl⟩ := Pass.goes_attempt hes'
  refine ⟨ending, ⟨j, ?_⟩, rfl⟩
  rw [← hcalls] at hgoes
  rwa [List.append_nil]

theorem leads_sleep {ms : Nat} (h : (Clock.sleep clock ms).Leads es (.done ())) :
    ∃ time, es = [⟨.clock .now, time⟩, ⟨.clock (.wait (Clock.endOfWait time ms)), ()⟩] := by
  obtain ⟨(time : Nat), es, rfl, hwait⟩ := leads_ask.1 h
  obtain ⟨⟨⟩, es, rfl, hdone⟩ := leads_ask.1 hwait
  obtain ⟨rfl, -⟩ := leads_done.1 hdone
  exact ⟨time, rfl⟩

/-- It is known how the rounds of a start ended. -/
def Discerned (b : Binder) (ending : Retry.Round lifecycle Bool → Pass.Ending) (r : Retry.Round lifecycle Bool) : Prop :=
  (∃ j, Pass.Goes b [] j (ending r) (calls r.attempt)) ∧ r.ends = startupResult (ending r).attempted

variable {endings : Retry.Round lifecycle Bool → Pass.Ending}

theorem done?_eq_none_of_discerned {r : Retry.Round lifecycle Bool} (h : Discerned b endings r) :
    Retry.done? r.ends = none ↔ (endings r).isBound = false := by
  rw [h.2, done?_startupResult]
  cases (endings r).isBound <;> simp

theorem reports_of_discerned (h : StartupRuns b rounds outcome) (hrounds : ∀ r ∈ rounds, Discerned b endings r) :
    outcome.attempts = rounds.length ∧
      (outcome.value?.getD false = true ↔ ∃ r, rounds.getLast? = some r ∧ (endings r).isBound = true) ∧
      (outcome.value?.getD false = false → rounds.length = b.config.retries) := by
  cases h.concludes with
  | succeeded r a hlast ha =>
    have hr := hrounds r (List.mem_of_getLast? hlast)
    have hbound : (endings r).isBound = true := by
      rw [← Bool.not_eq_false, ← done?_eq_none_of_discerned hr, ha]
      exact Option.some_ne_none a
    obtain rfl : true = a := by
      rw [hr.2, done?_startupResult, hbound] at ha
      exact Option.some.inj ha
    have hlength : 0 < rounds.length := List.length_pos_of_mem (List.mem_of_getLast? hlast)
    refine ⟨?_, ⟨fun _ => ⟨r, hlast, hbound⟩, fun _ => rfl⟩, fun h => by cases h⟩
    show 1 + (rounds.length - 1) = rounds.length
    omega
  | exhausted hall hlength =>
    refine ⟨hlength.symm, ⟨fun h => (by cases h), ?_⟩, fun _ => hlength⟩
    rintro ⟨r, hlast, hbound⟩
    have hmem := List.mem_of_getLast? hlast
    rw [(done?_eq_none_of_discerned (hrounds r hmem)).1 (hall r hmem)] at hbound
    cases hbound

/-- **The rounds of a start, by how they ended.** -/
theorem trials_of_discerned (h : StartupRuns b rounds outcome) (hrounds : ∀ r ∈ rounds, Discerned b endings r) :
    Trials b (rounds.map (Trial.ofRound endings)) (outcome.value?.getD false) := by
  obtain ⟨-, hreports, hexhausted⟩ := reports_of_discerned h hrounds
  have hround : ∀ {i : Nat} {t : Trial}, (rounds.map (Trial.ofRound endings))[i]? = some t →
      ∃ r, rounds[i]? = some r ∧ t = Trial.ofRound endings r ∧ Retry.error? r.ends = t.ending.error? := by
    intro i t ht
    rw [List.getElem?_map, Option.map_eq_some_iff] at ht
    obtain ⟨r, hr, rfl⟩ := ht
    refine ⟨r, hr, rfl, ?_⟩
    rw [(hrounds r (List.mem_of_getElem? hr)).2]
    exact error?_startupResult
  constructor
  case length_le =>
    rw [List.length_map]
    exact h.length_le
  case goes =>
    intro t ht
    obtain ⟨r, hr, rfl⟩ := List.mem_map.1 ht
    exact (hrounds r hr).1
  case unbound =>
    intro t ht
    rw [← List.map_dropLast] at ht
    obtain ⟨r, hr, rfl⟩ := List.mem_map.1 ht
    exact (done?_eq_none_of_discerned (hrounds r (List.mem_of_mem_dropLast hr))).1 (h.unfinished r hr)
  case reports =>
    rw [hreports, List.getLast?_map]
    simp [Option.map_eq_some_iff, Trial.ofRound]
  case exhausted =>
    rw [List.length_map]
    exact hexhausted
  case pauses =>
    intro i t ht herror hi
    obtain ⟨r, hr, rfl, hends⟩ := hround ht
    exact leads_sleep ((h.goes i r hr).pauses (by rwa [hends]) (by omega))
  case hurries =>
    intro i t ht hquiet
    obtain ⟨r, hr, rfl, hends⟩ := hround ht
    refine (h.goes i r hr).hurries ?_
    rw [hends]
    exact hquiet.imp id (by omega)

theorem exists_discerned (h : StartupRuns b rounds outcome) (hes : Hoped (rounds.flatMap Retry.Round.exchanges)) :
    ∃ endings, ∀ r ∈ rounds, Discerned b endings r := by
  have hway : ∀ r : Retry.Round lifecycle Bool, ∃ ending, r ∈ rounds →
      (∃ j, Pass.Goes b [] j ending (calls r.attempt)) ∧ r.ends = startupResult ending.attempted := by
    intro r
    by_cases hr : r ∈ rounds
    · obtain ⟨i, hi⟩ := List.getElem?_of_mem hr
      have hasked : Hoped r.attempt := fun e he =>
        hes e (List.mem_flatMap.2 ⟨r, hr, List.mem_append_left _ he⟩)
      obtain ⟨ending, hending⟩ := goes_startupAttempt (h.goes i r hi).attempt hasked
      exact ⟨ending, fun _ => hending⟩
    · exact ⟨.held, fun h => absurd h hr⟩
  choose endings hendings using hway
  exact ⟨endings, hendings⟩

theorem calls_append (es es' : List (Exchange lifecycle)) : calls (es ++ es') = calls es ++ calls es' :=
  List.filterMap_append

variable {trials : List Trial} {bound : Bool}

/-- A pause asks no collaborator. -/
theorem Trials.calls_eq (h : Trials b trials bound) :
    calls (trials.flatMap Trial.exchanges) = trials.flatMap fun t => calls t.asked := by
  have hpause : ∀ t ∈ trials, calls t.pause = [] := by
    intro t ht
    obtain ⟨i, hi⟩ := List.getElem?_of_mem ht
    by_cases herror : t.ending.error? = none
    · rw [h.hurries i t hi (.inl herror)]
      rfl
    · by_cases hlast : i + 1 = b.config.retries
      · rw [h.hurries i t hi (.inr hlast)]
        rfl
      · have hlt := (List.getElem?_eq_some_iff.1 hi).1
        have hle := h.length_le
        obtain ⟨time, hpause⟩ := h.pauses i t hi herror (by omega)
        rw [hpause]
        rfl
  refine Eq.trans List.filterMap_flatMap (List.flatMap_congr fun t ht => ?_)
  show calls (t.asked ++ t.pause) = _
  rw [calls_append, hpause t ht, List.append_nil]

theorem Trials.calls_whole (h : Trials b trials bound) (phase phase' : Phase) :
    calls (beforeTrials phase ++ (trials.flatMap Trial.exchanges ++ afterTrials b bound trials.length phase')) =
      trials.flatMap fun t => calls t.asked := by
  rw [calls_append, calls_append, h.calls_eq]
  show [] ++ (_ ++ []) = _
  rw [List.nil_append, List.append_nil]

theorem Trials.asks (h : Trials b trials bound) {t : Trial} (ht : t ∈ trials) :
    ∃ zone id filter interfaceId instanceId, (calls t.asked).map Sigma.fst <+:
      [.metadata, .serviceUrls zone, .provider (.describeInstance id), .provider (.describeInterfaces filter),
        .provider (.attach interfaceId instanceId 1)] := by
  obtain ⟨j, hgoes⟩ := h.goes t ht
  exact ⟨_, _, _, _, _, hgoes.prefix_calls⟩

/-- **No call follows one that attaches.** -/
theorem Trials.grants (h : Trials b trials bound) :
    ∀ c ∈ (trials.flatMap fun t => calls t.asked).dropLast, Pass.isGrant c = false := by
  rcases List.eq_nil_or_concat trials with rfl | ⟨init, last, rfl⟩
  · simp
  · rw [List.concat_eq_append] at h ⊢
    have hinit : ∀ c ∈ init.flatMap fun t => calls t.asked, Pass.isGrant c = false := by
      intro c hc
      obtain ⟨t, ht, hc⟩ := List.mem_flatMap.1 hc
      obtain ⟨j, hgoes⟩ := h.goes t (List.mem_append_left _ ht)
      exact hgoes.grants.2 (h.unbound t (by simpa using ht)) c hc
    obtain ⟨j, hgoes⟩ := h.goes last (by simp)
    intro c hc
    rw [List.flatMap_append, List.flatMap_singleton, List.dropLast_append] at hc
    split at hc
    · exact hinit c (List.mem_of_mem_dropLast hc)
    · rcases List.mem_append.1 hc with hc | hc
      · exact hinit c hc
      · exact hgoes.grants.1 c hc

end Trials

end Lifecycle
end AddressBinder
