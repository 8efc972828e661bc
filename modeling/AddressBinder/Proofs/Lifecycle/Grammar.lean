import Mathlib.Computability.Language
import AddressBinder.Proofs.Lifecycle.Run
/-!
# The words of a binder's events

The events of a whole life, as a language: a startup, then the schedule with its passes, then the end, of which the
first two may be missing.  The arming of the schedule comes first in its part (`life`), or somewhere among the passes
(`story`); the words of a story that begin a life are those in which no pass speaks before the arming (`prefix_life_iff`).
What a word says about single events is read off its parts (`mem_story`).
-/
namespace AddressBinder
namespace Event

open Computability

variable {b : Binder} {w : List Event}

/-! ## The languages -/

def noneFree : Language Event := {w | ∃ zone, w = [.noInterfaceAvailable zone]}

def attachment : Language Event := {w | ∃ i ip id, w = [.attached i ip id]}

def detachment : Language Event := {w | ∃ i id, w = [.detached i id]}

def resync : Language Event := {w | ∃ count, w = [.registryResynced count]}

def startupEnd (bound : Bool) : Language Event := {w | ∃ attempts, w = [.startupCompleted bound attempts]}

def failure (b : Binder) : Language Event := {w | ∃ text, w = [.passFailed text b.config.unboundInterval]}

/-- The startup attempts: those that find nothing free, and at most one that attaches. -/
def startup : Language Event := noneFree∗ * (startupEnd true + startupEnd false + attachment * startupEnd true)

/-- A periodic pass: bound already, bound again, or failed. -/
def periodicPass (b : Binder) : Language Event :=
  {[.passCompleted true b.config.boundInterval]} +
    resync * (noneFree + attachment) * {[.passCompleted false b.config.unboundInterval]} + (1 + resync) * failure b

/-- The passes of a schedule. -/
def passing (b : Binder) : Language Event := (periodicPass b)∗

/-- The schedule from its arming to its end. -/
def schedule (b : Binder) : Language Event :=
  {[.scheduleArmed b.config.unboundInterval]} * passing b * {[.scheduleCancelled]}

/-- The words of a language with the arming of the schedule told somewhere in them. -/
def armedWithin (b : Binder) (l : Language Event) : Language Event :=
  {w | ∃ p q, p ++ q ∈ l ∧ w = p ++ .scheduleArmed b.config.unboundInterval :: q}

/-- The schedule with passes that do not wait until its arming is told. -/
def overtaking (b : Binder) : Language Event := armedWithin b (passing b) * {[.scheduleCancelled]}

def closing : Language Event := (1 + detachment) * {[.stopped]}

/-- A startup, a schedule after it, and the end. -/
def lifeWith (l : Language Event) : Language Event := (1 + startup * (1 + l)) * closing

/-- **The whole life of a binder.** -/
def life (b : Binder) : Language Event := lifeWith (schedule b)

/-- The whole life of a binder whose passes do not wait until the arming of the schedule is told. -/
def story (b : Binder) : Language Event := lifeWith (overtaking b)

theorem append_mem_kstar {l : Language Event} {u v : List Event} (hu : u ∈ l∗) (hv : v ∈ l) : u ++ v ∈ l∗ :=
  Set.mem_of_mem_of_subset (Language.append_mem_mul hu hv) (kstar_mul_le_kstar (a := l))

theorem mem_startupEnd (bound : Bool) (attempts : Nat) :
    [.startupCompleted bound attempts] ∈ startupEnd true + startupEnd false + attachment * startupEnd true := by
  cases bound
  · exact .inl (.inr ⟨attempts, rfl⟩)
  · exact .inl (.inl ⟨attempts, rfl⟩)

theorem append_mem_startup {u v : List Event} (hu : u ∈ noneFree∗ * attachment) (hv : v ∈ startupEnd true) :
    u ++ v ∈ startup := by
  obtain ⟨a, ha, k, hk, rfl⟩ := Language.mem_mul.1 hu
  rw [List.append_assoc]
  exact Language.append_mem_mul ha (.inr (Language.append_mem_mul hk hv))

theorem append_mem_passing {r k : List Event} (hr : r ∈ passing b) (hk : k ∈ periodicPass b) : r ++ k ∈ passing b :=
  append_mem_kstar hr hk

theorem armedWithin_concat {l : Language Event} {w : List Event} (hw : w ∈ l) :
    w ++ [.scheduleArmed b.config.unboundInterval] ∈ armedWithin b l := ⟨w, [], by rwa [List.append_nil], rfl⟩

/-- What continues the words of a language continues them with the arming in them, too. -/
theorem append_mem_armedWithin {l m : Language Event} {w k : List Event} (hw : w ∈ armedWithin b l)
    (h : ∀ r ∈ l, r ++ k ∈ m) : w ++ k ∈ armedWithin b m := by
  obtain ⟨p, q, hpq, rfl⟩ := hw
  have hlonger := h _ hpq
  rw [List.append_assoc] at hlonger
  exact ⟨p, q ++ k, hlonger, by simp⟩

theorem append_mem_overtaking {r : List Event} (hr : r ∈ armedWithin b (passing b)) :
    r ++ [.scheduleCancelled] ∈ overtaking b := Language.append_mem_mul hr rfl

theorem append_mem_closing {d : List Event} (hd : d ∈ 1 + detachment) : d ++ [.stopped] ∈ closing :=
  Language.mem_mul.2 ⟨d, hd, _, rfl, rfl⟩

section LifeWith

variable {l : Language Event} {u v d : List Event}

theorem mem_lifeWith_of_schedule (hu : u ∈ startup) (hv : v ∈ l) (hd : d ∈ closing) : u ++ v ++ d ∈ lifeWith l :=
  Language.append_mem_mul (.inr (Language.append_mem_mul hu (.inr hv))) hd

theorem mem_lifeWith_of_startup (hu : u ∈ 1 + startup) (hd : d ∈ closing) : u ++ d ∈ lifeWith l :=
  Language.append_mem_mul (hu.imp id fun hu => Language.mem_mul.2 ⟨u, hu, [], .inl rfl, List.append_nil u⟩) hd

/-- **A life**: a startup or none, with a schedule after it or without, a detachment or none, and the end. -/
theorem mem_lifeWith (hw : w ∈ lifeWith l) : ∃ u v d, w = u ++ v ++ d ++ [.stopped] ∧
    (u ∈ 1 + startup ∧ v = [] ∨ u ∈ startup ∧ v ∈ l) ∧ d ∈ 1 + detachment := by
  obtain ⟨f, hf, c, hc, rfl⟩ := Language.mem_mul.1 hw
  obtain ⟨d, hd, s, rfl, rfl⟩ := Language.mem_mul.1 hc
  rcases (Language.mem_add _ _ f).1 hf with hf | hf
  · obtain rfl := (Language.mem_one f).1 hf
    exact ⟨[], [], d, rfl, .inl ⟨.inl rfl, rfl⟩, hd⟩
  · obtain ⟨u, hu, v, hv, rfl⟩ := Language.mem_mul.1 hf
    refine ⟨u, v, d, by simp, ?_, hd⟩
    rcases (Language.mem_add _ _ v).1 hv with hv | hv
    · exact .inl ⟨.inr hu, hv⟩
    · exact .inr ⟨hu, hv⟩

end LifeWith

/-! ## What the words consist of -/

/-- Whether an event is told by a startup or a pass. -/
def isInner : Event → Bool
  | .startupCompleted .. | .attached .. | .noInterfaceAvailable _ | .registryResynced _ => true
  | .passCompleted .. | .passFailed .. => true
  | .scheduleArmed _ | .scheduleCancelled | .detached .. | .stopped => false

/-- Whether a test holds of all events of all words of a language. -/
def Throughout (test : Event → Bool) (l : Language Event) : Prop := ∀ w ∈ l, ∀ e ∈ w, test e = true

section Throughout

variable {test : Event → Bool} {l m : Language Event}

theorem throughout_one : Throughout test 1 := fun w hw e he => by
  rw [Language.mem_one] at hw
  rw [hw] at he
  cases he

theorem throughout_of_singletons (h : ∀ w ∈ l, ∃ e, w = [e] ∧ test e = true) : Throughout test l := fun w hw e he => by
  obtain ⟨f, rfl, hf⟩ := h w hw
  rwa [List.mem_singleton.1 he]

theorem Throughout.add (hl : Throughout test l) (hm : Throughout test m) : Throughout test (l + m) := fun w hw =>
  ((Language.mem_add l m w).1 hw).elim (hl w) (hm w)

theorem Throughout.mul (hl : Throughout test l) (hm : Throughout test m) : Throughout test (l * m) := fun w hw e he => by
  obtain ⟨u, hu, v, hv, rfl⟩ := Language.mem_mul.1 hw
  exact (List.mem_append.1 he).elim (hl u hu e) (hm v hv e)

theorem Throughout.kstar (hl : Throughout test l) : Throughout test l∗ := fun w hw e he => by
  obtain ⟨L, rfl, hL⟩ := Language.mem_kstar.1 hw
  obtain ⟨v, hv, he⟩ := List.mem_flatten.1 he
  exact hl v (hL v hv) e he

theorem throughout_startup (hnone : ∀ zone, test (.noInterfaceAvailable zone) = true)
    (hattached : ∀ i ip id, test (.attached i ip id) = true)
    (hcompleted : ∀ bound attempts, test (.startupCompleted bound attempts) = true) : Throughout test startup := by
  have hend : ∀ bound, Throughout test (startupEnd bound) := fun bound =>
    throughout_of_singletons fun w ⟨attempts, hw⟩ => ⟨_, hw, hcompleted bound attempts⟩
  have hattach : Throughout test attachment :=
    throughout_of_singletons fun w ⟨i, ip, id, hw⟩ => ⟨_, hw, hattached i ip id⟩
  have hfree : Throughout test noneFree := throughout_of_singletons fun w ⟨zone, hw⟩ => ⟨_, hw, hnone zone⟩
  exact hfree.kstar.mul (((hend true).add (hend false)).add (hattach.mul (hend true)))

end Throughout

theorem inner_startup : Throughout isInner startup := throughout_startup (fun _ => rfl) (fun _ _ _ => rfl) fun _ _ => rfl

theorem inner_passing : Throughout isInner (passing b) := by
  have hcompleted : ∀ bound delay, Throughout isInner {[.passCompleted bound delay]} := fun bound delay =>
    throughout_of_singletons fun w hw => ⟨_, hw, rfl⟩
  have hresync : Throughout isInner resync := throughout_of_singletons fun w ⟨count, hw⟩ => ⟨_, hw, rfl⟩
  have hfailure : Throughout isInner (failure b) := throughout_of_singletons fun w ⟨text, hw⟩ => ⟨_, hw, rfl⟩
  have hfree : Throughout isInner noneFree := throughout_of_singletons fun w ⟨zone, hw⟩ => ⟨_, hw, rfl⟩
  have hattach : Throughout isInner attachment := throughout_of_singletons fun w ⟨i, ip, id, hw⟩ => ⟨_, hw, rfl⟩
  exact (((hcompleted _ _).add ((hresync.mul (hfree.add hattach)).mul (hcompleted _ _))).add
    ((throughout_one.add hresync).mul hfailure)).kstar

/-- Whether an event tells the arming of the schedule. -/
def isArming : Event → Bool
  | .scheduleArmed _ => true
  | _ => false

theorem isArming_eq_false_of_isInner : ∀ {e : Event}, e.isInner = true → e.isArming = false
  | .startupCompleted .., _ | .attached .., _ | .noInterfaceAvailable _, _ | .registryResynced _, _ => rfl
  | .passCompleted .., _ | .passFailed .., _ => rfl

/-- **A word of a story**: inner events, the schedule with more of them and the arming, and the end. -/
theorem mem_story (hw : w ∈ story b) : ∃ u v d, w = u ++ v ++ d ++ [.stopped] ∧ (∀ e ∈ u, e.isInner = true) ∧
    (v = [] ∨ ∃ p, v = p ++ [.scheduleCancelled] ∧ ∀ e ∈ p, e.isInner = true ∨ e.isArming = true) ∧
    (d = [] ∨ ∃ i id, d = [.detached i id]) := by
  obtain ⟨u, v, d, rfl, huv, hd⟩ := mem_lifeWith hw
  refine ⟨u, v, d, rfl, ?_, ?_, (Language.mem_add _ _ d).1 hd⟩
  · rcases huv with ⟨hu, -⟩ | ⟨hu, -⟩
    · exact (throughout_one.add inner_startup) u hu
    · exact inner_startup u hu
  · rcases huv with ⟨-, hv⟩ | ⟨-, hv⟩
    · exact .inl hv
    · obtain ⟨r, ⟨p, q, hpq, rfl⟩, k, rfl, rfl⟩ := Language.mem_mul.1 hv
      refine .inr ⟨_, rfl, fun e he => ?_⟩
      rcases List.mem_append.1 he with he | he
      · exact .inl (inner_passing _ hpq e (List.mem_append_left _ he))
      · rcases List.mem_cons.1 he with rfl | he
        · exact .inr rfl
        · exact .inl (inner_passing _ hpq e (List.mem_append_right _ he))

/-! ## Passes before the arming -/

/-- Whether an event is told by a pass and by nothing else. -/
def isPeriodic : Event → Bool
  | .registryResynced _ | .passCompleted .. | .passFailed .. => true
  | _ => false

/-- **The arming of the schedule is told before any pass speaks.** -/
def ArmsFirst (es : List Event) : Prop :=
  ∀ before e after, es = before ++ e :: after → e.isPeriodic = true → ∃ f ∈ before, f.isArming = true

section ArmsFirst

variable {es r : List Event} {e : Event}

theorem armsFirst_nil : ArmsFirst [] := fun _ _ _ h => absurd h (by simp)

theorem ArmsFirst.mono (hw : ArmsFirst w) (h : es <+: w) : ArmsFirst es := by
  obtain ⟨rest, rfl⟩ := h
  intro before e after heq
  exact hw before e (after ++ rest) (by rw [heq, List.append_assoc, List.cons_append])

/-- An event of a pass may follow when the arming was told, and any other one at any time. -/
theorem ArmsFirst.concat (h : ArmsFirst es) (he : e.isPeriodic = true → ∃ f ∈ es, f.isArming = true) :
    ArmsFirst (es ++ [e]) := by
  intro before g after heq hg
  rcases Lifecycle.eq_concat_cases heq with ⟨rfl, rfl, -⟩ | ⟨rest, -, hes⟩
  · exact he hg
  · exact h before g rest hes hg

theorem isPeriodic_of_mem_startup (hw : w ∈ startup) (he : e ∈ w) : e.isPeriodic = false := by
  have hstartup : Throughout (fun e => !e.isPeriodic) startup :=
    throughout_startup (fun _ => rfl) (fun _ _ _ => rfl) fun _ _ => rfl
  simpa using hstartup w hw e he

theorem isPeriodic_of_mem_closing (hw : w ∈ closing) (he : e ∈ w) : e.isPeriodic = false := by
  have hdetachment : Throughout (fun e => !e.isPeriodic) detachment :=
    throughout_of_singletons fun w ⟨i, id, hw⟩ => ⟨_, hw, rfl⟩
  have hstopped : Throughout (fun e => !e.isPeriodic) {[.stopped]} := throughout_of_singletons fun w hw => ⟨_, hw, rfl⟩
  simpa using (throughout_one.add hdetachment).mul hstopped w hw e he

theorem isPeriodic_of_periodicPass (h : e :: r ∈ periodicPass b) : e.isPeriodic = true := by
  have hresync : ∀ {u v : List Event}, u ∈ resync → e :: r = u ++ v → e.isPeriodic = true := by
    rintro u v ⟨count, rfl⟩ heq
    rw [(List.cons.inj heq).1]
    rfl
  rcases h with (h | h) | h
  · rw [(List.cons.inj h).1]
    rfl
  · obtain ⟨u, hu, v, -, heq⟩ := Language.mem_mul.1 h
    obtain ⟨s, hs, t, -, rfl⟩ := Language.mem_mul.1 hu
    exact hresync hs (v := t ++ v) (by rw [← heq, List.append_assoc])
  · obtain ⟨u, hu, v, ⟨text, rfl⟩, heq⟩ := Language.mem_mul.1 h
    rcases (Language.mem_add _ _ u).1 hu with hu | hu
    · obtain rfl := (Language.mem_one u).1 hu
      rw [← (List.cons.inj heq).1]
      rfl
    · exact hresync hu heq.symm

/-- A word of passes begins with an event of a pass. -/
theorem isPeriodic_of_passing (h : e :: r ∈ passing b) : e.isPeriodic = true := by
  obtain ⟨L, heq, hL⟩ := Language.mem_kstar_iff_exists_nonempty.1 h
  match L, heq, hL with
  | [] :: _, _, hL => exact absurd rfl (hL [] List.mem_cons_self).2
  | (f :: k) :: L, heq, hL =>
    obtain rfl := (List.cons.inj heq).1
    exact isPeriodic_of_periodicPass (hL _ List.mem_cons_self).1

theorem armsFirst_of_forall (h : ∀ e ∈ es, e.isPeriodic = false) : ArmsFirst es := by
  rintro before e after rfl he
  rw [h e (List.mem_append_right _ List.mem_cons_self)] at he
  cases he

/-- Where no pass speaks before an arming, anything may follow it. -/
theorem armsFirst_armed (h : ∀ e ∈ es, e.isPeriodic = false) (delay : Nat) (r : List Event) :
    ArmsFirst (es ++ .scheduleArmed delay :: r) := by
  induction r using List.reverseRecOn with
  | nil => exact (armsFirst_of_forall h).concat nofun
  | append_singleton r e ih =>
    rw [← List.cons_append, ← List.append_assoc]
    exact ih.concat fun _ => ⟨.scheduleArmed delay, by simp, rfl⟩

theorem armsFirst_of_mem_life (hw : w ∈ life b) : ArmsFirst w := by
  obtain ⟨u, v, d, rfl, huv, hd⟩ := mem_lifeWith hw
  rcases huv with ⟨hu, rfl⟩ | ⟨hu, hv⟩
  · refine armsFirst_of_forall fun e he => ?_
    rw [List.append_nil, List.append_assoc] at he
    rcases List.mem_append.1 he with he | he
    · rcases (Language.mem_add _ _ u).1 hu with hu | hu
      · rw [(Language.mem_one u).1 hu] at he
        cases he
      · exact isPeriodic_of_mem_startup hu he
    · exact isPeriodic_of_mem_closing (append_mem_closing hd) he
  · obtain ⟨x, hx, k, -, rfl⟩ := Language.mem_mul.1 hv
    obtain ⟨a, rfl, r, -, rfl⟩ := Language.mem_mul.1 hx
    have hlong := armsFirst_armed (fun e => isPeriodic_of_mem_startup hu) b.config.unboundInterval
      (r ++ k ++ d ++ [.stopped])
    simpa using hlong

/-- **The beginning of a story begins a life just when no pass speaks before the arming of the schedule is told.** -/
theorem prefix_life_iff (hw : w ∈ story b) (h : es <+: w) : (∃ v ∈ life b, es <+: v) ↔ ArmsFirst es := by
  refine ⟨fun ⟨v, hv, hes⟩ => (armsFirst_of_mem_life hv).mono hes, fun hes => ?_⟩
  obtain ⟨u, v, d, rfl, huv, hd⟩ := mem_lifeWith hw
  rcases huv with ⟨hu, rfl⟩ | ⟨hu, hv⟩
  · refine ⟨_, mem_lifeWith_of_startup hu (append_mem_closing hd), ?_⟩
    simpa using h
  · obtain ⟨x, ⟨p, q, hpq, rfl⟩, k, rfl, rfl⟩ := Language.mem_mul.1 hv
    cases p with
    | nil =>
      have harmed := Language.append_mem_mul (show [scheduleArmed b.config.unboundInterval] ∈ {_} from rfl) hpq
      have hv := Language.append_mem_mul harmed (show [scheduleCancelled] ∈ {_} from rfl)
      refine ⟨_, mem_lifeWith_of_schedule hu hv (append_mem_closing hd), ?_⟩
      simpa using h
    | cons e p =>
      -- a pass spoke first, so what is told ends before it
      have hpass : e.isPeriodic = true := isPeriodic_of_passing hpq
      have hnever : ∀ r, es ≠ u ++ e :: r := fun r heq => by
        obtain ⟨f, hf, harming⟩ := hes u e r heq hpass
        rw [isArming_eq_false_of_isInner (inner_startup u hu f hf)] at harming
        cases harming
      have hto : u ++ [e] <+: u ++ (e :: p ++ .scheduleArmed b.config.unboundInterval :: q ++ [.scheduleCancelled]) ++ d ++
          [.stopped] := by simp
      rcases List.prefix_or_prefix_of_prefix h hto with hle | ⟨r, rfl⟩
      · rcases List.prefix_concat_iff.1 hle with rfl | hle
        · exact absurd rfl (hnever [])
        · exact ⟨_, mem_lifeWith_of_startup (.inr hu) (append_mem_closing (d := []) (.inl rfl)),
            hle.trans (List.prefix_append _ _)⟩
      · exact absurd (by simp) (hnever r)

end ArmsFirst

/-! ## What follows for single events -/

def isDetached : Event → Bool
  | .detached .. => true
  | _ => false

theorem ne_of_isInner {e f : Event} (he : e.isInner = true) (hf : f.isInner = false) : e ≠ f := by
  rintro rfl
  rw [he] at hf
  cases hf

theorem mem_story_before {u v : List Event} {e : Event} (hu : ∀ e ∈ u, e.isInner = true)
    (hv : v = [] ∨ ∃ p, v = p ++ [.scheduleCancelled] ∧ ∀ e ∈ p, e.isInner = true ∨ e.isArming = true)
    (he : e ∈ u ++ v) : e ≠ .stopped ∧ e.isDetached = false := by
  have hinner : e.isInner = true → e ≠ .stopped ∧ e.isDetached = false := fun h =>
    ⟨ne_of_isInner h rfl, by cases e <;> first | rfl | cases h⟩
  rcases List.mem_append.1 he with he | he
  · exact hinner (hu e he)
  · rcases hv with rfl | ⟨p, rfl, hp⟩
    · cases he
    · rcases List.mem_append.1 he with he | he
      · rcases hp e he with h | h
        · exact hinner h
        · cases e with
          | scheduleArmed delay => exact ⟨nofun, rfl⟩
          | _ => cases h
      · rw [List.mem_singleton.1 he]
        exact ⟨nofun, rfl⟩

theorem pairwise_stopped (hw : w ∈ story b) : w.Pairwise fun e _ => e ≠ .stopped := by
  obtain ⟨u, v, d, rfl, hu, hv, hd⟩ := mem_story hw
  have hne : ∀ e ∈ u ++ v ++ d, e ≠ .stopped := fun e he => by
    rcases List.mem_append.1 he with he | he
    · exact (mem_story_before hu hv he).1
    · rcases hd with rfl | ⟨i, id, rfl⟩
      · cases he
      · rw [List.mem_singleton.1 he]
        nofun
  refine List.pairwise_append.2 ⟨?_, List.pairwise_singleton _ _, fun e he _ _ => hne e he⟩
  exact List.pairwise_of_forall_mem_list fun e he _ _ => hne e he

theorem pairwise_detached (hw : w ∈ story b) : w.Pairwise fun e f => e.isDetached = true → f.isDetached = false := by
  obtain ⟨u, v, d, rfl, hu, hv, hd⟩ := mem_story hw
  have hnot : ∀ e ∈ u ++ v, e.isDetached = false := fun e he => (mem_story_before hu hv he).2
  rw [List.append_assoc]
  refine List.pairwise_append.2 ⟨?_, ?_, fun e he f _ h => ?_⟩
  · exact List.pairwise_of_forall_mem_list fun e _ f hf _ => hnot f hf
  · rcases hd with rfl | ⟨i, id, rfl⟩ <;> simp [isDetached]
  · rw [hnot e he] at h
    cases h

theorem cancelled_mem_of_detached {s t r : List Event} {delay : Nat} {i id : String}
    (hw : s ++ .scheduleArmed delay :: t ++ .detached i id :: r ∈ story b) : .scheduleCancelled ∈ t := by
  obtain ⟨u, v, d, heq, hu, hv, hd⟩ := mem_story hw
  have hnot : ∀ e ∈ u ++ v, e.isDetached = false := fun e he => (mem_story_before hu hv he).2
  rcases hd with rfl | ⟨i', id', rfl⟩
  · -- a word without a detachment
    have hmem : Event.detached i id ∈ u ++ v ++ [] ++ [.stopped] := by
      rw [← heq]
      exact List.mem_append_right _ List.mem_cons_self
    simp only [List.append_nil] at hmem
    rcases List.mem_append.1 hmem with h | h
    · exact absurd (hnot _ h) (by simp [isDetached])
    · simp at h
  · have hmem : Event.detached i id ∉ u ++ v := fun h => absurd (hnot _ h) (by simp [isDetached])
    have hsplit : u ++ v ++ .detached i' id' :: [.stopped] = s ++ .scheduleArmed delay :: t ++ .detached i id :: r := by
      rw [heq]
      simp
    obtain ⟨hbefore, -, -⟩ := (List.append_cons_inj_of_notMem hmem (by simp)).1 hsplit
    have harmed : Event.scheduleArmed delay ∈ u ++ v := by
      rw [hbefore]
      exact List.mem_append_right _ List.mem_cons_self
    rcases hv with rfl | ⟨p, rfl, -⟩
    · rw [List.append_nil] at harmed
      exact absurd (hu _ harmed) (by simp [isInner])
    · -- what stands before the detachment ends with the cancellation
      rw [← List.append_assoc] at hbefore
      rcases List.eq_nil_or_concat t with rfl | ⟨t, e, rfl⟩
      · obtain ⟨-, h⟩ := List.append_inj' hbefore rfl
        simp at h
      · rw [List.concat_eq_append, ← List.cons_append, ← List.append_assoc] at hbefore
        obtain ⟨-, h⟩ := List.append_inj' hbefore rfl
        rw [List.concat_eq_append, ← h]
        exact List.mem_append_right _ List.mem_cons_self

end Event
end AddressBinder
