import Mathlib.Data.List.DropRight
import AddressBinder.Proofs.Lifecycle.Run
/-!
# The snapshot in every state

The start, passes, direct binds and the shutdown write the snapshot at moments of their own, and other activities go on
between any two of the writes; a phase that may not be entered any more is refused while the address beside it is
written.  One invariant ties the snapshot to the passes recorded so far, and every write keeps it.
-/
namespace AddressBinder

/-- How far a life has come: phases of passes, then of shutdown, then the end. -/
def Phase.stage : Phase → Nat
  | .unbound | .bound => 0
  | .shuttingDown => 1
  | .stopped => 2

theorem Phase.isTerminal_iff {phase : Phase} : phase.isTerminal = true ↔ 0 < phase.stage := by
  cases phase <;> simp [Phase.isTerminal, Phase.stage]

theorem Phase.stage_le_move (old new : Phase) (h : new.stage = 0 ∨ old.stage ≤ new.stage) :
    old.stage ≤ (old.move new).stage := by
  cases old <;> cases new <;> simp_all [Phase.move, Phase.stage, Phase.isTerminal]

namespace Status

variable {time : Nat} {s s' : Status} {passes : List (Option String)} {recorded : Option (Option String)}

/-- What one request can do to a snapshot, and the failure of the pass that it records, if it records one. -/
inductive Write (time : Nat) (s : Status) : Option (Option String) → Status → Prop
  | keep : Write time s none s
  | bound (ip : Ipv4) : Write time s none (s.observe time (.bound ip))
  | unbound : Write time s none (s.observe time .unbound)
  | pass (failure : Option String) : Write time s (some failure) (s.observe time (.pass failure))
  | stopped : Write time s none (s.observe time .stopped)
  | begins : s.phase.isTerminal = false → Write time s none (s.move .shuttingDown)

theorem Write.stage_le (h : Write time s recorded s') : s.phase.stage ≤ s'.phase.stage := by
  cases h with
  | keep => exact Nat.le_refl _
  | bound | unbound => exact Phase.stage_le_move _ _ (.inl rfl)
  | pass failure => cases failure <;> exact Nat.le_refl _
  | stopped =>
    refine Phase.stage_le_move _ _ (.inr ?_)
    cases s.phase <;> simp [Phase.stage]
  | begins hnot =>
    refine Phase.stage_le_move _ _ (.inr ?_)
    have : ¬ 0 < s.phase.stage := fun h => by simp [Phase.isTerminal_iff.2 h] at hnot
    omega

/-- A snapshot tells of the passes recorded so far, each with the text of its failure if it failed, and shows an address
exactly as its phase says. -/
structure Reflects (s : Status) (passes : List (Option String)) : Prop where
  address_of_bound : s.phase = .bound → ∃ ip, s.boundAddress = some ip
  address_of_unbound : s.phase = .unbound → s.boundAddress = none
  failures : s.consecutiveFailures = min (passes.rtakeWhile Option.isSome).length failureLimit
  error : s.lastError = passes.getLast?.join
  passed : s.lastPassAt.isSome = true ↔ passes ≠ []

theorem reflects_initial : initial.Reflects [] :=
  ⟨nofun, fun _ => rfl, rfl, rfl, by simp [initial]⟩

/-- The phase of a snapshot and its address change together, or the phase is refused as it is terminal. -/
theorem Reflects.move (h : s.Reflects passes) {address : Option Ipv4} {phase : Phase}
    (hbound : phase = .bound → ∃ ip, address = some ip) (hunbound : phase = .unbound → address = none) :
    ({ s with boundAddress := address }.move phase).Reflects passes := by
  have hmoved : s.phase.isTerminal = true ∧ s.phase.move phase = s.phase ∨ s.phase.move phase = phase := by
    cases hs : s.phase <;> cases phase <;> simp [Phase.move, Phase.isTerminal]
  refine ⟨fun hp => ?_, fun hp => ?_, h.failures, h.error, h.passed⟩ <;> change s.phase.move phase = _ at hp
  · rcases hmoved with ⟨hterminal, hkeep⟩ | hnew
    · rw [← hkeep, hp] at hterminal
      cases hterminal
    · exact hbound (hnew.symm.trans hp)
  · rcases hmoved with ⟨hterminal, hkeep⟩ | hnew
    · rw [← hkeep, hp] at hterminal
      cases hterminal
    · exact hunbound (hnew.symm.trans hp)

theorem Reflects.pass (h : s.Reflects passes) (failure : Option String) :
    (s.observe time (.pass failure)).Reflects (passes ++ [failure]) := by
  cases failure with
  | none =>
    refine ⟨h.address_of_bound, h.address_of_unbound, ?_, by simp [observe], by simp [observe]⟩
    rw [List.rtakeWhile_concat_neg _ _ _ (by simp)]
    rfl
  | some text =>
    refine ⟨h.address_of_bound, h.address_of_unbound, ?_, by simp [observe], by simp [observe]⟩
    have hcount : (s.observe time (.pass (some text))).consecutiveFailures =
        min (s.consecutiveFailures + 1) failureLimit := rfl
    rw [List.rtakeWhile_concat_pos _ _ _ rfl, hcount, h.failures, List.length_append, List.length_singleton]
    omega

/-- **Every write keeps the invariant.** -/
theorem Write.reflects (hwrite : Write time s recorded s') (h : s.Reflects passes) :
    s'.Reflects (passes ++ recorded.toList) := by
  cases hwrite with
  | keep => simpa using h
  | bound ip =>
    rw [Option.toList_none, List.append_nil]
    exact h.move (fun _ => ⟨ip, rfl⟩) nofun
  | unbound =>
    rw [Option.toList_none, List.append_nil]
    exact h.move nofun fun _ => rfl
  | pass failure => exact h.pass failure
  | stopped =>
    rw [Option.toList_none, List.append_nil]
    exact h.move nofun nofun
  | begins =>
    rw [Option.toList_none, List.append_nil]
    exact h.move nofun nofun

theorem Reflects.lastError_isSome_iff (h : s.Reflects passes) : s.lastError.isSome = true ↔ 0 < s.consecutiveFailures := by
  rw [h.error, h.failures]
  rcases List.eq_nil_or_concat passes with rfl | ⟨before, last, rfl⟩
  · simp
  · rw [List.concat_eq_append]
    cases last with
    | none => simp [List.rtakeWhile_concat_neg]
    | some text =>
      rw [List.rtakeWhile_concat_pos _ _ _ rfl, List.length_append, List.length_singleton]
      simp only [List.getLast?_concat, Option.join_some, Option.isSome_some, true_iff, failureLimit]
      omega

/-- The last pass, if it failed, is the last that failed. -/
theorem Reflects.lastError_eq (h : s.Reflects passes) (herror : s.lastError.isSome = true) :
    s.lastError = (passes.filterMap id).getLast? := by
  rw [h.error] at herror ⊢
  rcases List.eq_nil_or_concat passes with rfl | ⟨before, last, rfl⟩
  · rfl
  · rw [List.concat_eq_append] at herror ⊢
    cases last with
    | none => simp at herror
    | some text => simp

end Status

namespace Lifecycle

/-- The failure of the pass that a deed records, none inside if the pass succeeded. -/
def Deed.pass? : Deed → Option (Option String)
  | .answered (.own (.note (.observe (.pass failure)))) _ => some failure
  | _ => none

namespace Scene

variable {b : Binder} {x y : Scene} {act : Act} {acts more : List Act}

/-- The passes recorded so far, each with the text of its failure if it failed. -/
def passes (x : Scene) : List (Option String) := x.log.filterMap fun line => line.deed.pass?

theorem write_of_answers {r : Request} {reply : r.Reply} {own : State} (h : x.Answers r reply own) :
    x.own.status.Write x.time (Deed.answered r reply).pass? own.status := by
  cases r with
  | call c =>
    obtain rfl := answers_call.1 h
    exact .keep
  | clock r =>
    obtain ⟨-, rfl⟩ := answers_clock.1 h
    exact .keep
  | own o =>
    cases o with
    | note n =>
      obtain rfl := answers_note.1 h
      cases n with
      | observe o =>
        cases o with
        | bound ip => exact .bound ip
        | unbound => exact .unbound
        | pass failure => exact .pass failure
        | stopped => exact .stopped
      | emit e => exact .keep
    | control c =>
      cases c with
      | beginShutdown =>
        obtain ⟨hbegins, rfl⟩ := answers_beginShutdown.1 h
        split
        · rename_i hbegin
          exact .begins (by simpa [hbegin] using hbegins)
        · exact .keep
      | markStarted =>
        obtain ⟨-, rfl⟩ := answers_markStarted.1 h
        exact .keep
      | phase =>
        obtain ⟨-, rfl⟩ := answers_phase.1 h
        exact .keep
      | acquire =>
        obtain ⟨-, rfl⟩ := answers_acquire.1 h
        exact .keep
      | release =>
        obtain rfl := answers_release.1 h
        exact .keep
      | arm delay =>
        obtain ⟨-, rfl⟩ := answers_arm.1 h
        split <;> exact .keep
      | disarm =>
        obtain ⟨-, rfl⟩ := answers_disarm.1 h
        split <;> exact .keep
      | awaitExit =>
        obtain ⟨-, rfl⟩ := answers_awaitExit.1 h
        exact .keep
    | task r =>
      -- the schedule's requests change its stage alone
      obtain ⟨answer, -, hown⟩ := Option.map_eq_some_iff.1 h
      obtain ⟨-, rfl⟩ := Prod.mk.inj hown
      exact .keep

/-- What an act writes into the snapshot is what it adds to the passes recorded. -/
theorem Turn.write (h : Turn b x act y) :
    ∃ recorded, x.own.status.Write x.time recorded y.own.status ∧ y.passes = x.passes ++ recorded.toList := by
  cases h with
  | launch op => exact ⟨none, .keep, (List.append_nil _).symm⟩
  | issue hn hp => exact ⟨none, .keep, by simp [passes, Scene.issue, Deed.pass?]⟩
  | @resume _ n a r k reply own hn hp ha hact =>
    refine ⟨(Deed.answered r reply).pass?, write_of_answers ha, ?_⟩
    simp only [passes, Scene.resume, List.filterMap_append]
    cases hpass : (Deed.answered r reply).pass? <;> simp [hpass]
  | aside => exact ⟨none, .keep, (List.append_nil _).symm⟩

theorem Reaches.reflects (h : Reaches b acts x) : x.own.status.Reflects x.passes :=
  h.induction (P := fun _ x => x.own.status.Reflects x.passes) Status.reflects_initial fun _ hx hturn => by
    obtain ⟨recorded, hwrite, hpasses⟩ := hturn.write
    rw [hpasses]
    exact hwrite.reflects hx

/-- **A life goes on, never back.** -/
theorem stage_le_of_run? : ∀ {more : List Act} {x : Scene}, x.run? b more = some y →
    x.own.status.phase.stage ≤ y.own.status.phase.stage
  | [], x, h => by
    obtain rfl := Option.some.inj h
    exact Nat.le_refl _
  | act :: more, x, h => by
    obtain ⟨w, hw, hrest⟩ := Option.bind_eq_some_iff.1 h
    obtain ⟨_, hwrite, -⟩ := (step?_turn hw).write
    exact Nat.le_trans hwrite.stage_le (stage_le_of_run? hrest)

/-- **The snapshot in every state**, whatever operations were launched, in whatever order they go on, and whatever the
collaborators answer: a bound phase shows an address and an unbound one shows none; a life that shuts down does not
return to its passes, and one that has stopped stays so; the failures counted are those recorded since the last pass
that succeeded, as far as 32 bits count; the text shown is that of the last pass that failed, as long as failures are
counted; and a time of a pass is shown once one is recorded. -/
theorem Reaches.status_invariants (h : Reaches b acts x) :
    (x.own.status.phase = .bound → ∃ ip, x.own.status.boundAddress = some ip) ∧
    (x.own.status.phase = .unbound → x.own.status.boundAddress = none) ∧
    (∀ more y, x.run? b more = some y →
      (x.own.status.phase = .shuttingDown ∨ x.own.status.phase = .stopped →
        y.own.status.phase = .shuttingDown ∨ y.own.status.phase = .stopped) ∧
      (x.own.status.phase = .stopped → y.own.status.phase = .stopped)) ∧
    x.own.status.consecutiveFailures = min (x.passes.rtakeWhile Option.isSome).length 0xffffffff ∧
    (x.own.status.lastError.isSome = true ↔ 0 < x.own.status.consecutiveFailures) ∧
    (x.own.status.lastError.isSome = true → x.own.status.lastError = (x.passes.filterMap id).getLast?) ∧
    (x.own.status.lastPassAt.isSome = true ↔ x.passes ≠ []) := by
  have hx := h.reflects
  refine ⟨hx.address_of_bound, hx.address_of_unbound, fun more y hrun => ?_, hx.failures, hx.lastError_isSome_iff,
    hx.lastError_eq, hx.passed⟩
  have hle := stage_le_of_run? hrun
  constructor
  · rintro (hphase | hphase) <;> rw [hphase] at hle <;> revert hle <;> cases y.own.status.phase <;> simp [Phase.stage]
  · intro hphase
    rw [hphase] at hle
    revert hle
    cases y.own.status.phase <;> simp [Phase.stage]

end Scene

/-- A pass that cannot reach the metadata, and a shutdown that begins right after it. -/
def failingThenClosing : List Act :=
  [.launch .runPass, .move 1,
    .answer 1 .metadata (.error (.identity "Metadata request for /latest/meta-data/instance-id failed: timed out")), .move 1,
    .launch .shutdown, .move 2]

theorem status_invariants_of_failing_pass : ∃ x, Scene.Reaches default failingThenClosing x ∧
    x.own.status.lastError = (x.passes.filterMap id).getLast? ∧ 0 < x.own.status.consecutiveFailures ∧
    ∀ more y, x.run? default more = some y → y.own.status.phase = .shuttingDown ∨ y.own.status.phase = .stopped := by
  have hsome : ((Scene.initial default).run? default failingThenClosing).any (fun x =>
      x.own.status.phase = .shuttingDown && x.own.status.lastError.isSome) = true := rfl
  obtain ⟨x, hx, hstatus⟩ := (Option.any_eq_true _ _).1 hsome
  simp only [Bool.and_eq_true, decide_eq_true_eq] at hstatus
  obtain ⟨hphase, herror⟩ := hstatus
  have hreached : Scene.Reaches default failingThenClosing x := hx
  obtain ⟨-, -, hon, -, hcounted, hlast, -⟩ := hreached.status_invariants
  exact ⟨x, hx, hlast herror, hcounted.1 herror, fun more y hrun => (hon more y hrun).1 (.inl hphase)⟩

end Lifecycle
end AddressBinder
