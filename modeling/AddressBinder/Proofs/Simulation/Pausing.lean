import AddressBinder.Proofs.Simulation.Threads
/-!
# Operations that pause

An operation may pause, but not for ever: a retry pauses between its attempts (`pauses_retry`).  Run on the simulated clock
beside threads that have nothing to do, such an operation comes to its end, or the clock to the limit before that
(`Attends.over_or_late`).
-/
namespace AddressBinder
namespace Simulation

def Instant.at (s : Instant) (time : Nat) : Instant := { s with clock := time }

/-- From the instant the program runs to an end for which `J` holds. -/
def Ends {α : Type} (w : Daemon.Wiring) (J : α → Instant → Prop) (p : Program lifecycle α) (s : Instant) : Prop :=
  ∃ a t, p.advance (Instant.serve w) s = (.done a, t) ∧ J a t

/-- From the instant the program pauses a number of times at most, each time at an instant for which `I` holds, and then
runs to an end for which `J` holds. -/
def Pauses {α : Type} (w : Daemon.Wiring) (I : Instant → Prop) (J : α → Instant → Prop) :
    Nat → Program lifecycle α → Instant → Prop
  | 0, p, s => Ends w J p s
  | n + 1, p, s => Ends w J p s ∨
    ∃ due k t, p.advance (Instant.serve w) s = (.ask (.clock (.wait due)) k, t) ∧ I t ∧ Pauses w I J n (k ()) (t.at due)

variable {w : Daemon.Wiring} {b : Binder} {α β : Type} {I : Instant → Prop} {J : α → Instant → Prop}
  {p q : Program lifecycle α} {s t : Instant}

theorem Ends.pauses (h : Ends w J p s) : ∀ n, Pauses w I J n p s
  | 0 => h
  | _ + 1 => .inl h

theorem Pauses.succ : ∀ {n : Nat} {p : Program lifecycle α} {s : Instant}, Pauses w I J n p s → Pauses w I J (n + 1) p s
  | 0, _, _, h => .inl h
  | _ + 1, _, _, h => h.imp id fun ⟨due, k, t, hrun, ht, hk⟩ => ⟨due, k, t, hrun, ht, hk.succ⟩

/-- A program that first runs like another one pauses like that one. -/
theorem Pauses.of_advance {n : Nat} (h : Pauses w I J n q t)
    (hrun : p.advance (Instant.serve w) s = q.advance (Instant.serve w) t) : Pauses w I J n p s := by
  cases n with
  | zero =>
    obtain ⟨a, u, hend, hJ⟩ := h
    exact ⟨a, u, hrun.trans hend, hJ⟩
  | succ n =>
    rcases h with ⟨a, u, hend, hJ⟩ | ⟨due, k, u, hpause, hI, hk⟩
    · exact .inl ⟨a, u, hrun.trans hend, hJ⟩
    · exact .inr ⟨due, k, u, hrun.trans hpause, hI, hk⟩

/-! ## Retries -/

section Retries

variable {policy : Retry.Policy} {op : Nat → Program lifecycle (Except Error (Attempt β))}
  {f : Retry.Outcome β → Program lifecycle α}

/-- A program that waits first pauses there, unless the time has come. -/
theorem pauses_sleep {n : Nat} {f : Unit → Program lifecycle α} (ms : Nat) (hs : I s)
    (h : ∀ time, Pauses w I J n (f ()) (s.at time)) :
    Pauses w I J (n + 1) ((Clock.sleep Lifecycle.clock ms).bind f) s := by
  have hnow : ((Clock.sleep Lifecycle.clock ms).bind f).advance (Instant.serve w) s =
      (Program.ask (σ := lifecycle) (.clock (.wait (Clock.endOfWait s.clock ms))) f).advance (Instant.serve w) s := rfl
  by_cases hdue : Clock.endOfWait s.clock ms ≤ s.clock
  · have hserved : Instant.serve w (.clock (.wait (Clock.endOfWait s.clock ms))) s = some ((), s) := by
      simp [Instant.serve, Clock.serve, hdue]
    exact (h s.clock).succ.of_advance (hnow.trans (Program.advance_of_some hserved))
  · have hwaits : Instant.serve w (.clock (.wait (Clock.endOfWait s.clock ms))) s = none := by
      simp [Instant.serve, Clock.serve, hdue]
    exact .inr ⟨_, f, s, hnow.trans (Program.advance_of_none hwaits), hs, h _⟩

/-- **A retry pauses between its attempts only.** -/
theorem pauses_retry (hclock : ∀ s time, I s → I (s.at time))
    (hop : ∀ number s, I s → Ends w (fun _ t => I t) (op number) s) (hend : ∀ outcome s, I s → Ends w J (f outcome) s) :
    ∀ left number lastError s, I s → Pauses w I J left
      ((Retry.runFrom policy (Clock.sleep Lifecycle.clock) op left number lastError).bind f) s
  | 0, _, _, s, hs => hend _ s hs
  | left + 1, number, lastError, s, hs => by
    obtain ⟨r, t, hrun, ht⟩ := hop number s hs
    rw [Retry.runFrom, Program.bind_assoc]
    -- what follows the attempt runs from where it ends
    have hgoesOn := fun (g : Except Error (Attempt β) → Program lifecycle α) =>
      Program.advance_bind_of_done (f := g) hrun
    rcases r with e | ⟨a | _⟩
    · by_cases hlast : left = 0
      · refine (pauses_retry hclock hop hend left (number + 1) (some e) t ht).succ.of_advance ((hgoesOn _).trans ?_)
        simp only [if_pos hlast]
      · have hrest := fun time =>
          pauses_retry hclock hop hend left (number + 1) (some e) (t.at time) (hclock t time ht)
        refine (pauses_sleep (f := fun _ => _) policy.delay ht hrest).of_advance ((hgoesOn _).trans ?_)
        simp only [if_neg hlast, Program.bind_assoc]
    · exact ((hend _ t ht).pauses (left + 1)).of_advance (hgoesOn _)
    · exact (pauses_retry hclock hop hend left (number + 1) lastError t ht).succ.of_advance (hgoesOn _)

/-- A retry whose first attempt reaches the goal does not pause. -/
theorem ends_retry {pause : Nat → Program lifecycle Unit} {K : β → Instant → Prop} (hpos : 0 < policy.attempts)
    (hop : Ends w (fun r t => ∃ a, r = .ok (.done a) ∧ K a t) (op 1) s)
    (hend : ∀ a t, K a t → Ends w J (f (.succeeded a 1)) t) : Ends w J ((Retry.run policy pause op).bind f) s := by
  obtain ⟨_, t, hrun, a, rfl, hK⟩ := hop
  obtain ⟨left, hleft⟩ : ∃ left, policy.attempts = left + 1 := ⟨policy.attempts - 1, by omega⟩
  obtain ⟨r, u, hrest, hJ⟩ := hend a t hK
  refine ⟨r, u, ?_, hJ⟩
  rw [Retry.run, hleft, Retry.runFrom, Program.bind_assoc]
  exact (Program.advance_bind_of_done hrun).trans hrest

end Retries

/-! ## On the simulated clock -/

/-- An operation that pauses until a time, with what is left of it then. -/
def pausing (w : Daemon.Wiring) (due : Nat) (k : Unit → Program lifecycle Operation.Result) : Thread simulation Outcome :=
  operation w (.ask (.clock (.wait due)) k)

theorem canMove_pausing (due : Nat) (k : Unit → Program lifecycle Operation.Result) (s : Instant) :
    (pausing w due k).canMove kernel (s.world w b) = decide (due ≤ s.clock) := by
  have hcall : ∀ c : Call, Lifecycle.Request.clock (.wait due) ≠ .call c := nofun
  refine (canMove_operation hcall).trans ?_
  by_cases hdue : due ≤ s.clock <;> simp [Instant.serve, Clock.serve, hdue]

theorem poll_pausing {due : Nat} (k : Unit → Program lifecycle Operation.Result) (s : Instant) (hdue : due ≤ s.clock) :
    (pausing w due k).poll kernel (s.world w b) = (operation w (k ())).poll kernel (s.world w b) := by
  have hcall : ∀ c : Call, Lifecycle.Request.clock (.wait due) ≠ .call c := nofun
  have hserved : Instant.serve w (.clock (.wait due)) s = some ((), s) := by simp [Instant.serve, Clock.serve, hdue]
  exact poll_operation_of_served hcall hserved

theorem lt_of_pauses {p : Program lifecycle α} {due : Nat} {k : Unit → Program lifecycle α}
    (h : p.advance (Instant.serve w) s = (.ask (.clock (.wait due)) k, t)) : t.clock < due := by
  have hnone : (Clock.serve t.clock (.wait due)).map (fun reply => (reply, t)) = none := serve_eq_none h
  by_cases hdue : due ≤ t.clock
  · simp [Clock.serve, hdue] at hnone
  · exact Nat.not_le.1 hdue

section Running

variable {before : List (Thread simulation Outcome)} {limit : Option Nat} {P : Sim → Prop}
  {I : Instant → Prop} {J : Operation.Result → Instant → Prop}

theorem result?_pausing (x : World) (due : Nat) (k : Unit → Program lifecycle Operation.Result) :
    (⟨x, before ++ [pausing w due k]⟩ : Sim).result? before.length = none := by
  unfold Machine.result?
  rw [List.getElem?_append_right (Nat.le_refl _), Nat.sub_self]
  rfl

theorem nextDue_pausing (hdue : ∀ t ∈ before, t.due kernel = none) (x : World) (due : Nat)
    (k : Unit → Program lifecycle Operation.Result) :
    (⟨x, before ++ [pausing w due k]⟩ : Sim).nextDue kernel = some due := by
  have hnone : before.filterMap (Thread.due kernel) = [] := List.filterMap_eq_nil_iff.2 hdue
  have hown : Thread.due kernel (pausing w due k) = some due := rfl
  unfold Machine.nextDue
  rw [List.filterMap_append, hnone, List.filterMap_cons, hown]
  rfl

/-- The operation has ended, and `P` holds. -/
def Over (i : Nat) (P : Sim → Prop) (m : Sim) : Prop := ∃ r, m.result? i = some (.operation r) ∧ P m

/-- The operation still pauses at the limit. -/
def Late (i : Nat) (limit : Option Nat) (m : Sim) : Prop :=
  m.result? i = none ∧ ∃ last, limit = some last ∧ m.state.clock = last

/-- The threads before an operation have nothing to do while it pauses, and when it has ended they come to rest in a few
polls, where `P` holds. -/
structure Attends (w : Daemon.Wiring) (b : Binder) (before : List (Thread simulation Outcome)) (I : Instant → Prop)
    (J : Operation.Result → Instant → Prop) (P : Sim → Prop) : Prop where
  rests : ∀ s, I s → ∀ t ∈ before, t.canMove kernel (s.world w b) = false
  due : ∀ t ∈ before, t.due kernel = none
  clock : ∀ s time, I s → I (s.at time)
  held : ∀ r t, J r t → 1 < t.holders
  ends : ∀ r t, J r t → ∃ n m, n ≤ 2 ∧ Machine.Polls kernel n ⟨t.letGo.world w b, before ++ [ended r]⟩ m ∧
    m.Rests kernel ∧ m.result? before.length = some (.operation r) ∧ P m

/-- The last thread is the first that can move, and polling it runs the program from the instant. -/
structure Poised (w : Daemon.Wiring) (b : Binder) (before : List (Thread simulation Outcome))
    (p : Program lifecycle Operation.Result) (s : Instant) (x : World) (thread : Thread simulation Outcome) : Prop where
  quiet : ∀ t ∈ before, t.canMove kernel x = false
  moves : thread.canMove kernel x = true
  poll : thread.poll kernel x = (operation w p).poll kernel (s.world w b)

variable {x : World} {thread : Thread simulation Outcome} {p : Program lifecycle Operation.Result} {m₀ : Sim} {n₀ : Nat}

theorem Poised.pollFirst_of_done (h : Poised w b before p s x thread) {r : Operation.Result}
    (hrun : p.advance (Instant.serve w) s = (.done r, t)) (hheld : 1 < t.holders) :
    Machine.pollFirst kernel (before ++ [thread]) x = some (before ++ [ended r], t.letGo.world w b) := by
  rw [Machine.pollFirst_append h.moves h.quiet, h.poll, poll_operation_of_done hrun hheld]

theorem Poised.pollFirst_of_wait (h : Poised w b before p s x thread) {due : Nat}
    {k : Unit → Program lifecycle Operation.Result}
    (hrun : p.advance (Instant.serve w) s = (.ask (.clock (.wait due)) k, t)) :
    Machine.pollFirst kernel (before ++ [thread]) x = some (before ++ [pausing w due k], t.world w b) := by
  rw [Machine.pollFirst_append h.moves h.quiet, h.poll, poll_operation_of_ask hrun]
  rfl

/-- **An operation that does not pause is over as soon as nothing can move.** -/
theorem Attends.over_of_ends (h : Attends w b before I J P) (limit : Option Nat)
    (hpolls : Machine.Polls kernel n₀ m₀ ⟨x, before ++ [thread]⟩) (hx : Poised w b before p s x thread)
    (hends : Ends w J p s) {fuel : Nat} (hfuel : n₀ + 3 ≤ fuel) :
    Over before.length P (Machine.runUntilDone kernel before.length limit fuel m₀) := by
  obtain ⟨r, t, hrun, hJ⟩ := hends
  obtain ⟨n, m, hn, hmore, hrests, hresult, hP⟩ := h.ends r t hJ
  have hsettle : m₀.settle kernel fuel = m :=
    (hpolls.trans (.cons (hx.pollFirst_of_done hrun (h.held r t hJ)) hmore)).settle hrests (by omega)
  rw [Machine.runUntilDone_of_done (by omega) hsettle hresult]
  exact ⟨r, hresult, hP⟩

/-- What comes after a pause: the clock jumps to its end, unless the limit is before that. -/
theorem Attends.runUntilDone_of_pause (h : Attends w b before I J P)
    (hpolls : Machine.Polls kernel n₀ m₀ ⟨x, before ++ [thread]⟩) (hx : Poised w b before p s x thread) {due fuel : Nat}
    {k : Unit → Program lifecycle Operation.Result}
    (hrun : p.advance (Instant.serve w) s = (.ask (.clock (.wait due)) k, t)) (hI : I t) (hfuel : n₀ ≤ fuel) :
    Machine.runUntilDone kernel before.length limit (fuel + 1) m₀ =
      if Machine.isPast limit due then ⟨(t.at (limit.getD due)).world w b, before ++ [pausing w due k]⟩
      else Machine.runUntilDone kernel before.length limit fuel ⟨(t.at due).world w b, before ++ [pausing w due k]⟩ := by
  have hmore : Machine.Polls kernel (n₀ + 1) m₀ ⟨t.world w b, before ++ [pausing w due k]⟩ :=
    hpolls.trans (.cons (hx.pollFirst_of_wait hrun) (.refl _))
  have hrests : (⟨t.world w b, before ++ [pausing w due k]⟩ : Sim).Rests kernel := by
    refine fun u hu => (List.mem_append.1 hu).elim (h.rests t hI u) fun hu => ?_
    rw [List.mem_singleton.1 hu]
    exact (canMove_pausing due k t).trans (decide_eq_false (Nat.not_le.2 (lt_of_pauses hrun)))
  rw [Machine.runUntilDone_of_due (hmore.settle hrests (Nat.succ_le_succ hfuel)) (result?_pausing _ _ _)
    (nextDue_pausing h.due _ _ _)]
  rfl

/-- **An operation that pauses comes to its end, or the clock to the limit.** -/
theorem Attends.over_or_late (h : Attends w b before I J P) (limit : Option Nat) (n : Nat) :
    ∀ {n₀ fuel : Nat} {m₀ : Sim} {x : World} {thread : Thread simulation Outcome}
      {p : Program lifecycle Operation.Result} {s : Instant},
    Machine.Polls kernel n₀ m₀ ⟨x, before ++ [thread]⟩ → Poised w b before p s x thread → Pauses w I J n p s →
    n₀ + n + 3 ≤ fuel → Over before.length P (Machine.runUntilDone kernel before.length limit fuel m₀) ∨
      Late before.length limit (Machine.runUntilDone kernel before.length limit fuel m₀) := by
  -- on how often the operation may still pause: each pause takes one unit of the fuel, and a settling after it finds the
  -- operation poised again
  induction n with
  | zero => exact fun hpolls hx hp hfuel => .inl (h.over_of_ends limit hpolls hx hp (by omega))
  | succ n ih =>
    intro n₀ fuel m₀ x thread p s hpolls hx hp hfuel
    rcases hp with hends | ⟨due, k, t, hrun, hI, hk⟩
    · exact .inl (h.over_of_ends limit hpolls hx hends (by omega))
    obtain ⟨fuel, rfl⟩ : ∃ f, fuel = f + 1 := ⟨fuel - 1, by omega⟩
    rw [h.runUntilDone_of_pause hpolls hx hrun hI (by omega)]
    by_cases hpast : Machine.isPast limit due = true
    · rw [if_pos hpast]
      cases limit with
      | none => cases hpast
      | some last => exact .inr ⟨result?_pausing _ _ _, last, rfl, rfl⟩
    · rw [if_neg hpast]
      have hawake : Poised w b before (k ()) (t.at due) ((t.at due).world w b) (pausing w due k) := {
        quiet := h.rests _ (h.clock t due hI)
        moves := (canMove_pausing due k (t.at due)).trans (decide_eq_true (Nat.le_refl due))
        poll := poll_pausing k (t.at due) (Nat.le_refl due) }
      exact ih (.refl _) hawake hk (by omega)

end Running

end Simulation
end AddressBinder
