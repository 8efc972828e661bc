import AddressBinder.Proofs.Lifecycle.Knowledge
/-!
# Who an attachment is for

An activity learns who it is in two steps: the metadata name an instance, and the provider describes the instance of that
name.  What it attaches after that is for the instance that the description names (`Scene.Reaches.attach_names`).  So the
metadata decide for as long as the provider describes an instance under the name it was asked for; with a provider that
does not, the address goes to another machine (`attach_names_another`).
-/
namespace AddressBinder
namespace Lifecycle

open Program

/-- Whether an exchange is about who the instance is. -/
def tellsWho : Exchange lifecycle → Bool
  | ⟨.call .metadata, _⟩ => true
  | ⟨.call (.provider (.describeInstance _)), _⟩ => true
  | _ => false

/-- The metadata name an instance, and the provider describes the one of that name. -/
def identification (m : InstanceMetadata) (d : InstanceDescription) : List (Exchange lifecycle) :=
  [⟨.call .metadata, .ok m⟩, ⟨.call (.provider (.describeInstance m.instanceId)), .ok (some d)⟩]

/-- What is found out about who the instance is, is what was told last. -/
def Finding.Recalls (told : List (Exchange lifecycle)) : Finding → Prop
  | .named m | .resolved m _ => [⟨.call .metadata, .ok m⟩] <:+ told
  | .viewed _ d | .listed _ d _ => ∃ m, identification m d <:+ told
  | _ => True

section Recalls

variable {told es : List (Exchange lifecycle)} {w t : Finding} {l : Licence}

theorem Finding.Recalls.aside (h : w.Recalls told) : w.aside.Recalls told := by
  cases w <;> exact h

theorem Finding.Recalls.ofRegistry {α : Type} (h : w.Recalls told) (r : Except Error α) :
    (w.ofRegistry r).Recalls told := by
  cases r with
  | ok _ => exact h
  | error _ => trivial

/-- **What a reply teaches is recalled**: only the metadata and the description bear on who the instance is. -/
theorem Finding.Recalls.hear {r : Request} {reply : r.Reply} (h : w.Recalls (es.filter tellsWho))
    (hnext : Finding.next? l w r reply = some t) : t.Recalls (List.filter tellsWho (es ++ [⟨r, reply⟩])) := by
  rw [List.filter_append]
  cases r with
  | clock _ | own _ =>
    obtain rfl := Option.some.inj hnext
    simpa [tellsWho] using h.aside
  | call c =>
    cases c with
    | metadata =>
      obtain rfl := Option.some.inj hnext
      cases reply with
      | ok m => exact List.suffix_append _ _
      | error _ => trivial
    | serviceUrls zone =>
      obtain ⟨m, rfl, rfl, rfl⟩ := Finding.next?_serviceUrls hnext
      have h : [(⟨.call .metadata, .ok m⟩ : Exchange lifecycle)] <:+ es.filter tellsWho := h
      unfold Finding.ofUrls
      split
      · trivial
      · split
        · trivial
        · simpa [tellsWho, Finding.Recalls] using h
    | clearRegistry | syncUp | openForTraffic _ =>
      obtain ⟨-, ht⟩ := Option.ite_none_right_eq_some.1 hnext
      obtain rfl := Option.some.inj ht
      simpa [tellsWho] using h.ofRegistry reply
    | provider c =>
      cases c with
      | describeInstance n =>
        obtain ⟨m, candidates, rfl, rfl, rfl⟩ := Finding.next?_describeInstance hnext
        obtain ⟨before, hbefore⟩ := h
        unfold Finding.ofDescription
        split
        · exact ⟨m, before, by rw [← hbefore, List.append_assoc]; rfl⟩
        · trivial
      | describeInterfaces filter =>
        obtain ⟨candidates, d, rfl, -, rfl⟩ := Finding.next?_describeInterfaces hnext
        cases reply with
        | ok available => simpa [tellsWho, Finding.ofListing, Finding.Recalls] using h
        | error _ => trivial
      | attach i n slot =>
        obtain ⟨-, ht⟩ := Option.ite_none_right_eq_some.1 hnext
        obtain rfl := Option.some.inj ht
        cases reply <;> trivial
      | detach id =>
        obtain ⟨-, ht⟩ := Option.ite_none_right_eq_some.1 hnext
        obtain rfl := Option.some.inj ht
        cases reply <;> trivial

end Recalls

/-! ## Runs -/

/-- All activities recall who the instance is. -/
def Scene.Recalls (x : Scene) : Prop :=
  ∀ k a, x.activities[k]? = some a → Knows (Finding.Recalls ((x.exchanges k).filter tellsWho)) a

/-- Every attachment asked for in the log is for the instance that was described last. -/
def AttachesDescribed (log : List Line) : Prop :=
  ∀ before n role key who slot after,
    log = before ++ ⟨n, role, .issued (.provider (.attach key who slot))⟩ :: after →
      ∃ m d, identification m d <:+ (before.filterMap (Line.exchange? n)).filter tellsWho ∧ who = d.instanceId

variable {b : Binder} {acts : List Act} {act : Act} {x y : Scene} {log : List Line} {n : Nat}

theorem AttachesDescribed.concat (h : AttachesDescribed log) {l : Line}
    (hl : ∀ n role key who slot, l = ⟨n, role, .issued (.provider (.attach key who slot))⟩ →
      ∃ m d, identification m d <:+ (log.filterMap (Line.exchange? n)).filter tellsWho ∧ who = d.instanceId) :
    AttachesDescribed (log ++ [l]) := by
  intro before n role key who slot after hlog
  rcases eq_concat_cases hlog with ⟨rfl, hlast, -⟩ | ⟨rest, -, hinit⟩
  · exact hl n role key who slot hlast.symm
  · exact h before n role key who slot rest hinit

/-- An activity that asks for an attachment names the instance that was described to it. -/
theorem Scene.Recalls.attach (h : x.Recalls) {a : Activity} (hn : x.activities[n]? = some a) {key who : String}
    {slot : Nat} {k : Request.Reply (.call (.provider (.attach key who slot))) → Program lifecycle Finish}
    (hp : a.program = .ask (.call (.provider (.attach key who slot))) k) :
    ∃ m d, identification m d <:+ (x.exchanges n).filter tellsWho ∧ who = d.instanceId := by
  obtain ⟨w, hk, hw⟩ := h n a hn
  rw [hp] at hk
  obtain ⟨t, ht, -⟩ := hk (.error (.other ""))
  obtain ⟨candidates, d, available, rfl, hwho, -⟩ := Finding.next?_attach ht
  obtain ⟨m, hm⟩ := hw
  exact ⟨m, d, hm, hwho⟩

theorem Scene.Turn.recalls (h : x.Turn b act y) (hx : x.Recalls) : y.Recalls := by
  intro k a ha
  cases h.heir ha with
  | same hn hrole hp hes =>
    rw [hes]
    exact (hx k _ hn).same hrole hp
  | launched op _ _ => exact knows_ofOperation op trivial
  | resumed reply own hn hp _ _ _ hes =>
    rw [hes]
    exact (hx k _ hn).goOn hp trivial fun w t hw ht => hw.hear ht

theorem Scene.Turn.attachesDescribed (h : x.Turn b act y) (hx : x.Recalls) (hlog : AttachesDescribed x.log) :
    AttachesDescribed y.log := by
  cases h with
  | launch | aside => exact hlog
  | issue hn hp =>
    refine hlog.concat fun n role key who slot hl => ?_
    cases hl
    exact hx.attach hn hp
  | resume => exact hlog.concat fun _ _ _ _ _ hl => by cases hl

/-- **An attachment is for the instance that the provider described.**  In every run, whatever the collaborators answer and
when, each attach that any activity asks for names the instance in the provider's description, where the last that the
activity was told about who it is are the metadata and then that description, asked for by the name in the metadata. -/
theorem Scene.Reaches.attach_names {before after : List Line} {role : Role} {key who : String} {slot : Nat}
    (h : Reaches b acts x)
    (hlog : x.log = before ++ ⟨n, role, .issued (.provider (.attach key who slot))⟩ :: after) :
    ∃ m d, identification m d <:+ (before.filterMap (Line.exchange? n)).filter tellsWho ∧ who = d.instanceId := by
  have hinv : x.Recalls ∧ AttachesDescribed x.log := by
    refine h.induction (P := fun _ x => x.Recalls ∧ AttachesDescribed x.log) ⟨?_, ?_⟩ ?_
    · intro k a ha
      obtain ⟨rfl, rfl⟩ : k = 0 ∧ a = .periodic b := by
        rcases k with - | k
        · exact ⟨rfl, (Option.some.inj ha).symm⟩
        · simp [Scene.initial] at ha
      exact knows_ofRound finding_firstRound trivial
    · intro before n role key who slot after hnil
      simp [Scene.initial] at hnil
    · exact fun _ hP ht => ⟨ht.recalls hP.1, ht.attachesDescribed hP.1 hP.2⟩
  exact hinv.2 before n role key who slot after hlog

/-- A bind on the instance "i-1", which the provider describes as "i-9". -/
def misled : List Act :=
  [.launch .bind, .move 1, .answer 1 .metadata (.ok ⟨"i-1", "a"⟩), .move 1,
    .answer 1 (.serviceUrls "a") (.ok ["10.0.0.1"]), .move 1,
    .answer 1 (.provider (.describeInstance "i-1")) (.ok (some ⟨"i-9", "s", []⟩)), .move 1,
    .answer 1 (.provider (.describeInterfaces ⟨[⟨10, 0, 0, 1⟩], some .available, some "s"⟩))
      (.ok [.free "eni-1" ⟨10, 0, 0, 1⟩ "s"]), .move 1]

/-- What is in the log when the bind asks for its attachment. -/
def misledLog : List Line :=
  [⟨1, .operation .bind, .issued .metadata⟩, ⟨1, .operation .bind, .answered (.call .metadata) (.ok ⟨"i-1", "a"⟩)⟩,
    ⟨1, .operation .bind, .issued (.serviceUrls "a")⟩,
    ⟨1, .operation .bind, .answered (.call (.serviceUrls "a")) (.ok ["10.0.0.1"])⟩,
    ⟨1, .operation .bind, .issued (.provider (.describeInstance "i-1"))⟩,
    ⟨1, .operation .bind, .answered (.call (.provider (.describeInstance "i-1"))) (.ok (some ⟨"i-9", "s", []⟩))⟩,
    ⟨1, .operation .bind, .issued (.provider (.describeInterfaces ⟨[⟨10, 0, 0, 1⟩], some .available, some "s"⟩))⟩,
    ⟨1, .operation .bind, .answered
      (.call (.provider (.describeInterfaces ⟨[⟨10, 0, 0, 1⟩], some .available, some "s"⟩)))
      (.ok [.free "eni-1" ⟨10, 0, 0, 1⟩ "s"])⟩]

theorem attach_names_described : ∃ x m d, Scene.Reaches ⟨.default, "memory"⟩ misled x ∧
    x.log = misledLog ++ ⟨1, .operation .bind, .issued (.provider (.attach "eni-1" "i-9" 1))⟩ :: [] ∧
    identification m d <:+ (misledLog.filterMap (Line.exchange? 1)).filter tellsWho ∧ "i-9" = d.instanceId := by
  obtain ⟨x, hx, hlog⟩ : ∃ x, Scene.Reaches ⟨.default, "memory"⟩ misled x ∧
      x.log = misledLog ++ ⟨1, .operation .bind, .issued (.provider (.attach "eni-1" "i-9" 1))⟩ :: [] := ⟨_, rfl, rfl⟩
  obtain ⟨m, d, hsuffix, hwho⟩ := Scene.Reaches.attach_names hx hlog
  exact ⟨x, m, d, hx, hlog, hsuffix, hwho⟩

/-- The metadata name no instance but "i-1", and yet an attachment is for "i-9". -/
theorem attach_names_another : ∃ x, Scene.Reaches ⟨.default, "memory"⟩ misled x ∧
    (⟨1, .operation .bind, .issued (.provider (.attach "eni-1" "i-9" 1))⟩ : Line) ∈ x.log ∧
    ∀ (k : Nat) (m : InstanceMetadata), ⟨.call .metadata, .ok m⟩ ∈ x.exchanges k → m.instanceId = "i-1" := by
  obtain ⟨x, hx, hlog⟩ : ∃ x, Scene.Reaches ⟨.default, "memory"⟩ misled x ∧
      x.log = misledLog ++ [⟨1, .operation .bind, .issued (.provider (.attach "eni-1" "i-9" 1))⟩] := ⟨_, rfl, rfl⟩
  refine ⟨x, hx, by simp [hlog], fun k m hm => ?_⟩
  obtain ⟨l, hl, he⟩ := List.mem_filterMap.1 hm
  rw [hlog] at hl
  simp only [misledLog, List.cons_append, List.nil_append, List.mem_cons, List.not_mem_nil, or_false] at hl
  rcases hl with rfl | rfl | rfl | rfl | rfl | rfl | rfl | rfl | rfl <;>
    simp [Line.exchange?] at he
  rw [← he.2]

end Lifecycle
end AddressBinder
