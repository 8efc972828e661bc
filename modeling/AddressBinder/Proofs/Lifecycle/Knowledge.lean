import AddressBinder.Proofs.Lifecycle.Finding
/-!
# What activities know

An activity goes on by one exchange at a time, and the log keeps them (`Scene.exchanges`).  What an activity has become
in one act is one of three things (`Heir`); so what an activity knows, as a position of its protocol with something true
of it, is carried through a run by what is true of the replies (`Knows.goOn`).
-/
namespace AddressBinder
namespace Lifecycle

open Program

/-! ## The exchanges of an activity -/

/-- The request that a line says was answered, with the reply, if it is about the activity with a number. -/
def Line.exchange? (n : Nat) (l : Line) : Option (Exchange lifecycle) :=
  match l.deed with
  | .issued _ => none
  | .answered r reply => if l.number = n then some ⟨r, reply⟩ else none

namespace Scene

variable {b : Binder} {x y : Scene} {n k : Nat} {a a' : Activity}

/-- The exchanges of the activity with a number, in order. -/
def exchanges (x : Scene) (n : Nat) : List (Exchange lifecycle) := x.log.filterMap (Line.exchange? n)

theorem exchanges_issue (c : Call) : (x.issue n a c).exchanges k = x.exchanges k := by
  unfold exchanges issue
  rw [List.filterMap_append]
  simp [Line.exchange?]

theorem exchanges_resume (r : Request) (reply : r.Reply) (p : Program lifecycle Finish) (own : State) :
    (x.resume b n a r reply p own).exchanges k = if n = k then x.exchanges k ++ [⟨r, reply⟩] else x.exchanges k := by
  unfold exchanges resume
  rw [List.filterMap_append]
  by_cases hk : n = k
  · simp [Line.exchange?, hk]
  · simp [Line.exchange?, hk]

theorem mem_exchanges_resume {r : Request} {reply : r.Reply} {p : Program lifecycle Finish} {own : State}
    {e : Exchange lifecycle} :
    e ∈ (x.resume b n a r reply p own).exchanges k ↔ e ∈ x.exchanges k ∨ n = k ∧ e = ⟨r, reply⟩ := by
  rw [exchanges_resume]
  by_cases hk : n = k
  · simp [hk]
  · simp [hk]

theorem exchanges_of_answer {c : Call} {reply : c.Reply} (h : x.step? b (.answer k c reply) = some y) :
    y.exchanges k = x.exchanges k ++ [⟨.call c, reply⟩] := by
  obtain ⟨a, f, -, -, -, rfl⟩ := resumes_of_answer h
  rw [exchanges_resume, if_pos rfl]

/-! ## What an activity becomes -/

/-- What the activity with a number has become in one act: it has made no step, or it was launched, or it has got a
reply. -/
inductive Heir (b : Binder) (x : Scene) (act : Act) (y : Scene) (k : Nat) : Activity → Prop where
  | same {a a' : Activity} (hn : x.activities[k]? = some a) (hrole : a'.role = a.role) (hp : a'.program = a.program)
      (hes : y.exchanges k = x.exchanges k) : Heir b x act y k a'
  | launched (op : Operation) (hact : act = .launch op) (hk : k = x.activities.length) :
      Heir b x act y k (.ofOperation b op)
  | resumed {a : Activity} {r : Request} {f : r.Reply → Program lifecycle Finish} (reply : r.Reply) (own : State)
      (hn : x.activities[k]? = some a) (hp : a.program = .ask r f) (ha : x.Answers r reply own)
      (hact : Brings act k r reply) (hown : y.own = own) (hes : y.exchanges k = x.exchanges k ++ [⟨r, reply⟩]) :
      Heir b x act y k (a.goOn b (f reply))

/-- **An activity has become one of three things.** -/
theorem Turn.heir {act : Act} (h : x.Turn b act y) (hk : y.activities[k]? = some a') : Heir b x act y k a' := by
  cases h with
  | launch op =>
    rcases getElem?_concat_cases hk with ⟨rfl, rfl⟩ | hk
    · exact .launched op rfl rfl
    · exact .same hk rfl rfl rfl
  | @issue n a c _ hn hp =>
    have hes : (x.issue n a c).exchanges k = x.exchanges k := exchanges_issue c
    rcases getElem?_set_cases hk with ⟨rfl, rfl⟩ | ⟨-, hk⟩
    · exact .same hn rfl rfl hes
    · exact .same hk rfl rfl hes
  | @resume _ n a r f reply own hn hp ha hact =>
    have hes : (x.resume b n a r reply (f reply) own).exchanges k =
      if n = k then x.exchanges k ++ [⟨r, reply⟩] else x.exchanges k := exchanges_resume r reply (f reply) own
    rcases getElem?_set_cases hk with ⟨rfl, rfl⟩ | ⟨hne, hk⟩
    · rw [if_pos rfl] at hes
      exact .resumed reply own hn hp ha hact rfl hes
    · rw [if_neg (Ne.symm hne)] at hes
      exact .same hk rfl rfl hes
  | aside => exact .same hk rfl rfl rfl

end Scene

/-! ## Knowledge -/

/-- An activity is at a position of its protocol of which something is true. -/
def Knows (T : Finding → Prop) (a : Activity) : Prop :=
  ∃ w, a.program.Keeps (Finding.next? a.role.licence) (fun _ _ => True) w ∧ T w

variable {b : Binder} {T T' : Finding → Prop} {a : Activity}

theorem Knows.mono (h : Knows T a) (hT : ∀ w, T w → T' w) : Knows T' a := by
  obtain ⟨w, hk, hw⟩ := h
  exact ⟨w, hk, hT w hw⟩

theorem Knows.same {a' : Activity} (h : Knows T a) (hrole : a'.role = a.role) (hp : a'.program = a.program) :
    Knows T a' := by
  obtain ⟨w, hk, hw⟩ := h
  exact ⟨w, by rw [hrole, hp]; exact hk, hw⟩

theorem knows_ofOperation (op : Operation) (h : T .nothing) : Knows T (.ofOperation b op) :=
  ⟨.nothing, ((finding_program op).bind fun _ => keepsAlways_done _) _, h⟩

theorem knows_ofRound {p : Program lifecycle (Option Nat)} (hp : p.KeepsAlways (Finding.next? .restore))
    (h : T .nothing) : Knows T (.ofRound p) := ⟨.nothing, (hp.bind fun _ => keepsAlways_done _) _, h⟩

/-- **An activity that gets a reply knows what the reply teaches**; with a new round it begins anew. -/
theorem Knows.goOn {r : Request} {f : r.Reply → Program lifecycle Finish} {reply : r.Reply} (h : Knows T a)
    (hp : a.program = .ask r f) (hnew : T' .nothing)
    (hT : ∀ w t, T w → Finding.next? a.role.licence w r reply = some t → T' t) : Knows T' (a.goOn b (f reply)) := by
  obtain ⟨w, hk, hw⟩ := h
  rw [hp] at hk
  obtain ⟨t, ht, hrest⟩ := hk reply
  have htold : T' t := hT w t hw ht
  generalize f reply = p at hrest
  match p, hrest with
  | .done (.round (some delay)), _ => exact knows_ofRound (finding_laterRound delay) hnew
  | .done (.round none), hrest => exact ⟨t, hrest, htold⟩
  | .done (.operation _), hrest => exact ⟨t, hrest, htold⟩
  | .ask _ _, hrest => exact ⟨t, hrest, htold⟩

end Lifecycle
end AddressBinder
