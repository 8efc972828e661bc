import AddressBinder.Proofs.Pass.Journey
/-!
# What a failure tells

An operation of the inventory is one call of the provider, and what it reports of a failed call tells which operation
failed: a failure of one of its own kinds stays as it was, and any other is put under its label, in its own words
(`reported_eq`, `Reports.message_eq`).  So nothing that a provider answers is taken for a fault of the candidate pool, and
where a bind or an unbind fails with such a fault the provider has not been asked (`failures_are_sorted`).
-/
namespace AddressBinder

/-! ## The text of a failure -/

/-- The texts that a failure is made with. -/
def Error.texts : Error → List String
  | .malformedCandidate candidate reason => [candidate, reason]
  | .providerQuery backend reason => [backend, reason]
  | .attach interfaceId reason => [interfaceId, reason]
  | .detach attachmentId reason => [attachmentId, reason]
  | .noCandidates text | .notFound text | .discovery text | .identity text | .registry text | .config text | .http text |
    .json text | .other text => [text]

/-- A text stands in a message. -/
def Mentions (message text : String) : Prop := ∃ lead rest, message = lead ++ text ++ rest

theorem Mentions.atEnd (lead text : String) : Mentions (lead ++ text) text := ⟨lead, "", String.append_empty.symm⟩

theorem Mentions.append {message text : String} (h : Mentions message text) (lead : String) :
    Mentions (lead ++ message) text := by
  obtain ⟨before, rest, rfl⟩ := h
  exact ⟨lead ++ before, rest, by simp only [String.append_assoc]⟩

/-- **A failure says all that it is made with.** -/
theorem Error.mentions_message (e : Error) : ∀ text ∈ e.texts, Mentions e.message text := by
  have hpair : ∀ lead first mark second, ∀ text ∈ [first, second], Mentions (lead ++ first ++ mark ++ second) text := by
    intro lead first mark second text htext
    rcases List.mem_pair.1 htext with rfl | rfl
    · exact ⟨lead, mark ++ second, String.append_assoc⟩
    · exact .atEnd _ _
  cases e with
  | malformedCandidate candidate reason => exact hpair "Malformed candidate '" candidate "': " reason
  | providerQuery backend reason => exact hpair "Provider query failed (" backend "): " reason
  | attach interfaceId reason => exact hpair "Attach of " interfaceId " failed: " reason
  | detach attachmentId reason => exact hpair "Detach of " attachmentId " failed: " reason
  | other reason => exact List.forall_mem_singleton.2 ⟨"", "", by rw [String.empty_append, String.append_empty]; rfl⟩
  | _ => exact List.forall_mem_singleton.2 (.atEnd _ _)

/-! ## Sorting failures -/

namespace ProviderCall

/-- Whether a failure is of a kind that is reported of the call as it is. -/
def owns : ProviderCall → Error → Bool
  | .describeInstance _, .providerQuery .. => true
  | .describeInstance _, .notFound _ => true
  | .describeInterfaces _, .providerQuery .. => true
  | .describeInterfaces _, .notFound _ => true
  | .attach .., .attach .. => true
  | .detach _, .detach .. => true
  | _, _ => false

/-- The failure of the call with a text to explain it. -/
def label (backend : String) : ProviderCall → String → Error
  | .describeInstance _ => .providerQuery backend
  | .describeInterfaces _ => .providerQuery backend
  | .attach interfaceId .. => .attach interfaceId
  | .detach attachmentId => .detach attachmentId

variable {c : ProviderCall} {e : Error}

theorem owns_label (backend text : String) : ∀ c : ProviderCall, c.owns (c.label backend text) = true
  | .describeInstance _ => rfl
  | .describeInterfaces _ => rfl
  | .attach .. => rfl
  | .detach _ => rfl

/-- A label puts the text that explains it at the end. -/
theorem message_label (backend text : String) (c : ProviderCall) :
    ∃ lead, (c.label backend text).message = lead ++ text := by
  cases c <;> exact ⟨_, rfl⟩

/-- **What a call's own failures have in common**: they are failures of the provider, and none is one of the pool. -/
theorem isProvider_of_owns (h : c.owns e = true) : e.isProvider = true ∧ e.isCandidate = false := by
  unfold owns at h
  split at h
  case h_7 => cases h
  all_goals exact ⟨rfl, rfl⟩

end ProviderCall

namespace Pass

/-- **A failure is reported as it was or under the label of the call**, with its text kept. -/
theorem reported_eq (backend : String) (c : ProviderCall) (e : Error) :
    reported backend c e = if c.owns e then e else c.label backend e.message := by
  cases c <;> cases e <;> rfl

end Pass

/-! ## The operations of the inventory -/

namespace Inventory

/-- What is asked of the inventory. -/
inductive Operation where
  | describeSelf (metadata : InstanceMetadata)
  | findAvailable (candidates : Candidates) (subnetId : String)
  | attach (interfaceId instanceId : String)
  | detach (attachmentId : String)

namespace Operation

abbrev Result : Operation → Type
  | .describeSelf _ => InstanceIdentity
  | .findAvailable .. => List Interface
  | .attach .. => String
  | .detach _ => Unit

def program (backend : String) : (op : Operation) → Program provider (Except Error op.Result)
  | .describeSelf metadata => Inventory.describeSelf backend metadata
  | .findAvailable candidates subnetId => Inventory.findAvailable backend candidates subnetId
  | .attach interfaceId instanceId => Inventory.attach interfaceId instanceId
  | .detach attachmentId => Inventory.detach attachmentId

/-- The call that an operation comes down to. -/
def call : Operation → ProviderCall
  | .describeSelf metadata => .describeInstance metadata.instanceId
  | .findAvailable candidates subnetId => .describeInterfaces (availableFilter candidates subnetId)
  | .attach interfaceId instanceId => .attach interfaceId instanceId secondarySlot
  | .detach attachmentId => .detach attachmentId

/-- What an operation makes of the reply to its call. -/
def answer (backend : String) : (op : Operation) → op.call.Reply → Except Error op.Result
  | .describeSelf metadata => identified backend metadata
  | .findAvailable .. => Except.mapError (queryError backend)
  | .attach interfaceId _ => Except.mapError (attachError interfaceId)
  | .detach attachmentId => Except.mapError (detachError attachmentId)

/-- What an operation reports of a reply that fails it: the failure, sorted, or that the provider has no record of the
instance. -/
inductive Reports (backend : String) : (op : Operation) → op.call.Reply → Error → Prop where
  | own {op : Operation} {e : Error} (h : op.call.owns e = true) : Reports backend op (.error e) e
  | labelled {op : Operation} {e : Error} (h : op.call.owns e = false) :
      Reports backend op (.error e) (op.call.label backend e.message)
  | unknown (metadata : InstanceMetadata) :
      Reports backend (.describeSelf metadata) (.ok none) (.notFound ("instance " ++ metadata.instanceId))

variable {backend : String} {op : Operation} {e : Error}

theorem program_eq (op : Operation) :
    op.program backend = .ask op.call fun reply => .done (op.answer backend reply) := by
  cases op with
  | describeSelf metadata =>
    refine congrArg (Program.ask _) (funext fun (reply : Except Error (Option InstanceDescription)) => ?_)
    match reply with
    | .error _ => rfl
    | .ok none => rfl
    | .ok (some _) => rfl
  | findAvailable => exact congrArg (Program.ask _) (funext fun (reply : Except Error _) => by cases reply <;> rfl)
  | attach => exact congrArg (Program.ask _) (funext fun (reply : Except Error _) => by cases reply <;> rfl)
  | detach => exact congrArg (Program.ask _) (funext fun (reply : Except Error _) => by cases reply <;> rfl)

/-- A failed call is reported sorted. -/
theorem reports_of_failed (e : Error) : op.Reports backend (.error e) (Pass.reported backend op.call e) := by
  rw [Pass.reported_eq]
  cases h : op.call.owns e with
  | true => exact .own h
  | false => exact .labelled h

theorem answer_of_failed (op : Operation) (e : Error) :
    op.answer backend (.error e) = .error (Pass.reported backend op.call e) := by
  cases op <;> rfl

/-- A failed call has one report. -/
theorem Reports.eq_reported {e' : Error} (h : op.Reports backend (.error e) e') :
    e' = Pass.reported backend op.call e := by
  rw [Pass.reported_eq]
  generalize hreply : (Except.error e : op.call.Reply) = reply at h
  cases h with
  | own h =>
    obtain rfl := Except.error.inj hreply
    rw [if_pos h]
  | labelled h =>
    obtain rfl := Except.error.inj hreply
    rw [h]
    rfl
  | unknown => cases hreply

theorem answer_eq_error_iff {reply : op.call.Reply} : op.answer backend reply = .error e ↔ op.Reports backend reply e := by
  match reply with
  | .error e' =>
    rw [answer_of_failed]
    constructor
    · intro h
      obtain rfl := Except.error.inj h
      exact reports_of_failed e'
    · intro h
      rw [h.eq_reported]
  | .ok value =>
    cases op with
    | describeSelf metadata =>
      cases value with
      | none =>
        constructor
        · rintro ⟨⟩
          exact .unknown metadata
        · rintro ⟨⟩
          rfl
      | some d => exact ⟨nofun, nofun⟩
    | findAvailable => exact ⟨nofun, nofun⟩
    | attach => exact ⟨nofun, nofun⟩
    | detach => exact ⟨nofun, nofun⟩

/-- **What an operation reports**, run by run: it makes one call, and a failure is a report of the reply. -/
theorem leads_program {es : List (Program.Exchange provider)} :
    (op.program backend).Leads es (.done (.error e)) ↔ ∃ reply, es = [⟨op.call, reply⟩] ∧ op.Reports backend reply e := by
  rw [program_eq, Program.leads_ask]
  refine exists_congr fun reply => ?_
  rw [← answer_eq_error_iff]
  constructor
  · rintro ⟨es', rfl, h⟩
    obtain ⟨rfl, heq⟩ := Program.leads_done.1 h
    exact ⟨rfl, heq.symm⟩
  · rintro ⟨rfl, h⟩
    exact ⟨[], rfl, Program.leads_done.2 ⟨rfl, h.symm⟩⟩

/-- **Every report is a failure of the operation's own kinds.** -/
theorem Reports.owns {reply : op.call.Reply} (h : op.Reports backend reply e) : op.call.owns e = true := by
  cases h with
  | own h => exact h
  | labelled => exact op.call.owns_label backend _
  | unknown => rfl

/-- **The report of a failed call ends with all that the failure said.** -/
theorem Reports.message_eq {e' : Error} (h : op.Reports backend (.error e) e') : ∃ lead, e'.message = lead ++ e.message := by
  rw [h.eq_reported, Pass.reported_eq]
  split
  · exact ⟨"", String.empty_append.symm⟩
  · exact op.call.message_label backend e.message

theorem Reports.isCandidate {reply : op.call.Reply} (h : op.Reports backend reply e) : e.isCandidate = false :=
  (ProviderCall.isProvider_of_owns h.owns).2

end Operation
end Inventory

/-! ## The failures of a program -/

namespace Program

variable {σ : Signature} {α β : Type} {P : Error → Prop}

/-- Whatever the replies are, a program fails with none but the failures in `P`. -/
def FailsOnly (P : Error → Prop) (p : Program σ (Except Error α)) : Prop :=
  ∀ es e, p.Leads es (.done (.error e)) → P e

theorem failsOnly_ok (a : α) : FailsOnly P (.done (.ok a) : Program σ (Except Error α)) := by
  intro es e h
  cases (leads_done.1 h).2

theorem failsOnly_error {e : Error} (he : P e) : FailsOnly P (.done (.error e) : Program σ (Except Error α)) := by
  intro es e' h
  cases (leads_done.1 h).2
  exact he

theorem failsOnly_bind {p : Program σ β} {f : β → Program σ (Except Error α)} (hf : ∀ b, FailsOnly P (f b)) :
    FailsOnly P (p.bind f) := by
  intro es e h
  obtain ⟨b, es₁, es₂, -, -, h₂⟩ := leads_bind.1 h
  exact hf b es₂ e h₂

theorem failsOnly_andThen {p : Program σ (Except Error β)} {f : β → Program σ (Except Error α)} (hp : FailsOnly P p)
    (hf : ∀ b, FailsOnly P (f b)) : FailsOnly P (p.andThen f) := by
  intro es e h
  rcases leads_andThen h with ⟨e', heq, h⟩ | ⟨b, es₁, es₂, -, -, h₂⟩
  · obtain rfl := Except.error.inj heq
    exact hp es e h
  · exact hf b es₂ e h₂

end Program

/-! ## Failures of the candidate pool -/

namespace Pass

open Program

variable {b : Binder} {ctx : Context} {e : Error} {es : List (Exchange pass)} {α : Type}

/-- A failure that is none of the candidate pool. -/
def OutsidePool (e : Error) : Prop := e.isCandidate = false

theorem ofProvider_program (backend : String) (op : Inventory.Operation) :
    ofProvider (op.program backend) = .ask (.call (.provider op.call)) fun reply => .done (op.answer backend reply) := by
  rw [Inventory.Operation.program_eq]
  rfl

theorem failsOnly_ofProvider (backend : String) (op : Inventory.Operation) :
    FailsOnly OutsidePool (ofProvider (op.program backend)) := by
  intro es e h
  rw [ofProvider_program] at h
  obtain ⟨reply, es', -, h⟩ := leads_ask.1 h
  exact (Inventory.Operation.answer_eq_error_iff.1 (leads_done.1 h).2.symm).isCandidate

theorem failsOnly_attach (i : Interface) : FailsOnly OutsidePool (attach ctx i) := by
  unfold attach
  cases i.privateIp with
  | none => exact failsOnly_error rfl
  | some ip =>
    exact failsOnly_andThen (failsOnly_ofProvider "" (.attach i.interfaceId ctx.me.instanceId)) fun id =>
      failsOnly_bind fun _ => failsOnly_bind fun _ => failsOnly_ok _

theorem failsOnly_bindIn : FailsOnly OutsidePool (bindIn b ctx) := by
  refine failsOnly_andThen (failsOnly_ofProvider b.backend (.findAvailable ctx.candidates ctx.me.subnetId)) fun available => ?_
  cases Decision.select? available ctx.candidates with
  | none => exact failsOnly_bind fun _ => failsOnly_ok _
  | some i => exact failsOnly_attach i

theorem failsOnly_detach (i : Interface) : FailsOnly OutsidePool (detach i) := by
  unfold detach
  cases i.attachmentId with
  | none => exact failsOnly_error rfl
  | some id =>
    exact failsOnly_andThen (failsOnly_ofProvider "" (.detach id)) fun _ => failsOnly_bind fun _ => failsOnly_ok _

/-- The calls of a pass that comes by no candidates, with what ends it: the instance is not known, the addresses of its zone
are not listed, or the list does not resolve. -/
inductive Unresolved : List (Exchange pass) → Error → Prop where
  | metadata (e : Error) : Unresolved [⟨.call .metadata, .error e⟩] e
  | listing (m : InstanceMetadata) (e : Error) :
      Unresolved [⟨.call .metadata, .ok m⟩, ⟨.call (.serviceUrls m.availabilityZone), .error e⟩] e
  | list {m : InstanceMetadata} {urls : List String} {e : Error} (h : Candidates.ofEntries m.availabilityZone urls = .error e) :
      Unresolved [⟨.call .metadata, .ok m⟩, ⟨.call (.serviceUrls m.availabilityZone), .ok urls⟩] e

theorem Unresolved.notMem (h : Unresolved es e) (c : ProviderCall) : ∀ x ∈ es, x.1 ≠ .call (.provider c) := by
  cases h <;> simp

/-- A call fails what follows it, or is followed by it. -/
theorem leads_call_andThen {c : Call} {f : c.Yield → Program pass (Except Error α)}
    (h : ((call c).andThen f).Leads es (.done (.error e))) :
    es = [⟨.call c, .error e⟩] ∨ ∃ value rest, es = ⟨.call c, .ok value⟩ :: rest ∧ (f value).Leads rest (.done (.error e)) := by
  obtain ⟨reply, rest, rfl, hrest⟩ := leads_ask.1 h
  match reply with
  | .error e' =>
    obtain ⟨rfl, heq⟩ := leads_done.1 hrest
    obtain rfl := Except.error.inj heq
    exact .inl rfl
  | .ok value => exact .inr ⟨value, rest, rfl, hrest⟩

theorem Unresolved.leads (h : Unresolved es e) : (context b).Leads es (.done (.error e)) := by
  rw [context_eq]
  cases h with
  | metadata => exact .cons _ (.nil _)
  | listing => exact .cons _ (.cons _ (.nil _))
  | list h =>
    refine .cons _ (.cons _ ?_)
    dsimp only
    rw [h]
    exact .nil _

/-- **A view that fails with a failure of the pool has come by no candidates**: it has not asked the provider. -/
theorem unresolved_of_leads (h : (context b).Leads es (.done (.error e))) (he : e.isCandidate = true) :
    Unresolved es e := by
  rcases leads_call_andThen h with rfl | ⟨m, rest₁, rfl, h₁⟩
  · exact .metadata e
  rcases leads_call_andThen h₁ with rfl | ⟨urls, rest₂, rfl, h₂⟩
  · exact .listing m e
  rcases leads_andThen h₂ with ⟨_, heq, h₃⟩ | ⟨candidates, _, rest₃, -, -, h₃⟩
  · obtain rfl := Except.error.inj heq
    obtain ⟨rfl, hlist⟩ := leads_done.1 h₃
    exact .list hlist.symm
  · -- what is left asks the provider, and it fails outside the pool
    have hout : e.isCandidate = false :=
      failsOnly_andThen (failsOnly_ofProvider b.backend (.describeSelf m)) (fun _ => failsOnly_ok _) rest₃ e h₃
    rw [he] at hout
    cases hout

/-- An operation that begins with a view and fails outside the pool from there on fails with a failure of the pool exactly
where no candidates are come by. -/
theorem leads_view_iff {f : Context → Program pass (Except Error α)} (hf : ∀ ctx, FailsOnly OutsidePool (f ctx))
    (he : e.isCandidate = true) : ((context b).andThen f).Leads es (.done (.error e)) ↔ Unresolved es e := by
  constructor
  · intro h
    rcases leads_andThen h with ⟨e', heq, h⟩ | ⟨ctx, es₁, es₂, -, -, h⟩
    · obtain rfl := Except.error.inj heq
      exact unresolved_of_leads h he
    · have hout : e.isCandidate = false := hf ctx es₂ e h
      rw [he] at hout
      cases hout
  · exact fun h => leads_andThen_iff.2 (.inl ⟨e, rfl, h.leads⟩)

theorem leads_bind_iff (he : e.isCandidate = true) : (bind b).Leads es (.done (.error e)) ↔ Unresolved es e :=
  leads_view_iff (fun _ => failsOnly_bindIn) he

theorem leads_unbind_iff (he : e.isCandidate = true) : (unbind b).Leads es (.done (.error e)) ↔ Unresolved es e := by
  refine leads_view_iff (fun ctx => ?_) he
  cases ctx.boundInterface? with
  | none => exact failsOnly_ok _
  | some i => exact failsOnly_detach i

/-- **Failures are sorted by where they come from.**  An operation of the inventory fails exactly with the reports of the
reply to its one call; a report is of the operation's own kinds, so it is a failure of the provider and none of the pool;
whatever failed the call, the report ends with the whole text of it; and a bind or an unbind fails with a failure of the
pool exactly where it comes by no candidates, before any call of the provider. -/
theorem failures_are_sorted (b : Binder) :
    (∀ (op : Inventory.Operation) es e, (op.program b.backend).Leads es (.done (.error e)) ↔
      ∃ reply, es = [⟨op.call, reply⟩] ∧ op.Reports b.backend reply e) ∧
    (∀ (op : Inventory.Operation) reply e, op.Reports b.backend reply e →
      op.call.owns e = true ∧ e.isProvider = true ∧ e.isCandidate = false) ∧
    (∀ (op : Inventory.Operation) e e', op.Reports b.backend (.error e) e' →
      (∃ lead, e'.message = lead ++ e.message) ∧ ∀ text ∈ e.texts, Mentions e'.message text) ∧
    (∀ es e, e.isCandidate = true →
      ((bind b).Leads es (.done (.error e)) ↔ Unresolved es e) ∧ ((unbind b).Leads es (.done (.error e)) ↔ Unresolved es e)) ∧
    ∀ es e, Unresolved es e → ∀ c, ∀ x ∈ es, x.1 ≠ .call (.provider c) := by
  refine ⟨fun op es e => Inventory.Operation.leads_program, fun op reply e h => ⟨h.owns, ?_⟩, fun op e e' h => ?_,
    fun es e he => ⟨?_, ?_⟩, fun es e h c => h.notMem c⟩
  · exact ProviderCall.isProvider_of_owns h.owns
  · obtain ⟨lead, hmessage⟩ := h.message_eq
    exact ⟨⟨lead, hmessage⟩, fun text htext => hmessage ▸ (e.mentions_message text htext).append lead⟩
  · exact leads_bind_iff he
  · exact leads_unbind_iff he

/-- A provider that refuses an attachment with a failure of the pool and a detachment with a document it cannot read, and a
zone without addresses. -/
theorem failures_of_empty_zone :
    (Inventory.Operation.attach "eni-4" "i-1").Reports "cloud" (.error (.noCandidates "us-east-1a"))
      (.attach "eni-4" "No candidate addresses for zone us-east-1a") ∧
    (Inventory.Operation.detach "eni-attach-1").Reports "cloud" (.error (.json "EOF while parsing a value"))
      (.detach "eni-attach-1" "JSON error: EOF while parsing a value") ∧
    Mentions (Error.detach "eni-attach-1" "JSON error: EOF while parsing a value").message "EOF while parsing a value" ∧
    (Error.attach "eni-4" "No candidate addresses for zone us-east-1a").isCandidate = false ∧
    (Error.noCandidates "us-east-1a").isCandidate = true ∧
    Unresolved [⟨.call .metadata, .ok ⟨"i-1", "us-east-1a"⟩⟩, ⟨.call (.serviceUrls "us-east-1a"), .ok []⟩]
      (.noCandidates "us-east-1a") ∧
    (bind ⟨default, "cloud"⟩).Leads [⟨.call .metadata, .ok ⟨"i-1", "us-east-1a"⟩⟩, ⟨.call (.serviceUrls "us-east-1a"), .ok []⟩]
      (.done (.error (.noCandidates "us-east-1a"))) ∧
    Request.call (.serviceUrls "us-east-1a") ≠ .call (.provider (.describeInstance "i-1")) := by
  have hreport : (Inventory.Operation.attach "eni-4" "i-1").Reports "cloud" (.error (.noCandidates "us-east-1a"))
      (.attach "eni-4" "No candidate addresses for zone us-east-1a") := .labelled rfl
  have hnone : Unresolved [⟨.call .metadata, .ok ⟨"i-1", "us-east-1a"⟩⟩, ⟨.call (.serviceUrls "us-east-1a"), .ok []⟩]
      (.noCandidates "us-east-1a") := .list (m := ⟨"i-1", "us-east-1a"⟩) rfl
  have hunread : (Inventory.Operation.detach "eni-attach-1").Reports "cloud" (.error (.json "EOF while parsing a value"))
      (.detach "eni-attach-1" "JSON error: EOF while parsing a value") := .labelled rfl
  obtain ⟨-, howns, htexts, hbind, hcalls⟩ := failures_are_sorted ⟨default, "cloud"⟩
  exact ⟨hreport, hunread, (htexts _ _ _ hunread).2 _ List.mem_cons_self, (howns _ _ _ hreport).2.2, rfl, hnone,
    (hbind _ _ rfl).1.2 hnone, hcalls _ _ hnone _ _ (List.mem_cons_of_mem _ List.mem_cons_self)⟩

end Pass
end AddressBinder
