import AddressBinder.Config.Codec
import AddressBinder.Proofs.Cloud.Codec
import AddressBinder.Proofs.TextMap
/-!
# Configurations read back

A configuration is read back from each text of its document, and of each document that leaves out members whose values
are the documented defaults: what is taken for a setting that is left out is the value that the documentation gives it.
-/
namespace AddressBinder

open Json (Record Abridges Pruned Printable)

namespace Config

/-- The documented default of a setting; a domain has none. -/
def documented? : String → Option Json
  | "binding_strategy" => some (.ofString "eni")
  | "bind_rebind_retries" => some (.ofNat 3)
  | "binding_retry_interval_ms" => some (.ofNat 300000)
  | "binding_retry_interval_when_unbound_ms" => some (.ofNat 60000)
  | "retry_sleep_ms" => some (.ofNat 1000)
  | "event_channel_capacity" => some (.ofNat 256)
  | "discovery" =>
    some (.object [("should_use_dns_for_fetching_service_urls", .bool false), ("service_urls", .object []), ("dns", .null)])
  | "should_use_dns_for_fetching_service_urls" => some (.bool false)
  | "service_urls" => some (.object [])
  | "dns" => some .null
  | "port" => some (.ofNat 8080)
  | "context" => some (.ofString "eureka/v2")
  | "aws" => some (.object [("access_id", .null), ("secret_key", .null), ("region", .null)])
  | "access_id" => some .null
  | "secret_key" => some .null
  | "region" => some .null
  | _ => none

theorem documented?_ne_arr {name : String} {items : List Json} : documented? name ≠ some (.arr items) := by
  intro h
  unfold documented? at h
  split at h <;> cases h

end Config

open Config (documented?)

/-! ## Values that cannot be abridged -/

theorem Strategy.ofJson?_of_abridges {s : Strategy} {w : Json} (h : Abridges documented? s.toJson w) :
    Strategy.ofJson? w = some s := by
  cases h
  cases s <;> rfl

theorem natUpTo?_of_abridges {limit n : Nat} (hn : n ≤ limit) {w : Json} (h : Abridges documented? (.ofNat n) w) :
    Json.natUpTo? limit w = some n := by
  cases h
  exact Json.natUpTo?_ofNat hn

theorem bool?_of_abridges {b : Bool} {w : Json} (h : Abridges documented? (.bool b) w) : Json.bool? w = some b := by
  cases h
  rfl

theorem text?_of_abridges {s : String} {w : Json} (h : Abridges documented? (.ofString s) w) : Json.text? w = some s := by
  cases h
  rfl

namespace DnsSettings

/-- The port is in the range of its type. -/
def IsStorable (s : DnsSettings) : Prop := s.port ≤ portLimit

theorem ofJson?_of_abridges {s : DnsSettings} (hs : s.IsStorable) {w : Json} (h : Abridges documented? s.toJson w) :
    w ≠ .null ∧ ofJson? w = some s := by
  obtain ⟨ns, rfl, hpruned⟩ := h.members
  refine ⟨Json.noConfusion, ?_⟩
  obtain ⟨r, hr : Record.ofJson? ["domain", "port", "context"] (.obj ns) = some r, hshows⟩ :=
    Record.ofJson?_of_pruned [("domain", .ofString s.domain), ("port", .ofNat s.port),
      ("context", .ofString s.context)] (by simp) hpruned
  simp only [List.forall_mem_cons] at hshows
  obtain ⟨hdomain, hport, hcontext, -⟩ := hshows
  have hdomain := hdomain.required (fun _ => text?_of_abridges) rfl
  have hport := hport.withDefault (forDomain s.domain).port (.refl _) (fun _ => natUpTo?_of_abridges hs) rfl rfl
  have hcontext := hcontext.withDefault (forDomain s.domain).context (.refl _) (fun _ => text?_of_abridges)
    rfl rfl
  simp [ofJson?, hr, hdomain, hport, hcontext]

theorem printable (s : DnsSettings) : Printable s.toJson :=
  Json.printable_object (by simp [Json.printable_ofString, Json.printable_ofNat])

end DnsSettings

namespace DiscoverySettings

/-- The port of the records is in the range of its type. -/
def IsStorable (s : DiscoverySettings) : Prop := ∀ dns, s.dns = some dns → dns.IsStorable

/-- No list of a zone is left out: the documented defaults have no lists. -/
theorem zones?_of_abridges {zones : TextMap (List String)} {w : Json}
    (h : Abridges documented? (.object (zones.entries.map fun e => (e.1, .ofList .ofString e.2))) w) :
    zones? w = some zones := by
  -- the value of a zone is a list, which no name has for its default
  have hwhole : w = .object (zones.entries.map fun e => (e.1, .ofList .ofString e.2)) := by
    obtain ⟨ns, rfl, hpruned⟩ := h.members
    refine congrArg Json.obj (Pruned.eq_self (fun m hm => ?_) hpruned)
    simp only [List.map_map, List.mem_map, Function.comp_apply] at hm
    obtain ⟨e, -, rfl⟩ := hm
    exact ⟨by rintro w ⟨⟩; rfl, fun name => Config.documented?_ne_arr⟩
  have hread : Json.entries? (Json.list? Json.text?) w = some zones.entries := by
    rw [hwhole]
    exact Json.entries?_object fun e _ => Json.list?_ofList fun _ _ => rfl
  rw [zones?, hread, Option.map_some, TextMap.ofList_entries]

theorem dns_of_abridges {s : DiscoverySettings} (hs : s.IsStorable) {w : Json}
    (h : Abridges documented? (.ofOption DnsSettings.toJson s.dns) w) : Json.nullable? DnsSettings.ofJson? w = some s.dns :=
  Json.nullable?_of_abridges (fun dns _ hdns => DnsSettings.ofJson?_of_abridges (hs dns hdns)) h

theorem ofJson?_of_abridges {s : DiscoverySettings} (hs : s.IsStorable) {w : Json} (h : Abridges documented? s.toJson w) :
    ofJson? w = some s := by
  obtain ⟨ns, rfl, hpruned⟩ := h.members
  obtain ⟨r, hr : Record.ofJson? ["should_use_dns_for_fetching_service_urls", "service_urls", "dns"] (.obj ns) = some r,
    hshows⟩ := Record.ofJson?_of_pruned [("should_use_dns_for_fetching_service_urls", .bool s.useDns),
      ("service_urls", .object (s.serviceUrls.entries.map fun e => (e.1, .ofList .ofString e.2))),
      ("dns", .ofOption DnsSettings.toJson s.dns)] (by simp) hpruned
  simp only [List.forall_mem_cons] at hshows
  obtain ⟨huse, hurls, hdns, -⟩ := hshows
  have huse := huse.withDefault default.useDns (.refl _) (fun _ => bool?_of_abridges) rfl rfl
  have hurls := hurls.withDefault default.serviceUrls (.refl _) (fun _ => zones?_of_abridges) rfl rfl
  have hdns := hdns.withDefault default.dns (.refl _) (fun _ => dns_of_abridges hs) rfl rfl
  simp [ofJson?, hr, huse, hurls, hdns]

theorem printable (s : DiscoverySettings) : Printable s.toJson := by
  have hurls : Printable (.object (s.serviceUrls.entries.map fun e => (e.1, .ofList .ofString e.2))) := by
    refine Json.printable_object fun m hm => ?_
    obtain ⟨e, -, rfl⟩ := List.mem_map.1 hm
    exact Json.printable_ofList Json.printable_ofString e.2
  exact Json.printable_object (by
    simp [Json.printable_bool, hurls, Json.printable_ofOption, DnsSettings.printable])

end DiscoverySettings

namespace Account

theorem key_of_abridges {key : Option String} {w : Json} (h : Abridges documented? (.ofOption .ofString key) w) :
    Json.nullable? Json.text? w = some key :=
  Json.nullable?_of_abridges (by rintro s _ - ⟨⟩; exact ⟨Json.noConfusion, rfl⟩) h

theorem ofJson?_of_abridges {a : Account} {w : Json} (h : Abridges documented? a.toJson w) : ofJson? w = some a := by
  obtain ⟨ns, rfl, hpruned⟩ := h.members
  obtain ⟨r, hr : Record.ofJson? ["access_id", "secret_key", "region"] (.obj ns) = some r, hshows⟩ :=
    Record.ofJson?_of_pruned [("access_id", .ofOption .ofString a.accessId),
      ("secret_key", .ofOption .ofString a.secretKey), ("region", .ofOption .ofString a.region)] (by simp) hpruned
  simp only [List.forall_mem_cons] at hshows
  obtain ⟨hid, hsecret, hregion, -⟩ := hshows
  have hid := hid.withDefault none (.refl _) (fun _ => key_of_abridges) rfl rfl
  have hsecret := hsecret.withDefault none (.refl _) (fun _ => key_of_abridges) rfl rfl
  have hregion := hregion.withDefault none (.refl _) (fun _ => key_of_abridges) rfl rfl
  simp [ofJson?, hr, hid, hsecret, hregion]

theorem printable (a : Account) : Printable a.toJson :=
  Json.printable_object (by simp [Json.printable_ofOption, Json.printable_ofString])

end Account

namespace Config

/-- The numbers are in the ranges of their types. -/
structure IsStorable (c : Config) : Prop where
  retries : c.retries ≤ settingLimit
  boundInterval : c.boundInterval ≤ settingLimit
  unboundInterval : c.unboundInterval ≤ settingLimit
  retrySleep : c.retrySleep ≤ settingLimit
  eventCapacity : c.eventCapacity ≤ settingLimit
  discovery : c.discovery.IsStorable

theorem ofJson?_of_abridges {c : Config} (hc : c.IsStorable) {w : Json} (h : Abridges documented? c.toJson w) :
    ofJson? w = some c := by
  obtain ⟨ns, rfl, hpruned⟩ := h.members
  obtain ⟨r, hr : Record.ofJson? fieldNames (.obj ns) = some r, hshows⟩ :=
    Record.ofJson?_of_pruned [("binding_strategy", c.strategy.toJson), ("bind_rebind_retries", .ofNat c.retries),
      ("binding_retry_interval_ms", .ofNat c.boundInterval),
      ("binding_retry_interval_when_unbound_ms", .ofNat c.unboundInterval), ("retry_sleep_ms", .ofNat c.retrySleep),
      ("event_channel_capacity", .ofNat c.eventCapacity), ("discovery", c.discovery.toJson), ("aws", c.account.toJson)]
      (by simp) hpruned
  simp only [List.forall_mem_cons] at hshows
  obtain ⟨hstrategy, hretries, hbound, hunbound, hsleep, hcapacity, hdiscovery, haccount, -⟩ := hshows
  have hstrategy := hstrategy.withDefault default.strategy (.refl _) (fun _ => Strategy.ofJson?_of_abridges)
    rfl rfl
  have hretries := hretries.withDefault default.retries (.refl _) (fun _ => natUpTo?_of_abridges hc.retries)
    rfl rfl
  have hbound := hbound.withDefault default.boundInterval (.refl _)
    (fun _ => natUpTo?_of_abridges hc.boundInterval) rfl rfl
  have hunbound := hunbound.withDefault default.unboundInterval (.refl _)
    (fun _ => natUpTo?_of_abridges hc.unboundInterval) rfl rfl
  have hsleep := hsleep.withDefault default.retrySleep (.refl _)
    (fun _ => natUpTo?_of_abridges hc.retrySleep) rfl rfl
  have hcapacity := hcapacity.withDefault default.eventCapacity (.refl _)
    (fun _ => natUpTo?_of_abridges hc.eventCapacity) rfl rfl
  have hdiscovery := hdiscovery.withDefault default.discovery (.refl _)
    (fun _ => DiscoverySettings.ofJson?_of_abridges hc.discovery) rfl rfl
  have haccount := haccount.withDefault default.account (.refl _) (fun _ => Account.ofJson?_of_abridges)
    rfl rfl
  simp [ofJson?, hr, hstrategy, hretries, hbound, hunbound, hsleep, hcapacity, hdiscovery, haccount]

theorem printable (c : Config) : Printable c.toJson :=
  Json.printable_object (by
    simp [Json.printable_ofNat, Strategy.toJson, Json.printable_ofString, DiscoverySettings.printable, Account.printable])

theorem ofText_of_isText {c : Config} (hc : c.IsStorable) {doc : Json} (hdoc : Abridges documented? c.toJson doc)
    {text : String} (htext : Json.IsText doc text) : ofText text = .ok c := by
  simp only [ofText, Json.ofText?_of_isText htext, ofJson?_of_abridges hc hdoc]

/-- **What is written is read back**: a configuration from every text of its document and of every document that leaves
out members at their documented defaults, interfaces, instances and statuses from every text of theirs; the printed text
is always one of them. -/
theorem read_back :
    (∀ c : Config, Json.IsText c.toJson c.toJson.toText ∧ (c.IsStorable → ∀ doc text,
      Abridges documented? c.toJson doc → Json.IsText doc text → ofText text = .ok c)) ∧
    (∀ i : Interface, Json.IsText i.toJson i.toJson.toText ∧ (i.IsStorable → ∀ text,
      Json.IsText i.toJson text → (Json.ofText? text).bind Interface.ofJson? = some i)) ∧
    (∀ d : InstanceDescription, Json.IsText d.toJson d.toJson.toText ∧ (d.IsStorable → ∀ text,
      Json.IsText d.toJson text → (Json.ofText? text).bind InstanceDescription.ofJson? = some d)) ∧
    ∀ status : InterfaceStatus, Json.IsText status.toJson status.toJson.toText ∧ ∀ text,
      Json.IsText status.toJson text → (Json.ofText? text).bind InterfaceStatus.ofJson? = some status := by
  refine ⟨fun c => ⟨c.printable.isText, fun hc doc text hdoc htext => ofText_of_isText hc hdoc htext⟩,
    fun i => ⟨i.printable.isText, fun hi text htext => ?_⟩, fun d => ⟨d.printable.isText, fun hd text htext => ?_⟩,
    fun status => ⟨status.printable.isText, fun text htext => ?_⟩⟩
  · rw [Json.ofText?_of_isText htext, Option.bind_some, Interface.ofJson?_toJson hi]
  · rw [Json.ofText?_of_isText htext, Option.bind_some, InstanceDescription.ofJson?_toJson hd]
  · rw [Json.ofText?_of_isText htext, Option.bind_some, InterfaceStatus.ofJson?_toJson]

/-- A configuration with records in a domain and a zone whose name needs escapes. -/
def escapedZone : Config :=
  { default with
    retries := 5
    discovery := ⟨true, TextMap.empty.insert "a\"\n" ["h1, h2"], some (.forDomain "d")⟩ }

/-- The document of `escapedZone` without what has its default. -/
def escapedZoneAbridged : Json :=
  .object [("bind_rebind_retries", .ofNat 5), ("discovery", .object [("should_use_dns_for_fetching_service_urls", .bool true),
    ("service_urls", .object [("a\"\n", .ofList .ofString ["h1, h2"])]), ("dns", .object [("domain", .ofString "d")])])]

theorem escapedZone_abridges : Abridges documented? escapedZone.toJson escapedZoneAbridged :=
  have hdns : Abridges documented? (DnsSettings.forDomain "d").toJson (.object [("domain", .ofString "d")]) :=
    .obj (.keep (.refl _) (.drop rfl (.drop rfl .nil)))
  have hdiscovery := Abridges.obj (.keep (.refl _) (.keep (.refl _) (.keep hdns .nil)))
  .obj (.drop rfl (.keep (.refl _) (.drop rfl (.drop rfl (.drop rfl (.drop rfl (.keep hdiscovery (.drop rfl .nil))))))))

theorem escapedZone_isStorable : escapedZone.IsStorable :=
  ⟨by decide, by decide, by decide, by decide, by decide, by rintro _ ⟨⟩; exact (by decide : 8080 ≤ portLimit)⟩

theorem escapedZoneAbridged_printable : Printable escapedZoneAbridged := by
  have hurls : Printable (.object [("a\"\n", .ofList .ofString ["h1, h2"])]) :=
    Json.printable_object (by simp [Json.printable_ofList, Json.printable_ofString])
  have hdns : Printable (.object [("domain", .ofString "d")]) := Json.printable_object (by simp [Json.printable_ofString])
  refine Json.printable_object (List.forall_mem_cons.2 ⟨Json.printable_ofNat 5, List.forall_mem_singleton.2 ?_⟩)
  exact Json.printable_object (by simp [Json.printable_bool, hurls, hdns])

/-- A document with nothing but what differs from the defaults, an interface in use and a status of its own are read
back. -/
theorem read_back_of_escapedZone :
    ofText escapedZoneAbridged.toText = .ok escapedZone ∧
    (Json.ofText? (Interface.mk "i" (some ⟨10, 0, 0, 1⟩) .inUse (some ⟨"a", "b", 1⟩) "s").toJson.toText).bind
      Interface.ofJson? = some ⟨"i", some ⟨10, 0, 0, 1⟩, .inUse, some ⟨"a", "b", 1⟩, "s"⟩ ∧
    (Json.ofText? (InstanceDescription.mk "b" "s" []).toJson.toText).bind InstanceDescription.ofJson? = some ⟨"b", "s", []⟩ ∧
    (Json.ofText? (InterfaceStatus.other "available").toJson.toText).bind InterfaceStatus.ofJson? = some (.other "available") := by
  obtain ⟨hconfig, hinterface, hinstance, hstatus⟩ := read_back
  have hstorable : (Interface.mk "i" (some ⟨10, 0, 0, 1⟩) .inUse (some ⟨"a", "b", 1⟩) "s").IsStorable := by
    rintro a ⟨⟩
    exact (by decide : 1 ≤ deviceIndexLimit)
  exact ⟨(hconfig escapedZone).2 escapedZone_isStorable _ _ escapedZone_abridges escapedZoneAbridged_printable.isText,
    (hinterface _).2 hstorable _ (hinterface _).1,
    (hinstance _).2 (fun i hi => absurd hi List.not_mem_nil) _ (hinstance _).1, (hstatus _).2 _ (hstatus _).1⟩

end Config
end AddressBinder
