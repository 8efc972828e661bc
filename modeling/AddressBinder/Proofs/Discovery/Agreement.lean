import AddressBinder.Discovery.Records
import AddressBinder.Proofs.Candidate.Host
import AddressBinder.Proofs.Discovery.Listing
import AddressBinder.Proofs.Discovery.Tokens
import AddressBinder.Proofs.Program.Serving
/-!
# Two styles of discovery

Hosts that are found through the chain of records and the same hosts written down for their zone: each host decodes from
the URL that is built around it as it does by itself (`decode_serviceUrl`), whatever the port and the path are, so both
styles find the same pool or fail at the same host (`candidates_agree`).
-/
namespace AddressBinder
namespace Discovery

open Candidate Text

section Decoding

variable {settings : DnsSettings} {host : String} {hosts : List String}

theorem serviceUrl_eq (settings : DnsSettings) (host : List Char) :
    ∃ path, serviceUrl settings host = String.ofList (Host.url host settings.port path) := by
  refine ⟨if (dropEnds (· == '/') settings.context.toList).isEmpty then []
    else dropEnds (· == '/') settings.context.toList ++ ['/'], ?_⟩
  unfold serviceUrl Host.url
  simp

theorem ofEntry_name (h : Host.IsName host.toList) : ofEntry host.toList = ofHost host.toList := by
  unfold ofEntry
  rw [h.ofEntry_self]

theorem ofEntry_serviceUrl (h : Host.IsName host.toList) :
    ofEntry (serviceUrl settings host.toList).toList = ofHost host.toList := by
  obtain ⟨path, hurl⟩ := serviceUrl_eq settings host.toList
  unfold ofEntry
  rw [hurl, String.toList_ofList, h.ofEntry_url settings.port path]

/-- **A host decodes alike from its URL and by itself**: to the same address, or with the same reason. -/
theorem decode_serviceUrl (settings : DnsSettings) (h : Host.IsName host.toList) :
    (∃ ip, decode host = .ok ip ∧ decode (serviceUrl settings host.toList) = .ok ip) ∨
    ∃ reason, decode host = .error (.malformedCandidate host reason) ∧
      decode (serviceUrl settings host.toList) =
        .error (.malformedCandidate (serviceUrl settings host.toList) reason) := by
  unfold decode
  rw [ofEntry_name h, ofEntry_serviceUrl h]
  cases ofHost host.toList with
  | ok ip => exact .inl ⟨ip, rfl, rfl⟩
  | error fault => exact .inr ⟨fault.reason, rfl, rfl⟩

/-- What both styles make of the hosts of a zone: one pool, or no candidates for want of hosts, or a failure at the first
host that does not decode, for one reason. -/
inductive SamePool (settings : DnsSettings) (zone : String) (hosts : List String) :
    Except Error Candidates → Except Error Candidates → Prop where
  | pool (candidates : Candidates) (hsize : candidates.size = hosts.length) :
      SamePool settings zone hosts (.ok candidates) (.ok candidates)
  | none (hhosts : hosts = []) :
      SamePool settings zone hosts (.error (.noCandidates zone)) (.error (.noCandidates zone))
  | malformed {before after : List String} {host reason : String} (hhosts : hosts = before ++ host :: after)
      (hbefore : ∀ h ∈ before, ∃ ip, decode h = .ok ip) :
      SamePool settings zone hosts (.error (.malformedCandidate (serviceUrl settings host.toList) reason))
        (.error (.malformedCandidate host reason))

theorem decodeAll_serviceUrls (settings : DnsSettings) : ∀ {hosts : List String}, (∀ h ∈ hosts, Host.IsName h.toList) →
    (∃ ips, ips.length = hosts.length ∧ decodeAll hosts = .ok ips ∧
      decodeAll (hosts.map fun h => serviceUrl settings h.toList) = .ok ips) ∨
    ∃ before host after reason, hosts = before ++ host :: after ∧ (∀ h ∈ before, ∃ ip, decode h = .ok ip) ∧
      decodeAll hosts = .error (.malformedCandidate host reason) ∧
      decodeAll (hosts.map fun h => serviceUrl settings h.toList) =
        .error (.malformedCandidate (serviceUrl settings host.toList) reason)
  | [], _ => .inl ⟨[], rfl, rfl, rfl⟩
  | host :: hosts, h => by
    obtain ⟨hhost, hrest⟩ := List.forall_mem_cons.1 h
    simp only [List.map_cons, decodeAll]
    rcases decode_serviceUrl settings hhost with ⟨ip, hname, hurl⟩ | ⟨reason, hname, hurl⟩
    · rw [hname, hurl]
      rcases decodeAll_serviceUrls settings hrest with
        ⟨ips, hlength, hnames, hurls⟩ | ⟨before, bad, after, reason, rfl, hbefore, hnames, hurls⟩
      · exact .inl ⟨ip :: ips, by simp [hlength], by rw [hnames], by rw [hurls]⟩
      · refine .inr ⟨host :: before, bad, after, reason, rfl, ?_, by rw [hnames], by rw [hurls]⟩
        exact List.forall_mem_cons.2 ⟨⟨ip, hname⟩, hbefore⟩
    · -- neither reads on after an entry that does not decode
      rw [hname, hurl]
      exact .inr ⟨[], host, hosts, reason, rfl, fun _ hb => absurd hb List.not_mem_nil, rfl, rfl⟩

theorem samePool_ofEntries {zone : String} (h : ∀ host ∈ hosts, Host.IsName host.toList) :
    SamePool settings zone hosts (Candidates.ofEntries zone (hosts.map fun host => serviceUrl settings host.toList))
      (Candidates.ofEntries zone hosts) := by
  unfold Candidates.ofEntries
  cases hosts with
  | nil => exact .none rfl
  | cons host hosts =>
    simp only [List.map_cons, List.isEmpty_cons, Bool.false_eq_true, ↓reduceIte]
    rw [← List.map_cons (f := fun host => serviceUrl settings (String.toList host))]
    rcases decodeAll_serviceUrls settings h with
      ⟨ips, hlength, hnames, hurls⟩ | ⟨before, bad, after, reason, hhosts, hbefore, hnames, hurls⟩
    · rw [hnames, hurls]
      exact .pool ⟨ips⟩ hlength
    · rw [hnames, hurls]
      exact .malformed hhosts hbefore

end Decoding

/-! ## Both sources -/

section Sources

variable {S : Type} {resolve : String → S → Except Error (List String) × S} {s s' s'' : S} {zone : String}
  {hosts : List String}

/-- **The URLs written down for a zone are the hosts themselves** when they are host names. -/
theorem staticUrls_hosts (h : ∀ host ∈ hosts, Host.IsName host.toList) :
    staticUrls (TextMap.empty.insert zone hosts) zone = hosts := by
  have hnormal : DiscoverySettings.normalise hosts = hosts :=
    normalise_eq_self fun host hhost => (h host hhost).1.isItem ((h host hhost).notMem (by decide))
  have hlisted : listed (TextMap.empty.insert zone hosts) zone = hosts := by
    unfold listed
    rw [TextMap.get?_insert, if_pos rfl]
    exact hnormal
  unfold staticUrls
  rw [hlisted]
  cases hosts with
  | nil =>
    unfold listed
    rw [TextMap.get?_insert]
    by_cases hdefault : defaultZone = zone
    · rw [if_pos hdefault]
      rfl
    · rw [if_neg hdefault]
      rfl
  | cons host hosts => rfl

/-- The URLs that the chain of records finds. -/
theorem run_recordUrls {settings : DnsSettings} {region : Option String} {zoneRecords hostRecords : List String}
    {name : List Char}
    (hzones : resolve (regionRecord settings (Region.forZone (region.map String.toList) zone.toList)) s =
      (.ok zoneRecords, s'))
    (hname : (tokens zoneRecords).filter (namesZone zone.toList) = [name])
    (hhosts : resolve (zoneRecord name) s' = (.ok hostRecords, s'')) :
    (recordUrls settings region zone).run (σ := lookup) resolve s =
      (.ok ((tokens hostRecords).map (serviceUrl settings)), s'') := by
  have hfound : (zoneUrls settings [name]).run (σ := lookup) resolve s' =
      (.ok ((tokens hostRecords).map (serviceUrl settings) ++ []), s'') := Program.run_andThen_of_ok hhosts
  have hzone : (recordUrls settings region zone).run (σ := lookup) resolve s =
      (zoneUrls settings ((tokens zoneRecords).filter (namesZone zone.toList))).run (σ := lookup) resolve s' :=
    Program.run_andThen_of_ok hzones
  rw [hzone, hname, hfound, List.append_nil]

/-- **Both styles of discovery give the same pool.**  The record of the region lists names, of which just one has the
zone for its first label, and the record of that name lists hosts; or the hosts are written down for the zone, and
nothing for any other.  Either way the zone has the same candidates, or none, or the first host that does not decode is
named with the same reason. -/
theorem candidates_agree {settings : DnsSettings} {region : Option String} {zoneRecords hostRecords : List String}
    {names : List (List Char)} {name : List Char}
    (hzones : resolve (regionRecord settings (Region.forZone (region.map String.toList) zone.toList)) s =
      (.ok zoneRecords, s'))
    (hnames : Lists zoneRecords names) (hname : names.filter (namesZone zone.toList) = [name])
    (hhosts : resolve (zoneRecord name) s' = (.ok hostRecords, s''))
    (hlists : Lists hostRecords (hosts.map String.toList)) (h : ∀ host ∈ hosts, Host.IsName host.toList) :
    SamePool settings zone hosts
      (((Source.records settings region).candidates zone).run (σ := lookup) resolve s).1
      (((Source.static (TextMap.empty.insert zone hosts)).candidates zone).run (σ := lookup) resolve s).1 := by
  obtain rfl := tokens_eq_iff.2 hnames
  have hurls : (recordUrls settings region zone).run (σ := lookup) resolve s =
      (.ok (hosts.map fun host => serviceUrl settings host.toList), s'') := by
    rw [run_recordUrls hzones hname hhosts, tokens_eq_iff.2 hlists, List.map_map]
    rfl
  have hrecords : ((Source.records settings region).candidates zone).run (σ := lookup) resolve s =
      (Candidates.ofEntries zone (hosts.map fun host => serviceUrl settings host.toList), s'') :=
    Program.run_andThen_of_ok hurls
  have hstatic : ((Source.static (TextMap.empty.insert zone hosts)).candidates zone).run (σ := lookup) resolve s =
      (Candidates.ofEntries zone (staticUrls (TextMap.empty.insert zone hosts) zone), s) := rfl
  rw [hrecords, hstatic, staticUrls_hosts h]
  exact samePool_ofEntries h

/-- Records of a region with a zone in capitals, and of its hosts in quotes. -/
def quotedRecords : Records :=
  [("txt.us-east-1.eureka.example.net", .ok ["a.example \"us-EAST-1a.eureka\""]),
    ("txt.us-EAST-1a.eureka", .ok ["\"ip-10-0-1-4.ec2.internal\" \"\"", " 10.0.1.5"])]

/-- Two hosts, spread over two records and quoted, with a path that looks like another URL. -/
theorem candidates_agree_on_quoted_hosts :
    SamePool ⟨"eureka.example.net", 7001, "/@10.0.9.9:80://x"⟩ "us-east-1a" ["ip-10-0-1-4.ec2.internal", "10.0.1.5"]
      (.ok ⟨[⟨10, 0, 1, 4⟩, ⟨10, 0, 1, 5⟩]⟩) (.ok ⟨[⟨10, 0, 1, 4⟩, ⟨10, 0, 1, 5⟩]⟩) := by
  have hzones : Lists ["a.example \"us-EAST-1a.eureka\""] ["a.example".toList, "us-EAST-1a.eureka".toList] :=
    tokens_eq_iff.1 rfl
  have hhosts : Lists ["\"ip-10-0-1-4.ec2.internal\" \"\"", " 10.0.1.5"]
      (["ip-10-0-1-4.ec2.internal", "10.0.1.5"].map String.toList) := tokens_eq_iff.1 rfl
  have hnames : ∀ host ∈ ["ip-10-0-1-4.ec2.internal", "10.0.1.5"], Host.IsName host.toList := by decide
  have hregion : Records.serve quotedRecords (regionRecord ⟨"eureka.example.net", 7001, "/@10.0.9.9:80://x"⟩
      (Region.forZone ((none : Option String).map String.toList) "us-east-1a".toList)) [] =
        (.ok ["a.example \"us-EAST-1a.eureka\""], ["txt.us-east-1.eureka.example.net"]) := rfl
  exact candidates_agree hregion hzones rfl rfl hhosts hnames

end Sources

end Discovery
end AddressBinder
