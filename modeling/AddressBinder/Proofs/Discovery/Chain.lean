import AddressBinder.Discovery.Records
import AddressBinder.Proofs.Discovery.Tokens
import AddressBinder.Proofs.Program.Serving
import AddressBinder.Proofs.Text.Split
/-!
# The chain of records

What the chain looks up and what comes of it, said without running it: the record of the region first, then the record of
each name in its answer that begins with the zone, in order and with repetitions, until a lookup fails.  The URLs are
those of all hosts found, one after the other, and there are none after a failure (`lookups_of_chain`).
-/
namespace AddressBinder
namespace Discovery

open Text

/-! ## The names that are looked up -/

/-- The region of a zone: the one that is given, in lower case, or the zone without a letter at its end when none is. -/
inductive IsRegion (given : Option String) (zone : List Char) : List Char → Prop where
  | given {region : String} {core : List Char} (hgiven : given = some region) (hcore : IsCore isBlank region.toList core)
      (hne : core ≠ []) : IsRegion given zone (lower core)
  | letter {core : List Char} {c : Char} (hnone : ∀ region ∈ given, ∀ d ∈ region.toList, isBlank d = true)
      (hcore : IsCore isBlank zone (core ++ [c])) (hc : isAsciiLetter c = true) : IsRegion given zone core
  | whole {core : List Char} (hnone : ∀ region ∈ given, ∀ d ∈ region.toList, isBlank d = true)
      (hcore : IsCore isBlank zone core) (hlast : ∀ c ∈ core.getLast?, isAsciiLetter c = false) : IsRegion given zone core

/-- The name of the record that lists the zones of a region. -/
def IsRegionRecord (settings : DnsSettings) (given : Option String) (zone record : String) : Prop :=
  ∃ region domain, IsRegion given zone.toList region ∧ IsCore (· == '.') settings.domain.toList domain ∧
    record = String.ofList ("txt.".toList ++ region ++ '.' :: domain)

/-- The name of the record that lists the hosts of a zone. -/
def IsZoneRecord (name : List Char) (record : String) : Prop :=
  ∃ stem, IsStem (· == '.') name stem ∧ record = String.ofList ("txt.".toList ++ stem)

/-- The first label of a name is the zone, ASCII case ignored. -/
def BeginsWith (zone : String) (name : List Char) : Prop :=
  ∃ label rest, name = label ++ rest ∧ '.' ∉ label ∧ (∀ c ∈ rest.head?, c = '.') ∧
    label.map asciiLower = zone.toList.map asciiLower

theorem ofZone_eq_iff {zone region : List Char} : Region.ofZone zone = region ↔
    (∃ c, IsCore isBlank zone (region ++ [c]) ∧ isAsciiLetter c = true) ∨
      (IsCore isBlank zone region ∧ ∀ c ∈ region.getLast?, isAsciiLetter c = false) := by
  simp only [← dropEnds_eq_iff]
  change _ ↔ (∃ c, trim zone = region ++ [c] ∧ isAsciiLetter c = true) ∨ (trim zone = region ∧ _)
  unfold Region.ofZone
  rcases List.eq_nil_or_concat (trim zone) with hnil | ⟨core, c, hcore⟩
  · simp only [hnil, List.getLast?_nil]
    constructor
    · rintro rfl
      exact .inr ⟨rfl, nofun⟩
    · rintro (⟨c, hc, -⟩ | ⟨h, -⟩)
      · exact absurd hc.symm (by simp)
      · exact h
  · rw [List.concat_eq_append] at hcore
    simp only [hcore, List.getLast?_append, List.getLast?_singleton, Option.some_or, List.dropLast_concat]
    by_cases hc : isAsciiLetter c = true
    · rw [if_pos hc]
      constructor
      · rintro rfl
        exact .inl ⟨c, rfl, hc⟩
      · rintro (⟨d, hd, -⟩ | ⟨rfl, hlast⟩)
        · exact (List.append_inj_left' hd rfl)
        · rw [hlast c (by simp)] at hc
          cases hc
    · rw [if_neg hc]
      constructor
      · rintro rfl
        exact .inr ⟨rfl, by simpa using hc⟩
      · rintro (⟨d, hd, hletter⟩ | ⟨h, -⟩)
        · obtain ⟨-, hlast⟩ := List.append_inj' hd rfl
          obtain rfl := (List.cons.inj hlast).1
          exact absurd hletter hc
        · exact h

theorem forZone_eq_iff {given : Option String} {zone region : List Char} :
    Region.forZone (given.map String.toList) zone = region ↔ IsRegion given zone region := by
  have hzone : ∀ hnone : ∀ region ∈ given, ∀ d ∈ region.toList, isBlank d = true,
      Region.ofZone zone = region ↔ IsRegion given zone region := by
    intro hnone
    rw [ofZone_eq_iff]
    constructor
    · rintro (⟨c, hcore, hc⟩ | ⟨hcore, hlast⟩)
      · exact .letter hnone hcore hc
      · exact .whole hnone hcore hlast
    · intro h
      cases h with
      | given hgiven hcore hne =>
        -- a region of blanks is none
        exact absurd (dropEnds_eq_iff.2 hcore ▸ trim_eq_nil_iff.2 (hnone _ hgiven)) hne
      | letter _ hcore hc => exact .inl ⟨_, hcore, hc⟩
      | whole _ hcore hlast => exact .inr ⟨hcore, hlast⟩
  cases given with
  | none => exact hzone nofun
  | some text =>
    simp only [Option.map_some, Region.forZone]
    by_cases hblank : trim text.toList = []
    · rw [hblank]
      exact hzone fun region hregion => Option.some.inj hregion ▸ trim_eq_nil_iff.1 hblank
    · rw [if_neg (by simpa using hblank)]
      constructor
      · rintro rfl
        exact .given rfl (dropEnds_eq_iff.1 rfl) hblank
      · intro h
        cases h with
        | given hgiven hcore _ =>
          obtain rfl := Option.some.inj hgiven
          exact congrArg lower (dropEnds_eq_iff.2 hcore)
        | letter hnone _ _ => exact absurd (trim_eq_nil_iff.2 (hnone text rfl)) hblank
        | whole hnone _ _ => exact absurd (trim_eq_nil_iff.2 (hnone text rfl)) hblank

theorem regionRecord_eq_iff {settings : DnsSettings} {given : Option String} {zone record : String} :
    regionRecord settings (Region.forZone (given.map String.toList) zone.toList) = record ↔
      IsRegionRecord settings given zone record := by
  unfold regionRecord IsRegionRecord
  simp only [← forZone_eq_iff, ← dropEnds_eq_iff]
  constructor
  · exact fun h => ⟨_, _, rfl, rfl, h.symm⟩
  · rintro ⟨_, _, rfl, rfl, h⟩
    exact h.symm

theorem zoneRecord_eq_iff {name : List Char} {record : String} : zoneRecord name = record ↔ IsZoneRecord name record := by
  unfold zoneRecord IsZoneRecord
  simp only [← dropTrailing_eq_iff]
  constructor
  · exact fun h => ⟨_, rfl, h.symm⟩
  · rintro ⟨_, rfl, h⟩
    exact h.symm

theorem namesZone_iff {zone : String} {name : List Char} : namesZone zone.toList name = true ↔ BeginsWith zone name := by
  unfold namesZone BeginsWith
  rw [beq_iff_eq]
  constructor
  · intro h
    refine ⟨name.takeWhile (· != '.'), name.dropWhile (· != '.'), List.takeWhile_append_dropWhile.symm, fun hdot => ?_,
      fun c hc => ?_, h⟩
    · simpa using List.all_eq_true.1 List.all_takeWhile '.' hdot
    · have hnot := List.head?_dropWhile_not (· != '.') name
      rw [Option.mem_def.1 hc] at hnot
      simpa using hnot
  · rintro ⟨label, rest, rfl, hdot, hrest, h⟩
    rw [takeWhile_append_of_head (fun c hc => ?_) (fun c hc => by simp [hrest c hc])]
    · exact h
    · rw [bne_iff_ne]
      rintro rfl
      exact hdot hc

instance (zone : String) (name : List Char) : Decidable (BeginsWith zone name) := decidable_of_iff _ namesZone_iff

/-! ## What a record lists -/

/-- The URL of a host: the port and the path are those of the settings, and there may be no path. -/
def IsUrl (settings : DnsSettings) (host : List Char) (url : String) : Prop :=
  ∃ path, IsCore (· == '/') settings.context.toList path ∧
    url = String.ofList ("http://".toList ++ host ++ ':' :: numeral settings.port ++ ['/'] ++
      (if path.isEmpty then [] else path ++ ['/']))

theorem serviceUrl_eq_iff {settings : DnsSettings} {host : List Char} {url : String} :
    serviceUrl settings host = url ↔ IsUrl settings host url := by
  unfold serviceUrl IsUrl
  simp only [← dropEnds_eq_iff]
  constructor
  · exact fun h => ⟨_, rfl, h.symm⟩
  · rintro ⟨_, rfl, h⟩
    exact h.symm

/-- The record of a zone that was found, with the hosts that it lists and their URLs. -/
structure Found (settings : DnsSettings) where
  name : List Char
  record : String
  records : List String
  hosts : List (List Char)
  urls : List String
  isZoneRecord : IsZoneRecord name record
  lists : Lists records hosts
  areUrls : List.Forall₂ (IsUrl settings) hosts urls

def Found.exchange {settings : DnsSettings} (f : Found settings) : Program.Exchange lookup := ⟨f.record, .ok f.records⟩

/-- Looking up the records of names comes to this: all are found, and their URLs are put together, or the first that is not
found ends it. -/
inductive Visits (settings : DnsSettings) :
    List (List Char) → List (Program.Exchange lookup) → Except Error (List String) → Prop where
  | all (found : List (Found settings)) :
      Visits settings (found.map Found.name) (found.map Found.exchange) (.ok (found.flatMap Found.urls))
  | cut (found : List (Found settings)) {name : List Char} {record : String} (hrecord : IsZoneRecord name record)
      (rest : List (List Char)) (e : Error) :
      Visits settings (found.map Found.name ++ name :: rest) (found.map Found.exchange ++ [⟨record, .error e⟩]) (.error e)

/-- The whole chain: the record of the region, and then those of the names in it that begin with the zone. -/
inductive Chain (settings : DnsSettings) (given : Option String) (zone : String) :
    List (Program.Exchange lookup) → Except Error (List String) → Prop where
  | noRegion {record : String} (hrecord : IsRegionRecord settings given zone record) (e : Error) :
      Chain settings given zone [⟨record, .error e⟩] (.error e)
  | region {record : String} {records : List String} {names : List (List Char)} {es : List (Program.Exchange lookup)}
      {result : Except Error (List String)} (hrecord : IsRegionRecord settings given zone record) (hnames : Lists records names)
      (hvisits : Visits settings (names.filter fun name => BeginsWith zone name) es result) :
      Chain settings given zone (⟨record, .ok records⟩ :: es) result

/-! ## Runs of the chain -/

section Runs

variable {settings : DnsSettings} {given : Option String} {zone record : String} {name : List Char}
  {names : List (List Char)} {es : List (Program.Exchange lookup)} {result : Except Error (List String)}

theorem leads_lookup {f : List String → Program lookup (Except Error (List String))} :
    ((Program.request (σ := lookup) record).andThen f).Leads es (.done result) ↔
      (∃ e, es = [⟨record, .error e⟩] ∧ result = .error e) ∨
        ∃ records es', es = ⟨record, .ok records⟩ :: es' ∧ (f records).Leads es' (.done result) := by
  refine (Program.leads_ask (σ := lookup) (r := record) (k := fun reply => (Program.done reply).andThen f)).trans ?_
  constructor
  · rintro ⟨e | records, es', rfl, h⟩
    · obtain ⟨rfl, rfl⟩ := Program.leads_done.1 h
      exact .inl ⟨e, rfl, rfl⟩
    · exact .inr ⟨records, es', rfl, h⟩
  · rintro (⟨e, rfl, rfl⟩ | ⟨records, es', rfl, h⟩)
    · exact ⟨.error e, [], rfl, .nil _⟩
    · exact ⟨.ok records, es', rfl, h⟩

theorem areUrls_iff {hosts : List (List Char)} {urls : List String} :
    List.Forall₂ (IsUrl settings) hosts urls ↔ urls = hosts.map (serviceUrl settings) := by
  have hurl : IsUrl settings = fun host url => serviceUrl settings host = url := by
    ext host url
    exact serviceUrl_eq_iff.symm
  rw [hurl, ← List.forall₂_map_left_iff, List.forall₂_eq_eq_eq, eq_comm]

theorem visits_nil : Visits settings [] es result ↔ es = [] ∧ result = .ok [] := by
  constructor
  · intro h
    generalize hnames : ([] : List (List Char)) = names at h
    cases h with
    | all found =>
      obtain rfl := List.map_eq_nil_iff.1 hnames.symm
      exact ⟨rfl, rfl⟩
    | cut found => exact absurd hnames (by simp)
  · rintro ⟨rfl, rfl⟩
    exact .all []

theorem Visits.cons (f : Found settings) (h : Visits settings names es result) :
    Visits settings (f.name :: names) (f.exchange :: es) (result.map (f.urls ++ ·)) := by
  cases h with
  | all found => exact .all (f :: found)
  | cut found hrecord rest e => exact .cut (f :: found) hrecord rest e

/-- The record of the first name is looked up, and when it is found those of the others are. -/
theorem visits_cons : Visits settings (name :: names) es result ↔
    (∃ e, es = [⟨zoneRecord name, .error e⟩] ∧ result = .error e) ∨
      ∃ records es', es = ⟨zoneRecord name, .ok records⟩ :: es' ∧
        ((∃ e, result = .error e ∧ Visits settings names es' (.error e)) ∨
          ∃ urls, Visits settings names es' (.ok urls) ∧
            result = .ok ((tokens records).map (serviceUrl settings) ++ urls)) := by
  constructor
  · intro h
    generalize hall : name :: names = all at h
    cases h with
    | all found =>
      cases found with
      | nil => cases hall
      | cons f found =>
        obtain ⟨rfl, rfl⟩ := List.cons.inj hall
        refine .inr ⟨f.records, found.map Found.exchange, ?_, .inr ⟨_, .all found, ?_⟩⟩
        · rw [zoneRecord_eq_iff.2 f.isZoneRecord]
          rfl
        · rw [tokens_eq_iff.2 f.lists, ← areUrls_iff.1 f.areUrls]
          rfl
    | cut found hrecord rest e =>
      cases found with
      | nil =>
        obtain ⟨rfl, rfl⟩ := List.cons.inj hall
        exact .inl ⟨e, by rw [zoneRecord_eq_iff.2 hrecord]; rfl, rfl⟩
      | cons f found =>
        obtain ⟨rfl, rfl⟩ := List.cons.inj hall
        refine .inr ⟨f.records, found.map Found.exchange ++ [⟨_, .error e⟩], ?_, .inl ⟨e, rfl, .cut found hrecord rest e⟩⟩
        rw [zoneRecord_eq_iff.2 f.isZoneRecord]
        rfl
  · rintro (⟨e, rfl, rfl⟩ | ⟨records, es', rfl, h⟩)
    · exact .cut [] (zoneRecord_eq_iff.1 rfl) names e
    · let first : Found settings := ⟨name, zoneRecord name, records, tokens records, (tokens records).map (serviceUrl settings),
        zoneRecord_eq_iff.1 rfl, tokens_eq_iff.1 rfl, areUrls_iff.2 rfl⟩
      rcases h with ⟨e, rfl, h⟩ | ⟨urls, h, rfl⟩
      · exact h.cons first
      · exact h.cons first

/-- **Names are looked up in order until one fails.** -/
theorem leads_zoneUrls : ∀ {names : List (List Char)} {es : List (Program.Exchange lookup)} {result : Except Error (List String)},
    (zoneUrls settings names).Leads es (.done result) ↔ Visits settings names es result
  | [], es, result => by
    rw [visits_nil]
    exact Program.leads_done
  | name :: names, es, result => by
    rw [zoneUrls, leads_lookup, visits_cons]
    refine or_congr_right (exists_congr fun records => exists_congr fun es' => and_congr_right fun _ => ?_)
    rw [Program.leads_andThen_iff]
    simp only [leads_zoneUrls, Program.leads_done]
    refine or_congr_right (exists_congr fun urls => ?_)
    constructor
    · rintro ⟨es₁, es₂, rfl, h, rfl, rfl⟩
      exact ⟨by rwa [List.append_nil], rfl⟩
    · rintro ⟨h, rfl⟩
      exact ⟨es', [], (List.append_nil es').symm, h, rfl, rfl⟩

theorem leads_recordUrls : (recordUrls settings given zone).Leads es (.done result) ↔ Chain settings given zone es result := by
  have hfollowed : ∀ names : List (List Char),
      names.filter (namesZone zone.toList) = names.filter fun name => decide (BeginsWith zone name) := by
    intro names
    refine List.filter_congr fun name _ => ?_
    rw [Bool.eq_iff_iff, decide_eq_true_iff]
    exact namesZone_iff
  unfold recordUrls
  rw [leads_lookup]
  simp only [leads_zoneUrls, hfollowed]
  constructor
  · rintro (⟨e, rfl, rfl⟩ | ⟨records, es', rfl, h⟩)
    · exact .noRegion (regionRecord_eq_iff.1 rfl) e
    · exact .region (regionRecord_eq_iff.1 rfl) (tokens_eq_iff.1 rfl) h
  · intro h
    cases h with
    | noRegion hrecord e =>
      obtain rfl := regionRecord_eq_iff.2 hrecord
      exact .inl ⟨e, rfl, rfl⟩
    | region hrecord hnames hvisits =>
      obtain rfl := regionRecord_eq_iff.2 hrecord
      obtain rfl := tokens_eq_iff.2 hnames
      exact .inr ⟨_, _, rfl, hvisits⟩

/-- **What the chain looks up, and what comes of it, whatever the answers are.**  The lookups with their answers and the
result make up a chain, and every chain is gone through when these are the answers; so every resolver is led through one. -/
theorem lookups_of_chain (settings : DnsSettings) (given : Option String) (zone : String) :
    (∀ es result, ((Source.records settings given).urls zone).Leads es (.done result) ↔ Chain settings given zone es result) ∧
    ∀ {S : Type} (resolve : String → S → Except Error (List String) × S) (s : S), ∃ es,
      Program.Served (σ := lookup) resolve s es (((Source.records settings given).urls zone).run (σ := lookup) resolve s).2 ∧
      Chain settings given zone es (((Source.records settings given).urls zone).run (σ := lookup) resolve s).1 := by
  have hruns : ∀ es result,
      ((Source.records settings given).urls zone).Leads es (.done result) ↔ Chain settings given zone es result :=
    fun es result => leads_recordUrls
  refine ⟨hruns, fun resolve s => ?_⟩
  obtain ⟨es, hleads, hserved⟩ := Program.leads_run (σ := lookup) resolve ((Source.records settings given).urls zone) s
  exact ⟨es, hserved, (hruns es _).1 hleads⟩

/-- Two names begin with the zone, and the hosts of the first are lost when the second is not found. -/
example : Records.run [("txt.us-east-1.e.net", .ok ["us-east-1b \"US-East-1a.e..\"", "us-east-1a"]),
      ("txt.US-East-1a.e", .ok ["10.0.1.4"]), ("txt.us-east-1a", .error (.http "down"))]
    (recordUrls ⟨".e.net.", 8080, "/"⟩ (some " ") "us-east-1a") =
      (.error (.http "down"), ["txt.us-east-1.e.net", "txt.US-East-1a.e", "txt.us-east-1a"]) := by rfl

end Runs

end Discovery
end AddressBinder
