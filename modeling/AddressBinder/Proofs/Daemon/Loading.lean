import AddressBinder.Daemon.Settings
import AddressBinder.Proofs.Text.Words
/-!
# Settings out of an environment

A variable counts by its value without the blanks around it, and a blank one counts as unset, so environments that agree on
these values lead to the same settings or to the same refusal (`load_congr`).  Eight variables are typed.  They are read in
a fixed order, and the first whose value is none of its type is reported (`checks_load`).
-/
namespace AddressBinder
namespace Daemon

open Text

/-! ## Values that count -/

/-- A variable has a value: what is left of it without the blanks around it, if anything is. -/
def Environment.Holds (env : Environment) (name value : String) : Prop :=
  ∃ raw, env.lookup name = some raw ∧ IsCore isBlank raw.toList value.toList ∧ value ≠ ""

theorem Environment.Holds.ne_empty {env : Environment} {name value : String} (h : env.Holds name value) : value ≠ "" := by
  obtain ⟨raw, -, -, hne⟩ := h
  exact hne

/-- Two environments give the daemon's variables the same values, blanks around them apart.  An unset variable is taken for
a blank one. -/
def Environment.Agrees (env env' : Environment) : Prop :=
  ∀ name ∈ variableNames, trim ((env.lookup name).getD "").toList = trim ((env'.lookup name).getD "").toList

variable {env env' : Environment} {name value : String} {α β : Type}

theorem get?_eq (env : Environment) (name : String) : env.get? name =
    if (trim ((env.lookup name).getD "").toList).isEmpty then none
    else some (String.ofList (trim ((env.lookup name).getD "").toList)) := by
  unfold Environment.get?
  cases env.lookup name <;> rfl

/-- **The value of a variable is what it holds**, and it holds nothing when it is unset or blank. -/
theorem get?_eq_some_iff : env.get? name = some value ↔ env.Holds name value := by
  unfold Environment.get? Environment.Holds
  cases env.lookup name with
  | none => simp
  | some raw =>
    simp only [Option.some.injEq, exists_eq_left', ← dropEnds_eq_iff]
    change (if (trim raw.toList).isEmpty then none else some (String.ofList (trim raw.toList))) = some value ↔
      trim raw.toList = value.toList ∧ value ≠ ""
    by_cases hblank : trim raw.toList = []
    · simp only [hblank, List.isEmpty_nil, if_true]
      constructor
      · exact nofun
      · rintro ⟨hvalue, hne⟩
        exact absurd (String.toList_eq_nil_iff.1 hvalue.symm) hne
    · rw [if_neg (by simpa using hblank), Option.some.injEq]
      constructor
      · rintro rfl
        simp [hblank]
      · rintro ⟨hvalue, -⟩
        rw [hvalue, String.ofList_toList]

/-- **Settings depend on the values that count, and on nothing else of the environment.** -/
theorem load_congr (h : env.Agrees env') : Settings.load env = Settings.load env' := by
  have hget : ∀ name ∈ variableNames, env.get? name = env'.get? name := by
    intro name hname
    rw [get?_eq, get?_eq, h name hname]
  simp (disch := decide) only [Settings.load, Environment.typed?, hget]

/-! ## Values of a type -/

def IsBool (text : String) : Prop := text = "true" ∨ text = "false"

/-- Text of digits, with a plus sign before them or not, whose number is within a limit. -/
def IsNumber (limit : Nat) (text : String) : Prop :=
  ∃ digits n, (text.toList = digits ∨ text.toList = '+' :: digits) ∧ digits? digits = some n ∧ n ≤ limit

/-- Text that is the name of a strategy, however it is capitalised. -/
def IsStrategy (text : String) : Prop := ∃ strategy : Strategy, Strategy.nameKey text = strategy.name

theorem readBool_eq_ok_iff (text : String) : (∃ b, readBool text = .ok b) ↔ IsBool text := by
  unfold readBool IsBool
  split <;> simp_all

theorem name_eq_of_ofName? {name : String} {strategy : Strategy} (h : Strategy.ofName? name = some strategy) :
    strategy.name = name := by
  unfold Strategy.ofName? at h
  split at h <;> cases h <;> rfl

theorem readStrategy_eq_ok_iff (text : String) : (∃ s, readStrategy text = .ok s) ↔ IsStrategy text := by
  unfold readStrategy Strategy.ofString IsStrategy
  constructor
  · rintro ⟨strategy, h⟩
    cases hname : Strategy.ofName? (Strategy.nameKey text) with
    | none =>
      rw [hname] at h
      cases h
    | some strategy => exact ⟨strategy, (name_eq_of_ofName? hname).symm⟩
  · rintro ⟨strategy, hname⟩
    rw [hname]
    exact ⟨strategy, by cases strategy <;> rfl⟩

theorem le_of_digitsFrom : ∀ {n m : Nat} {cs : List Char}, digitsFrom n cs = some m → n ≤ m
  | n, m, [], h => by
    obtain rfl := Option.some.inj h
    exact Nat.le_refl n
  | n, m, c :: cs, h => by
    rw [digitsFrom] at h
    cases hd : digit? c with
    | none =>
      rw [hd] at h
      cases h
    | some d =>
      rw [hd] at h
      have hle := le_of_digitsFrom h
      omega

theorem readDigits_eq_ok_iff {limit : Nat} : ∀ {n m : Nat} {cs : List Char}, n ≤ limit →
    (readDigits limit n cs = .ok m ↔ digitsFrom n cs = some m ∧ m ≤ limit)
  | n, m, [], hn => by
    simp only [readDigits, digitsFrom, Except.ok.injEq, Option.some.injEq]
    constructor
    · rintro rfl
      exact ⟨rfl, hn⟩
    · exact fun h => h.1
  | n, m, c :: cs, hn => by
    rw [readDigits, digitsFrom]
    cases digit? c with
    | none => simp
    | some d =>
      dsimp only
      by_cases hd : 10 * n + d ≤ limit
      · rw [if_pos hd]
        exact readDigits_eq_ok_iff hd
      · -- the number only grows with more digits
        rw [if_neg hd]
        simp only [reduceCtorEq, false_iff, not_and]
        intro h hm
        have hle := le_of_digitsFrom h
        omega

theorem readNat_eq_ok_iff (limit : Nat) (text : String) : (∃ n, readNat limit text = .ok n) ↔ IsNumber limit text := by
  have hdigits : ∀ {cs : List Char}, cs ≠ [] →
      ((∃ n, readDigits limit 0 cs = .ok n) ↔ ∃ n, digits? cs = some n ∧ n ≤ limit) := by
    intro cs hne
    rw [digits?, if_neg (by simpa using hne)]
    exact exists_congr fun n => readDigits_eq_ok_iff (Nat.zero_le limit)
  unfold readNat IsNumber
  split
  next htext =>
    -- a run of digits has at least one
    rw [htext]
    simp [digits?]
  next c cs htext =>
    rw [hdigits (List.cons_ne_nil c cs), htext]
    constructor
    · rintro ⟨n, hn⟩
      exact ⟨c :: cs, n, .inr rfl, hn⟩
    · rintro ⟨digits, n, hplus | hplus, hn⟩
      · -- a plus sign is no digit
        rw [← hplus] at hn
        cases hn.1
      · rw [← (List.cons.inj hplus).2] at hn
        exact ⟨n, hn⟩
  next cs hne hplus =>
    rw [hdigits hne]
    constructor
    · rintro ⟨n, hn⟩
      exact ⟨text.toList, n, .inl rfl, hn⟩
    · rintro ⟨digits, n, rfl | hdigits, hn⟩
      · exact ⟨n, hn⟩
      · cases digits with
        | nil => cases hn.1
        | cons c cs => exact absurd hdigits (hplus c cs)

/-! ## The first value that is none of its type -/

/-- A variable with the texts that it may have as its value. -/
structure TypedVariable where
  name : String
  Admits : String → Prop

/-- The typed variables in the order in which they are read. -/
def typedVariables : List TypedVariable :=
  [⟨"ENIBIND_USE_DNS", IsBool⟩, ⟨"ENIBIND_DNS_PORT", IsNumber portLimit⟩, ⟨"ENIBIND_BINDING_STRATEGY", IsStrategy⟩,
    ⟨"ENIBIND_BIND_RETRIES", IsNumber settingLimit⟩, ⟨"ENIBIND_BOUND_INTERVAL_MS", IsNumber settingLimit⟩,
    ⟨"ENIBIND_UNBOUND_INTERVAL_MS", IsNumber settingLimit⟩, ⟨"ENIBIND_RETRY_SLEEP_MS", IsNumber settingLimit⟩,
    ⟨"ENIBIND_SHUTDOWN_TIMEOUT_SECS", IsNumber settingLimit⟩]

/-- A variable has a value that it may not have. -/
def Environment.Misuses (env : Environment) (v : TypedVariable) (value : String) : Prop :=
  env.Holds v.name value ∧ ¬ v.Admits value

/-- The first of the variables with a value that it may not have, by its name and that value. -/
def Environment.MisusesFirst (env : Environment) (vs : List TypedVariable) (name value : String) : Prop :=
  ∃ before v after, vs = before ++ v :: after ∧ (∀ w ∈ before, ∀ text, ¬ env.Misuses w text) ∧ v.name = name ∧
    env.Misuses v value

/-- A computation reads variables in order: it fails with the first that has a value it may not have. -/
def Checks (env : Environment) (vs : List TypedVariable) (x : Except Unreadable α) : Prop :=
  ∀ name value, (∃ reason, x = .error ⟨name, value, reason⟩) ↔ env.MisusesFirst vs name value

variable {v : TypedVariable} {vs : List TypedVariable}

theorem misusesFirst_cons_iff : env.MisusesFirst (v :: vs) name value ↔
    (v.name = name ∧ env.Misuses v value) ∨ ((∀ text, ¬ env.Misuses v text) ∧ env.MisusesFirst vs name value) := by
  constructor
  · rintro ⟨before, w, after, hvs, hbefore, hname, hvalue⟩
    cases before with
    | nil =>
      obtain ⟨rfl, rfl⟩ := List.cons.inj hvs
      exact .inl ⟨hname, hvalue⟩
    | cons v' before =>
      obtain ⟨rfl, rfl⟩ := List.cons.inj hvs
      obtain ⟨hfirst, hbefore⟩ := List.forall_mem_cons.1 hbefore
      exact .inr ⟨hfirst, before, w, after, rfl, hbefore, hname, hvalue⟩
  · rintro (⟨hname, hvalue⟩ | ⟨hfirst, before, w, after, rfl, hbefore, hname, hvalue⟩)
    · exact ⟨[], v, vs, rfl, fun _ hw => absurd hw List.not_mem_nil, hname, hvalue⟩
    · exact ⟨v :: before, w, after, rfl, List.forall_mem_cons.2 ⟨hfirst, hbefore⟩, hname, hvalue⟩

/-- When a variable has a value that it may not have, there is a first one. -/
theorem exists_misusesFirst_iff : (∃ name value, env.MisusesFirst vs name value) ↔ ∃ v ∈ vs, ∃ value, env.Misuses v value := by
  constructor
  · rintro ⟨name, value, before, v, after, rfl, -, -, hvalue⟩
    exact ⟨v, by simp, value, hvalue⟩
  · induction vs with
    | nil => rintro ⟨v, hv, -⟩; cases hv
    | cons w vs ih =>
      rintro ⟨v, hv, value, hvalue⟩
      by_cases hfirst : ∃ text, env.Misuses w text
      · obtain ⟨text, htext⟩ := hfirst
        exact ⟨w.name, text, misusesFirst_cons_iff.2 (.inl ⟨rfl, htext⟩)⟩
      · rcases List.mem_cons.1 hv with rfl | hv
        · exact absurd ⟨value, hvalue⟩ hfirst
        · obtain ⟨name, text, htext⟩ := ih ⟨v, hv, value, hvalue⟩
          exact ⟨name, text, misusesFirst_cons_iff.2 (.inr ⟨not_exists.1 hfirst, htext⟩)⟩

theorem checks_done (env : Environment) (a : α) : Checks env [] (.ok a) := by
  intro name value
  constructor
  · rintro ⟨reason, h⟩
    cases h
  · rintro ⟨before, v, after, hvs, -⟩
    exact absurd hvs (by simp)

/-- Reading one more variable before the others. -/
theorem checks_typed? {read : String → Except String β} (hread : ∀ text, (∃ b, read text = .ok b) ↔ v.Admits text)
    {f : Option β → Except Unreadable α} (h : ∀ b, Checks env vs (f b)) :
    Checks env (v :: vs) (env.typed? v.name read >>= f) := by
  intro name value
  rw [misusesFirst_cons_iff]
  cases hget : env.get? v.name with
  | none =>
    have hno : ∀ text, ¬ env.Misuses v text := by
      rintro text ⟨htext, -⟩
      rw [get?_eq_some_iff.2 htext] at hget
      cases hget
    simpa [Environment.typed?, hget, hno, bind, Except.bind] using h none name value
  | some text =>
    have hmisuses : ∀ other, env.Misuses v other ↔ text = other ∧ ¬ v.Admits text := by
      intro other
      rw [Environment.Misuses, ← get?_eq_some_iff, hget, Option.some.injEq]
      constructor <;> (rintro ⟨rfl, hno⟩; exact ⟨rfl, hno⟩)
    cases hresult : read text with
    | ok b =>
      have hadmits : v.Admits text := (hread text).1 ⟨b, hresult⟩
      simpa [Environment.typed?, hget, hresult, hmisuses, hadmits, bind, Except.bind] using h (some b) name value
    | error reason =>
      have hrefuses : ¬ v.Admits text := fun hadmits => by
        obtain ⟨b, hb⟩ := (hread text).2 hadmits
        rw [hresult] at hb
        cases hb
      simp [Environment.typed?, hget, hresult, hmisuses, hrefuses, bind, Except.bind]

theorem checks_load (env : Environment) : Checks env typedVariables (Settings.load env) :=
  checks_typed? readBool_eq_ok_iff fun _ => checks_typed? (readNat_eq_ok_iff _) fun _ =>
    checks_typed? readStrategy_eq_ok_iff fun _ => checks_typed? (readNat_eq_ok_iff _) fun _ =>
    checks_typed? (readNat_eq_ok_iff _) fun _ => checks_typed? (readNat_eq_ok_iff _) fun _ =>
    checks_typed? (readNat_eq_ok_iff _) fun _ => checks_typed? (readNat_eq_ok_iff _) fun _ => checks_done env _

/-- **Settings follow the values that count.**  Environments that agree on them lead to the same settings, with the same
verdict of the daemon's checks and the same configuration of the binder, or to the same refusal.  Settings are missing
exactly when a typed variable has a value that is none of its type, and the text of the refusal begins with the name and the
value of the first one that has. -/
theorem settings_follow_values (env env' : Environment) :
    (env.Agrees env' →
      Settings.load env = Settings.load env' ∧
      (Settings.load env).map (fun s => (s.validate, s.binderConfig)) =
        (Settings.load env').map (fun s => (s.validate, s.binderConfig)) ∧
      prepare env = prepare env') ∧
    ((∃ u, Settings.load env = .error u) ↔ ∃ v ∈ typedVariables, ∃ value, env.Misuses v value) ∧
    ∀ name value, env.MisusesFirst typedVariables name value ↔ ∃ reason, Settings.load env = .error ⟨name, value, reason⟩ ∧
      (Settings.load env).mapError Unreadable.message =
        .error (name ++ " has an invalid value '" ++ value ++ "': " ++ reason) := by
  refine ⟨fun h => ?_, ?_, fun name value => ?_⟩
  · have hload := load_congr h
    exact ⟨hload, by rw [hload], by simp only [prepare, hload]⟩
  · rw [← exists_misusesFirst_iff]
    constructor
    · rintro ⟨⟨name, value, reason⟩, hu⟩
      exact ⟨name, value, (checks_load env name value).1 ⟨reason, hu⟩⟩
    · rintro ⟨name, value, hfirst⟩
      obtain ⟨reason, hu⟩ := (checks_load env name value).2 hfirst
      exact ⟨_, hu⟩
  · rw [← checks_load env name value]
    refine exists_congr fun reason => ⟨fun hu => ⟨hu, ?_⟩, And.left⟩
    rw [hu]
    rfl

/-- Padding and blank values change nothing, and a port that is too large is reported before a bad number of retries. -/
theorem settings_follow_values_padded :
    Settings.load [("ENIBIND_BIND_RETRIES", "many"), ("ENIBIND_REGION", " \t"), ("ENIBIND_DNS_PORT", "\u00a0+65536\n")] =
        Settings.load [("ENIBIND_DNS_PORT", "+65536"), ("ENIBIND_USE_DNS", ""), ("ENIBIND_BIND_RETRIES", " many")] ∧
      Environment.MisusesFirst [("ENIBIND_DNS_PORT", "+65536"), ("ENIBIND_USE_DNS", ""), ("ENIBIND_BIND_RETRIES", " many")]
        typedVariables "ENIBIND_DNS_PORT" "+65536" :=
  ⟨((settings_follow_values _ _).1 (by unfold Environment.Agrees; decide)).1,
    ((settings_follow_values _ []).2.2 _ _).2 ⟨"number too large to fit in target type", by rfl, by rfl⟩⟩

end Daemon
end AddressBinder
