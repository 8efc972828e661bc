import AddressBinder.Proofs.Config.Account
import AddressBinder.Proofs.Daemon.Acceptance
import AddressBinder.Proofs.Daemon.Loading
import AddressBinder.Proofs.Simulation.Transcript
/-!
# The secret key never shows

The secret key is a part of the settings, of the configuration and of the binder, and nothing asks for more than whether it
is set.  Whatever is made from an environment with another key is what is made from the first, its key changed for the
other one (`withSecret`).  A world serves the same replies then (`follows_withSecret`) and the threads of the
daemon are the same programs, so a run with another key is the same run to everyone who watches it.
-/
namespace AddressBinder

/-! ## From the environment -/

namespace Daemon

/-- Nothing but the value of one variable makes the difference between two environments. -/
def Environment.DifferOnlyIn (name : String) (env env' : Environment) : Prop :=
  ∀ other, other ≠ name → env.lookup other = env'.lookup other

namespace Settings

def withSecret (key : String) (s : Settings) : Settings := { s with secretKey := some key }

theorem binderConfig_withSecret {s : Settings} {key : String} (h : Account.isSet s.secretKey = true) (hkey : key ≠ "") :
    (s.withSecret key).binderConfig = Config.withSecret key <$> s.binderConfig := by
  have hdescribed : (s.withSecret key).describedConfig = s.describedConfig.withSecret key := rfl
  unfold binderConfig
  rw [hdescribed, Config.validate_withSecret h hkey]
  cases s.describedConfig.validate with
  | error fault => rfl
  | ok _ => rfl

variable {env env' : Environment} {key key' : String}

/-- **Another key in the environment is another key in the settings, and nothing else.** -/
theorem load_of_differOnlyIn (h : Environment.DifferOnlyIn "ENIBIND_SECRET_KEY" env env')
    (hkey' : env'.Holds "ENIBIND_SECRET_KEY" key') : load env' = withSecret key' <$> load env := by
  have hget : ∀ name, name ≠ "ENIBIND_SECRET_KEY" → env'.get? name = env.get? name := by
    intro name hname
    rw [get?_eq, get?_eq, h name hname]
  simp (disch := decide) only [load, Environment.typed?, hget, get?_eq_some_iff.2 hkey', map_bind, map_pure]
  rfl

theorem secretKey_of_load {s : Settings} (h : load env = .ok s) : s.secretKey = env.get? "ENIBIND_SECRET_KEY" := by
  have hload : (fun s => s.secretKey) <$> load env = (fun _ => env.get? "ENIBIND_SECRET_KEY") <$> load env := by
    simp only [load, map_bind, map_pure]
  rw [h] at hload
  exact Except.ok.inj hload

theorem isSet_of_load {s : Settings} (h : load env = .ok s) (hkey : env.Holds "ENIBIND_SECRET_KEY" key) :
    Account.isSet s.secretKey = true :=
  Account.isSet_eq_true_iff.2 ⟨key, (secretKey_of_load h).trans (get?_eq_some_iff.2 hkey), hkey.ne_empty⟩

end Settings

end Daemon

/-! ## Through a run -/

def Binder.withSecret (key : String) (b : Binder) : Binder := { b with config := b.config.withSecret key }

namespace Simulation

def Member.withSecret (key : String) (m : Member) : Member := { m with binder := m.binder.withSecret key }

namespace World

/-- The world with another secret key in every binder. -/
def withSecret (key : String) (w : World) : World := { w with members := w.members.map (Member.withSecret key) }

variable (key : String) (w : World)

theorem member?_withSecret (number : Nat) :
    (w.withSecret key).member? number = (w.member? number).map (Member.withSecret key) :=
  List.getElem?_map ..

theorem updateMember_withSecret (number : Nat) {f : Member → Member}
    (hf : ∀ m : Member, f (m.withSecret key) = (f m).withSecret key) :
    (w.withSecret key).updateMember number f = (w.updateMember number f).withSecret key := by
  have hmodify : (w.members.map (Member.withSecret key)).modify number f =
      (w.members.modify number f).map (Member.withSecret key) := by
    apply List.ext_getElem?
    intro i
    simp only [List.getElem?_modify, List.getElem?_map]
    cases w.members[i]? with
    | none => rfl
    | some m => by_cases hi : number = i <;> simp [hi, hf]
  unfold updateMember withSecret
  rw [hmodify]

theorem nameOf_withSecret (party : Party) : (w.withSecret key).nameOf party = w.nameOf party := by
  cases party with
  | inventory => rfl
  | member number =>
    simp only [nameOf, member?_withSecret, Option.map_map]
    rfl

theorem takeEntry_withSecret (party : Party) (method : Method) : (w.withSecret key).takeEntry party method =
    ((w.takeEntry party method).1, (w.takeEntry party method).2.withSecret key) := by
  cases party with
  | inventory => rfl
  | member number =>
    simp only [takeEntry, member?_withSecret]
    cases w.member? number with
    | none => rfl
    | some m => exact congrArg (Prod.mk _) (updateMember_withSecret key w number fun _ => rfl)

theorem serveOwn_withSecret (number : Nat) (o : Lifecycle.Own) : (w.withSecret key).serveOwn number o =
    (w.serveOwn number o).map fun a => (a.1, a.2.withSecret key) := by
  unfold serveOwn
  rw [member?_withSecret]
  cases w.member? number with
  | none => rfl
  | some m =>
    change (m.state.serve w.clock o).map _ = ((m.state.serve w.clock o).map _).map _
    rw [Option.map_map]
    refine congrArg (Option.map · _) (funext fun r => ?_)
    exact congrArg (Prod.mk r.1) (updateMember_withSecret key w number fun _ => rfl)

theorem serve_withSecret (r : Request) : serve r (w.withSecret key) = (serve r w).map fun a => (a.1, a.2.withSecret key) := by
  cases r with
  | clock r =>
    simp only [serve, Option.map_map]
    rfl
  | own number o => exact serveOwn_withSecret key w number o
  | provider call => rfl
  | http request => rfl
  | trace party call =>
    simp only [serve, nameOf_withSecret]
    rfl
  | script party method => exact congrArg some (takeEntry_withSecret key w party method)
  | metadata number =>
    simp only [serve, member?_withSecret, Option.map_map]
    rfl
  | records number record =>
    simp only [serve, member?_withSecret, Option.map_map]
    rfl
  | synced number =>
    simp only [serve, member?_withSecret, Option.map_map]
    rfl
  | hold number => exact congrArg (fun x => some ((), x)) (updateMember_withSecret key w number fun _ => rfl)
  | letGo number => exact congrArg (fun x => some ((), x)) (updateMember_withSecret key w number fun _ => rfl)

/-- **A world with other keys serves the same replies.** -/
theorem follows_withSecret : Machine.Follows kernel kernel (withSecret key) where
  serve r w := serve_withSecret key w r
  due _ := rfl
  clock _ := rfl
  setClock _ _ := rfl

end World

theorem drainEvents_withSecret (key : String) (m : Sim) (number : Nat) :
    drainEvents (m.mapState (World.withSecret key)) number =
      ((drainEvents m number).1, (drainEvents m number).2.mapState (World.withSecret key)) := by
  have hmember : (m.mapState (World.withSecret key)).state.member? number =
      (m.state.member? number).map (Member.withSecret key) := World.member?_withSecret key m.state number
  simp only [drainEvents, hmember]
  cases m.state.member? number with
  | none => rfl
  | some x =>
    have hdrained := World.updateMember_withSecret key m.state number
      (f := fun x => { x with state := { x.state with channel := x.state.channel.drain.2 } }) fun _ => rfl
    exact congrArg (fun w => (x.state.channel.drain.1, Machine.mk w m.threads)) hdrained

namespace Running

def withSecret (key : String) (r : Running) : Running :=
  ⟨r.wiring, r.binder.withSecret key, r.machine.mapState (World.withSecret key)⟩

variable (key : String) (r : Running)

theorem thread_withSecret (op : Operation) : (r.withSecret key).thread op = r.thread op := by
  cases op <;> rfl

theorem moves_withSecret (a : Act) : (r.withSecret key).moves a = r.moves a := by
  cases a <;> simp only [moves, thread_withSecret]

theorem play_withSecret (m : Sim) (moves : List Move) : play kernel (m.mapState (World.withSecret key)) moves =
    (play kernel m moves).mapState (World.withSecret key) :=
  play_mapState (World.follows_withSecret key) moves m

theorem machine_withSecret : (r.withSecret key).machine = r.machine.mapState (World.withSecret key) := rfl

theorem awaiting_withSecret (signalTime : Nat) :
    (r.withSecret key).awaiting signalTime = (r.awaiting signalTime).mapState (World.withSecret key) := by
  rw [awaiting, machine_withSecret, thread_withSecret, play_withSecret]
  rfl

theorem stopped_withSecret (signalTime limit : Nat) :
    (r.withSecret key).stopped signalTime limit = (r.stopped signalTime limit).mapState (World.withSecret key) := by
  rw [stopped, awaiting_withSecret, thread_withSecret, play_withSecret]
  rfl

/-- **An act gives the same with every key**, and leaves the key as the only difference. -/
theorem act_withSecret (a : Act) : (r.withSecret key).act a = ((r.act a).1, (r.act a).2.withSecret key) := by
  cases a with
  | operate op =>
    rw [act_operate, act_operate, machine_withSecret, thread_withSecret, play_withSecret]
    generalize play kernel r.machine [.finish (r.thread op) none] = m
    rfl
  | launch op =>
    rw [act_launch, act_launch, machine_withSecret, thread_withSecret, play_withSecret]
    generalize play kernel r.machine [.launch (r.thread op)] = m
    rfl
  | idle ms =>
    rw [act_idle, act_idle, machine_withSecret, play_withSecret]
    generalize play kernel r.machine [.wait ms] = m
    rfl
  | drain =>
    have hdrain := drainEvents_withSecret key r.machine number
    simp only [act, drain, machine_withSecret, hdrain]
    rfl
  | untilSignal signalTime timeoutSeconds =>
    rw [act_untilSignal, act_untilSignal, stopped_withSecret, awaiting_withSecret]
    generalize r.stopped signalTime (1000 * timeoutSeconds) = m
    generalize r.awaiting signalTime = m'
    rfl

theorem exchanges_withSecret (a : Act) : (r.withSecret key).exchanges a = r.exchanges a := by
  have hunwritten : unwritten (r.withSecret key).machine =
    (unwritten r.machine).mapState (Prod.map (World.withSecret key) id) := rfl
  unfold exchanges
  rw [hunwritten, moves_withSecret, play_mapState (World.follows_withSecret key).recording]
  rfl

theorem status?_withSecret : (r.withSecret key).status? = r.status? := by
  unfold status? Simulation.status?
  rw [machine_withSecret]
  change (World.member? (r.machine.state.withSecret key) number).map _ = _
  rw [World.member?_withSecret, Option.map_map]
  rfl

theorem sight_withSecret (a : Act) : (r.withSecret key).sight a = r.sight a := by
  unfold sight
  rw [act_withSecret, exchanges_withSecret, status?_withSecret]
  rfl

/-- **Whoever watches a run sees the same with every key.** -/
theorem sights_withSecret : ∀ (acts : List Act) (r : Running), (r.withSecret key).sights acts = r.sights acts
  | [], _ => rfl
  | a :: acts, r => by
    rw [sights, sights, sight_withSecret, act_withSecret, sights_withSecret acts]

theorem after_withSecret : ∀ (acts : List Act) (r : Running), (r.withSecret key).after acts = (r.after acts).withSecret key
  | [], _ => rfl
  | a :: acts, r => by
    rw [after, after, act_withSecret, after_withSecret acts]

end Running

theorem setUp_withSecret {s : Daemon.Settings} {config : Config} {w : Daemon.Wiring} {b : Binder} {key : String}
    (hwire : Daemon.wire s config = .ok w) (hbinder : Daemon.newBinder config = .ok b)
    (hother : Daemon.newBinder (config.withSecret key) = .ok (b.withSecret key)) (sites : List Http.Site) :
    ∃ r, Running.setUp s config sites = .ok r ∧
      Running.setUp (s.withSecret key) (config.withSecret key) sites = .ok (r.withSecret key) :=
  have hwire' : Daemon.wire (s.withSecret key) (config.withSecret key) = .ok w := hwire
  ⟨_, setUp_eq hwire hbinder sites, setUp_eq hwire' hother sites⟩

end Simulation

namespace Daemon

open Simulation

variable {env env' : Environment} {key key' : String}

theorem prepare_of_differOnlyIn (h : Environment.DifferOnlyIn "ENIBIND_SECRET_KEY" env env')
    (hkey : env.Holds "ENIBIND_SECRET_KEY" key) (hkey' : env'.Holds "ENIBIND_SECRET_KEY" key') :
    prepare env' = (fun p => (p.1.withSecret key', p.2.withSecret key')) <$> prepare env := by
  have hload := Settings.load_of_differOnlyIn h hkey'
  cases hs : Settings.load env with
  | error u =>
    have hload' : Settings.load env' = .error u := by
      rw [hload, hs]
      rfl
    simp only [prepare, hs, hload']
    rfl
  | ok s =>
    have hload' : Settings.load env' = .ok (s.withSecret key') := by
      rw [hload, hs]
      rfl
    have hvalidate : (s.withSecret key').validate = s.validate := rfl
    have hbinder := Settings.binderConfig_withSecret (Settings.isSet_of_load hs hkey) hkey'.ne_empty
    simp only [prepare, hs, hload', hvalidate, hbinder]
    cases s.validate with
    | error fault => rfl
    | ok _ => cases s.binderConfig <;> rfl

/-- **The secret key never shows.**  Environments that differ in a secret key that both have lead to the same refusal or to
settings and a configuration with no other difference, which look the same in a diagnostic.  A daemon that is set up from
them gives, asks and shows the same for whatever it is told to do.  And an account that is accepted gives keys exactly when
its access id is set, never an empty one. -/
theorem secret_key_never_shows (h : Environment.DifferOnlyIn "ENIBIND_SECRET_KEY" env env')
    (hkey : env.Holds "ENIBIND_SECRET_KEY" key) (hkey' : env'.Holds "ENIBIND_SECRET_KEY" key') :
    Settings.load env' = Settings.withSecret key' <$> Settings.load env ∧
    (∀ s, Settings.load env = .ok s →
      (s.withSecret key').validate = s.validate ∧
      (s.withSecret key').binderConfig = Config.withSecret key' <$> s.binderConfig ∧
      (s.withSecret key').describedConfig.account.diagnostic = s.describedConfig.account.diagnostic ∧
      (s.withSecret key').describedConfig.account.credentials.diagnostic =
        s.describedConfig.account.credentials.diagnostic) ∧
    prepare env' = (fun p => (p.1.withSecret key', p.2.withSecret key')) <$> prepare env ∧
    (∀ s config, prepare env = .ok (s, config) → ∀ sites, ∃ r,
      Running.setUp s config sites = .ok r ∧
      Running.setUp (s.withSecret key') (config.withSecret key') sites = .ok (r.withSecret key') ∧
      ∀ acts, (r.withSecret key').sights acts = r.sights acts ∧
        (r.withSecret key').after acts = (r.after acts).withSecret key') ∧
    ∀ a : Account, Config.validateAccount a = .ok () →
      ((∃ id secret, a.credentials = .keys id secret) ↔ ∃ id, a.accessId = some id ∧ id ≠ "") ∧
        ∀ id secret, a.credentials = .keys id secret → id ≠ "" ∧ secret ≠ "" := by
  refine ⟨Settings.load_of_differOnlyIn h hkey', fun s hs => ?_, prepare_of_differOnlyIn h hkey hkey',
    fun s config hprepare sites => ?_, fun a => Account.keys_of_validateAccount⟩
  · have hset : Account.isSet s.describedConfig.account.secretKey = true := Settings.isSet_of_load hs hkey
    have haccount : (s.withSecret key').describedConfig.account = s.describedConfig.account.withSecret key' := rfl
    rw [haccount]
    exact ⟨rfl, Settings.binderConfig_withSecret hset hkey'.ne_empty, Account.diagnostic_withSecret hset key',
      Account.credentials_diagnostic_withSecret hset hkey'.ne_empty⟩
  · have haccepted := accepted_of_prepare hprepare
    obtain ⟨source, hwire, -⟩ := haccepted.wire
    have hset : Account.isSet config.account.secretKey = true := by
      rw [haccepted.described]
      exact Settings.isSet_of_load (stages_of_prepare hprepare).1 hkey
    have hvalid : (config.withSecret key').validate = .ok () :=
      (Config.validate_withSecret hset hkey'.ne_empty).trans haccepted.valid
    have hother : newBinder (config.withSecret key') = .ok (Binder.withSecret key' ⟨config, Cloud.backend⟩) := by
      simp only [newBinder, Binder.new, hvalid]
      rfl
    obtain ⟨r, hr, hr'⟩ := setUp_withSecret hwire haccepted.newBinder hother sites
    exact ⟨r, hr, hr', fun acts => ⟨Running.sights_withSecret key' acts r, Running.after_withSecret key' acts r⟩⟩

/-- An environment with both keys of an account. -/
def keyed (secret : String) : Environment :=
  ("ENIBIND_SECRET_KEY", secret) :: ("ENIBIND_ACCESS_ID", "AKIAEXAMPLE") :: lookingUp

theorem accepts_keyed : (prepare (keyed "alpha")).toOption.isSome = true := by decide +kernel

/-- Two padded keys, and a daemon that is set up with each. -/
theorem secret_key_never_shows_of_keyed : ∃ s config r r', prepare (keyed "alpha") = .ok (s, config) ∧
    prepare (keyed " beta ") = .ok (s.withSecret "beta", config.withSecret "beta") ∧
    Running.setUp s config [] = .ok r ∧ Running.setUp (s.withSecret "beta") (config.withSecret "beta") [] = .ok r' ∧
    (∀ acts, r'.sights acts = r.sights acts) ∧
    ∃ id secret, Account.credentials ⟨some "AKIAEXAMPLE", some "alpha", none⟩ = .keys id secret := by
  have hdiffer : Environment.DifferOnlyIn "ENIBIND_SECRET_KEY" (keyed "alpha") (keyed " beta ") := by
    intro other hother
    simp only [keyed, List.lookup_cons, beq_eq_false_iff_ne.2 hother]
  have hkey : (keyed "alpha").Holds "ENIBIND_SECRET_KEY" "alpha" := get?_eq_some_iff.1 (by decide)
  have hkey' : (keyed " beta ").Holds "ENIBIND_SECRET_KEY" "beta" := get?_eq_some_iff.1 (by decide)
  obtain ⟨-, -, hprepare, hruns, haccount⟩ := secret_key_never_shows hdiffer hkey hkey'
  have haccepts := accepts_keyed
  cases hs : prepare (keyed "alpha") with
  | error refusal =>
    rw [hs] at haccepts
    cases haccepts
  | ok accepted =>
    obtain ⟨s, config⟩ := accepted
    obtain ⟨r, hr, hr', hsights⟩ := hruns s config hs []
    rw [hs] at hprepare
    exact ⟨s, config, r, _, rfl, hprepare, hr, hr', fun acts => (hsights acts).1,
      (haccount ⟨some "AKIAEXAMPLE", some "alpha", none⟩ rfl).1.2 ⟨_, rfl, by decide⟩⟩

end Daemon
end AddressBinder
