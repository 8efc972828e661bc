import AddressBinder.Config.Basic
/-!
# Keys of an account

An account gives its two keys as credentials exactly when both are set, and one that passes the check has none of them or
both.  Another secret key (`withSecret`) changes neither the check nor what a diagnostic shows.
-/
namespace AddressBinder

namespace Account

/-- The account with another secret key. -/
def withSecret (key : String) (a : Account) : Account := { a with secretKey := some key }

theorem isSet_eq_true_iff {o : Option String} : isSet o = true ↔ ∃ s, o = some s ∧ s ≠ "" := by
  cases o <;> simp [isSet]

theorem diagnostic_withSecret {a : Account} (h : isSet a.secretKey = true) (key : String) :
    (a.withSecret key).diagnostic = a.diagnostic := by
  obtain ⟨old, hold, -⟩ := isSet_eq_true_iff.1 h
  unfold diagnostic withSecret
  rw [hold]
  rfl

theorem isPaired_withSecret {a : Account} {key : String} (h : isSet a.secretKey = true) (hkey : key ≠ "") :
    (a.withSecret key).isPaired = a.isPaired := by
  have hset : isSet (some key) = true := isSet_eq_true_iff.2 ⟨key, rfl, hkey⟩
  unfold isPaired withSecret
  rw [h, hset]

/-- **The credentials are the two keys exactly when both are set.** -/
theorem credentials_eq_keys_iff {a : Account} {id secret : String} : a.credentials = .keys id secret ↔
    (a.accessId = some id ∧ id ≠ "") ∧ a.secretKey = some secret ∧ secret ≠ "" := by
  unfold credentials
  cases a.accessId with
  | none => simp
  | some other =>
    cases a.secretKey with
    | none => simp
    | some otherSecret =>
      simp only [Bool.or_eq_true, String.isEmpty_iff, Option.some.injEq]
      by_cases hempty : other = "" ∨ otherSecret = ""
      · rw [if_pos hempty]
        constructor
        · exact fun h => by cases h
        · rintro ⟨⟨rfl, hid⟩, rfl, hsecret⟩
          exact absurd hempty (not_or.2 ⟨hid, hsecret⟩)
      · rw [if_neg hempty, Credentials.keys.injEq]
        obtain ⟨hid, hsecret⟩ := not_or.1 hempty
        constructor
        · rintro ⟨rfl, rfl⟩
          exact ⟨⟨rfl, hid⟩, rfl, hsecret⟩
        · exact fun h => ⟨h.1.1, h.2.1⟩

theorem credentials_eq_instanceProfile {a : Account} (h : isSet a.accessId = false) : a.credentials = .instanceProfile := by
  cases hcredentials : a.credentials with
  | instanceProfile => rfl
  | keys id secret =>
    have hset := isSet_eq_true_iff.2 ⟨id, (credentials_eq_keys_iff.1 hcredentials).1⟩
    rw [h] at hset
    cases hset

theorem credentials_diagnostic_withSecret {a : Account} {key : String} (h : isSet a.secretKey = true) (hkey : key ≠ "") :
    (a.withSecret key).credentials.diagnostic = a.credentials.diagnostic := by
  obtain ⟨old, hold⟩ := isSet_eq_true_iff.1 h
  cases hset : isSet a.accessId with
  | false =>
    rw [credentials_eq_instanceProfile hset, credentials_eq_instanceProfile (a := a.withSecret key) hset]
  | true =>
    obtain ⟨id, hid⟩ := isSet_eq_true_iff.1 hset
    have hcredentials : a.credentials = .keys id old := credentials_eq_keys_iff.2 ⟨hid, hold⟩
    have hother : (a.withSecret key).credentials = .keys id key := credentials_eq_keys_iff.2 ⟨hid, rfl, hkey⟩
    rw [hcredentials, hother]
    unfold Credentials.diagnostic
    rfl

/-- **An account that is accepted gives keys exactly when its access id is set**, and none of the two keys is empty. -/
theorem keys_of_validateAccount {a : Account} (h : Config.validateAccount a = .ok ()) :
    ((∃ id secret, a.credentials = .keys id secret) ↔ ∃ id, a.accessId = some id ∧ id ≠ "") ∧
      ∀ id secret, a.credentials = .keys id secret → id ≠ "" ∧ secret ≠ "" := by
  refine ⟨⟨?_, ?_⟩, ?_⟩
  · rintro ⟨id, secret, hkeys⟩
    exact ⟨id, (credentials_eq_keys_iff.1 hkeys).1⟩
  · rintro ⟨id, hid⟩
    have hpaired : isSet a.accessId = isSet a.secretKey := by
      unfold Config.validateAccount at h
      split at h
      next hpaired => exact eq_of_beq hpaired
      next => cases h
    rw [isSet_eq_true_iff.2 ⟨id, hid⟩] at hpaired
    obtain ⟨secret, hsecret⟩ := isSet_eq_true_iff.1 hpaired.symm
    exact ⟨id, secret, credentials_eq_keys_iff.2 ⟨hid, hsecret⟩⟩
  · intro id secret hkeys
    obtain ⟨⟨-, hid⟩, -, hsecret⟩ := credentials_eq_keys_iff.1 hkeys
    exact ⟨hid, hsecret⟩

end Account

namespace Config

def withSecret (key : String) (c : Config) : Config := { c with account := c.account.withSecret key }

theorem validate_withSecret {c : Config} {key : String} (h : Account.isSet c.account.secretKey = true) (hkey : key ≠ "") :
    (c.withSecret key).validate = c.validate := by
  have haccount : validateAccount (c.account.withSecret key) = validateAccount c.account := by
    unfold validateAccount
    rw [Account.isPaired_withSecret h hkey]
  unfold validate withSecret
  rw [haccount]

end Config

end AddressBinder
