import AddressBinder.Text.Numeral
/-!
# Numerals read back

The value of a run of base-sixteen digits, which the filled form of a number does not lose (`hexValue_hexPadded`), and the
value of a decimal numeral, which is the one canonical form of its number (`canonical?_eq_some`): two numbers have
different forms.
-/
namespace AddressBinder
namespace Text

/-- The value of a run of base-sixteen digits appended to the value `n`; any other character counts as zero. -/
def hexValue (n : Nat) (cs : List Char) : Nat := cs.foldl (fun v c => 16 * v + (hexDigit? c).getD 0) n

theorem hexValue_append (n : Nat) (cs ds : List Char) : hexValue n (cs ++ ds) = hexValue (hexValue n cs) ds :=
  List.foldl_append

theorem hexDigit?_digitChar : ∀ d < 16, hexDigit? d.digitChar = some d := by decide

theorem hexValue_singleton (n d : Nat) (hd : d < 16) : hexValue n [d.digitChar] = 16 * n + d := by
  simp [hexValue, hexDigit?_digitChar d hd]

theorem hexValue_toDigits (n : Nat) : hexValue 0 (Nat.toDigits 16 n) = n := by
  induction n using Nat.strongRecOn with
  | ind n ih =>
    rcases Nat.lt_or_ge n 16 with hn | hn
    · rw [Nat.toDigits_of_lt_base hn, hexValue_singleton 0 n hn]
      omega
    · have hd : n % 16 < 16 := Nat.mod_lt n (by decide)
      have hsplit : Nat.toDigits 16 n = Nat.toDigits 16 (n / 16) ++ [(n % 16).digitChar] :=
        Nat.toDigits_of_base_le (by decide) hn
      rw [hsplit, hexValue_append, ih (n / 16) (by omega), hexValue_singleton _ _ hd]
      omega

theorem hexValue_replicate (w : Nat) : hexValue 0 (List.replicate w '0') = 0 := by
  induction w with
  | zero => rfl
  | succ w ih => exact ih

theorem hexValue_hexPadded (width n : Nat) : hexValue 0 (hexPadded width n) = n := by
  unfold hexPadded
  rw [hexValue_append, hexValue_replicate, hexValue_toDigits]

/-- **Numbers with the same filled form are equal**, also when they outgrow the width. -/
theorem hexPadded_injective {width m n : Nat} (h : hexPadded width m = hexPadded width n) : m = n := by
  rw [← hexValue_hexPadded width m, h, hexValue_hexPadded]

/-! ## Decimal numerals -/

theorem digitsFrom_append : ∀ (n : Nat) (cs ds : List Char),
    digitsFrom n (cs ++ ds) = (digitsFrom n cs).bind fun m => digitsFrom m ds
  | _, [], _ => rfl
  | n, c :: cs, ds => by
    rw [List.cons_append, digitsFrom, digitsFrom]
    cases digit? c with
    | none => rfl
    | some d => exact digitsFrom_append (10 * n + d) cs ds

theorem digit?_digitChar : ∀ d < 10, digit? d.digitChar = some d := by decide

theorem digitsFrom_numeral (n : Nat) : digitsFrom 0 (numeral n) = some n := by
  unfold numeral
  induction n using Nat.strongRecOn with
  | ind n ih =>
    rcases Nat.lt_or_ge n 10 with hn | hn
    · rw [Nat.toDigits_of_lt_base hn]
      simp [digitsFrom, digit?_digitChar n hn]
    · have hd : n % 10 < 10 := Nat.mod_lt n (by decide)
      rw [Nat.toDigits_of_base_le (by decide) hn, digitsFrom_append, ih (n / 10) (by omega)]
      simp only [Option.bind_some, digitsFrom, digit?_digitChar _ hd, Option.some.injEq]
      omega

theorem numeral_ne_nil (n : Nat) : numeral n ≠ [] := by
  intro h
  have hread := digitsFrom_numeral n
  rw [h] at hread
  obtain rfl := Option.some.inj hread
  cases h

/-- **Numbers with the same numeral are equal.** -/
theorem numeral_injective {m n : Nat} (h : numeral m = numeral n) : m = n := by
  have hread := digitsFrom_numeral m
  rw [h, digitsFrom_numeral n] at hread
  exact (Option.some.inj hread).symm

theorem digits?_numeral (n : Nat) : digits? (numeral n) = some n := by
  unfold digits?
  rw [if_neg (by simpa using numeral_ne_nil n), digitsFrom_numeral]

theorem isDigit_of_mem_numeral {n : Nat} {c : Char} (h : c ∈ numeral n) : c.isDigit = true :=
  Nat.isDigit_of_mem_toDigits (by decide) (by decide) h

theorem head?_numeral {n : Nat} (hn : 0 < n) : ∀ c ∈ (numeral n).head?, c ≠ '0' := by
  unfold numeral
  induction n using Nat.strongRecOn with
  | ind n ih =>
    rcases Nat.lt_or_ge n 10 with hlt | hge
    · rw [Nat.toDigits_of_lt_base hlt]
      have hall : ∀ n < 10, 0 < n → n.digitChar ≠ '0' := by decide
      rintro c hc rfl
      exact hall n hlt hn (Option.some.inj hc)
    · have hquotient : 0 < n / 10 := by omega
      have hfirst := ih (n / 10) (by omega) hquotient
      rw [Nat.toDigits_of_base_le (by decide) hge]
      cases hd : Nat.toDigits 10 (n / 10) with
      | nil => exact absurd hd (numeral_ne_nil (n / 10))
      | cons d ds =>
        rw [hd] at hfirst
        exact hfirst

/-- **A numeral is read back as the canonical form of its number.** -/
theorem canonical?_numeral (n : Nat) : canonical? (numeral n) = some n := by
  rcases Nat.eq_zero_or_pos n with rfl | hn
  · rfl
  · have hhead := head?_numeral hn
    have hread := digitsFrom_numeral n
    cases hd : numeral n with
    | nil => exact absurd hd (numeral_ne_nil n)
    | cons c cs =>
      rw [hd] at hhead hread
      have hc : c ≠ '0' := hhead c rfl
      unfold canonical?
      split
      · contradiction
      · rename_i heq
        exact absurd (List.cons.inj heq).1 hc
      · rename_i heq
        obtain ⟨rfl, rfl⟩ := List.cons.inj heq
        rw [if_neg hc, hread]

/-! ## Canonical forms -/

/-- A decimal digit is the one of its value. -/
theorem eq_digitChar_of_digit? {c : Char} {d : Nat} (h : digit? c = some d) : d < 10 ∧ c = d.digitChar := by
  unfold digit? at h
  split at h
  · rename_i hrange
    have hlow : 48 ≤ c.toNat := hrange.1
    have hhigh : c.toNat ≤ 57 := hrange.2
    have hchars : ∀ n < 58, 48 ≤ n → Char.ofNat n = (n - 48).digitChar := by decide
    obtain rfl : c.toNat - 48 = d := Option.some.inj h
    refine ⟨by omega, ?_⟩
    rw [← hchars c.toNat (by omega) hlow, Char.ofNat_toNat]
  · cases h

theorem exists_digitChar_of_isDigit {c : Char} (h : c.isDigit = true) : ∃ d < 10, c = d.digitChar := by
  have hrange : '0' ≤ c ∧ c ≤ '9' := by simpa [Char.isDigit, Char.le_def] using h
  have hvalue : digit? c = some (c.toNat - '0'.toNat) := by
    unfold digit?
    rw [if_pos hrange]
  obtain ⟨hd, hc⟩ := eq_digitChar_of_digit? hvalue
  exact ⟨_, hd, hc⟩

theorem numeral_of_lt {d : Nat} (h : d < 10) : numeral d = [d.digitChar] := Nat.toDigits_of_lt_base h

/-- A digit behind a numeral gives the numeral of ten times as much and the digit. -/
theorem numeral_push {m d : Nat} (hm : 0 < m) (hd : d < 10) : numeral (10 * m + d) = numeral m ++ [d.digitChar] := by
  have hquotient : (10 * m + d) / 10 = m := by omega
  have hdigit : (10 * m + d) % 10 = d := by omega
  unfold numeral
  rw [Nat.toDigits_of_base_le (by decide) (by omega), hquotient, hdigit]

theorem numeral_of_digitsFrom : ∀ {cs : List Char} {m n : Nat}, 0 < m → digitsFrom m cs = some n →
    numeral n = numeral m ++ cs
  | [], m, n, _, h => by
    obtain rfl := Option.some.inj h
    rw [List.append_nil]
  | c :: cs, m, n, hm, h => by
    rw [digitsFrom] at h
    cases hc : digit? c with
    | none =>
      rw [hc] at h
      cases h
    | some d =>
      rw [hc] at h
      obtain ⟨hd, rfl⟩ := eq_digitChar_of_digit? hc
      rw [numeral_of_digitsFrom (by omega) h, numeral_push hm hd, List.append_assoc, List.singleton_append]

/-- **A text is the canonical form of a number exactly when it is its numeral.** -/
theorem canonical?_eq_some {cs : List Char} {n : Nat} : canonical? cs = some n ↔ cs = numeral n := by
  constructor
  · intro h
    unfold canonical? at h
    split at h
    · cases h
    · obtain rfl := Option.some.inj h
      rfl
    · rename_i c rest _
      split at h
      · cases h
      · rename_i hzero
        rw [digitsFrom] at h
        cases hc : digit? c with
        | none =>
          rw [hc] at h
          cases h
        | some d =>
          rw [hc] at h
          obtain ⟨hd, rfl⟩ := eq_digitChar_of_digit? hc
          have hpos : 0 < d := by
            refine Nat.pos_of_ne_zero ?_
            rintro rfl
            exact hzero rfl
          simp only [Nat.mul_zero, Nat.zero_add] at h
          rw [numeral_of_digitsFrom hpos h, numeral_of_lt hd, List.singleton_append]
  · rintro rfl
    exact canonical?_numeral n

end Text
end AddressBinder
