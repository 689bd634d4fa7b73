import AdminConsole.Proofs.Config.Reading

/-!
# Configuration from a look-up

Each setting comes from the text that a look-up finds for its variable. `ofLookup_exact` says for every look-up
whether a configuration comes of it, which spans it has, and which variable and text are to blame if there is none.
-/

namespace AdminConsole

/-- The duration is so many milliseconds, and its seconds and the nanoseconds beyond them, worked out in words of 64
and of 32 bits, are what they are in numbers without bounds. -/
structure Duration.Spans (d : Duration) (n : Nat) : Prop where
  nanoseconds_eq : d.nanoseconds = n * 1000000
  seconds_eq : d.seconds = (UInt64.ofNat n / 1000).toNat
  subsecondNanos_eq : d.subsecondNanos = ((UInt64.ofNat n % 1000).toUInt32 * 1000000).toNat

theorem Duration.spans_ofMillis {n : Nat} (h : n < UInt64.size) : (ofMillis n).Spans n := by
  have hword : (UInt64.ofNat n).toNat = n := UInt64.toNat_ofNat_of_lt' h
  constructor
  · rfl
  · rw [UInt64.toNat_div, hword]
    simp only [seconds, nanoseconds_ofMillis, nanosPerSecond, UInt64.reduceToNat]
    omega
  · have hrest : n % 1000 < 1000 := Nat.mod_lt n (by decide)
    rw [UInt32.toNat_mul, UInt64.toNat_toUInt32, UInt64.toNat_mod, hword]
    calc (ofMillis n).subsecondNanos = n % 1000 * 1000000 := Nat.mul_mod_mul_right 1000000 n 1000
      _ = n % 1000 % 2 ^ 32 * 1000000 % 2 ^ 32 := by
        -- Less than a second is left, and its nanoseconds fit into 32 bits.
        generalize n % 1000 = rest at hrest ⊢
        omega

theorem Duration.spans_iff {d : Duration} {n : Nat} (h : n < UInt64.size) : d.Spans n ↔ d = .ofMillis n := by
  constructor
  · intro hspans
    cases d
    exact congrArg Duration.mk hspans.nanoseconds_eq
  · rintro rfl
    exact spans_ofMillis h

namespace Config

/-- What a look-up makes of a setting: the standard value if the variable is not found, and else the number of
milliseconds that its text says. -/
inductive Takes (lookup : String → Option String) (setting : Setting) : Period → Prop where
  | standard (absent : lookup setting.envName = none) : Takes lookup setting (standard.get setting)
  | number {text : String} {n : Nat} {p : Period} (found : lookup setting.envName = some text)
      (denotes : Denotes text n) (spans : p.duration.Spans n) : Takes lookup setting p

section
variable {lookup : String → Option String} {setting : Setting} {p : Period}

theorem takes_iff : Takes lookup setting p ↔ read lookup setting = .ok p := by
  rw [read_eq_ok_iff]
  constructor
  · intro h
    cases h with
    | standard absent => exact Or.inl ⟨absent, rfl⟩
    | @number text n _ found denotes spans =>
      exact Or.inr ⟨text, n, found, denotes, (Duration.spans_iff denotes.2.2).1 spans⟩
  · rintro (⟨absent, rfl⟩ | ⟨text, n, found, denotes, hduration⟩)
    · exact .standard absent
    · exact .number found denotes ((Duration.spans_iff denotes.2.2).2 hduration)

theorem exists_takes_iff : (∃ p, Takes lookup setting p) ↔
    lookup setting.envName = none ∨ ∃ text n, lookup setting.envName = some text ∧ Denotes text n := by
  simp only [takes_iff, exists_read_iff, Offends]
  cases lookup setting.envName with
  | none => simp
  | some text => simp

theorem exists_ofLookup_iff :
    (∃ c, ofLookup lookup = .ok c) ↔ ∀ setting, ∃ p, Takes lookup setting p := by
  simp only [ofLookup_eq_ok_iff, ← takes_iff]
  constructor
  · rintro ⟨c, hc⟩ setting
    exact ⟨c.get setting, hc setting⟩
  · intro h
    obtain ⟨poll, hpoll⟩ := h .pollInterval
    obtain ⟨timeout, htimeout⟩ := h .requestTimeout
    refine ⟨⟨poll, timeout⟩, fun setting => ?_⟩
    cases setting with
    | pollInterval => exact hpoll
    | requestTimeout => exact htimeout

end

/-- A configuration comes of a look-up exactly if each of the two variables is not found or has the text of a
positive number of milliseconds, and then each span is the standard one or that number. Otherwise the error has the
text of the first variable that offends, the poll interval's before the other's. -/
theorem ofLookup_exact (lookup : String → Option String) :
    ((∃ c, ofLookup lookup = .ok c) ↔ ∀ setting : Setting, lookup setting.envName = none ∨
      ∃ text n, lookup setting.envName = some text ∧ Denotes text n) ∧
    (∀ c, ofLookup lookup = .ok c ↔ ∀ setting, Takes lookup setting (c.get setting)) ∧
    ∀ e, ofLookup lookup = .error e ↔ ∃ setting text, Offends lookup setting text ∧
      e = .invalidDuration setting text ∧
      (setting = .requestTimeout → ∀ other, ¬Offends lookup .pollInterval other) := by
  refine ⟨?_, fun c => ?_, fun e => ofLookup_eq_error_iff⟩
  · simp only [exists_ofLookup_iff, exists_takes_iff]
  · simp only [ofLookup_eq_ok_iff, takes_iff]

end Config

end AdminConsole
