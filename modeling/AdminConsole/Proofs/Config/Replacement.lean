import AdminConsole.Proofs.Client.Enabled
import AdminConsole.Proofs.Client.Watch
import AdminConsole.Proofs.Config.Lookup

/-!
# Replacing the spans of a configuration

A caller may try to replace either span any number of times, and goes on with the configuration at hand where a
replacement is refused. What a setting comes to is the last span that was accepted for it, or else its value at the
start, whatever became of the other setting (`duration_after`). From there it goes on to the pollers of a client:
each sets its ticks by the poll interval that the history left, which is longer than nothing, or fails at once if
the clock cannot hold a moment that far away (`replacements_exact`).
-/

namespace AdminConsole

theorem Duration.nanoseconds_eq_zero_iff {d : Duration} :
    d.nanoseconds = 0 ↔ d.seconds = 0 ∧ d.subsecondNanos = 0 := by
  have hparts := Nat.div_add_mod' d.nanoseconds nanosPerSecond
  unfold seconds subsecondNanos nanosPerSecond at *
  omega

namespace Config

/-- An attempt to replace one span. -/
structure Replacement where
  setting : Setting
  span : Duration
deriving DecidableEq, Repr

/-- The replacement is accepted: the new span is longer than nothing. -/
def Replacement.accepted (r : Replacement) : Bool := !r.span.isZero

/-- The configuration at hand after an attempt, the same as before if the replacement is refused. -/
def attempt (c : Config) (r : Replacement) : Config :=
  match c.replace r.setting r.span with
  | .ok c' => c'
  | .error _ => c

def after (c : Config) (attempts : List Replacement) : Config := attempts.foldl attempt c

/-- The last span that was accepted for the setting. -/
def lastSpan? (setting : Setting) (attempts : List Replacement) : Option Duration :=
  (attempts.reverse.find? fun r => r.setting == setting && r.accepted).map Replacement.span

/-- Where a caller may have its first configuration from. -/
inductive Starts : Config → Prop where
  | standard : Starts standard
  | ofLookup {lookup : String → Option String} {c : Config} (h : ofLookup lookup = .ok c) : Starts c

variable {c start other : Config} {setting : Setting} {d : Duration} {e : ConfigError} {r : Replacement}
  {attempts attempts' : List Replacement} {p : Period}

/-! ## One attempt -/

@[simp] theorem get_set_self : (c.set setting p).get setting = p := by
  cases setting <;> rfl

theorem get_set_of_ne {s : Setting} (h : s ≠ setting) : (c.set setting p).get s = c.get s := by
  cases s <;> cases setting <;> first | rfl | contradiction

theorem replace_eq_error_iff : c.replace setting d = .error e ↔
    d.seconds = 0 ∧ d.subsecondNanos = 0 ∧ e = .zeroDuration setting := by
  rw [← and_assoc, ← Duration.nanoseconds_eq_zero_iff, replace]
  split
  · rename_i hpos
    simp [Nat.ne_of_gt hpos]
  · rename_i hzero
    simp [Nat.eq_zero_of_not_pos hzero, eq_comm]

theorem Replacement.accepted_iff : r.accepted = true ↔ r.span.nanoseconds ≠ 0 := by
  simp [accepted, Duration.isZero]

theorem attempt_of_accepted (h : r.accepted = true) :
    ∃ p : Period, p.duration = r.span ∧ c.attempt r = c.set r.setting p := by
  have hpos := Nat.pos_of_ne_zero (Replacement.accepted_iff.1 h)
  exact ⟨⟨r.span, hpos⟩, rfl, by rw [attempt, replace, dif_pos hpos]⟩

theorem attempt_of_refused (h : r.accepted = false) : c.attempt r = c := by
  have hzero : r.span.nanoseconds = 0 := by simpa [Replacement.accepted, Duration.isZero] using h
  rw [attempt, replace, dif_neg (by omega)]

theorem duration_attempt : ((c.attempt r).get setting).duration =
    if r.setting == setting && r.accepted then r.span else (c.get setting).duration := by
  cases haccepted : r.accepted with
  | false => simp [attempt_of_refused haccepted]
  | true =>
    obtain ⟨p, hp, heq⟩ := attempt_of_accepted (c := c) haccepted
    rw [heq, Bool.and_true]
    split
    · rename_i hsetting
      rw [eq_of_beq hsetting, get_set_self, hp]
    · rename_i hsetting
      exact congrArg Period.duration (get_set_of_ne fun h => hsetting (beq_iff_eq.2 h.symm))

/-! ## A history of attempts -/

theorem after_append_singleton : c.after (attempts ++ [r]) = (c.after attempts).attempt r := List.foldl_concat ..

theorem lastSpan?_append_singleton : lastSpan? setting (attempts ++ [r]) =
    if r.setting == setting && r.accepted then some r.span else lastSpan? setting attempts := by
  rw [lastSpan?, List.reverse_concat, List.find?_cons]
  cases r.setting == setting && r.accepted <;> rfl

/-- After any history a setting has the last span that was accepted for it, or else its value at the start. -/
theorem duration_after : ((c.after attempts).get setting).duration =
    (lastSpan? setting attempts).getD (c.get setting).duration := by
  induction attempts using List.reverseRecOn with
  | nil => rfl
  | append_singleton attempts r ih =>
    rw [after_append_singleton, duration_attempt, lastSpan?_append_singleton]
    split
    · rfl
    · exact ih

theorem lastSpan?_ne_zero (h : lastSpan? setting attempts = some d) : d.nanoseconds ≠ 0 := by
  obtain ⟨r, hfind, rfl⟩ := Option.map_eq_some_iff.1 h
  have hsatisfies := List.find?_some hfind
  rw [Bool.and_eq_true_iff] at hsatisfies
  exact Replacement.accepted_iff.1 hsatisfies.2

/-- Only the attempts at the setting itself count. -/
theorem lastSpan?_filter :
    lastSpan? setting (attempts.filter (·.setting == setting)) = lastSpan? setting attempts := by
  rw [lastSpan?, lastSpan?, ← List.filter_reverse, List.find?_filter]
  congr 2
  funext r
  rw [Bool.decide_and, Bool.decide_eq_true, Bool.decide_eq_true, ← Bool.and_assoc, Bool.and_self]

theorem get_after_congr (hstart : other.get setting = start.get setting)
    (hattempts : attempts'.filter (·.setting == setting) = attempts.filter (·.setting == setting)) :
    (other.after attempts').get setting = (start.after attempts).get setting := by
  refine Period.ext ?_
  rw [duration_after, duration_after, hstart, ← lastSpan?_filter, hattempts, lastSpan?_filter]

/-! ## From the start to the pollers -/

theorem standard_ne_zero : (standard.get setting).duration.nanoseconds ≠ 0 := by
  cases setting <;> decide

/-- What is read from a text is a number above zero. -/
theorem Takes.ne_zero {lookup : String → Option String} (h : Takes lookup setting p) :
    p.duration.nanoseconds ≠ 0 := by
  cases h with
  | standard => exact standard_ne_zero
  | number _ denotes spans =>
    rw [spans.nanoseconds_eq]
    exact Nat.ne_of_gt (Nat.mul_pos denotes.2.1 (by decide))

theorem Starts.ne_zero (h : Starts start) : (start.get setting).duration.nanoseconds ≠ 0 := by
  cases h with
  | standard => exact standard_ne_zero
  | ofLookup h => exact (takes_iff.2 (ofLookup_eq_ok_iff.1 h setting)).ne_zero

theorem Starts.after_ne_zero (h : Starts start) :
    ((start.after attempts).get setting).duration.nanoseconds ≠ 0 := by
  rw [duration_after]
  cases hlast : lastSpan? setting attempts with
  | none => exact h.ne_zero
  | some d => exact lastSpan?_ne_zero hlast

open Client in
/-- How a poller stands after its first step: it waits for an interval, or has failed if the clock cannot hold a
moment that far from now. -/
def Settled (interval : Duration) (s t : State) (n : Nat) : Prop :=
  (s.now + interval.nanoseconds < clockLimit ∧
    t.pollerPhase? n = some (.waiting (s.now + interval.nanoseconds))) ∨
  (clockLimit ≤ s.now + interval.nanoseconds ∧ t.pollerPhase? n = some .finished ∧ n ∈ t.failed)

open Client in
/-- A poller that runs for the first time says the poll interval that its client was configured with, and settles to
wait that long. -/
theorem exists_settle {table : Navigation.Table} {trace : Trace} {s : State} {n : Nat}
    (h : Run (.initial c table) trace s) (fresh : s.pollerPhase? n = some .spawned) :
    ∃ t effects, s.step? (.proceed (.poller n)) = some (t, effects) ∧
      .logged (.pollerStarted c.pollInterval.duration) ∈ effects ∧
      Settled c.pollInterval.duration s t n := by
  obtain ⟨⟨_, signalled⟩, hpoller, rfl⟩ := Option.map_eq_some_iff.1 fresh
  cases hfirst : firstTick? s.config.pollInterval s.now with
  | some next =>
    have step := step?_settle hpoller hfirst
    obtain ⟨room, rfl⟩ := firstTick?_eq_some_iff.1 hfirst
    rw [h.config_eq] at step room
    refine ⟨_, _, step, List.mem_singleton_self _, Or.inl ⟨room, ?_⟩⟩
    rw [State.pollerPhase?_setPoller, if_pos rfl, fresh]
    rfl
  | none =>
    have step := step?_settleFails hpoller hfirst
    have beyond := firstTick?_eq_none_iff.1 hfirst
    rw [h.config_eq] at step beyond
    have finished : ((s.noteFailed n).endPoller n
        [.pollerStarted c.pollInterval.duration]).1.pollerPhase? n = some .finished :=
      pollerPhase?_endPoller_self (s := s.noteFailed n) hpoller
    refine ⟨_, _, step, logged_mem_endPoller (List.mem_singleton_self _), Or.inr ⟨beyond, finished, ?_⟩⟩
    exact (State.Step.of_step? step).mem_failed_iff.2 (Or.inr (.first fresh (h.config_eq ▸ beyond)))

open Client in
/-- An attempt to replace a span is refused exactly if the new span is zero, and the error names the setting, each
by its own name. After any history of attempts both spans are longer than nothing, and each is the last that was
accepted for its setting, or else its value at the start: whatever was tried with the other setting, and whatever
value that had. A poller of a client with this configuration says this poll interval when it first runs, and
settles to wait that long for its tick, or fails if the clock cannot hold a moment that far away. -/
theorem replacements_exact (starts : Starts start) (attempts : List Replacement) :
    (∀ setting d e, (start.after attempts).replace setting d = .error e ↔
      d.seconds = 0 ∧ d.subsecondNanos = 0 ∧ e = .zeroDuration setting) ∧
    ((ConfigError.zeroDuration .pollInterval).message = "poll_interval must be non-zero" ∧
      (ConfigError.zeroDuration .requestTimeout).message = "request_timeout must be non-zero") ∧
    (∀ setting, ((start.after attempts).get setting).duration.nanoseconds ≠ 0 ∧
      ((start.after attempts).get setting).duration =
        (lastSpan? setting attempts).getD (start.get setting).duration) ∧
    (∀ setting (other : Config) attempts', other.get setting = start.get setting →
      attempts'.filter (·.setting == setting) = attempts.filter (·.setting == setting) →
      (other.after attempts').get setting = (start.after attempts).get setting) ∧
    ∀ table trace s n, Run (.initial (start.after attempts) table) trace s →
      s.pollerPhase? n = some .spawned → ∃ t effects interval, Duration.nanoseconds interval ≠ 0 ∧
        interval = (lastSpan? .pollInterval attempts).getD start.pollInterval.duration ∧
        s.step? (.proceed (.poller n)) = some (t, effects) ∧
        .logged (.pollerStarted interval) ∈ effects ∧ Settled interval s t n := by
  refine ⟨fun _ _ _ => replace_eq_error_iff, by decide +kernel,
    fun _ => ⟨starts.after_ne_zero, duration_after⟩, fun _ _ _ => get_after_congr,
    fun table trace s n h fresh => ?_⟩
  have hinterval : ((start.after attempts).get .pollInterval).duration.nanoseconds ≠ 0 := starts.after_ne_zero
  obtain ⟨t, effects, step, started, settled⟩ := exists_settle h fresh
  exact ⟨t, effects, _, hinterval, duration_after, step, started, settled⟩

/-- The poll interval is set, to a quarter of a second. -/
def briefPoll (name : String) : Option String :=
  if name == Setting.pollInterval.envName then some " +250 " else none

/-- Attempts at both settings, the last one at each refused. -/
def refusedAtLast : List Replacement :=
  [⟨.requestTimeout, .ofParts 5 0⟩, ⟨.pollInterval, .ofParts 0 0⟩, ⟨.pollInterval, .ofParts 0 1⟩,
    ⟨.requestTimeout, .ofParts 0 0⟩, ⟨.pollInterval, .ofParts 0 0⟩]

open Client in
theorem replacements_exact_refusedAtLast :
    ∃ start, ofLookup briefPoll = .ok start ∧
      (start.after refusedAtLast).replace .pollInterval (.ofParts 0 0) =
        .error (.zeroDuration .pollInterval) ∧
      ((start.after refusedAtLast).get .pollInterval).duration = .ofParts 0 1 ∧
      ((start.after refusedAtLast).get .requestTimeout).duration = .ofParts 5 0 ∧
      (standard.after [⟨.requestTimeout, .ofParts 5 0⟩, ⟨.requestTimeout, .ofParts 0 0⟩]).requestTimeout =
        (start.after refusedAtLast).requestTimeout ∧
      ∃ trace s t effects, Run (.initial (start.after refusedAtLast) .mainTabs) trace s ∧
        trace.map Prod.fst = undisturbedLogin ∧ s.step? (.proceed (.poller 0)) = some (t, effects) ∧
        .logged (.pollerStarted (.ofParts 0 1)) ∈ effects ∧
        t.pollerPhase? 0 = some (.waiting (s.now + 1)) := by
  have hstart : ∃ start, ofLookup briefPoll = .ok start ∧ start.requestTimeout = standard.requestTimeout ∧
      ∃ x, (State.initial (start.after refusedAtLast) .mainTabs).follow? undisturbedLogin = some x ∧
        x.1.map Prod.fst = undisturbedLogin ∧ x.2.pollerPhase? 0 = some .spawned ∧ x.2.now = 0 :=
    ⟨_, rfl, rfl, _, rfl, rfl, rfl, rfl⟩
  obtain ⟨start, hstart, htimeout, ⟨trace, s⟩, hfollow, hevents, fresh, hnow⟩ := hstart
  have h := Run.of_follow? hfollow
  obtain ⟨refused, -, spans, alone, pollers⟩ := replacements_exact (.ofLookup hstart) refusedAtLast
  obtain ⟨t, effects, _, -, rfl, step, started, settled⟩ := pollers .mainTabs trace s 0 h fresh
  have waits : t.pollerPhase? 0 = some (.waiting (s.now + 1)) := by
    obtain ⟨-, waits⟩ | ⟨beyond, -⟩ := settled
    · exact waits
    · rw [show s.now = 0 from hnow] at beyond
      exact absurd beyond (show ¬clockLimit ≤ 0 + 1 by decide +kernel)
  exact ⟨start, hstart, (refused _ _ _).2 ⟨rfl, rfl, rfl⟩, (spans .pollInterval).2, (spans .requestTimeout).2,
    alone .requestTimeout standard _ htimeout.symm rfl, trace, s, t, effects, h, hevents, step, started, waits⟩

end Config

end AdminConsole
