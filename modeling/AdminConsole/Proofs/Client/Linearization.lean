import AdminConsole.Proofs.Client.Account

/-!
# The session of a client is a run of the session machine

Whatever the order of the steps, the session goes through the states of one run of `Session.apply`, to
which each call and each poller contributes its part while it is under way: `run_linearized`.
-/

namespace AdminConsole.Client

open Session (Transition)

variable {config : Config} {table : Navigation.Table} {s t : State} {e : Event} {trace : Trace}
  {task : Task} {c p : Nat} {τ : Transition}

/-- A call is open when it contributes something. -/
theorem State.Contributes.isOpen (h : s.Contributes e ⟨.call c, τ⟩) :
    ∃ call, s.call? c = some call ∧ call.isOpen = true := by
  cases h with
  | authenticate call => exact ⟨_, call, rfl⟩
  | clear call => exact ⟨_, call, rfl⟩
  | expire check =>
    obtain ⟨r, call⟩ := State.checkPhase?_call_iff.1 check
    exact ⟨_, call, rfl⟩

/-- A poller is in the middle of a check when it contributes something. -/
theorem State.Contributes.checking (h : s.Contributes e ⟨.poller p, τ⟩) :
    ∃ next phase, s.pollerPhase? p = some (.checking next phase) := by
  cases h with
  | expire check =>
    obtain ⟨next, signalled, hp⟩ := State.checkPhase?_poller_iff.1 check
    exact ⟨next, _, State.pollerPhase?_of_getElem? hp⟩

/-- The session stems from one of the logins that a run contributed, if it stems from any. -/
theorem Run.session_stems (h : Run (.initial config table) trace t) :
    t.session = .unauthenticated ∨
    ∃ task profile time,
      ⟨task, .authenticate profile time⟩ ∈ contributions (.initial config table) trace ∧
      (t.session = .alive profile time ∨ t.session = .expired profile.username time) := by
  refine h.induction (P := fun trace t => t.session = .unauthenticated ∨
    ∃ task profile time, ⟨task, .authenticate profile time⟩ ∈ contributions _ trace ∧
      (t.session = .alive profile time ∨ t.session = .expired profile.username time)) (Or.inl rfl) ?_
  intro l t e u effects hl ih step
  rw [(State.Step.of_step? step).session, contributions_append hl, contributions_step step]
  cases t.contribution? e with
  | none => simpa [contribute] using ih
  | some k =>
    obtain ⟨task, τ⟩ := k
    cases τ with
    | authenticate profile time => exact Or.inr ⟨task, profile, time, by simp, Or.inl rfl⟩
    | clear => exact Or.inl (by cases t.session <;> rfl)
    | expire =>
      obtain hnone | ⟨task', profile, time, hmem, hx⟩ := ih
      · exact Or.inl (by rw [hnone]; rfl)
      · refine Or.inr ⟨task', profile, time, List.mem_append_left _ hmem, Or.inr ?_⟩
        obtain hx | hx := hx <;> rw [hx] <;> rfl

theorem mem_contributionsOf (h : ⟨task, τ⟩ ∈ contributions s trace) :
    τ ∈ contributionsOf task s trace :=
  List.mem_filterMap.2 ⟨_, h, if_pos rfl⟩

/-- A run from `s` to `t` takes the session through a run of the session machine, to which each call
and each poller contributes its part while it is under way. -/
structure Linearized (s : State) (trace : Trace) (t : State) : Prop where
  /-- At every moment the session is what the contributions until then have made of it. -/
  session : ∀ {l r a}, trace = l ++ r → Run s l a →
    a.session = s.session.run ((contributions s l).map Contribution.transition)
  /-- A call contributes when it has been made and has not returned. -/
  byCall : ∀ {l r a c τ e effects}, trace = l ++ (e, effects) :: r → Run s l a →
    a.contribution? e = some ⟨.call c, τ⟩ →
    ∃ call effects', a.call? c = some call ∧ call.isOpen = true ∧
      (.start c call.request, effects') ∈ l
  /-- A poller contributes in the middle of a check. -/
  byPoller : ∀ {l r a p τ e effects}, trace = l ++ (e, effects) :: r → Run s l a →
    a.contribution? e = some ⟨.poller p, τ⟩ →
    ∃ next phase, a.pollerPhase? p = some (.checking next phase)
  atMostOnce : ∀ c, (contributionsOf (.call c) s trace).length ≤ 1
  /-- A login or a refresh contributes nothing but the data that it was given. -/
  user : ∀ {c r phase a}, t.call? c = some ⟨r, phase⟩ → r.userAsk? = some a →
    contributionsOf (.call c) s trace = [] ∨
    ∃ user time, heardBy (.call c) trace = [.user user] ∧
      contributionsOf (.call c) s trace = [.authenticate user.profile time]
  /-- A login or a refresh that has succeeded contributed the data that it was given, once. -/
  loggedIn : ∀ {c r a}, t.call? c = some ⟨r, .done .completed⟩ → r.userAsk? = some a →
    asksOf (.call c) trace = [a] ∧ ∃ user time, heardBy (.call c) trace = [.user user] ∧
      contributionsOf (.call c) s trace =
        [.authenticate ⟨user.username, user.roles.map Role.mk, .ofNames user.permissions⟩ time]
  failed : ∀ {c r error}, t.call? c = some ⟨r, .done (.failed error)⟩ →
    contributionsOf (.call c) s trace = []
  logout : ∀ {c phase}, t.call? c = some ⟨.logout, phase⟩ →
    contributionsOf (.call c) s trace = [] ∨ contributionsOf (.call c) s trace = [.clear]
  /-- A logout that has returned cleared the session, once. -/
  loggedOut : ∀ {c o}, t.call? c = some ⟨.logout, .done o⟩ →
    contributionsOf (.call c) s trace = [.clear]
  check : ∀ {c phase}, t.call? c = some ⟨.check, phase⟩ →
    contributionsOf (.call c) s trace = [] ∨ contributionsOf (.call c) s trace = [.expire]
  polling : ∀ {c phase}, t.call? c = some ⟨.polling, phase⟩ → contributionsOf (.call c) s trace = []
  /-- All checks of a poller together expire the session at most once. -/
  poller : ∀ p, contributionsOf (.poller p) s trace = [] ∨ contributionsOf (.poller p) s trace = [.expire]
  /-- The session shows the data that one call was given, with the time at which it adopted them. -/
  snapshot : t.session = .unauthenticated ∨
    ∃ c user time, heardBy (.call c) trace = [.user user] ∧
      contributionsOf (.call c) s trace = [.authenticate user.profile time] ∧
      (t.session = .alive user.profile time ∨ t.session = .expired user.username time)

/-- Every run from the start is linearized, in whatever order calls and pollers take their steps. -/
theorem run_linearized (h : Run (.initial config table) trace t) :
    Linearized (.initial config table) trace t where
  session _ hl := hl.session
  byCall htrace hl hk := by
    obtain ⟨call, hc, hopen⟩ := (State.Contributes.of_contribution? hk).isOpen
    obtain ⟨effects', hmem⟩ := hl.start_mem hc
    exact ⟨call, effects', hc, hopen, hmem⟩
  byPoller _ _ hk := (State.Contributes.of_contribution? hk).checking
  atMostOnce c := (h.account c).length_le_one
  user hc ask := (hc ▸ h.account _ : Account (some _) _ _ _).of_userAsk ask
  loggedIn hc ask := (hc ▸ h.account _ : Account (some _) _ _ _).of_loggedIn ask
  failed hc := (hc ▸ h.account _ : Account (some _) _ _ _).of_failed
  logout hc := (hc ▸ h.account _ : Account (some _) _ _ _).of_logout
  loggedOut hc := (hc ▸ h.account _ : Account (some _) _ _ _).of_loggedOut
  check hc := (hc ▸ h.account _ : Account (some _) _ _ _).of_check
  polling hc := (hc ▸ h.account _ : Account (some _) _ _ _).of_polling
  poller p := (h.pollerAccount p).imp id And.left
  snapshot := by
    obtain hnone | ⟨task, profile, time, hmem, hx⟩ := h.session_stems
    · exact Or.inl hnone
    have hmem := mem_contributionsOf hmem
    cases task with
    | poller p =>
      obtain hp | ⟨hp, -⟩ := h.pollerAccount p
      · rw [hp] at hmem; cases hmem
      · rw [hp] at hmem; cases List.mem_singleton.1 hmem
    | call c =>
      obtain ⟨user, rfl, hheard, hgiven⟩ := (h.account c).of_authenticate_mem hmem
      exact Or.inr ⟨c, user, time, hheard, hgiven, hx⟩

/-- A login and a logout that clears the session before the login adopts. -/
def logoutOvertakesLogin : List Event :=
  [.start 0 (.login ⟨"ada", "secret"⟩), .start 1 .logout, .proceed (.call 0), .proceed (.call 1),
    .proceed (.call 1), .answer (.call 0) (.user ⟨"ada", ["operator"], ["telemetry:read"]⟩),
    .answer (.call 1) .loggedOut, .proceed (.call 1), .adopt 0 7, .proceed (.call 0), .proceed (.call 0)]

theorem run_linearized_logoutOvertakesLogin :
    ∃ trace s, Run (.initial .standard .mainTabs) trace s ∧ trace.map Prod.fst = logoutOvertakesLogin ∧
      Linearized (.initial .standard .mainTabs) trace s := by
  have hrun : ∃ x, (State.initial .standard .mainTabs).follow? logoutOvertakesLogin = some x ∧
      x.1.map Prod.fst = logoutOvertakesLogin := ⟨_, rfl, rfl⟩
  obtain ⟨⟨trace, s⟩, hfollow, hevents⟩ := hrun
  have h := Run.of_follow? hfollow
  exact ⟨trace, s, h, hevents, run_linearized h⟩

end AdminConsole.Client
