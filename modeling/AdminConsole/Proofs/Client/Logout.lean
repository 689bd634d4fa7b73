import AdminConsole.Proofs.Client.Account

/-!
# After a logout

When a logout returns, the session is unauthenticated. It leaves that state when a login or a refresh
next adopts a user's data, and no call looks at the session before it adopts: a call that was under way
when the logout returned adopts just like one that was started later. `logout_exact` says which runs
and which clients are safe from that, and `refresh_revives_session` is a run that is not.
-/

namespace AdminConsole.Client

open Session (Transition)

/-- Whenever the session is not unauthenticated, a call that the run has started has adopted. -/
def OutUntilNewLogin (s : State) (trace : Trace) : Prop :=
  ∀ l r t, trace = l ++ r → Run s l t → t.session ≠ .unauthenticated →
    ∃ c request time effects effects', (.start c request, effects) ∈ l ∧ (.adopt c time, effects') ∈ l

/-- The first call that adopts in a run has been started in it. -/
def FirstAdoptsNew (trace : Trace) : Prop :=
  ∀ l c time effects r, trace = l ++ (.adopt c time, effects) :: r → loginTimes l = [] →
    ∃ request effects', (.start c request, effects') ∈ l

/-- A login or a refresh that has not adopted may still do so: it has yet to ask, or waits for its answer,
however late, or has it. -/
inductive State.MayAdopt (s : State) (c : Nat) : Prop where
  | ready {r : Request} {a : Ask} (call : s.call? c = some ⟨r, .ready⟩) (asks : r.userAsk? = some a)
  | asking {r : Request} {a : Ask} {d : Nat} (call : s.call? c = some ⟨r, .asking d⟩)
    (asks : r.userAsk? = some a)
  | applying {r : Request} {user : UserData} (call : s.call? c = some ⟨r, .applying user⟩)

variable {s t u : State} {e : Event} {effects : List Effect} {c : Nat} {trace : Trace}

/-! ## The return of a logout -/

/-- A logout clears the session in the step in which it returns. -/
theorem Run.session_of_logout_returns {config : Config} {table : Navigation.Table} {o : Outcome}
    (h : Run (.initial config table) trace s) (step : s.step? e = some (t, effects))
    (before : s.outcome? c = none) (after : t.call? c = some ⟨.logout, .done o⟩) :
    t.session = .unauthenticated := by
  have hgiven := (after ▸ (h.append (.singleton step)).account c : Account (some _) _ _ _).of_loggedOut
  rw [contributionsOf_step h step] at hgiven
  have hnone : .clear ∉ contributionsOf (.call c) (.initial config table) trace := by
    intro hmem
    obtain ⟨hcall, -⟩ := (h.account c).of_clear_mem hmem
    rw [State.outcome?, hcall] at before
    cases before
  obtain ⟨hl, hr⟩ | ⟨hl, hr⟩ := List.append_eq_singleton_iff.1 hgiven
  · obtain ⟨k, hk, hby⟩ := Option.bind_eq_some_iff.1 (Option.toList_eq_singleton_iff.1 hr)
    rw [(State.Step.of_step? step).session, hk]
    obtain ⟨task, τ⟩ := k
    simp only [Contribution.by?] at hby
    split at hby <;> cases hby
    cases s.session <;> rfl
  · rw [hl] at hnone
    exact absurd (List.mem_singleton_self _) hnone

/-! ## Until the next login -/

/-- A session that is unauthenticated stays so until somebody adopts. -/
theorem Run.session_of_no_login (h : Run s trace t) (out : s.session = .unauthenticated)
    (none : loginTimes trace = []) : t.session = .unauthenticated := by
  refine h.induction (P := fun trace t => loginTimes trace = [] → t.session = .unauthenticated)
    (fun _ => out) ?_ none
  intro l t e u effects _ ih step hnone
  rw [loginTimes_append, loginTimes_singleton, List.append_eq_nil_iff] at hnone
  have ht := ih hnone.1
  rw [(State.Step.of_step? step).session]
  cases hk : t.contribution? e with
  | none => exact ht
  | some k =>
    obtain ⟨task, τ⟩ := k
    cases τ with
    | authenticate profile time =>
      rw [(State.Contributes.of_contribution? hk).loginTime?] at hnone
      cases hnone.2
    | expire => show t.session.apply .expire = _; rw [ht]; rfl
    | clear => show t.session.apply .clear = _; rw [ht]; rfl

/-- A trace with logins has a first one. -/
theorem exists_first_adopt (h : loginTimes trace ≠ []) :
    ∃ l c time effects r, trace = l ++ (.adopt c time, effects) :: r ∧ loginTimes l = [] := by
  induction trace with
  | nil => exact absurd rfl h
  | cons x trace ih =>
    obtain ⟨e, effects⟩ := x
    cases hlogin : e.loginTime? with
    | some time =>
      cases e with
      | adopt c time' => exact ⟨[], c, time', effects, trace, rfl, rfl⟩
      | _ => cases hlogin
    | none =>
      have hcons : ∀ {l}, loginTimes ((e, effects) :: l) = loginTimes l := by
        intro l
        simp [loginTimes, hlogin]
      rw [hcons] at h
      obtain ⟨l, c, time, effects', r, rfl, hnil⟩ := ih h
      exact ⟨(e, effects) :: l, c, time, effects', r, rfl, hcons.trans hnil⟩

theorem loginTimes_ne_nil_of_mem {time : LoginTime} (h : (.adopt c time, effects) ∈ trace) :
    loginTimes trace ≠ [] :=
  List.ne_nil_of_mem (List.mem_filterMap.2 ⟨_, h, rfl⟩)

/-- An unauthenticated session waits for a new login exactly if the first to adopt is new. -/
theorem Run.outUntilNewLogin_iff (h : Run s trace t) (out : s.session = .unauthenticated) :
    OutUntilNewLogin s trace ↔ FirstAdoptsNew trace := by
  constructor
  · rintro hout l c time effects r rfl hnil
    obtain ⟨x, hl, hr⟩ := exists_of_append h
    obtain ⟨y, hy, -⟩ : ∃ y, Run x [(.adopt c time, effects)] y ∧ Run y r t :=
      exists_of_append (l := [_]) hr
    have hsession : y.session ≠ .unauthenticated := by
      cases hy with
      | cons step rest =>
        cases rest
        cases State.Step.of_step? step
        case adopt => nofun
        all_goals contradiction
    obtain ⟨c', request, time', effects₁, effects₂, hstart, hadopt⟩ :=
      hout (l ++ [(.adopt c time, effects)]) r y (by simp) (hl.append hy) hsession
    have hc : c' = c := by
      rcases List.mem_append.1 hadopt with hmem | hmem
      · exact absurd hnil (loginTimes_ne_nil_of_mem hmem)
      · cases List.mem_singleton.1 hmem; rfl
    subst hc
    rcases List.mem_append.1 hstart with hmem | hmem
    · exact ⟨request, effects₁, hmem⟩
    · cases List.mem_singleton.1 hmem
  · rintro hfirst l r x rfl hx hsession
    have hlogins : loginTimes l ≠ [] := fun hnil => hsession (hx.session_of_no_login out hnil)
    obtain ⟨l', c, time, effects, r', rfl, hnil⟩ := exists_first_adopt hlogins
    obtain ⟨request, effects', hstart⟩ := hfirst l' c time effects (r' ++ r) (by simp) hnil
    exact ⟨c, request, time, effects', effects, by simp [hstart], by simp⟩

/-! ## Who may adopt -/

/-- Only a new call comes to be able to adopt. -/
theorem State.Step.mayAdopt (h : s.Step e t effects) (may : t.MayAdopt c) :
    s.MayAdopt c ∨ ∃ r, e = .start c r := by
  by_cases hother : e.actor? ≠ some (.call c)
  · have hcall := (h.call?_of_ne_actor hother).symm
    cases may with
    | ready call asks => exact Or.inl (.ready (hcall.trans call) asks)
    | asking call asks => exact Or.inl (.asking (hcall.trans call) asks)
    | applying call => exact Or.inl (.applying (hcall.trans call))
  have hactor := Decidable.not_not.1 hother
  -- Most steps of a call lead to a phase from which it does not adopt any more.
  have hpast : ∀ {r phase}, t.call? c = some ⟨r, phase⟩ → phase ≠ .ready → (∀ d, phase ≠ .asking d) →
      (∀ user, phase ≠ .applying user) → s.MayAdopt c ∨ ∃ r, e = .start c r := by
    intro r phase hc hready hasking happlying
    cases may with
    | ready call _ => cases hc.symm.trans call; exact absurd rfl hready
    | asking call _ => cases hc.symm.trans call; exact absurd rfl (hasking _)
    | applying call => cases hc.symm.trans call; exact absurd rfl (happlying _)
  have hlogout : ∀ {d}, t.call? c = some ⟨.logout, .asking d⟩ → s.MayAdopt c ∨ ∃ r, e = .start c r := by
    intro d hc
    cases may with
    | ready call _ => cases hc.symm.trans call
    | asking call asks => cases hc.symm.trans call; cases asks
    | applying call => cases hc.symm.trans call
  cases h
  case start => cases hactor; exact Or.inr ⟨_, rfl⟩
  case askUser call asks => cases hactor; exact Or.inl (.ready call asks)
  case hearUser call asks heard _ =>
    cases (Event.actor?_of_heard? heard).symm.trans hactor
    exact Or.inl (.asking call asks)
  case hearNoUser call _ heard _ | hearLogout call heard _ | hearNoLogout call heard _
      | callHears call _ heard _ =>
    cases (Event.actor?_of_heard? heard).symm.trans hactor
    exact hpast (State.call?_setCall_self call) nofun nofun nofun
  case pollerHears heard _ => cases (Event.actor?_of_heard? heard).symm.trans hactor
  case askLogout call _ _ | askLogoutStopped call _ =>
    cases hactor
    exact hlogout (State.call?_setCall_self call)
  case lineUp call _ | lineUpAdopted call | tellPolling call _ | takeOut call _ _ | install call _ _ _ _
      | replace call _ _ _ _ | installStopped call _ _ | clear call | callFindsNone call _
      | callChecks call _ | callJudges call | adopt call =>
    cases hactor
    exact hpast (State.call?_setCall_self call) nofun nofun nofun
  all_goals cases hactor

theorem Run.mayAdopt (h : Run s trace t) (may : t.MayAdopt c) :
    s.MayAdopt c ∨ ∃ r effects, (.start c r, effects) ∈ trace := by
  refine h.induction (P := fun trace t => t.MayAdopt c → s.MayAdopt c ∨
    ∃ r effects, (Event.start c r, effects) ∈ trace) Or.inl ?_ may
  intro l t e u effects _ ih step hmay
  obtain hmay | ⟨r, rfl⟩ := (State.Step.of_step? step).mayAdopt hmay
  · refine (ih hmay).imp_right ?_
    rintro ⟨r, effects', hmem⟩
    exact ⟨r, effects', List.mem_append_left _ hmem⟩
  · exact Or.inr ⟨r, effects, by simp⟩

/-- If no call may adopt, the first to adopt is new. -/
theorem Run.firstAdoptsNew (h : Run s trace t) (nobody : ∀ c, ¬s.MayAdopt c) :
    FirstAdoptsNew trace := by
  rintro l c time effects r rfl -
  obtain ⟨x, hl, hr⟩ := exists_of_append h
  have may : x.MayAdopt c := by
    cases hr with
    | cons step rest =>
      cases State.Step.of_step? step
      case adopt call => exact .applying call
      all_goals contradiction
  exact (hl.mayAdopt may).resolve_left (nobody c)

theorem step?_of_ready {r : Request} {a : Ask} (call : s.call? c = some ⟨r, .ready⟩)
    (asks : r.userAsk? = some a) :
    s.step? (.proceed (.call c)) = some (s.setCall c (.asking s.newDeadline), [.asked (.call c) a]) := by
  show s.call? c >>= s.proceedCall c = _
  rw [call]
  cases r <;> cases asks <;> rfl

theorem step?_of_answer {r : Request} {a : Ask} {d : Nat} {user : UserData}
    (call : s.call? c = some ⟨r, .asking d⟩) (asks : r.userAsk? = some a) :
    s.step? (.answer (.call c) (.user user)) = some (s.setCall c (.applying user), []) := by
  have hd : s.deadline? (.call c) = some d := by rw [State.deadline?, call]; rfl
  have hreceives : s.receives (.call c) (.user user) = some (s.setCall c (.applying user), []) := by
    show s.call? c >>= _ = _
    rw [call]
    cases r <;> cases asks <;> rfl
  simp only [State.step?, hd, hreceives]

/-- A call that may adopt is the first to adopt in some run, in which it is not started. -/
theorem State.MayAdopt.exists_run (may : s.MayAdopt c) :
    ∃ trace t, Run s trace t ∧ ¬FirstAdoptsNew trace := by
  suffices ∃ l x r user, Run s l x ∧ x.call? c = some ⟨r, .applying user⟩ ∧ loginTimes l = [] ∧
      ∀ r effects, (Event.start c r, effects) ∉ l by
    obtain ⟨l, x, r, user, hl, call, hnil, hstart⟩ := this
    have step : x.step? (.adopt c 0) = some ((x.adopt c user 0).1, (x.adopt c user 0).2) := by
      simp only [State.step?, State.callPhase?_of_call? call]
    refine ⟨_, _, hl.append (.singleton step), fun hfirst => ?_⟩
    obtain ⟨request, effects, hmem⟩ := hfirst l c 0 _ [] rfl hnil
    exact hstart request effects hmem
  have hasking : ∀ {x : State} {r a d}, x.call? c = some ⟨r, .asking d⟩ → r.userAsk? = some a →
      ∃ user effects y, x.step? (.answer (.call c) (.user user)) = some (y, effects) ∧
        y.call? c = some ⟨r, .applying user⟩ := by
    intro x r a d call asks
    exact ⟨default, _, _, step?_of_answer call asks, State.call?_setCall_self call⟩
  cases may with
  | applying call => exact ⟨[], s, _, _, .nil, call, rfl, fun _ _ => List.not_mem_nil⟩
  | asking call asks =>
    obtain ⟨user, effects, y, step, call'⟩ := hasking call asks
    exact ⟨_, y, _, user, .singleton step, call', rfl, by simp⟩
  | ready call asks =>
    have ready := step?_of_ready call asks
    obtain ⟨user, effects, y, step, call'⟩ := hasking (State.call?_setCall_self call) asks
    exact ⟨_, y, _, user, .cons ready (.singleton step), call', rfl, by simp⟩

section
variable {config : Config} {table : Navigation.Table}

/-- In the step in which a logout returns the session becomes unauthenticated. After that a run keeps
it so until a new login exactly if the first call to adopt is new, and all runs do exactly if no call
may adopt that was made before. -/
theorem logout_exact {o : Outcome} (h : Run (.initial config table) trace s)
    (step : s.step? e = some (t, effects)) (before : s.outcome? c = none)
    (after : t.call? c = some ⟨.logout, .done o⟩) :
    t.session = .unauthenticated ∧
    (∀ mid u, Run t mid u → (OutUntilNewLogin t mid ↔ FirstAdoptsNew mid)) ∧
    ((∀ mid u, Run t mid u → OutUntilNewLogin t mid) ↔ ∀ d, ¬t.MayAdopt d) := by
  have out := h.session_of_logout_returns step before after
  refine ⟨out, fun mid u hmid => hmid.outUntilNewLogin_iff out, ?_, ?_⟩
  · intro hall d may
    obtain ⟨mid, u, hmid, hnot⟩ := may.exists_run
    exact hnot ((hmid.outUntilNewLogin_iff out).1 (hall mid u hmid))
  · intro nobody mid u hmid
    exact (hmid.outUntilNewLogin_iff out).2 (hmid.firstAdoptsNew nobody)

/-- A logout that is about to return, while a refresh waits for its answer. -/
def logoutDuringRefresh : List Event :=
  undisturbedLogin ++
    [.proceed (.poller 0), .start 1 .refresh, .proceed (.call 1), .start 2 .logout, .proceed (.call 2),
      .proceed (.call 2), .shutdown 0, .proceed (.call 2), .answer (.call 2) .loggedOut]

/-- What comes of the refresh after the logout has returned. -/
def refreshAfterLogout : List Event := [.answer (.call 1) (.user ⟨"ada", [], []⟩), .adopt 1 8]

theorem logout_exact_logoutDuringRefresh :
    ∃ trace s t effects, Run (.initial .standard .mainTabs) trace s ∧
      s.step? (.proceed (.call 2)) = some (t, effects) ∧ s.outcome? 2 = none ∧
      t.call? 2 = some ⟨.logout, .done .completed⟩ ∧ t.session = .unauthenticated ∧
      (∀ mid u, Run t mid u → (OutUntilNewLogin t mid ↔ FirstAdoptsNew mid)) ∧
      ((∀ mid u, Run t mid u → OutUntilNewLogin t mid) ↔ ∀ d, ¬t.MayAdopt d) := by
  have hrun : ∃ x t effects, (State.initial .standard .mainTabs).follow? logoutDuringRefresh = some x ∧
      x.2.step? (.proceed (.call 2)) = some (t, effects) ∧ x.2.outcome? 2 = none ∧
      t.call? 2 = some ⟨.logout, .done .completed⟩ := ⟨_, _, _, rfl, rfl, rfl, rfl⟩
  obtain ⟨⟨trace, s⟩, t, effects, hfollow, step, before, after⟩ := hrun
  have h := Run.of_follow? hfollow
  exact ⟨trace, s, t, effects, h, step, before, after, logout_exact h step before after⟩

/-- A refresh that was under way when a logout returned makes the session alive again. -/
theorem refresh_revives_session :
    ∃ trace s t effects mid u, Run (.initial .standard .mainTabs) trace s ∧
      s.step? (.proceed (.call 2)) = some (t, effects) ∧ s.outcome? 2 = none ∧
      t.call? 2 = some ⟨.logout, .done .completed⟩ ∧ Run t mid u ∧
      mid.map Prod.fst = refreshAfterLogout ∧ u.session.isAlive = true ∧ ¬OutUntilNewLogin t mid := by
  have hrun : ∃ x t effects y, (State.initial .standard .mainTabs).follow? logoutDuringRefresh = some x ∧
      x.2.step? (.proceed (.call 2)) = some (t, effects) ∧ x.2.outcome? 2 = none ∧
      t.call? 2 = some ⟨.logout, .done .completed⟩ ∧ t.follow? refreshAfterLogout = some y ∧
      y.1.map Prod.fst = refreshAfterLogout ∧ y.2.session.isAlive = true :=
    ⟨_, _, _, _, rfl, rfl, rfl, rfl, rfl, rfl, rfl⟩
  obtain ⟨⟨trace, s⟩, t, effects, ⟨mid, u⟩, hfollow, step, before, after, hmid, hevents, halive⟩ := hrun
  refine ⟨trace, s, t, effects, mid, u, Run.of_follow? hfollow, step, before, after,
    Run.of_follow? hmid, hevents, halive, fun hout => ?_⟩
  have hsession : u.session ≠ .unauthenticated := fun hnone => by rw [hnone] at halive; cases halive
  obtain ⟨c, request, time, effects', -, hstart, -⟩ :=
    hout mid [] u (List.append_nil _).symm (Run.of_follow? hmid) hsession
  have hmem : Event.start c request ∈ refreshAfterLogout := hevents ▸ List.mem_map_of_mem hstart
  simp [refreshAfterLogout] at hmem

end

end AdminConsole.Client
