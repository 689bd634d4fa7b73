import AdminConsole.Proofs.Client.Account

/-!
# Checks

A check notes the login of the session when it opens, asks about it, and acts on the answer some time
later, when anything may have happened to the session. `check_correct` says what it does: it demotes
the session if the answer speaks against it and the login has been alive all the while, and otherwise
leaves it alone. That the guard of `demotes`, which looks at the session at the end only, is enough
for this rests on the logins having different times: a login that is over does not come back
(`Run.untouched_or_over`).
-/

namespace AdminConsole.Client

open Session (Transition)

/-- A check has ended with a status: a call returns it; a poller waits for its next tick if the
session is alive, and otherwise ends and says so in the log. -/
def State.Tells (s : State) (effects : List Effect) (status : SessionStatus) : Task → Prop
  | .call c => s.outcome? c = some (.status status)
  | .poller p =>
    status = .alive ∧ (∃ next, s.pollerPhase? p = some (.waiting next)) ∨
    status ≠ .alive ∧ s.pollerPhase? p = some .finished ∧ .logged (.pollerEnded status) ∈ effects

variable {s t u : State} {e : Event} {effects : List Effect} {task : Task} {c p d : Nat} {trace : Trace}
  {phase : CheckPhase} {login : LoginTime} {reply : Reply RemoteStatus}

/-! ## The steps of a check -/

theorem step?_callCheck {r : Request} (hc : s.call? c = some ⟨r, .checking phase⟩) :
    s.step? (.proceed (.call c)) = s.callCheck c phase := by
  show s.call? c >>= s.proceedCall c = _
  rw [hc]; rfl

theorem step?_pollerCheck {next : Nat} {signalled : Bool}
    (hp : s.pollers[p]? = some ⟨.checking next phase, signalled⟩) :
    s.step? (.proceed (.poller p)) = s.pollerCheck p next phase := by
  show s.pollers[p]? >>= s.proceedPoller p = _
  rw [hp]; rfl

theorem outcome?_setCall_done {call : Call} {o : Outcome} (hc : s.call? c = some call) :
    (s.setCall c (.done o)).outcome? c = some o := by
  rw [State.outcome?, State.call?_setCall_self hc]; rfl

theorem pollerPhase?_endPoller_self {poller : Poller} {events : List LogEvent}
    (hp : s.pollers[p]? = some poller) :
    (s.endPoller p events).1.pollerPhase? p = some .finished := by
  rw [State.pollerPhase?_endPoller, State.pollerPhase?_setPoller, if_pos rfl,
    State.pollerPhase?_of_getElem? hp]
  rfl

theorem logged_mem_endPoller {events : List LogEvent} {event : LogEvent} (h : event ∈ events) :
    .logged event ∈ (s.endPoller p events).2 := by
  show _ ∈ logged events ++ _ ++ _
  simp [logged, h]

/-- A check that finds no live session ends at once. -/
theorem step?_of_opening_dead (opening : s.checkPhase? task = some .opening)
    (dead : loginOf? s.session = none) :
    ∃ t effects, s.step? (.proceed task) = some (t, effects) ∧ t.session = s.session ∧
      asksIn task effects = [] ∧ t.Tells effects t.session.status task := by
  cases task with
  | call c =>
    obtain ⟨r, hc⟩ := State.checkPhase?_call_iff.1 opening
    have hstep : s.step? (.proceed (.call c)) =
        some (s.setCall c (.done (.status s.session.status)), []) := by
      simp only [step?_callCheck hc, State.callCheck, dead]
    exact ⟨_, _, hstep, rfl, rfl, outcome?_setCall_done hc⟩
  | poller p =>
    obtain ⟨next, signalled, hp⟩ := State.checkPhase?_poller_iff.1 opening
    have hstep : s.step? (.proceed (.poller p)) =
        some ((s.endPoller p [.pollerEnded s.session.status, .pollerStopped]).1,
          (s.endPoller p [.pollerEnded s.session.status, .pollerStopped]).2) := by
      simp only [step?_pollerCheck hp, State.pollerCheck, dead]
    refine ⟨_, _, hstep, State.session_endPoller, asksIn_endPoller, ?_⟩
    rw [State.session_endPoller]
    exact Or.inr ⟨ne_of_beq_false (loginOf?_eq_none_iff.1 dead), pollerPhase?_endPoller_self hp,
      logged_mem_endPoller List.mem_cons_self⟩

/-- A check that finds a live session asks about its login. -/
theorem step?_of_opening_alive (opening : s.checkPhase? task = some .opening)
    (alive : loginOf? s.session = some login) :
    ∃ t effects d, s.step? (.proceed task) = some (t, effects) ∧ t.session = s.session ∧
      asksIn task effects = [.status] ∧ t.checkPhase? task = some (.asking login d) := by
  cases task with
  | call c =>
    obtain ⟨r, hc⟩ := State.checkPhase?_call_iff.1 opening
    have hstep : s.step? (.proceed (.call c)) =
        some (s.setCall c (.checking (.asking login s.newDeadline)), [.asked (.call c) .status]) := by
      simp only [step?_callCheck hc, State.callCheck, alive]
    exact ⟨_, _, _, hstep, rfl, asksIn_asked_self,
      State.checkPhase?_call_iff.2 ⟨r, State.call?_setCall_self hc⟩⟩
  | poller p =>
    obtain ⟨next, signalled, hp⟩ := State.checkPhase?_poller_iff.1 opening
    have hstep : s.step? (.proceed (.poller p)) =
        some (s.setPoller p (.checking next (.asking login s.newDeadline)),
          [.asked (.poller p) .status]) := by
      simp only [step?_pollerCheck hp, State.pollerCheck, alive]
    refine ⟨_, _, s.newDeadline, hstep, rfl, asksIn_asked_self, ?_⟩
    rw [State.checkPhase?, State.pollerPhase?_setPoller, if_pos rfl, State.pollerPhase?_of_getElem? hp]
    rfl

/-- A check that has an answer acts on it. -/
theorem step?_of_judging (judging : s.checkPhase? task = some (.judging login reply)) :
    ∃ t effects, s.step? (.proceed task) = some (t, effects) ∧
      t.session = judge s.session login reply ∧ asksIn task effects = [] ∧
      t.Tells effects t.session.status task := by
  cases task with
  | call c =>
    obtain ⟨r, hc⟩ := State.checkPhase?_call_iff.1 judging
    have hstep : s.step? (.proceed (.call c)) =
        some ({ s with session := judge s.session login reply }.setCall c
          (.done (.status (judge s.session login reply).status)),
          logged (judgeEvents s.session login reply)) := by
      simp only [step?_callCheck hc, State.callCheck]
    have hc' : ({ s with session := judge s.session login reply } : State).call? c = _ := hc
    exact ⟨_, _, hstep, rfl, asksIn_logged, outcome?_setCall_done hc'⟩
  | poller p =>
    obtain ⟨next, signalled, hp⟩ := State.checkPhase?_poller_iff.1 judging
    have hp' : ({ s with session := judge s.session login reply } : State).pollers[p]? = _ := hp
    by_cases halive : (judge s.session login reply).isAlive = true
    · have hstep : s.step? (.proceed (.poller p)) =
          some (({ s with session := judge s.session login reply }.setPoller p (.waiting next)).letGo.1,
            logged (judgeEvents s.session login reply) ++
              ({ s with session := judge s.session login reply }.setPoller p (.waiting next)).letGo.2) := by
        simp only [step?_pollerCheck hp, State.pollerCheck, halive, if_true]
      refine ⟨_, _, hstep, State.session_letGo, ?_, Or.inl ⟨?_, next, ?_⟩⟩
      · rw [asksIn_append, asksIn_logged, asksIn_letGo]; rfl
      · rw [State.session_letGo]
        exact eq_of_beq halive
      · rw [State.pollerPhase?_letGo, State.pollerPhase?_setPoller, if_pos rfl,
          State.pollerPhase?_of_getElem? hp']
        rfl
    · have hstep : s.step? (.proceed (.poller p)) =
          some (({ s with session := judge s.session login reply }.endPoller p
              (judgeEvents s.session login reply ++
                [LogEvent.pollerEnded (judge s.session login reply).status, .pollerStopped])).1,
            ({ s with session := judge s.session login reply }.endPoller p
              (judgeEvents s.session login reply ++
                [LogEvent.pollerEnded (judge s.session login reply).status, .pollerStopped])).2) := by
        simp only [step?_pollerCheck hp, State.pollerCheck, halive]
        rfl
      refine ⟨_, _, hstep, State.session_endPoller, asksIn_endPoller, ?_⟩
      rw [State.session_endPoller]
      refine Or.inr ⟨fun heq => halive ?_, pollerPhase?_endPoller_self hp',
        logged_mem_endPoller (List.mem_append_right _ List.mem_cons_self)⟩
      exact beq_iff_eq.2 heq

/-! ## What happens meanwhile -/

/-- A check moves on only in the events of its task. -/
theorem State.Step.checkPhase?_of_ne_actor (h : s.Step e t effects) (hne : e.actor? ≠ some task)
    (hs : s.checkPhase? task = some phase) : t.checkPhase? task = some phase := by
  cases task with
  | call c =>
    obtain ⟨r, hc⟩ := State.checkPhase?_call_iff.1 hs
    exact State.checkPhase?_call_iff.2 ⟨r, (h.call?_of_ne_actor hne).trans hc⟩
  | poller p =>
    obtain ⟨next, signalled, hp⟩ := State.checkPhase?_poller_iff.1 hs
    have ht := h.pollerPhase?_of_ne_actor hne (pollerPhase?_of_getElem? hp)
    rw [checkPhase?, ht]

/-- The next event of a call whose check is under way: it hears the answer, or acts on it. -/
theorem State.Step.of_callChecking {r : Request} (h : s.Step e t effects)
    (hactor : e.actor? = some (.call c)) (hc : s.call? c = some ⟨r, .checking phase⟩)
    (hne : e ≠ .proceed (.call c)) :
    ∃ login d a reply, phase = .asking login d ∧ e.heard? = some (.call c, a) ∧
      a.word? = some reply ∧ t = s.setCall c (.checking (.judging login reply)) ∧ effects = [] := by
  cases h
  case callHears call word heard _ =>
    cases (Event.actor?_of_heard? heard).symm.trans hactor
    cases hc.symm.trans call
    exact ⟨_, _, _, _, rfl, heard, word, rfl, rfl⟩
  case hearUser call _ heard _ | hearNoUser call _ heard _ | hearLogout call heard _
      | hearNoLogout call heard _ =>
    cases (Event.actor?_of_heard? heard).symm.trans hactor
    cases hc.symm.trans call
  case pollerHears heard _ => cases (Event.actor?_of_heard? heard).symm.trans hactor
  case start new =>
    cases hactor
    cases hc.symm.trans new
  case adopt call =>
    cases hactor
    cases hc.symm.trans call
  all_goals first | exact absurd (congrArg Event.proceed (Option.some.inj hactor)) hne | cases hactor

/-- The same of a poller. -/
theorem State.Step.of_pollerChecking {next : Nat} {signalled : Bool} (h : s.Step e t effects)
    (hactor : e.actor? = some (.poller p)) (hp : s.pollers[p]? = some ⟨.checking next phase, signalled⟩)
    (hne : e ≠ .proceed (.poller p)) :
    ∃ login d a reply, phase = .asking login d ∧ e.heard? = some (.poller p, a) ∧
      a.word? = some reply ∧ t = s.setPoller p (.checking next (.judging login reply)) ∧
      effects = [] := by
  cases h
  case pollerHears poller word heard _ =>
    cases (Event.actor?_of_heard? heard).symm.trans hactor
    cases hp.symm.trans poller
    exact ⟨_, _, _, _, rfl, heard, word, rfl, rfl⟩
  case hearUser heard _ | hearNoUser heard _ | hearLogout heard _ | hearNoLogout heard _
      | callHears heard _ =>
    cases (Event.actor?_of_heard? heard).symm.trans hactor
  case tick poller _ _ _ | abandon poller _ _ _ | tickFails poller _ _ | shutdown poller =>
    cases hactor
    cases hp.symm.trans poller
  all_goals first | exact absurd (congrArg Event.proceed (Option.some.inj hactor)) hne | cases hactor

/-- How far a check of a login has come since it asked, with what it has heard. -/
inductive Waits (login : LoginTime) : Option CheckPhase → List Answer → Prop where
  | asking {d : Nat} : Waits login (some (.asking login d)) []
  | judging {a : Answer} {reply : Reply RemoteStatus} (word : a.word? = some reply) :
    Waits login (some (.judging login reply)) [a]

/-- Until its task goes on, a check hears one answer at most and asks nothing. -/
theorem State.Step.waits {heard : List Answer} (h : s.Step e t effects) (hne : e ≠ .proceed task)
    (waits : Waits login (s.checkPhase? task) heard) :
    Waits login (t.checkPhase? task) (heard ++ (heardIn task e).toList) ∧ asksIn task effects = [] := by
  by_cases hother : e.actor? ≠ some task
  · rw [heardIn_of_ne_actor hother, h.asksIn_of_ne_actor hother]
    generalize hs : s.checkPhase? task = phase? at waits
    cases waits with
    | asking => rw [h.checkPhase?_of_ne_actor hother hs]; exact ⟨.asking, rfl⟩
    | judging word => rw [h.checkPhase?_of_ne_actor hother hs]; exact ⟨.judging word, rfl⟩
  have hactor := Decidable.not_not.1 hother
  have hmoves : ∀ {phase}, s.checkPhase? task = some phase →
      ∃ login d a reply, phase = .asking login d ∧ e.heard? = some (task, a) ∧ a.word? = some reply ∧
        t.checkPhase? task = some (.judging login reply) ∧ effects = [] := by
    intro phase hs
    cases task with
    | call c =>
      obtain ⟨r, hc⟩ := State.checkPhase?_call_iff.1 hs
      obtain ⟨login, d, a, reply, rfl, heard, word, rfl, rfl⟩ := h.of_callChecking hactor hc hne
      exact ⟨login, d, a, reply, rfl, heard, word,
        State.checkPhase?_call_iff.2 ⟨r, State.call?_setCall_self hc⟩, rfl⟩
    | poller p =>
      obtain ⟨next, signalled, hp⟩ := State.checkPhase?_poller_iff.1 hs
      obtain ⟨login, d, a, reply, rfl, heard, word, rfl, rfl⟩ := h.of_pollerChecking hactor hp hne
      refine ⟨login, d, a, reply, rfl, heard, word, ?_, rfl⟩
      rw [State.checkPhase?, State.pollerPhase?_setPoller, if_pos rfl,
        State.pollerPhase?_of_getElem? hp]
      rfl
  generalize hs : s.checkPhase? task = phase? at waits
  cases waits with
  | asking =>
    obtain ⟨login, d, a, reply, heq, heard, word, ht, rfl⟩ := hmoves hs
    cases heq
    rw [ht, heardIn_of_heard? heard]
    exact ⟨.judging word, rfl⟩
  | judging word =>
    obtain ⟨login, d, a, reply, heq, -⟩ := hmoves hs
    cases heq

theorem Run.waits {login : LoginTime} {d : Nat} (h : Run s trace t)
    (hs : s.checkPhase? task = some (.asking login d)) (hne : ∀ x ∈ trace, x.1 ≠ .proceed task) :
    Waits login (t.checkPhase? task) (heardBy task trace) ∧ asksOf task trace = [] := by
  refine h.induction (P := fun trace t => (∀ x ∈ trace, x.1 ≠ .proceed task) →
    Waits login (t.checkPhase? task) (heardBy task trace) ∧ asksOf task trace = [])
    (fun _ => ⟨hs ▸ .asking, rfl⟩) ?_ hne
  intro l t e u effects _ ih step hne
  obtain ⟨waits, hasks⟩ := ih fun x hx => hne x (List.mem_append_left _ hx)
  obtain ⟨waits', hasks'⟩ := (State.Step.of_step? step).waits (hne (e, effects) (by simp)) waits
  rw [heardBy_append, heardBy_singleton, asksOf_append, asksOf_singleton, hasks, hasks']
  exact ⟨waits', rfl⟩

/-! ## Logins do not come back -/

theorem since?_of_loginOf? {x : Session} (h : loginOf? x = some login) : x.since? = some login := by
  cases x with
  | alive profile since => exact h
  | unauthenticated => cases h
  | expired username since => cases h

/-- The login that the session stems from happened earlier. -/
theorem Run.since_mem {config : Config} {table : Navigation.Table}
    (h : Run (.initial config table) trace t) (hlogin : t.session.since? = some login) :
    login ∈ loginTimes trace := by
  refine h.induction (P := fun trace t => ∀ login, t.session.since? = some login →
    login ∈ loginTimes trace) nofun ?_ login hlogin
  intro l t e u effects _ ih step login hlogin
  rw [loginTimes_append, loginTimes_singleton]
  rw [(State.Step.of_step? step).session] at hlogin
  cases hk : t.contribution? e with
  | none =>
    rw [hk] at hlogin
    exact List.mem_append_left _ (ih login hlogin)
  | some k =>
    obtain ⟨task, τ⟩ := k
    rw [hk] at hlogin
    cases τ with
    | authenticate profile time =>
      cases hlogin
      rw [(State.Contributes.of_contribution? hk).loginTime?]
      exact List.mem_append_right _ (List.mem_singleton_self _)
    | clear =>
      have hnone : (t.session.apply .clear).since? = none := by cases t.session <;> rfl
      cases hnone.symm.trans hlogin
    | expire =>
      have hsame : (t.session.apply .expire).since? = t.session.since? := by cases t.session <;> rfl
      exact List.mem_append_left _ (ih login (hsame.symm.trans hlogin))

/-- Whatever is contributed to a session, other than by a login of the same time, ends its login. -/
theorem loginOf?_apply_ne {x : Session} {τ : Transition}
    (hother : ∀ profile, τ ≠ .authenticate profile login) : loginOf? (x.apply τ) ≠ some login := by
  cases τ with
  | authenticate profile time =>
    intro h
    cases h
    exact hother profile rfl
  | expire => cases x <;> nofun
  | clear => cases x <;> nofun

/-- A run that has no login of a given time either does not touch the session, or leaves it without
that login, for good. -/
theorem Run.untouched_or_over (h : Run s trace t) (fresh : login ∉ loginTimes trace) :
    contributions s trace = [] ∧ t.session = s.session ∨
    contributions s trace ≠ [] ∧ loginOf? t.session ≠ some login := by
  refine h.induction (P := fun trace t => login ∉ loginTimes trace →
    contributions s trace = [] ∧ t.session = s.session ∨
    contributions s trace ≠ [] ∧ loginOf? t.session ≠ some login) (fun _ => Or.inl ⟨rfl, rfl⟩) ?_ fresh
  intro l t e u effects hl ih step fresh
  rw [loginTimes_append, List.mem_append, loginTimes_singleton, not_or] at fresh
  rw [contributions_append hl, contributions_step step, (State.Step.of_step? step).session]
  cases hk : t.contribution? e with
  | none => simpa [contribute] using ih fresh.1
  | some k =>
    obtain ⟨task, τ⟩ := k
    refine Or.inr ⟨by simp, loginOf?_apply_ne ?_⟩
    rintro profile rfl
    rw [(State.Contributes.of_contribution? hk).loginTime?] at fresh
    exact fresh.2 (List.mem_singleton_self _)

/-- The session is alive under a login in every state of a run. -/
def AliveThroughout (login : LoginTime) (s : State) (trace : Trace) : Prop :=
  ∀ l r t, trace = l ++ r → Run s l t → loginOf? t.session = some login

/-- A session stays alive under its login as long as nothing is contributed to it. -/
theorem Run.aliveThroughout_iff (h : Run s trace t) (alive : loginOf? s.session = some login)
    (fresh : login ∉ loginTimes trace) :
    AliveThroughout login s trace ↔ contributions s trace = [] := by
  constructor
  · intro halive
    obtain ⟨hnil, -⟩ | ⟨-, hover⟩ := h.untouched_or_over fresh
    · exact hnil
    · exact absurd (halive trace [] t (List.append_nil _).symm h) hover
  · rintro hnil l r x rfl hx
    rw [contributions_append hx, List.append_eq_nil_iff] at hnil
    rw [loginTimes_append, List.mem_append, not_or] at fresh
    obtain ⟨-, hsame⟩ | ⟨hne, -⟩ := hx.untouched_or_over fresh.1
    · rw [hsame, alive]
    · exact absurd hnil.1 hne

/-! ## A whole check -/

/-- How a check of `login` that has asked in `s` ends, in the step from `t` to `u`, when the provider's
word was `reply`. -/
structure Concludes (task : Task) (profile : UserProfile) (login : LoginTime) (reply : Reply RemoteStatus)
    (s : State) (mid : Trace) (t u : State) (effects : List Effect) : Prop where
  silent : asksIn task effects = []
  /-- A session that has been alive all the while is demoted if the word is against it. -/
  demotes : speaksAgainst reply = true → AliveThroughout login s mid →
    t.session = .alive profile login ∧ u.session = .expired profile.username login
  keeps : ¬(speaksAgainst reply = true ∧ AliveThroughout login s mid) → u.session = t.session
  /-- In particular a session that was authenticated, expired or cleared meanwhile is left alone. -/
  spares : contributions s mid ≠ [] → u.session = t.session
  tells : u.Tells effects u.session.status task

/-- What a check does that a task opens in `s`, where the trace `pre` has led. -/
structure Checks (pre : Trace) (s : State) (task : Task) : Prop where
  /-- If the session is not alive, it asks nothing, changes nothing and ends. -/
  dead : s.session.isAlive = false →
    ∃ t effects, s.step? (.proceed task) = some (t, effects) ∧ t.session = s.session ∧
      asksIn task effects = [] ∧ t.Tells effects t.session.status task
  /-- If it is alive, it asks once, waits for the answer, and acts on it. -/
  alive : ∀ profile login, s.session = .alive profile login →
    ∃ t effects, s.step? (.proceed task) = some (t, effects) ∧ t.session = s.session ∧
      asksIn task effects = [.status] ∧
      ∀ mid u, Run t mid u → (∀ x ∈ mid, x.1 ≠ .proceed task) → (loginTimes (pre ++ mid)).Nodup →
        asksOf task mid = [] ∧
        (heardBy task mid = [] ∧ u.step? (.proceed task) = none ∨
          ∃ a reply v effects', heardBy task mid = [a] ∧ a.word? = some reply ∧
            u.step? (.proceed task) = some (v, effects') ∧
            Concludes task profile login reply t mid u v effects')

theorem step?_of_asking {d : Nat} (asking : s.checkPhase? task = some (.asking login d)) :
    s.step? (.proceed task) = none := by
  cases task with
  | call c =>
    obtain ⟨r, hc⟩ := State.checkPhase?_call_iff.1 asking
    exact step?_callCheck hc
  | poller p =>
    obtain ⟨next, signalled, hp⟩ := State.checkPhase?_poller_iff.1 asking
    exact step?_pollerCheck hp

/-- A check that acts on its answer concludes, if the login it is about has not come twice. -/
theorem concludes_of_judging {profile : UserProfile} {mid : Trace} (h : Run s mid t)
    (alive : s.session = .alive profile login) (fresh : login ∉ loginTimes mid)
    (judging : t.checkPhase? task = some (.judging login reply)) :
    ∃ u effects, t.step? (.proceed task) = some (u, effects) ∧
      Concludes task profile login reply s mid t u effects := by
  obtain ⟨u, effects, step, hsession, hasks, htells⟩ := step?_of_judging judging
  have hlogin : loginOf? s.session = some login := by rw [alive]; rfl
  have hthroughout := h.aliveThroughout_iff hlogin fresh
  have hkeeps : demotes t.session login reply ≠ true → u.session = t.session := by
    intro hdemotes
    rw [hsession, judge, if_neg hdemotes]
  refine ⟨u, effects, step, hasks, ?_, ?_, ?_, htells⟩
  · intro hagainst halive
    obtain ⟨-, hsame⟩ | ⟨hne, -⟩ := h.untouched_or_over fresh
    · rw [alive] at hsame
      refine ⟨hsame, ?_⟩
      have hdemotes : demotes t.session login reply = true :=
        demotes_eq_true_iff.2 ⟨hagainst, by rw [hsame]; rfl⟩
      rw [hsession, judge, if_pos hdemotes, hsame]
      rfl
    · exact absurd (hthroughout.1 halive) hne
  · intro hnot
    refine hkeeps fun hdemotes => hnot ?_
    obtain ⟨hagainst, hend⟩ := demotes_eq_true_iff.1 hdemotes
    obtain ⟨hnil, -⟩ | ⟨-, hover⟩ := h.untouched_or_over fresh
    · exact ⟨hagainst, hthroughout.2 hnil⟩
    · exact absurd hend hover
  · intro hne
    refine hkeeps fun hdemotes => ?_
    obtain ⟨hnil, -⟩ | ⟨-, hover⟩ := h.untouched_or_over fresh
    · exact hne hnil
    · exact hover (demotes_eq_true_iff.1 hdemotes).2

section
variable {config : Config} {table : Navigation.Table} {pre : Trace}

/-- Every check does what `Checks` says, whoever opens it and whatever happens in the meantime. -/
theorem check_correct (h : Run (.initial config table) pre s)
    (opening : s.checkPhase? task = some .opening) : Checks pre s task where
  dead hdead := step?_of_opening_dead opening (loginOf?_eq_none_iff.2 hdead)
  alive profile login halive := by
    have hlogin : loginOf? s.session = some login := by rw [halive]; rfl
    obtain ⟨t, effects, d, step, hsame, hasks, asking⟩ := step?_of_opening_alive opening hlogin
    refine ⟨t, effects, step, hsame, hasks, fun mid u hmid hne hdistinct => ?_⟩
    have fresh : login ∉ loginTimes mid := by
      rw [loginTimes_append] at hdistinct
      have hmem := h.since_mem (since?_of_loginOf? hlogin)
      exact fun hmem' => (List.nodup_append.1 hdistinct).2.2 login hmem login hmem' rfl
    obtain ⟨waits, hsilent⟩ := hmid.waits asking hne
    refine ⟨hsilent, ?_⟩
    generalize hu : u.checkPhase? task = phase?, hheard : heardBy task mid = heard at waits
    cases waits with
    | asking => exact Or.inl ⟨rfl, step?_of_asking hu⟩
    | judging word =>
      obtain ⟨v, effects', step', hconcludes⟩ :=
        concludes_of_judging hmid (hsame.trans halive) fresh hu
      exact Or.inr ⟨_, _, v, effects', rfl, word, step', hconcludes⟩

theorem check_correct_after_login :
    ∃ pre s, Run (.initial .standard .mainTabs) pre s ∧ s.session.isAlive = true ∧
      s.checkPhase? (.call 1) = some .opening ∧ Checks pre s (.call 1) := by
  have hrun : ∃ x,
      (State.initial .standard .mainTabs).follow? (undisturbedLogin ++ [.start 1 .check]) = some x ∧
      x.2.session.isAlive = true ∧ x.2.checkPhase? (.call 1) = some .opening := ⟨_, rfl, rfl, rfl⟩
  obtain ⟨⟨pre, s⟩, hfollow, halive, opening⟩ := hrun
  have h := Run.of_follow? hfollow
  exact ⟨pre, s, h, halive, opening, check_correct h opening⟩

end

end AdminConsole.Client
