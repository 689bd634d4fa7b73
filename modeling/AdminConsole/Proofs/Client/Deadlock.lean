import Mathlib.Logic.Relation
import AdminConsole.Proofs.Client.Enabled
import AdminConsole.Proofs.Client.Slot

/-!
# Nobody waits for ever

A call may wait for its turn at the slot, which another call may keep while it waits for a poller to
finish, which may be in the middle of a check and wait for the session, which somebody else may be about
to replace. `WaitsFor` draws these waits. `no_deadlock` says that they never close to a circle, and that
whoever waits does so, over however many others, for somebody who can go on, or who waits for the
provider and times out when the deadline has come.

The session has a lock of its own. It is taken and given back within one step, so that nobody has it
between two steps and no state records it. To see who would wait for it in the middle of a step, `WaitsFor`
is told who has it, if anybody: a task whose next step reads or replaces the session, or somebody who only
looks at it. These are all the sections that hold the lock, and none of them awaits anything:

| here | there |
| --- | --- |
| `UsesSession.adopts` | the statement with `authenticate_profile` in `login` and in `refresh_user_data` |
| `UsesSession.clears` | the statement with `clear` in `logout` |
| `UsesSession.opens` | the block of `check_session` that finds `checked_login` |
| `UsesSession.judges` | `check_session` from its second `lock` to its end |
| `Party.reader` | `snapshot`, `status`, `is_session_alive`, `landing_route` and the other calls that only look |
-/

namespace AdminConsole.Client

/-- Whoever may wait, and whatever may be waited for. -/
inductive Party where
  | task (t : Task)
  /-- Somebody who looks at the session without making a call. -/
  | reader (n : Nat)
  | slot
  | session
deriving DecidableEq

namespace State

/-! ## Who waits for whom -/

/-- The next step that a task takes by itself has the session's lock, to read or to replace the session. -/
inductive UsesSession (s : State) : Task → Prop where
  | adopts {c : Nat} {r : Request} {user : UserData} (call : s.call? c = some ⟨r, .applying user⟩) :
    UsesSession s (.call c)
  | clears {c : Nat} {r : Request} (call : s.call? c = some ⟨r, .clearing⟩) : UsesSession s (.call c)
  | opens {t : Task} (check : s.checkPhase? t = some .opening) : UsesSession s t
  | judges {t : Task} {login : LoginTime} {reply : Reply RemoteStatus}
      (check : s.checkPhase? t = some (.judging login reply)) : UsesSession s t

/-- Who may have the session to himself for a moment. He waits for nothing while he has it. -/
inductive MayOwn (s : State) : Party → Prop where
  | task {t : Task} (uses : s.UsesSession t) : MayOwn s (.task t)
  | reader {n : Nat} : MayOwn s (.reader n)

/-- Who waits for whom, while `owner` has the session to himself. -/
inductive WaitsFor (s : State) (owner : Option Party) : Party → Party → Prop where
  /-- A call whose turn has not come waits for the slot. -/
  | line {c : Nat} {r : Request} (call : s.call? c = some ⟨r, .queued⟩) (behind : ¬s.HasTurn c) :
    WaitsFor s owner (.task (.call c)) .slot
  /-- A slot that is kept waits for the call that keeps it. -/
  | keeper {c : Nat} (kept : s.slot.holder = some c) : WaitsFor s owner .slot (.task (.call c))
  /-- A free slot is the first call's in line. -/
  | next {c : Nat} (turn : s.HasTurn c) : WaitsFor s owner .slot (.task (.call c))
  /-- A call that has told a poller to stop waits for the poller to finish. -/
  | join {c p : Nat} {r : Request} (call : s.call? c = some ⟨r, .stopping p⟩)
      (running : s.hasFinished p = false) : WaitsFor s owner (.task (.call c)) (.task (.poller p))
  | use {t : Task} {o : Party} (uses : s.UsesSession t) (owned : owner = some o) (other : o ≠ .task t) :
    WaitsFor s owner (.task t) .session
  | look {n : Nat} {o : Party} (owned : owner = some o) (other : o ≠ .reader n) :
    WaitsFor s owner (.reader n) .session
  | owned {o : Party} (owned : owner = some o) : WaitsFor s owner .session o

/-- Who can take a step by himself, while `owner` has the session to himself. -/
def CanGo (s : State) (owner : Option Party) : Party → Prop
  | .task t => s.CanStep t ∧ (s.UsesSession t → ∀ o, owner = some o → o = .task t)
  | .reader n => ∀ o, owner = some o → o = .reader n
  | .slot | .session => False

/-- A task waits for the provider, and times out when its deadline has come, which is no further away
than a request that is made now would give it. -/
def AwaitsProvider (s : State) (t : Task) : Prop :=
  ∃ d, s.deadline? t = some d ∧ d ≤ s.newDeadline ∧
    ∃ effects u, Run s [(.elapse (d - s.now), []), (.timeout t, effects)] u

/-- Who is not held up by anybody but the provider. -/
def GoesOn (s : State) (owner : Option Party) (x : Party) : Prop :=
  s.CanGo owner x ∨ ∃ t, x = .task t ∧ s.AwaitsProvider t

/-- Who uses the client just now. -/
inductive Caller (s : State) : Party → Prop where
  | call {c : Nat} {call : Call} (there : s.call? c = some call) (isOpen : call.isOpen = true) :
    Caller s (.task (.call c))
  | reader {n : Nat} : Caller s (.reader n)

/-- Nobody who uses the client waits for ever, while `owner` has the session to himself. -/
structure DeadlockFree (s : State) (owner : Option Party) : Prop where
  acyclic : ∀ x, ¬Relation.TransGen (s.WaitsFor owner) x x
  /-- Whoever waits for somebody cannot go on before. -/
  blocked : ∀ {x y}, s.WaitsFor owner x y → ¬s.GoesOn owner x
  /-- Every wait leads to somebody who goes on. -/
  ends : ∀ {x}, s.Caller x → ∃ y, Relation.ReflTransGen (s.WaitsFor owner) x y ∧ s.GoesOn owner y
  /-- And no wait ends with anybody else. -/
  only : ∀ {x y}, s.Caller x → Relation.ReflTransGen (s.WaitsFor owner) x y →
    (∀ z, ¬s.WaitsFor owner y z) → s.GoesOn owner y

instance {s : State} {c : Nat} : Decidable (s.HasTurn c) := inferInstanceAs (Decidable (_ ∧ _))

variable {s : State} {c d p : Nat} {task : Task} {owner : Option Party} {x y : Party}

/-! ## No circle -/

/-- How far somebody is at most from the end of the waits. -/
def partyRank (s : State) : Party → Nat
  | .task (.call c) =>
    match s.callPhase? c with
    | some .queued => if s.HasTurn c then 2 else 5
    | some (.stopping _) => 3
    | _ => 2
  | .task (.poller _) | .reader _ => 2
  | .slot => 4
  | .session => 1

/-- The same when somebody has the session, who waits for nobody. -/
def waitRank (s : State) (owner : Option Party) (x : Party) : Nat :=
  if owner = some x then 0 else s.partyRank x

theorem partyRank_behind {r : Request} (call : s.call? c = some ⟨r, .queued⟩) (behind : ¬s.HasTurn c) :
    s.partyRank (.task (.call c)) = 5 := by
  simp only [partyRank, callPhase?_of_call? call, if_neg behind]

theorem partyRank_turn {r : Request} (call : s.call? c = some ⟨r, .queued⟩) (turn : s.HasTurn c) :
    s.partyRank (.task (.call c)) = 2 := by
  simp only [partyRank, callPhase?_of_call? call, if_pos turn]

theorem partyRank_stopping {r : Request} (call : s.call? c = some ⟨r, .stopping p⟩) :
    s.partyRank (.task (.call c)) = 3 := by
  simp only [partyRank, callPhase?_of_call? call]

theorem two_le_partyRank : 2 ≤ s.partyRank (.task task) := by
  cases task with
  | call c =>
    simp only [partyRank]
    split
    · split <;> simp
    · simp
    · exact Nat.le_refl 2
  | poller p => exact Nat.le_refl 2

theorem waitRank_le : s.waitRank owner x ≤ s.partyRank x := by
  unfold waitRank
  split
  · exact Nat.zero_le _
  · exact Nat.le_refl _

theorem waitRank_of_ne (h : owner ≠ some x) : s.waitRank owner x = s.partyRank x := if_neg h

/-- A call that uses the session does not wait at the slot or for a poller. -/
theorem UsesSession.not_atSlot {call : Call} (h : s.UsesSession (.call c)) (hc : s.call? c = some call) :
    call.phase.atSlot = false := by
  cases h with
  | adopts call' | clears call' => cases hc.symm.trans call'; rfl
  | opens check | judges check =>
    obtain ⟨r, call'⟩ := checkPhase?_call_iff.1 check
    cases hc.symm.trans call'
    rfl

theorem UsesSession.deadline?_eq_none (h : s.UsesSession task) : s.deadline? task = none := by
  have hcheck : ∀ {phase}, s.checkPhase? task = some phase → (∀ login d, phase ≠ .asking login d) →
      s.deadline? task = none := by
    intro phase hphase hne
    rw [Option.eq_none_iff_forall_ne_some]
    intro d hd
    cases task with
    | call c =>
      obtain ⟨r, hc⟩ := checkPhase?_call_iff.1 hphase
      obtain ⟨r', hc' | ⟨login, hc'⟩⟩ := deadline?_call_iff.1 hd <;> cases hc.symm.trans hc'
      exact hne login d rfl
    | poller p =>
      obtain ⟨next, signalled, hp⟩ := checkPhase?_poller_iff.1 hphase
      obtain ⟨next', login, hp'⟩ := deadline?_poller_iff.1 hd
      cases (pollerPhase?_of_getElem? hp).symm.trans hp'
      exact hne login d rfl
  cases h with
  | adopts call | clears call => exact deadline?_of_call? call
  | opens check => exact hcheck check nofun
  | judges check => exact hcheck check nofun

/-- The owner of the session is not at the slot. -/
theorem owner_ne_of_atSlot {call : Call} (own : ∀ o, owner = some o → s.MayOwn o)
    (hc : s.call? c = some call) (hphase : call.phase.atSlot = true) :
    owner ≠ some (.task (.call c)) := by
  intro howner
  cases own _ howner with
  | task uses => cases (uses.not_atSlot hc).symm.trans hphase

theorem waitRank_slot (own : ∀ o, owner = some o → s.MayOwn o) : s.waitRank owner .slot = 4 :=
  waitRank_of_ne fun howner => by cases own _ howner

theorem waitRank_session (own : ∀ o, owner = some o → s.MayOwn o) : s.waitRank owner .session = 1 :=
  waitRank_of_ne fun howner => by cases own _ howner

/-- Every wait is for somebody who is nearer to the end. -/
theorem WaitsFor.waitRank_lt (h : s.WaitsFor owner x y) (inv : s.Orderly)
    (own : ∀ o, owner = some o → s.MayOwn o) : s.waitRank owner y < s.waitRank owner x := by
  cases h with
  | line call behind =>
    rw [waitRank_of_ne (owner_ne_of_atSlot own call rfl), partyRank_behind call behind]
    exact Nat.lt_of_le_of_lt waitRank_le (by decide : 4 < 5)
  | @keeper c kept =>
    obtain ⟨r, p, call, -⟩ := (inv.holder c).1 kept
    rw [waitRank_slot own]
    exact Nat.lt_of_le_of_lt (le_of_le_of_eq waitRank_le (partyRank_stopping call)) (by decide : 3 < 4)
  | @next c turn =>
    obtain ⟨r, call⟩ := (inv.line c).1 (List.mem_of_mem_head? turn.2)
    rw [waitRank_slot own]
    exact Nat.lt_of_le_of_lt (le_of_le_of_eq waitRank_le (partyRank_turn call turn)) (by decide : 2 < 4)
  | join call _ =>
    rw [waitRank_of_ne (owner_ne_of_atSlot own call rfl), partyRank_stopping call]
    exact Nat.lt_of_le_of_lt waitRank_le (by decide : 2 < 3)
  | use _ owned other =>
    rw [waitRank_of_ne (x := .task _) fun howner => other (Option.some.inj (owned.symm.trans howner))]
    exact Nat.lt_of_le_of_lt waitRank_le two_le_partyRank
  | look owned other =>
    rw [waitRank_of_ne (x := .reader _) fun howner => other (Option.some.inj (owned.symm.trans howner))]
    exact Nat.lt_of_le_of_lt waitRank_le (by decide : 1 < 2)
  | owned owned =>
    rw [waitRank, if_pos owned, waitRank_session own]
    exact Nat.one_pos

theorem not_transGen_self (inv : s.Orderly) (own : ∀ o, owner = some o → s.MayOwn o) :
    ¬Relation.TransGen (s.WaitsFor owner) x x := by
  have hlt : ∀ {y}, Relation.TransGen (s.WaitsFor owner) x y →
      s.waitRank owner y < s.waitRank owner x := by
    intro y h
    induction h with
    | single h => exact h.waitRank_lt inv own
    | tail _ h ih => exact Nat.lt_trans (h.waitRank_lt inv own) ih
  exact fun h => Nat.lt_irrefl _ (hlt h)

/-! ## Whoever waits does so for a reason -/

/-- A call goes on by itself with what its phase lets it do, or adopts. -/
theorem CanStep.of_call {call : Call} (h : s.CanStep (.call c)) (hc : s.call? c = some call) :
    (s.proceedCall c call).isSome = true ∨ ∃ user, call.phase = .applying user := by
  obtain ⟨e, t, effects, hactor, hstart, hheard, step⟩ := h
  cases e with
  | proceed task =>
    cases hactor
    rw [step?_proceed_call hc] at step
    exact Or.inl (Option.isSome_iff_exists.2 ⟨_, step⟩)
  | adopt c' time =>
    cases hactor
    cases State.Step.of_step? step with
    | adopt call' =>
      cases hc.symm.trans call'
      exact Or.inr ⟨_, rfl⟩
    | _ => contradiction
  | start => cases hstart
  | _ => first | cases hactor; done | cases hheard

/-- Nobody who waits can go on before. -/
theorem WaitsFor.not_goesOn (h : s.WaitsFor owner x y) : ¬s.GoesOn owner x := by
  have hstuck : ∀ {c : Nat} {call : Call}, s.call? c = some call → call.phase.atSlot = true →
      (s.proceedCall c call).isSome = false → ¬s.GoesOn owner (.task (.call c)) := by
    rintro c ⟨r, phase⟩ hc hphase hstuck (⟨hcan, -⟩ | ⟨_, htask, d, hd, -⟩)
    · obtain hsome | ⟨user, rfl⟩ := hcan.of_call hc
      · cases hstuck.symm.trans hsome
      · cases hphase
    · cases htask
      rw [deadline?_of_call? hc] at hd
      cases phase <;> first | cases hphase; done | cases hd
  cases h with
  | line call behind =>
    refine hstuck call rfl ?_
    simpa [proceedCall, HasTurn] using behind
  | join call running =>
    refine hstuck call rfl ?_
    simp [proceedCall, running]
  | keeper | next | owned =>
    rintro (hcan | ⟨_, htask, -⟩)
    · exact hcan
    · cases htask
  | use uses owned other =>
    rintro (⟨-, hfree⟩ | ⟨_, htask, d, hd, -⟩)
    · exact other (hfree uses _ owned)
    · cases htask
      cases uses.deadline?_eq_none.symm.trans hd
  | look owned other =>
    rintro (hfree | ⟨_, htask, -⟩)
    · exact other (hfree _ owned)
    · cases htask

/-! ## Whoever does not go on waits -/

/-- Who has a part in the waits of those who use the client. -/
inductive Involved (s : State) (owner : Option Party) : Party → Prop where
  | caller {x : Party} (caller : s.Caller x) : Involved s owner x
  | stopping {p : Nat} (running : s.hasFinished p = false) (signalled : s.isSignalled p = true) :
    Involved s owner (.task (.poller p))
  | slot (taken : s.slot.holder ≠ none ∨ s.slot.line ≠ []) : Involved s owner .slot
  | session {o : Party} (owned : owner = some o) : Involved s owner .session
  | owner {o : Party} (owned : owner = some o) : Involved s owner o

theorem UsesSession.canStep (h : s.UsesSession task) : s.CanStep task := by
  cases h with
  | adopts call => exact canStep_of_applying call
  | clears call => exact canStep_of_proceedCall call rfl
  | opens check => exact canStep_of_opening check
  | judges check => exact canStep_of_judging check

/-- A task that can take a step goes on, or waits for the session. -/
theorem CanStep.goesOn_or_waits (h : s.CanStep task) :
    s.GoesOn owner (.task task) ∨ ∃ y, s.WaitsFor owner (.task task) y := by
  by_cases hwaits : ∃ y, s.WaitsFor owner (.task task) y
  · exact Or.inr hwaits
  · refine Or.inl (Or.inl ⟨h, fun uses o owned => Decidable.not_not.1 fun other => ?_⟩)
    exact hwaits ⟨.session, .use uses owned other⟩

theorem Involved.waitsFor (h : s.Involved owner x) (hxy : s.WaitsFor owner x y) (inv : s.Orderly) :
    s.Involved owner y := by
  cases hxy with
  | line call _ => exact .slot (Or.inr (List.ne_nil_of_mem ((inv.line _).2 ⟨_, call⟩)))
  | keeper kept =>
    obtain ⟨r, p, call, -⟩ := (inv.holder _).1 kept
    exact .caller (.call call rfl)
  | next turn =>
    obtain ⟨r, call⟩ := (inv.line _).1 (List.mem_of_mem_head? turn.2)
    exact .caller (.call call rfl)
  | join call running => exact .stopping running (inv.signalled call)
  | use _ owned _ | look owned _ => exact .session owned
  | owned owned => exact .owner owned

theorem Involved.reflTransGen (h : s.Involved owner x)
    (hxy : Relation.ReflTransGen (s.WaitsFor owner) x y) (inv : s.Orderly) : s.Involved owner y := by
  induction hxy with
  | refl => exact h
  | tail _ hwaits ih => exact ih.waitsFor hwaits inv

end State

section
variable {config : Config} {table : Navigation.Table} {trace : Trace} {s : State} {task : Task} {d : Nat}
  {owner : Option Party} {x : Party}

theorem Run.awaitsProvider (h : Run (.initial config table) trace s) (hd : s.deadline? task = some d) :
    s.AwaitsProvider task := by
  have hd' : (s.waited d).deadline? task = some d := by cases task <;> exact hd
  obtain ⟨t, effects, step⟩ := (h.append run_waited).exists_step?_timeout hd' le_now_waited
  exact ⟨d, hd, h.deadline?_le hd, effects, t, run_waited.append (.singleton step)⟩

/-- Whoever is involved goes on or waits for somebody. -/
theorem Run.goesOn_or_waits (h : Run (.initial config table) trace s)
    (own : ∀ o, owner = some o → s.MayOwn o) (involved : s.Involved owner x) :
    s.GoesOn owner x ∨ ∃ y, s.WaitsFor owner x y := by
  have hprovider : ∀ {task d}, s.deadline? task = some d →
      s.GoesOn owner (.task task) ∨ ∃ y, s.WaitsFor owner (.task task) y :=
    fun hd => Or.inl (Or.inr ⟨_, rfl, h.awaitsProvider hd⟩)
  cases involved with
  | caller caller =>
    cases caller with
    | @call c call hc isOpen =>
      obtain ⟨r, phase⟩ := call
      obtain hcan | ⟨rfl, behind⟩ | ⟨p, rfl, running⟩ | ⟨d, hd⟩ := canStep_of_isOpen hc isOpen
      · exact hcan.goesOn_or_waits
      · exact Or.inr ⟨_, .line hc behind⟩
      · exact Or.inr ⟨_, .join hc running⟩
      · exact hprovider hd
    | @reader n =>
      by_cases hwaits : ∃ y, s.WaitsFor owner (.reader n) y
      · exact Or.inr hwaits
      · refine Or.inl (Or.inl fun o owned => Decidable.not_not.1 fun other => ?_)
        exact hwaits ⟨.session, .look owned other⟩
  | stopping running signalled =>
    obtain hcan | ⟨d, hd⟩ := canStep_of_signalled running signalled
    · exact hcan.goesOn_or_waits
    · exact hprovider hd
  | slot taken =>
    cases hholder : s.slot.holder with
    | some c => exact Or.inr ⟨_, .keeper hholder⟩
    | none =>
      obtain ⟨c, line, hline⟩ := List.exists_cons_of_ne_nil (taken.resolve_left (absurd hholder))
      exact Or.inr ⟨_, .next ⟨hholder, by rw [hline]; rfl⟩⟩
  | session owned => exact Or.inr ⟨_, .owned owned⟩
  | owner owned =>
    cases own _ owned with
    | task uses => exact uses.canStep.goesOn_or_waits
    | reader =>
      refine Or.inl (Or.inl fun o owned' => ?_)
      exact Option.some.inj (owned'.symm.trans owned)

theorem Run.exists_goesOn (h : Run (.initial config table) trace s)
    (own : ∀ o, owner = some o → s.MayOwn o) (involved : s.Involved owner x) :
    ∃ y, Relation.ReflTransGen (s.WaitsFor owner) x y ∧ s.GoesOn owner y := by
  -- Along a wait the rank goes down, so that the waits come to an end.
  induction hn : s.waitRank owner x using Nat.strongRecOn generalizing x with
  | ind n ih =>
    obtain hgoes | ⟨y, hwaits⟩ := h.goesOn_or_waits own involved
    · exact ⟨x, .refl, hgoes⟩
    · have hlt := hn ▸ hwaits.waitRank_lt h.orderly own
      obtain ⟨z, hyz, hgoes⟩ := ih _ hlt (involved.waitsFor hwaits h.orderly) rfl
      exact ⟨z, .head hwaits hyz, hgoes⟩

/-- In every state that a run leads to, whoever may have the session just then, the waits do not close to
a circle, and each leads to somebody who goes on by himself or who waits for the provider until a deadline
and can then time out. `owner` stands for the one section, if any, that has the session's lock at the moment
(see `MayOwn`): every one of them is allowed for, also in the states in which it is never taken. -/
theorem no_deadlock (h : Run (.initial config table) trace s)
    (own : ∀ o, owner = some o → s.MayOwn o) : s.DeadlockFree owner where
  acyclic _ := State.not_transGen_self h.orderly own
  blocked hxy := hxy.not_goesOn
  ends caller := h.exists_goesOn own (.caller caller)
  only {x y} caller hxy hend := by
    have involved := (State.Involved.caller caller).reflTransGen hxy h.orderly
    exact (h.goesOn_or_waits own involved).resolve_right fun ⟨z, hz⟩ => hend z hz

/-- A question about the poller waits for the slot, which a refresh keeps until the previous poller has
finished, which has heard that the session is alive and looks at it next; another check is about to start. -/
def crowdedSlot : List Event :=
  undisturbedLogin ++
    [.proceed (.poller 0), .elapse 30000000000, .tick 0, .proceed (.poller 0), .start 1 .refresh,
      .proceed (.call 1), .answer (.call 1) (.user ⟨"ada", [], []⟩), .adopt 1 8, .proceed (.call 1),
      .proceed (.call 1), .start 2 .polling, .proceed (.call 2), .answer (.poller 0) (.status .alive),
      .start 3 .check]

theorem no_deadlock_crowdedSlot :
    ∃ trace s, Run (.initial .standard .mainTabs) trace s ∧ s.MayOwn (.task (.call 3)) ∧
      Relation.TransGen (s.WaitsFor (some (.task (.call 3)))) (.task (.call 2)) (.task (.call 3)) ∧
      s.DeadlockFree (some (.task (.call 3))) := by
  have hrun : ∃ x, (State.initial .standard .mainTabs).follow? crowdedSlot = some x ∧
      x.2.call? 2 = some ⟨.polling, .queued⟩ ∧ x.2.slot.holder = some 1 ∧
      x.2.call? 1 = some ⟨.refresh, .stopping 0⟩ ∧ x.2.hasFinished 0 = false ∧
      x.2.checkPhase? (.poller 0) = some (.judging 7 (.ok .alive)) ∧
      x.2.checkPhase? (.call 3) = some .opening := ⟨_, rfl, rfl, rfl, rfl, rfl, rfl, rfl⟩
  obtain ⟨⟨trace, s⟩, hfollow, hpolling, hholder, hrefresh, hrunning, hpoller, hcheck⟩ := hrun
  have own : s.MayOwn (.task (.call 3)) := .task (.opens hcheck)
  refine ⟨trace, s, .of_follow? hfollow, own, ?_, no_deadlock (.of_follow? hfollow) fun o ho => ?_⟩
  · have behind : ¬s.HasTurn 2 := fun turn => nomatch turn.1.symm.trans hholder
    exact .head (.line hpolling behind) (.head (.keeper hholder) (.head (.join hrefresh hrunning)
      (.head (.use (.judges hpoller) rfl nofun) (.single (.owned rfl)))))
  · cases ho
    exact own

end

end AdminConsole.Client
