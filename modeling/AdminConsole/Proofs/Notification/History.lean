import AdminConsole.Notification.Queue
import Mathlib.Data.List.Induction
import Mathlib.Data.List.Pairwise
import Mathlib.Data.List.Perm.Basic

/-!
# What a history of notifications leaves

Of the notifications that were pushed, those are left that were pushed since the last reset and not dismissed
afterwards. Read off the history from the front, they are what the queue holds, each kind in its own list and
in the order of the pushes: `run_reflects`.
-/

namespace AdminConsole.NotificationQueue

/-! ## Reading a history -/

namespace Operation

/-- What an operation pushes among the successes. -/
def success? : Operation → Option Notification
  | pushSuccess id message => some ⟨id, .success, message, none⟩
  | _ => none

/-- What an operation pushes among the errors. -/
def error? : Operation → Option Notification
  | pushError id message cause => some ⟨id, .error, message, cause⟩
  | pushErrorChain id cause => some ⟨id, .error, cause.text, some cause⟩
  | _ => none

/-- The identifier that is generated for what an operation pushes. -/
def newId? : Operation → Option NotificationId
  | pushSuccess id _ | pushError id _ _ | pushErrorChain id _ => some id
  | _ => none

def continueInit? : Operation → Option Bool
  | setContinueInit value => some value
  | _ => none

end Operation

/-- The operations after the last reset, or all of them. -/
def sinceReset (ops : List Operation) : List Operation := (ops.reverse.takeWhile (· ≠ .reset)).reverse

/-- The pushes of one kind that no later operation dismisses. -/
def undismissed (pushed? : Operation → Option Notification) : List Operation → List Notification
  | [] => []
  | op :: later =>
    match pushed? op with
    | none => undismissed pushed? later
    | some n =>
      if .dismiss n.id ∈ later then undismissed pushed? later else n :: undismissed pushed? later

/-- Each push of a history is given an identifier of its own. -/
def Fresh (ops : List Operation) : Prop := (ops.filterMap Operation.newId?).Nodup

instance (ops : List Operation) : Decidable (Fresh ops) :=
  inferInstanceAs (Decidable (ops.filterMap Operation.newId?).Nodup)

/-- The queue holds what the history has pushed and not taken away. -/
structure Reflects (q : NotificationQueue) (ops : List Operation) : Prop where
  successes : q.successes = undismissed Operation.success? (sinceReset ops)
  errors : q.errors = undismissed Operation.error? (sinceReset ops)
  /-- No identifier stands twice, be it in one list or in both. -/
  ids_nodup : ((q.successes ++ q.errors).map Notification.id).Nodup
  kind_success : ∀ n ∈ q.successes, n.kind = .success
  kind_error : ∀ n ∈ q.errors, n.kind = .error
  /-- An error pushed as a chain shows the messages of the chain, the outermost first, and carries it. -/
  chain : ∀ id e, Operation.pushErrorChain id e ∈ ops → ∀ n ∈ q.errors, n.id = id →
    n.message = ": ".intercalate (e.contexts.reverse ++ [e.root]) ∧ n.cause = some e
  /-- The value set last since the last reset. -/
  continueInit : q.continueInit =
    ((sinceReset ops).filterMap Operation.continueInit?).getLast?.getD false

section
variable {q : NotificationQueue} {op : Operation} {ops later : List Operation} {n : Notification}
  {pushed? : Operation → Option Notification}

/-! ## One more operation -/

theorem sinceReset_append_reset : sinceReset (ops ++ [.reset]) = [] := by
  simp [sinceReset]

theorem sinceReset_append (h : op ≠ .reset) : sinceReset (ops ++ [op]) = sinceReset ops ++ [op] := by
  simp [sinceReset, h]

theorem sinceReset_sublist : (sinceReset ops).Sublist ops := by
  have h : ((ops.reverse.takeWhile (· ≠ .reset)).reverse).Sublist ops.reverse.reverse :=
    (List.takeWhile_sublist _).reverse
  rwa [List.reverse_reverse] at h

theorem undismissed_cons_of_none (h : pushed? op = none) :
    undismissed pushed? (op :: later) = undismissed pushed? later := by
  rw [undismissed, h]

theorem undismissed_cons_of_some (h : pushed? op = some n) :
    undismissed pushed? (op :: later) =
      if .dismiss n.id ∈ later then undismissed pushed? later else n :: undismissed pushed? later := by
  rw [undismissed, h]

/-- One more operation takes away what it dismisses and adds what it pushes. -/
theorem undismissed_append :
    undismissed pushed? (ops ++ [op]) =
      (undismissed pushed? ops).filter (fun n => op ≠ .dismiss n.id) ++ (pushed? op).toList := by
  induction ops with
  | nil => cases h : pushed? op <;> simp [undismissed, h]
  | cons first ops ih =>
    rw [List.cons_append]
    cases hfirst : pushed? first with
    | none => rw [undismissed_cons_of_none hfirst, undismissed_cons_of_none hfirst, ih]
    | some n =>
      rw [undismissed_cons_of_some hfirst, undismissed_cons_of_some hfirst, ih]
      by_cases hlater : Operation.dismiss n.id ∈ ops
      · simp [hlater]
      · by_cases hop : op = .dismiss n.id
        · simp [hop, hlater]
        · have hne : Operation.dismiss n.id ≠ op := fun h => hop h.symm
          simp [hlater, hne, hop]

theorem dismiss_eq (l : List Notification) (id : NotificationId) :
    l.filter (·.id != id) = l.filter fun n => Operation.dismiss id ≠ .dismiss n.id := by
  refine List.filter_congr fun n _ => ?_
  simp [bne, eq_comm, Bool.beq_eq_decide_eq]

theorem successes_apply (h : op ≠ .reset) :
    (q.apply op).successes = q.successes.filter (fun n => op ≠ .dismiss n.id) ++ op.success?.toList := by
  cases op with
  | reset => exact absurd rfl h
  | dismiss id =>
    simp only [apply, dismiss, Operation.success?, dismiss_eq, Option.toList_none, List.append_nil]
  | pushSuccess id message | pushError id message cause | pushErrorChain id cause | setContinueInit value =>
    simp [apply, pushSuccess, pushError, Operation.success?]

theorem errors_apply (h : op ≠ .reset) :
    (q.apply op).errors = q.errors.filter (fun n => op ≠ .dismiss n.id) ++ op.error?.toList := by
  cases op with
  | reset => exact absurd rfl h
  | dismiss id =>
    simp only [apply, dismiss, Operation.error?, dismiss_eq, Option.toList_none, List.append_nil]
  | pushSuccess id message | pushError id message cause | pushErrorChain id cause | setContinueInit value =>
    simp [apply, pushSuccess, pushError, Operation.error?]

theorem continueInit_apply (h : op ≠ .reset) :
    (q.apply op).continueInit = op.continueInit?.getD q.continueInit := by
  cases op with
  | reset => exact absurd rfl h
  | pushSuccess id message | pushError id message cause | pushErrorChain id cause | dismiss id
  | setContinueInit value => rfl

theorem run_append_singleton : q.run (ops ++ [op]) = (q.run ops).apply op := by
  simp [run]

/-! ## The whole history -/

/-- A list that each operation changes in this way holds what is not dismissed since the last reset. -/
theorem view_run {view : NotificationQueue → List Notification} (view_empty : view empty = [])
    (view_apply : ∀ (q : NotificationQueue) (op : Operation), op ≠ .reset →
      view (q.apply op) = (view q).filter (fun n => op ≠ .dismiss n.id) ++ (pushed? op).toList) :
    view (empty.run ops) = undismissed pushed? (sinceReset ops) := by
  induction ops using List.reverseRecOn with
  | nil => exact view_empty
  | append_singleton ops op ih =>
    rw [run_append_singleton]
    by_cases h : op = .reset
    · rw [h, sinceReset_append_reset]
      exact view_empty
    · rw [view_apply _ op h, ih, sinceReset_append h, undismissed_append]

theorem successes_run : (empty.run ops).successes = undismissed Operation.success? (sinceReset ops) :=
  view_run rfl fun _ _ => successes_apply

theorem errors_run : (empty.run ops).errors = undismissed Operation.error? (sinceReset ops) :=
  view_run rfl fun _ _ => errors_apply

theorem continueInit_run : (empty.run ops).continueInit =
    ((sinceReset ops).filterMap Operation.continueInit?).getLast?.getD false := by
  induction ops using List.reverseRecOn with
  | nil => rfl
  | append_singleton ops op ih =>
    rw [run_append_singleton]
    by_cases h : op = .reset
    · rw [h, sinceReset_append_reset]
      rfl
    · rw [continueInit_apply h, ih, sinceReset_append h, List.filterMap_append]
      cases hvalue : op.continueInit? <;> simp [hvalue]

/-! ## Where a notification comes from -/

theorem exists_of_mem_undismissed (h : n ∈ undismissed pushed? ops) : ∃ op ∈ ops, pushed? op = some n := by
  induction ops with
  | nil => cases h
  | cons op later ih =>
    have hlater : n ∈ undismissed pushed? later → ∃ op' ∈ op :: later, pushed? op' = some n := by
      intro h
      obtain ⟨op', hop', hn⟩ := ih h
      exact ⟨op', List.mem_cons_of_mem _ hop', hn⟩
    cases hpushed : pushed? op with
    | none => exact hlater (undismissed_cons_of_none hpushed ▸ h)
    | some m =>
      rw [undismissed_cons_of_some hpushed] at h
      split at h
      · exact hlater h
      · rcases List.mem_cons.1 h with rfl | h
        · exact ⟨op, List.mem_cons_self, hpushed⟩
        · exact hlater h

theorem Operation.newId?_of_error? (h : op.error? = some n) : op.newId? = some n.id := by
  cases op <;> cases h <;> rfl

theorem ids_undismissed_sublist :
    ((undismissed pushed? ops).map Notification.id).Sublist
      (ops.filterMap fun op => (pushed? op).map Notification.id) := by
  induction ops with
  | nil => exact .slnil
  | cons op later ih =>
    cases hpushed : pushed? op with
    | none => simpa [undismissed_cons_of_none hpushed, hpushed] using ih
    | some n =>
      rw [undismissed_cons_of_some hpushed, List.filterMap_cons, hpushed]
      split
      · exact ih.cons n.id
      · exact ih.cons_cons n.id

/-- A push is one of the successes or one of the errors. -/
theorem newIds_perm :
    (ops.filterMap (fun op => op.success?.map Notification.id) ++
      ops.filterMap fun op => op.error?.map Notification.id).Perm (ops.filterMap Operation.newId?) := by
  induction ops with
  | nil => exact .nil
  | cons op later ih =>
    cases op with
    | pushSuccess id message => exact ih.cons id
    | pushError id message cause | pushErrorChain id cause => exact List.perm_middle.trans (ih.cons id)
    | dismiss id | reset | setContinueInit value => exact ih

theorem Fresh.ids_nodup (fresh : Fresh ops) :
    ((undismissed Operation.success? (sinceReset ops) ++ undismissed Operation.error? (sinceReset ops)).map
      Notification.id).Nodup := by
  rw [List.map_append]
  have hsince : Fresh (sinceReset ops) := fresh.sublist (sinceReset_sublist.filterMap _)
  exact (newIds_perm.nodup_iff.2 hsince).sublist (ids_undismissed_sublist.append ids_undismissed_sublist)

/-- No two operations of a history push under one identifier. -/
theorem Fresh.eq_of_newId? (fresh : Fresh ops) {op₁ op₂ : Operation} {id : NotificationId} (h₁ : op₁ ∈ ops)
    (h₂ : op₂ ∈ ops) (hid₁ : op₁.newId? = some id) (hid₂ : op₂.newId? = some id) : op₁ = op₂ := by
  refine Classical.byContradiction fun hne => ?_
  have hapart := List.pairwise_filterMap.1 fresh
  have hsymm : Std.Symm fun a b : Operation => ∀ i, a.newId? = some i → ∀ j, b.newId? = some j → i ≠ j :=
    ⟨fun _ _ h i hi j hj => (h j hj i hi).symm⟩
  exact hapart.forall h₁ h₂ hne id hid₁ id hid₂ rfl

end

/-- After any history of operations on a new queue in which each push has an identifier of its own, the two
lists hold the pushes since the last reset that were not dismissed afterwards, in order and unchanged. -/
theorem run_reflects (ops : List Operation) (fresh : Fresh ops) : (empty.run ops).Reflects ops where
  successes := successes_run
  errors := errors_run
  ids_nodup := by
    rw [successes_run, errors_run]
    exact fresh.ids_nodup
  kind_success n hn := by
    rw [successes_run] at hn
    obtain ⟨op, -, hop⟩ := exists_of_mem_undismissed hn
    cases op <;> cases hop
    rfl
  kind_error n hn := by
    rw [errors_run] at hn
    obtain ⟨op, -, hop⟩ := exists_of_mem_undismissed hn
    cases op <;> cases hop <;> rfl
  chain id e he n hn hid := by
    rw [errors_run] at hn
    obtain ⟨op, hmem, hop⟩ := exists_of_mem_undismissed hn
    have heq : op = .pushErrorChain id e :=
      fresh.eq_of_newId? (sinceReset_sublist.subset hmem) he (hid ▸ Operation.newId?_of_error? hop) rfl
    rw [heq] at hop
    cases hop
    exact ⟨rfl, rfl⟩
  continueInit := continueInit_run

/-- A reset, an error under two contexts, identifiers that are dismissed before they are given away, and
one that is dismissed twice. -/
theorem run_reflects_afterReset :
    let chain : ErrorChain := ⟨"connection refused", ["GET /members", "failed to load members"]⟩
    let ops : List Operation := [.pushSuccess ⟨1⟩ "logged in", .setContinueInit true, .reset, .dismiss ⟨4⟩,
      .pushSuccess ⟨2⟩ "member added", .pushErrorChain ⟨3⟩ chain, .dismiss ⟨2⟩,
      .pushError ⟨4⟩ "upload failed" none, .dismiss ⟨2⟩, .pushSuccess ⟨5⟩ "member renamed"]
    Fresh ops ∧ (empty.run ops).Reflects ops ∧
      empty.run ops = ⟨[⟨⟨5⟩, .success, "member renamed", none⟩],
        [⟨⟨3⟩, .error, "failed to load members: GET /members: connection refused", some chain⟩,
          ⟨⟨4⟩, .error, "upload failed", none⟩], false⟩ := by
  intro chain ops
  have fresh : Fresh ops := by decide
  exact ⟨fresh, run_reflects ops fresh, by decide⟩

end AdminConsole.NotificationQueue
