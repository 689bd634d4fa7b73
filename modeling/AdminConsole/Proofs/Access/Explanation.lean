import AdminConsole.Explanation
import AdminConsole.Proofs.PermissionSet.NormalForm
import AdminConsole.Proofs.Session.History

/-!
# What an explanation records

An explanation is put together from the answer of the guard and from a summary of the session that is taken apart
from it. `explain_exact` says that the two fit: the record has the guard's answer, shows the session as it is, and
lists a permission that it says is granted.
-/

namespace AdminConsole

/-- The kind of refusal under which a denial of `p` is recorded. -/
inductive Denial.RecordedAs (p : Permission) : Denial → DenialKind → Prop where
  | notAuthenticated : RecordedAs p .notAuthenticated .notAuthenticated
  | sessionExpired : RecordedAs p .sessionExpired .sessionExpired
  | forbidden : RecordedAs p (.forbidden p) .missingPermission

/-- No two denials are recorded under one kind. -/
theorem Denial.RecordedAs.unique {p : Permission} {d d' : Denial} {kind : DenialKind} (h : d.RecordedAs p kind)
    (h' : d'.RecordedAs p kind) : d = d' := by
  cases h <;> cases h' <;> rfl

/-- The record has the answer that the guard gives when it is asked for `p`. -/
structure Explanation.AgreesWith (x : Explanation) (answer : Except Denial Unit) (p : Permission) : Prop where
  required_eq : x.required = p
  granted_iff : x.granted = true ↔ answer = .ok ()
  refusal_eq_none_iff : x.refusal = none ↔ answer = .ok ()
  error_iff : ∀ d, answer = .error d ↔ ∃ refusal, x.refusal = some refusal ∧ d.RecordedAs p refusal.kind

/-- The summary shows the session as it is. -/
structure SessionSummary.Shows (x : SessionSummary) (s : Session) : Prop where
  status_eq : x.status = s.snapshot.status
  username_eq : x.username = s.snapshot.username
  roles_eq : x.roles = s.snapshot.roles.map Role.name
  arranges : PermissionSet.Arranges x.permissions (· ∈ s.snapshot.permissions)
    (· ∈ s.snapshot.permissions.unrecognized)
  /-- Of identifiers that were granted as a list each is shown once, and nothing else is. -/
  count_permissions : ∀ names, s.snapshot.permissions = .ofNames names →
    ∀ name, x.permissions.count name = if name ∈ names then 1 else 0
  permissions_dead : x.status ≠ .alive → x.permissions = []

/-- The record has the guard's answer and shows the session, and what it says is granted is among the permissions
that it shows. -/
structure Explanation.Exact (x : Explanation) (s : Session) (p : Permission) : Prop where
  answer : x.AgreesWith (s.authorize p) p
  session : x.session.Shows s
  listed : x.granted = true → p.wire ∈ x.session.permissions

namespace Session

open Navigation

section
variable {s : Session} {t : Table} {p : Permission} {d : Denial} {kind : DenialKind}

theorem required_explain : (s.explain t p).required = p := by
  unfold explain
  split <;> rfl

theorem session_explain : (s.explain t p).session = s.summary := by
  unfold explain
  split <;> rfl

theorem granted_explain : (s.explain t p).granted = true ↔ s.authorize p = .ok () := by
  unfold explain
  split
  · rename_i h
    simp [h]
  · rename_i d h
    simp [h]

theorem refusal_explain_eq_none_iff : (s.explain t p).refusal = none ↔ s.authorize p = .ok () := by
  unfold explain
  split
  · rename_i h
    simp [h]
  · rename_i d h
    simp [h]

theorem refusal_explain_of_error (h : s.authorize p = .error d) :
    (s.explain t p).refusal = some (d.refusal t) := by
  rw [explain, h]

/-- The guard denies what it was asked for, and nothing else. -/
theorem recordedAs_kind (h : s.authorize p = .error d) : d.RecordedAs p d.kind := by
  cases s with
  | unauthenticated =>
    cases h
    exact .notAuthenticated
  | expired username since =>
    cases h
    exact .sessionExpired
  | alive profile since =>
    rw [authorize] at h
    split at h
    · cases h
    · cases h
      exact .forbidden

theorem error_iff_explain : s.authorize p = .error d ↔
    ∃ refusal, (s.explain t p).refusal = some refusal ∧ d.RecordedAs p refusal.kind := by
  constructor
  · intro h
    exact ⟨d.refusal t, refusal_explain_of_error h, recordedAs_kind h⟩
  · rintro ⟨refusal, hrefusal, hkind⟩
    cases hanswer : s.authorize p with
    | ok _ => cases (refusal_explain_eq_none_iff.2 hanswer).symm.trans hrefusal
    | error d' =>
      cases (refusal_explain_of_error hanswer).symm.trans hrefusal
      rw [hkind.unique (recordedAs_kind hanswer)]

theorem permissions_eq_empty (h : s.status ≠ .alive) : s.permissions = .empty := by
  cases s with
  | alive profile since => exact absurd rfl h
  | unauthenticated | expired username since => rfl

theorem shows_summary : s.summary.Shows s where
  status_eq := rfl
  username_eq := rfl
  roles_eq := rfl
  arranges := PermissionSet.arranges_names
  count_permissions names hnames name := by
    have hpermissions : s.permissions = .ofNames names := hnames
    rw [summary, hpermissions]
    exact PermissionSet.holds_ofNames.count_names
  permissions_dead h := by
    rw [summary, permissions_eq_empty h]
    rfl

end

/-- After any history of operations, for every table and permission, the record of a decision has the answer that
the guard gives, with the kind of its denial, and it shows the session as it is: the permissions that it holds in the
order of the catalog and then the other identifiers in the order of their code points, and nothing if the session is
not alive. A permission that is granted is among them. -/
theorem explain_exact (ops : List Operation) (t : Table) (p : Permission) :
    ((after ops).explain t p).Exact (after ops) p where
  answer := ⟨required_explain, granted_explain, refusal_explain_eq_none_iff, fun _ => error_iff_explain⟩
  session := by
    rw [session_explain]
    exact shows_summary
  listed h := by
    have hmem : p ∈ (after ops).permissions := by
      rw [← PermissionSet.contains_iff, ← authorize_eq_ok_iff]
      exact granted_explain.1 h
    rw [session_explain]
    exact PermissionSet.wire_mem_names.2 (Or.inl hmem)

end Session

end AdminConsole
