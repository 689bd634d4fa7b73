import AdminConsole.Proofs.PermissionSet.NormalForm
import AdminConsole.Session.Operation
import Mathlib.Data.List.Forall2

/-!
# What access depends on

Access depends on the status of a session and on the catalog permissions it holds, and on nothing else:
not on the user, the roles, the time of the login, nor on identifiers outside the catalog or on how the
server lists them. Two histories whose logins agree in the granted catalog permissions keep two sessions
`AccessEquiv` step by step, and so every question about access has the same answer on both sides:
`access_noninterference`.
-/

namespace AdminConsole

namespace Session

open Navigation

/-! ## Sessions that access does not tell apart -/

/-- Two sessions have the same status and hold the same catalog permissions. -/
structure AccessEquiv (s₁ s₂ : Session) : Prop where
  status : s₁.status = s₂.status
  permissions : ∀ p, p ∈ s₁.permissions ↔ p ∈ s₂.permissions

/-- Every question about access has the same answer for both sessions. -/
structure SameAccess (t : Table) (s₁ s₂ : Session) : Prop where
  hasPermission : ∀ p, s₁.hasPermission p = s₂.hasPermission p
  hasAnyPermission : ∀ ps, s₁.hasAnyPermission ps = s₂.hasAnyPermission ps
  reachableEntries : s₁.reachableEntries t = s₂.reachableEntries t
  firstReachableEntry : s₁.firstReachableEntry? t = s₂.firstReachableEntry? t
  landingRoute : s₁.landingRoute t = s₂.landingRoute t
  authorize : ∀ p, s₁.authorize p = s₂.authorize p

section
variable {s s₁ s₂ : Session} {t : Table} {p : Permission}

/-- The guard reads the status and one membership. -/
theorem authorize_eq : s.authorize p =
    match s.status with
    | .unauthenticated => .error .notAuthenticated
    | .expired => .error .sessionExpired
    | .alive => if s.permissions.contains p then .ok () else .error (.forbidden p) := by
  cases s <;> rfl

theorem AccessEquiv.authorize (h : s₁.AccessEquiv s₂) : s₁.authorize p = s₂.authorize p := by
  have hcontains : s₁.permissions.contains p = s₂.permissions.contains p := by
    rw [Bool.eq_iff_iff, PermissionSet.contains_iff, PermissionSet.contains_iff]
    exact h.permissions p
  rw [authorize_eq, authorize_eq, h.status, hcontains]

/-- All other questions come down to the guard and the status. -/
theorem AccessEquiv.sameAccess (h : s₁.AccessEquiv s₂) : SameAccess t s₁ s₂ := by
  have hpermission : s₁.hasPermission = s₂.hasPermission := by
    funext p
    rw [Session.hasPermission, Session.hasPermission, h.authorize]
  have hany : s₁.hasAnyPermission = s₂.hasAnyPermission := by
    funext ps
    rw [Session.hasAnyPermission, Session.hasAnyPermission, hpermission]
  have hreaches : s₁.reaches = s₂.reaches := by
    funext e
    rw [reaches, reaches, hany]
  have hfirst : s₁.firstReachableEntry? t = s₂.firstReachableEntry? t := by
    rw [ firstReachableEntry?, firstReachableEntry?, hreaches]
  refine ⟨congrFun hpermission, congrFun hany, ?_, hfirst, ?_, fun p => h.authorize⟩
  · rw [reachableEntries, reachableEntries, hreaches]
  · rw [landingRoute, landingRoute, isAlive, isAlive, h.status, hfirst]

end

/-! ## Histories that access does not tell apart -/

/-- Operations of one kind. Of two logins the granted catalog permissions agree, and nothing else
need. -/
inductive Operation.Alike : Operation → Operation → Prop where
  | authenticate {username₁ username₂ : String} {granted₁ granted₂ : PermissionSet}
      {time₁ time₂ : LoginTime} (same : ∀ p, p ∈ granted₁ ↔ p ∈ granted₂) :
    Alike (.authenticate username₁ granted₁ time₁) (.authenticate username₂ granted₂ time₂)
  | authenticateProfile {profile₁ profile₂ : UserProfile} {time₁ time₂ : LoginTime}
      (same : ∀ p, p ∈ profile₁.permissions ↔ p ∈ profile₂.permissions) :
    Alike (.authenticateProfile profile₁ time₁) (.authenticateProfile profile₂ time₂)
  | markExpired : Alike .markExpired .markExpired
  | clear : Alike .clear .clear

section
variable {s s₁ s₂ : Session} {op₁ op₂ : Operation} {ops₁ ops₂ : List Operation}

theorem status_apply_expire :
    (s.apply .expire).status = if s.status = .alive then .expired else s.status := by
  cases s <;> rfl

/-- Whatever a session was, once it is marked expired it holds no permission. -/
theorem permissions_apply_expire : (s.apply .expire).permissions = .empty := by
  cases s <;> rfl

theorem apply_authenticate {profile : UserProfile} {time : LoginTime} :
    s.apply (.authenticate profile time) = alive profile time := by
  cases s <;> rfl

theorem apply_clear : s.apply .clear = unauthenticated := by
  cases s <;> rfl

/-- Operations of one kind keep two sessions that access does not tell apart so. -/
theorem AccessEquiv.apply (h : s₁.AccessEquiv s₂) (alike : op₁.Alike op₂) :
    (s₁.apply op₁.transition).AccessEquiv (s₂.apply op₂.transition) := by
  cases alike with
  | authenticate same | authenticateProfile same =>
    simp only [Operation.transition, apply_authenticate]
    exact ⟨rfl, same⟩
  | markExpired =>
    constructor
    · simp only [Operation.transition, status_apply_expire, h.status]
    · intro p
      simp only [Operation.transition, permissions_apply_expire]
  | clear =>
    simp only [Operation.transition, apply_clear]
    exact ⟨rfl, fun _ => Iff.rfl⟩

theorem AccessEquiv.run (h : s₁.AccessEquiv s₂) (alike : List.Forall₂ Operation.Alike ops₁ ops₂) :
    (s₁.run (ops₁.map Operation.transition)).AccessEquiv (s₂.run (ops₂.map Operation.transition)) := by
  induction alike generalizing s₁ s₂ with
  | nil => exact h
  | cons halike _ ih => exact ih (h.apply halike)

end

/-- Two histories of operations of the same kinds, whose logins grant the same catalog permissions, lead
through sessions that access does not tell apart, whatever the table. For logins with the identifiers that
a server lists this means that the lists agree in the identifiers of the catalog, in whatever order and
however often these stand there, and beside whatever others. -/
theorem access_noninterference :
    (∀ (t : Table) (ops₁ ops₂ : List Operation), List.Forall₂ Operation.Alike ops₁ ops₂ →
      ∀ n, SameAccess t (after (ops₁.take n)) (after (ops₂.take n))) ∧
    ∀ names₁ names₂ : List String, (∀ p : Permission, p.wire ∈ names₁ ↔ p.wire ∈ names₂) →
      ∀ p, p ∈ PermissionSet.ofNames names₁ ↔ p ∈ PermissionSet.ofNames names₂ := by
  constructor
  · intro t ops₁ ops₂ alike n
    have hnew : unauthenticated.AccessEquiv unauthenticated := ⟨rfl, fun _ => Iff.rfl⟩
    exact (hnew.run (List.forall₂_take n alike)).sameAccess
  · intro names₁ names₂ same p
    rw [PermissionSet.mem_ofNames, PermissionSet.mem_ofNames]
    exact same p

/-- Two users log in at different times, one with a role. The server lists that user's permissions in
another order, one of them twice, and with them an identifier that almost names a permission. -/
theorem access_noninterference_reorderedNames :
    let granted₁ := PermissionSet.ofNames ["VIEW_MEMBERS", "INIT_CONFIG"]
    let granted₂ := PermissionSet.ofNames ["INIT_CONFIG", "VIEW_MEMBERS_2", "VIEW_MEMBERS", "INIT_CONFIG"]
    granted₁ ≠ granted₂ ∧ ∀ n, SameAccess .mainTabs
      (after ([.authenticate "admin" granted₁ 1, .markExpired,
        .authenticateProfile ⟨"admin", [], granted₁⟩ 2].take n))
      (after ([.authenticate "officer" granted₂ 5, .markExpired,
        .authenticateProfile ⟨"officer", [.securityOfficer], granted₂⟩ 9].take n)) := by
  intro granted₁ granted₂
  have same : ∀ p, p ∈ granted₁ ↔ p ∈ granted₂ := by
    refine access_noninterference.2 _ _ fun p => ?_
    cases p <;> decide
  have alike : List.Forall₂ Operation.Alike
      [.authenticate "admin" granted₁ 1, .markExpired, .authenticateProfile ⟨"admin", [], granted₁⟩ 2]
      [.authenticate "officer" granted₂ 5, .markExpired,
        .authenticateProfile ⟨"officer", [.securityOfficer], granted₂⟩ 9] :=
    .cons (.authenticate same) (.cons .markExpired (.cons (.authenticateProfile same) .nil))
  exact ⟨by decide, access_noninterference.1 .mainTabs _ _ alike⟩

end Session

end AdminConsole
