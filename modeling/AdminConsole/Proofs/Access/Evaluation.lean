import AdminConsole.Proofs.Navigation.Table
import AdminConsole.Proofs.Session.History

/-!
# What is open to a session

The questions about access are asked in several ways: of one permission, of a list of them, for all entries
of a table, for the first one, for the place to land. `access_exact` gives the answers by the status of the
session and the catalog permissions that it holds, and says how they agree with each other.
-/

namespace AdminConsole.Session

open Navigation

/-- The entry requires a permission that the session holds. -/
def Unlocks (s : Session) (e : Entry) : Prop := ∃ p ∈ e.required, p ∈ s.permissions

instance (s : Session) : DecidablePred s.Unlocks := fun e =>
  inferInstanceAs (Decidable (∃ p ∈ e.required, p ∈ s.permissions))

/-- The answers about access to a table are those that the status and the permissions of the session give. -/
structure AccessExact (s : Session) (t : Table) : Prop where
  hasPermission_iff : ∀ p, s.hasPermission p = true ↔ s.status = .alive ∧ p ∈ s.permissions
  hasAnyPermission_iff : ∀ ps, s.hasAnyPermission ps = true ↔
    s.status = .alive ∧ ∃ p ∈ ps, p ∈ s.permissions
  hasAnyPermission_nil : s.hasAnyPermission [] = false
  /-- The open entries are those that share a permission with a live session, in the table's order. -/
  reachableEntries_eq : s.reachableEntries t = t.entries.filter fun e => s.status = .alive ∧ s.Unlocks e
  reachableEntries_dead : s.status ≠ .alive → s.reachableEntries t = []
  reachableEntries_full : s.status = .alive → (∀ p, p ∈ s.permissions) → s.reachableEntries t = t.entries
  firstReachableEntry?_eq : s.firstReachableEntry? t = (s.reachableEntries t).head?
  landingRoute_eq : s.landingRoute t =
    if s.status = .alive then ((s.reachableEntries t).head?.map Entry.destination).getD .forbidden else .login

section
variable {s : Session} {t : Table} {p : Permission} {ps : List Permission} {e : Entry}

/-! ## Single permissions -/

theorem status_eq_alive_of_mem (h : p ∈ s.permissions) : s.status = .alive := by
  cases s with
  | alive profile since => rfl
  | unauthenticated => exact absurd h PermissionSet.not_mem_empty
  | expired username since => exact absurd h PermissionSet.not_mem_empty

theorem hasPermission_iff : s.hasPermission p = true ↔ p ∈ s.permissions := by
  rw [← PermissionSet.contains_iff, ← authorize_eq_ok_iff, hasPermission]
  cases s.authorize p with
  | ok _ => simp [Except.isOk, Except.toBool]
  | error d => simp [Except.isOk, Except.toBool]

theorem hasAnyPermission_iff : s.hasAnyPermission ps = true ↔ ∃ p ∈ ps, p ∈ s.permissions := by
  simp [hasAnyPermission, hasPermission_iff]

/-! ## Entries of a table -/

theorem reaches_iff : s.reaches e = true ↔ s.Unlocks e := hasAnyPermission_iff

theorem Unlocks.status (h : s.Unlocks e) : s.status = .alive := by
  obtain ⟨p, -, hp⟩ := h
  exact status_eq_alive_of_mem hp

theorem reachableEntries_eq_filter {P : Entry → Prop} [DecidablePred P]
    (h : ∀ e ∈ t.entries, s.Unlocks e ↔ P e) : s.reachableEntries t = t.entries.filter P := by
  rw [reachableEntries]
  refine List.filter_congr fun e he => ?_
  rw [Bool.eq_iff_iff, reaches_iff, decide_eq_true_iff]
  exact h e he

theorem reachableEntries_eq : s.reachableEntries t = t.entries.filter fun e => s.Unlocks e :=
  reachableEntries_eq_filter fun _ _ => Iff.rfl

theorem mem_reachableEntries : e ∈ s.reachableEntries t ↔ e ∈ t.entries ∧ s.Unlocks e := by
  simp [reachableEntries_eq]

theorem firstReachableEntry?_eq : s.firstReachableEntry? t = (s.reachableEntries t).head? :=
  List.head?_filter.symm

theorem reachableEntries_eq_nil (h : s.status ≠ .alive) : s.reachableEntries t = [] := by
  rw [List.eq_nil_iff_forall_not_mem]
  intro e he
  exact h (mem_reachableEntries.1 he).2.status

/-- Every entry has a requirement, and so it is open to a session that holds all permissions. -/
theorem reachableEntries_eq_entries (h : ∀ p, p ∈ s.permissions) : s.reachableEntries t = t.entries := by
  rw [reachableEntries_eq, List.filter_eq_self]
  intro e he
  obtain ⟨p, hp⟩ := List.exists_mem_of_ne_nil _ (Table.required_ne_nil he)
  rw [decide_eq_true_iff]
  exact ⟨p, hp, h p⟩

theorem landingRoute_eq : s.landingRoute t =
    if s.status = .alive then ((s.reachableEntries t).head?.map Entry.destination).getD .forbidden
    else .login := by
  rw [landingRoute, ← firstReachableEntry?_eq]
  by_cases halive : s.status = .alive
  · cases hfirst : s.firstReachableEntry? t with
    | none => simp [isAlive, halive]
    | some e => simp [isAlive, halive]
  · simp [isAlive, halive]

end

/-- After any history of operations, and for every table, the answers about access are those that the status
and the permissions of the session give. -/
theorem access_exact (ops : List Operation) (t : Table) : (after ops).AccessExact t where
  hasPermission_iff p := by
    rw [hasPermission_iff]
    exact ⟨fun h => ⟨status_eq_alive_of_mem h, h⟩, fun h => h.2⟩
  hasAnyPermission_iff ps := by
    rw [hasAnyPermission_iff]
    exact ⟨fun ⟨p, hps, hp⟩ => ⟨status_eq_alive_of_mem hp, p, hps, hp⟩, fun h => h.2⟩
  hasAnyPermission_nil := rfl
  reachableEntries_eq :=
    reachableEntries_eq_filter fun _ _ => ⟨fun h => ⟨h.status, h⟩, fun h => h.2⟩
  reachableEntries_dead := reachableEntries_eq_nil
  reachableEntries_full _ := reachableEntries_eq_entries
  firstReachableEntry?_eq := firstReachableEntry?_eq
  landingRoute_eq := landingRoute_eq

end AdminConsole.Session
