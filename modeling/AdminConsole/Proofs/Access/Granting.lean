import AdminConsole.Explanation
import AdminConsole.Proofs.Access.Evaluation

/-!
# What one more permission opens

A session that is refused a permission is told which entries the permission would open. These are the entries
that the permission opens by itself, whatever else the session holds, and some of them may be open already.
`granting_exact` says that a session with the permission reaches just these beside what it reached without.
-/

namespace AdminConsole.Session

open Navigation

/-- Two live sessions, of which the second holds what the first holds and a permission that it lacks. -/
structure GrantedBeside (s : Session) (p : Permission) (s' : Session) : Prop where
  before : s.status = .alive
  lacks : p ∉ s.permissions
  after : s'.status = .alive
  permissions : ∀ q, q ∈ s'.permissions ↔ q = p ∨ q ∈ s.permissions

/-- A live session that holds one permission and no other of the catalog. -/
structure HoldsOnly (s : Session) (p : Permission) : Prop where
  status : s.status = .alive
  permissions : ∀ q, q ∈ s.permissions ↔ q = p

/-- The refusal of `p` to the session suggests to ask for it and then names the keys of what it would open;
without such keys that suggestion is not made. -/
def ToldOf (s : Session) (t : Table) (p : Permission) (keys : List String) : Prop :=
  ∃ refusal, (s.explain t p).refusal = some refusal ∧ refusal.suggestions =
    ("Ask a system administrator for a role that grants '" ++ p.wire ++ "'") ::
      if keys = [] then []
      else ["Granting '" ++ p.wire ++ "' would also unlock: " ++ ", ".intercalate keys]

/-- What is told of `p` to the session `s`, what `s'` reaches with `p` beside what it reached without, and what
`solo` reaches with nothing else fit together. -/
structure GrantingExact (s s' solo : Session) (t : Table) (p : Permission) : Prop where
  told : s.ToldOf t p ((solo.reachableEntries t).map Entry.key)
  /-- What is open with `p` was open without it or has one of the keys that are named. -/
  opened : s'.reachableEntries t = t.entries.filter fun e =>
    e ∈ s.reachableEntries t ∨ e.key ∈ (solo.reachableEntries t).map Entry.key
  kept : (s.reachableEntries t).Sublist (s'.reachableEntries t)
  /-- The first open entry stands no later in the table than it did. -/
  first : ∀ (i : Nat) e, t.entries[i]? = some e → s.firstReachableEntry? t = some e →
    ∃ j ≤ i, ∃ e', t.entries[j]? = some e' ∧ s'.firstReachableEntry? t = some e'

section
variable {s s' solo : Session} {t : Table} {p : Permission} {e : Entry}

theorem authorize_eq_forbidden (halive : s.status = .alive) (hlacks : p ∉ s.permissions) :
    s.authorize p = .error (.forbidden p) := by
  cases s with
  | alive profile since =>
    have hno : profile.permissions.contains p = false := by
      rw [Bool.eq_false_iff, ne_eq, PermissionSet.contains_iff]
      exact hlacks
    simp [authorize, hno]
  | unauthenticated => cases halive
  | expired username since => cases halive

theorem toldOf_keysRequiring (halive : s.status = .alive) (hlacks : p ∉ s.permissions) :
    s.ToldOf t p (t.keysRequiring p) := by
  refine ⟨(Denial.forbidden p).refusal t, ?_, ?_⟩
  · rw [explain, authorize_eq_forbidden halive hlacks]
  · cases hkeys : t.keysRequiring p with
    | nil => simp [Denial.refusal, Denial.advice, hkeys]
    | cons key keys => simp [Denial.refusal, Denial.advice, hkeys]

theorem HoldsOnly.unlocks_iff (only : solo.HoldsOnly p) : solo.Unlocks e ↔ p ∈ e.required := by
  constructor
  · rintro ⟨q, hq, hmem⟩
    exact (only.permissions q).1 hmem ▸ hq
  · intro h
    exact ⟨p, h, (only.permissions p).2 rfl⟩

/-- The keys that a refusal names are those of what the permission opens by itself. -/
theorem HoldsOnly.keysRequiring_eq (only : solo.HoldsOnly p) :
    t.keysRequiring p = (solo.reachableEntries t).map Entry.key := by
  rw [Table.keysRequiring, reachableEntries_eq]
  congr 1
  refine List.filter_congr fun e _ => ?_
  rw [Bool.eq_iff_iff, decide_eq_true_iff, only.unlocks_iff, List.contains_iff_mem]

theorem GrantedBeside.unlocks_iff (granted : s.GrantedBeside p s') :
    s'.Unlocks e ↔ s.Unlocks e ∨ p ∈ e.required := by
  constructor
  · rintro ⟨q, hq, hmem⟩
    rcases (granted.permissions q).1 hmem with rfl | hmem
    · exact Or.inr hq
    · exact Or.inl ⟨q, hq, hmem⟩
  · rintro (⟨q, hq, hmem⟩ | h)
    · exact ⟨q, hq, (granted.permissions q).2 (Or.inr hmem)⟩
    · exact ⟨p, h, (granted.permissions p).2 (Or.inl rfl)⟩

/-- An entry of the table is named by its key alone. -/
theorem key_mem_reachable_iff (h : e ∈ t.entries) :
    e.key ∈ (s.reachableEntries t).map Entry.key ↔ s.Unlocks e := by
  rw [List.mem_map]
  constructor
  · rintro ⟨e', he', hkey⟩
    obtain ⟨hmem, hunlocks⟩ := mem_reachableEntries.1 he'
    exact Table.eq_of_key hmem h hkey ▸ hunlocks
  · intro hunlocks
    exact ⟨e, mem_reachableEntries.2 ⟨h, hunlocks⟩, rfl⟩

/-- The first open entry stands no later than any that is open. -/
theorem exists_firstReachableEntry? {i : Nat} (hi : t.entries[i]? = some e) (h : s.Unlocks e) :
    ∃ j ≤ i, ∃ e', t.entries[j]? = some e' ∧ s.firstReachableEntry? t = some e' := by
  obtain ⟨hlt, hget⟩ := List.getElem?_eq_some_iff.1 hi
  have hle : t.entries.findIdx s.reaches ≤ i := by
    refine Nat.le_of_not_lt fun hbefore => ?_
    have hno := List.not_of_lt_findIdx hbefore
    rw [hget, reaches_iff.2 h] at hno
    cases hno
  have hfirst : t.entries.findIdx s.reaches < t.entries.length := Nat.lt_of_le_of_lt hle hlt
  refine ⟨_, hle, _, List.getElem?_eq_getElem hfirst, ?_⟩
  rw [ firstReachableEntry?, List.find?_eq_getElem?_findIdx]
  exact List.getElem?_eq_getElem hfirst

end

/-- A session that lacks a permission is told the keys of what the permission opens by itself, and with the
permission it reaches what it reached and what has these keys, in the table's order. -/
theorem granting_exact {s s' solo : Session} {p : Permission} (t : Table) (granted : s.GrantedBeside p s')
    (only : solo.HoldsOnly p) : GrantingExact s s' solo t p where
  told := by
    rw [← only.keysRequiring_eq]
    exact toldOf_keysRequiring granted.before granted.lacks
  opened := by
    refine reachableEntries_eq_filter fun e he => ?_
    rw [granted.unlocks_iff, mem_reachableEntries, key_mem_reachable_iff he, only.unlocks_iff,
      and_iff_right he]
  kept := by
    rw [reachableEntries_eq, reachableEntries_eq]
    refine List.monotone_filter_right _ fun e h => ?_
    rw [decide_eq_true_iff] at h ⊢
    exact granted.unlocks_iff.2 (Or.inl h)
  first i e hi hfirst := by
    have hopen : s.Unlocks e := reaches_iff.1 (List.find?_some hfirst)
    exact exists_firstReachableEntry? hi (granted.unlocks_iff.2 (Or.inl hopen))

/-- Three sections, the last of which shares a permission with each of the others. -/
def sharedTable : Table where
  entries := [⟨.members, "a", "tab.a", [.viewMembers]⟩,
    ⟨.securityServers, "b", "tab.b", [.viewSecurityServers, .viewApprovedCas]⟩,
    ⟨.trustServices, "c", "tab.c", [.viewMembers, .viewSecurityServers]⟩]
  sound := by decide

/-- The last section is named although it is open already, and the first open one moves to the front. -/
theorem granting_exact_sharedSection :
    let held := PermissionSet.ofNames ["VIEW_SECURITY_SERVERS", "VIEW_MEMBERS_2"]
    let s := alive ⟨"tester", [], held⟩ 1
    let s' := alive ⟨"tester", [], held.insert .viewMembers⟩ 2
    let solo := alive ⟨"other", [], .ofPermissions [.viewMembers]⟩ 3
    s.GrantedBeside .viewMembers s' ∧ solo.HoldsOnly .viewMembers ∧
      GrantingExact s s' solo sharedTable .viewMembers ∧
      (s.reachableEntries sharedTable).map Entry.key = ["b", "c"] ∧
      (solo.reachableEntries sharedTable).map Entry.key = ["a", "c"] ∧
      (s'.reachableEntries sharedTable).map Entry.key = ["a", "b", "c"] := by
  intro held s s' solo
  have granted : s.GrantedBeside .viewMembers s' := ⟨rfl, by decide, rfl, fun _ => PermissionSet.mem_insert⟩
  have only : solo.HoldsOnly .viewMembers := ⟨rfl, fun q => by cases q <;> decide⟩
  exact ⟨granted, only, granting_exact sharedTable granted only, by decide, by decide, by decide⟩

end AdminConsole.Session
