import AdminConsole.Session.Operation
import Mathlib.Data.List.Induction

/-!
# What a history leaves

Of the operations on a session only the last login after the last clearing counts, and whether the
session was marked expired after it: `snapshot_after` says what the session shows then. Everything else
that holds of all sessions that can come about is read off this closed form.
-/

namespace AdminConsole.Session

/-! ## The part of a history that counts -/

/-- The operations since the last clearing, the latest first. -/
def sinceClear (ops : List Operation) : List Operation := ops.reverse.takeWhile (· ≠ .clear)

/-- The last login after the last clearing. -/
def lastLogin? (ops : List Operation) : Option (UserProfile × LoginTime) :=
  (sinceClear ops).findSome? Operation.login?

/-- Whether the session was marked expired after the last login. -/
def expiredSinceLogin (ops : List Operation) : Bool :=
  ((sinceClear ops).takeWhile (·.login?.isNone)).contains .markExpired

/-- What a session shows after a history. -/
def Snapshot.ofHistory (ops : List Operation) : Snapshot :=
  match lastLogin? ops with
  | none => .initial
  | some (profile, time) =>
    if expiredSinceLogin ops then ⟨.expired, some profile.username, [], .empty, some time⟩
    else ⟨.alive, some profile.username, profile.roles, profile.permissions, some time⟩

section
variable {ops : List Operation} {op : Operation} {profile : UserProfile} {time : LoginTime}

theorem sinceClear_append_clear : sinceClear (ops ++ [.clear]) = [] := by
  simp [sinceClear]

theorem sinceClear_append (h : op ≠ .clear) : sinceClear (ops ++ [op]) = op :: sinceClear ops := by
  simp [sinceClear, h]

theorem Operation.ne_clear_of_login? (h : op.login? = some (profile, time)) : op ≠ .clear := by
  rintro rfl
  cases h

theorem sinceClear_append_markExpired : sinceClear (ops ++ [.markExpired]) = .markExpired :: sinceClear ops :=
  sinceClear_append nofun

theorem lastLogin?_append_clear : lastLogin? (ops ++ [.clear]) = none := by
  simp [lastLogin?, sinceClear_append_clear]

theorem lastLogin?_append_login (h : op.login? = some (profile, time)) :
    lastLogin? (ops ++ [op]) = some (profile, time) := by
  rw [lastLogin?, sinceClear_append (Operation.ne_clear_of_login? h), List.findSome?_cons, h]

/-- Nothing comes after a login yet. -/
theorem expiredSinceLogin_append_login (h : op.login? = some (profile, time)) :
    expiredSinceLogin (ops ++ [op]) = false := by
  rw [expiredSinceLogin, sinceClear_append (Operation.ne_clear_of_login? h)]
  simp [h]

/-- Marking a session expired leaves the last login what it was. -/
theorem lastLogin?_append_markExpired : lastLogin? (ops ++ [.markExpired]) = lastLogin? ops := by
  rw [lastLogin?, sinceClear_append_markExpired, List.findSome?_cons]
  rfl

theorem expiredSinceLogin_append_markExpired : expiredSinceLogin (ops ++ [.markExpired]) = true := by
  have hnone : Operation.markExpired.login? = none := rfl
  rw [expiredSinceLogin, sinceClear_append_markExpired]
  simp [hnone]

theorem transition_of_login? (h : op.login? = some (profile, time)) :
    op.transition = .authenticate profile time := by
  cases op <;> cases h <;> rfl

/-- The session itself after a history. -/
theorem after_eq : after ops =
    match lastLogin? ops with
    | none => unauthenticated
    | some (profile, time) =>
      if expiredSinceLogin ops then expired profile.username time else alive profile time := by
  induction ops using List.reverseRecOn with
  | nil => rfl
  | append_singleton ops op ih =>
    rw [after_append_singleton]
    cases hlogin : op.login? with
    | some login =>
      obtain ⟨profile, time⟩ := login
      rw [transition_of_login? hlogin, lastLogin?_append_login hlogin, expiredSinceLogin_append_login hlogin]
      cases after ops <;> rfl
    | none =>
      cases op with
      | authenticate username granted time | authenticateProfile profile time => cases hlogin
      | clear =>
        rw [lastLogin?_append_clear]
        cases after ops <;> rfl
      | markExpired =>
        -- An expired session is not marked twice: it stays what the last login has left.
        rw [lastLogin?_append_markExpired, expiredSinceLogin_append_markExpired, ih]
        cases lastLogin? ops with
        | none => rfl
        | some login => cases expiredSinceLogin ops <;> rfl

end

/-! ## What the fields have to do with each other -/

/-- The fields of a snapshot fit together. -/
structure Snapshot.Coherent (x : Snapshot) : Prop where
  /-- Only a live session holds permissions and roles. -/
  grants : x.status ≠ .alive → x.permissions = .empty ∧ x.roles = []
  /-- A session shows a user unless nobody is logged in. -/
  username : x.username.isSome = true ↔ x.status ≠ .unauthenticated
  since : x.since.isSome = true ↔ x.status ≠ .unauthenticated

theorem Snapshot.coherent_ofHistory {ops : List Operation} : (Snapshot.ofHistory ops).Coherent := by
  unfold Snapshot.ofHistory
  cases lastLogin? ops with
  | none => constructor <;> simp [Snapshot.initial]
  | some login => cases expiredSinceLogin ops <;> constructor <;> simp

/-- A permission is authorized exactly if the session holds it. -/
theorem authorize_eq_ok_iff {s : Session} {p : Permission} :
    s.authorize p = .ok () ↔ s.permissions.contains p = true := by
  cases s with
  | alive profile since =>
    by_cases h : profile.permissions.contains p = true <;> simp [authorize, permissions, h]
  | unauthenticated | expired username since => simp [authorize, permissions]

/-- After any history of operations a session shows what the last login after the last clearing has
left: nothing if there was none, and otherwise that login, alive, or expired if the session was marked so
since. In particular its fields fit together, and it holds exactly the permissions that it authorizes. -/
theorem snapshot_after (ops : List Operation) :
    (after ops).snapshot = .ofHistory ops ∧ (after ops).snapshot.Coherent ∧
      ∀ p, (after ops).snapshot.permissions.contains p = true ↔ (after ops).authorize p = .ok () := by
  have heq : (after ops).snapshot = .ofHistory ops := by
    rw [after_eq]
    unfold Snapshot.ofHistory
    cases lastLogin? ops with
    | none => rfl
    | some login => cases expiredSinceLogin ops <;> rfl
  refine ⟨heq, ?_, fun p => authorize_eq_ok_iff.symm⟩
  rw [heq]
  exact Snapshot.coherent_ofHistory

end AdminConsole.Session
