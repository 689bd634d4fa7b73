import AdminConsole.Proofs.Access.Granting
import AdminConsole.Proofs.PermissionSet.Separation
import AdminConsole.Proofs.Text.Quoted

/-!
# What the reason of a denial tells

A live session that lacks a permission is denied it with a sentence that names the permission and lists what the
session holds. The identifiers in the list come from the server and may be any text. The sentence can be read in one
way only all the same (`reason_eq_iff`): the identifier of a permission ends at the apostrophe behind it, and the list
is one of quoted texts.
-/

namespace AdminConsole

open Text

variable {s s' : Session} {p q : Permission} {rest : List Char}

/-! ## The permission that is named -/

/-- The permission whose identifier stands before the first apostrophe, and what stands behind that. -/
def Permission.upToApostrophe? (cs : List Char) : Option (Permission × List Char) :=
  (ofWire? (String.ofList (cs.takeWhile (· != '\x27')))).map fun p =>
    (p, (cs.dropWhile (· != '\x27')).tail)

/-- The bytes of a character are among those of the text. -/
theorem Text.mem_bytes {text : String} {c : Char} {b : UInt8} (hc : c ∈ text.toList)
    (hb : b ∈ String.utf8EncodeChar c) : b ∈ text.toByteArray.data.toList := by
  have hbytes : text.toByteArray.data.toList = text.toList.flatMap String.utf8EncodeChar := by
    conv => lhs; rw [← String.ofList_toList (s := text)]
    rw [String.toByteArray_ofList, List.utf8Encode]
    simp
  rw [hbytes, List.mem_flatMap]
  exact ⟨c, hc, hb⟩

theorem Permission.no_apostrophe (p : Permission) : ∀ c ∈ p.wire.toList, (c != '\x27') = true := by
  -- The bytes of a literal are at hand, and its characters would have to be decoded.
  have hall : ∀ p ∈ all, 0x27 ∉ p.wire.toByteArray.data.toList := by decide
  intro c hc
  refine bne_iff_ne.2 fun heq => hall p p.mem_all ?_
  subst heq
  exact Text.mem_bytes hc (by decide)

theorem Permission.upToApostrophe?_wire :
    upToApostrophe? (p.wire.toList ++ '\x27' :: rest) = some (p, rest) := by
  rw [upToApostrophe?, List.takeWhile_append_of_pos p.no_apostrophe, List.dropWhile_append_of_pos p.no_apostrophe,
    List.takeWhile_cons_of_neg (by decide), List.dropWhile_cons_of_neg (by decide), List.append_nil,
    String.ofList_toList, ofWire?_wire]
  rfl

theorem Permission.selfDelimiting_wire : SelfDelimiting fun p : Permission => p.wire.toList ++ ['\x27'] := by
  have hread : ∀ (p : Permission) rest, upToApostrophe? (p.wire.toList ++ ['\x27'] ++ rest) = some (p, rest) := by
    intro p rest
    rw [List.append_assoc]
    exact upToApostrophe?_wire
  exact .of_read hread

/-! ## The sentence -/

/-- The sentence is made of fixed texts, the identifier of the permission and the list of what is held. -/
theorem Denial.exists_reason_forbidden : ∃ opening between : List Char, ∀ (s : Session) (p : Permission),
    ((forbidden p).reason s).toList =
      opening ++ (p.wire.toList ++ ['\x27'] ++ (between ++ (quotedList s.permissions.names).toList)) := by
  refine ⟨"Session does not hold permission '".toList, ". Current permissions: ".toList, fun s p => ?_⟩
  have hbehind : "'. Current permissions: ".toList = ['\x27'] ++ ". Current permissions: ".toList := by
    decide +kernel
  unfold reason
  simp only [String.toList_append, hbehind, List.append_assoc]

/-- From the sentence the permission can be told, and the identifiers that are listed. -/
theorem Denial.reason_forbidden_inj (h : (forbidden p).reason s = (forbidden q).reason s') :
    p = q ∧ s.permissions.names = s'.permissions.names := by
  obtain ⟨opening, between, hreason⟩ := exists_reason_forbidden
  have hchars := congrArg String.toList h
  rw [hreason, hreason] at hchars
  obtain ⟨rfl, hbehind⟩ := Permission.selfDelimiting_wire p q _ _ (List.append_cancel_left hchars)
  exact ⟨rfl, quotedList_inj (String.toList_inj.1 (List.append_cancel_left hbehind))⟩

namespace Session

open Navigation

theorem reason_explain (halive : s.status = .alive) (hlacks : p ∉ s.permissions) (t : Table) :
    (s.explain t p).reason = (Denial.forbidden p).reason s := by
  rw [explain, authorize_eq_forbidden halive hlacks]

/-- Two live sessions that lack a permission each, with permissions made of any identifiers, are given the same
reason exactly if they lack the same permission and hold the same permissions. -/
theorem reason_eq_iff {names names' : List String} (halive : s.status = .alive) (halive' : s'.status = .alive)
    (hnames : s.permissions = .ofNames names) (hnames' : s'.permissions = .ofNames names')
    (hlacks : p ∉ s.permissions) (hlacks' : q ∉ s'.permissions) (t t' : Table) :
    (s.explain t p).reason = (s'.explain t' q).reason ↔ p = q ∧ s.permissions = s'.permissions := by
  rw [reason_explain halive hlacks, reason_explain halive' hlacks']
  constructor
  · intro h
    obtain ⟨rfl, hlisted⟩ := Denial.reason_forbidden_inj h
    have hseparated : s.permissions.Separated := hnames ▸ PermissionSet.separated_ofNames
    have hseparated' : s'.permissions.Separated := hnames' ▸ PermissionSet.separated_ofNames
    exact ⟨rfl, hseparated.ext hseparated' fun name => by rw [hlisted]⟩
  · rintro ⟨rfl, hpermissions⟩
    unfold Denial.reason
    rw [hpermissions]

/-- A live session with permissions made of identifiers. -/
def holding (names : List String) : Session := .alive ⟨"ada", [], .ofNames names⟩ 7

/-- One identifier that is made to look like two, and two in another order. -/
theorem reason_eq_iff_lookAlike :
    ((holding ["a\", \"b"]).explain .mainTabs .viewMembers).reason ≠
        ((holding ["a", "b"]).explain .mainTabs .viewMembers).reason ∧
      ((holding ["b", "a", "b"]).explain .mainTabs .viewMembers).reason =
        ((holding ["a", "b"]).explain .mainTabs .viewMembers).reason := by
  have hiff : ∀ names, .viewMembers ∉ (holding names).permissions →
      (((holding names).explain .mainTabs .viewMembers).reason =
          ((holding ["a", "b"]).explain .mainTabs .viewMembers).reason ↔
        Permission.viewMembers = .viewMembers ∧ (holding names).permissions = (holding ["a", "b"]).permissions) :=
    fun names hlacks => reason_eq_iff rfl rfl rfl rfl hlacks (by decide) .mainTabs .mainTabs
  constructor
  · rw [ne_eq, hiff _ (by decide)]
    decide
  · rw [hiff _ (by decide)]
    decide

end Session

end AdminConsole
