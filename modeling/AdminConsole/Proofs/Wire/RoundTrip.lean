import AdminConsole.Proofs.PermissionSet.Canonical
import AdminConsole.Proofs.UserData.Presentation

/-!
# Round trips

What is written is read back. Of a granted set it is the members that count, in whatever form and order they
were stored, and a set that is written again takes its canonical form. A user's data survive what a server may
do to the object: leave out an empty list, add members of its own, write the members in another order.
-/

namespace AdminConsole

open Json

/-- Granted sets and users' data read back as what was written, each accepted set is written again as its one
canonical value, and a user's data and profile are the same from every presentation of them. In a text there
may be anything under a name of its own that a reader passes over. -/
theorem wire_roundTrip :
    (∀ s : PermissionSet, PermissionSet.decode s.toJson = .ok s) ∧
    (∀ v s, PermissionSet.decode v = .ok s → ∃ known unrecognized,
      PermissionSet.Stores v known unrecognized ∧ (∀ p, p ∈ s.known ↔ p ∈ known) ∧
        ∀ name, name ∈ s.unrecognized ↔ name ∈ unrecognized) ∧
    (∀ v w known known' unrecognized unrecognized', PermissionSet.Stores v known unrecognized →
      PermissionSet.Stores w known' unrecognized' → (∀ p, p ∈ known ↔ p ∈ known') →
        (∀ name, name ∈ unrecognized ↔ name ∈ unrecognized') →
          ∃ s, PermissionSet.decode v = .ok s ∧ PermissionSet.decode w = .ok s) ∧
    (∀ v s, PermissionSet.decode v = .ok s → PermissionSet.Canonical s.toJson ∧
      PermissionSet.decode s.toJson = PermissionSet.decode v ∧
        ∀ w, PermissionSet.Canonical w → PermissionSet.decode w = PermissionSet.decode v →
          w = s.toJson) ∧
    (∀ u : UserData, UserData.decode u.toJson = .ok u ∧ UserData.ofText u.toJson.compact = .ok u) ∧
    (∀ (u : UserData) members, u.Presents members →
      UserData.decode (obj members) = .ok u ∧ UserData.ofText (obj members).compact = .ok u ∧
        UserData.profile <$> UserData.decode (obj members) = .ok u.profile) ∧
    ∀ (u : UserData) parts, u.PresentsText parts → UserData.ofText (UserData.objectText parts) = .ok u := by
  refine ⟨fun s => PermissionSet.decode_toJson, ?_, ?_, ?_, fun u => ?_, fun u members h => ?_,
    fun u parts h => UserData.ofText_of_presentsText h⟩
  · intro v s h
    obtain ⟨known, unrecognized, stores, rfl⟩ := PermissionSet.decode_eq_ok_iff.1 h
    exact ⟨known, unrecognized, stores, fun _ => OrderedSet.mem_ofList, fun _ => OrderedSet.mem_ofList⟩
  · intro v w known known' unrecognized unrecognized' hv hw hknown hunrecognized
    have hread := PermissionSet.decode_of_stores hv
    exact ⟨_, hread, ((PermissionSet.decode_eq_iff_of_stores hw hv).2
      ⟨fun p => (hknown p).symm, fun name => (hunrecognized name).symm⟩).trans hread⟩
  · intro v s h
    refine ⟨PermissionSet.canonical_toJson, PermissionSet.decode_toJson.trans h.symm, ?_⟩
    intro w canonical hw
    exact (PermissionSet.canonical_iff_eq_toJson (hw.trans h)).1 canonical
  · exact ⟨UserData.decode_of_presents .written, UserData.ofText_of_presents .written⟩
  · have hread := UserData.decode_of_presents h
    exact ⟨hread, UserData.ofText_of_presents h, by rw [hread]; rfl⟩

/-- A set as the list of its parts, with the members in some order and repeated. -/
def partsOfSet : Json :=
  arr [strings ["VIEW_VERSION", "INIT_CONFIG", "VIEW_VERSION"], strings ["b", "a", "b"]]

/-- The same set as an object with a member more. -/
def objectOfSet : Json :=
  obj [("unrecognized", strings ["a", "b"]), ("stored", int 3),
    ("known", strings ["INIT_CONFIG", "VIEW_VERSION"])]

def officer : UserData := ⟨"o\"fficer\n", [], ["VIEW_MEMBERS"]⟩

/-- The officer's data without the roles and with a member more. -/
def membersOfOfficer : List (String × Json) :=
  [("permissions", strings officer.permissions), ("username", str officer.username),
    ("locale", obj [("days", arr [int (-7), null])])]

/-- The officer's data with a number that has a fraction and an exponent. -/
def partsOfOfficer : List (String × String) :=
  [("quota", "-1.5e+3"), ("username", quote officer.username), ("permissions", (strings officer.permissions).compact)]

/-- The two stored values read as one set, which is written again in its canonical form, and the officer is read
from the text of what is left of the object. -/
theorem wire_roundTrip_reordered :
    PermissionSet.Stores partsOfSet [.viewVersion, .initConfig, .viewVersion] ["b", "a", "b"] ∧
      PermissionSet.Stores objectOfSet [.initConfig, .viewVersion] ["a", "b"] ∧
      (∃ s, PermissionSet.decode partsOfSet = .ok s ∧ PermissionSet.decode objectOfSet = .ok s ∧
        PermissionSet.Canonical s.toJson ∧
        PermissionSet.decode s.toJson = PermissionSet.decode partsOfSet) ∧
      officer.Presents membersOfOfficer ∧ UserData.ofText (obj membersOfOfficer).compact = .ok officer ∧
      officer.PresentsText partsOfOfficer ∧
        UserData.ofText (UserData.objectText partsOfOfficer) = .ok officer := by
  have hparts : PermissionSet.Stores partsOfSet [.viewVersion, .initConfig, .viewVersion] ["b", "a", "b"] :=
    @PermissionSet.Stores.parts [.viewVersion, .initConfig, .viewVersion] ["b", "a", "b"]
  have hobject : PermissionSet.Stores objectOfSet [.initConfig, .viewVersion] ["a", "b"] := .object rfl rfl
  have huser : officer.Presents membersOfOfficer := by
    have hrolesFirst : officer.Presents [("roles", arr []), ("username", str officer.username),
      ("permissions", strings officer.permissions)] := .reorder .written (List.Perm.swap _ _ _)
    have hlocale : "locale" ∉ ["username", "roles", "permissions"] := by decide
    exact .reorder (.add (.drop hrolesFirst (Or.inl rfl)) hlocale trivial) (List.reverse_perm _).symm
  have hquota : UserData.Passable "-1.5e+3" := by
    intro rest ends
    cases rest with
    | nil => rfl
    | cons c rest =>
      obtain rfl | rfl | rfl := ends c rfl
      · rfl
      · rfl
      · rfl
  have htext : officer.PresentsText partsOfOfficer := by
    have hrolesFirst : officer.PresentsText [("roles", (strings []).compact), ("username", quote officer.username),
      ("permissions", (strings officer.permissions).compact)] := .reorder .written (List.Perm.swap _ _ _)
    exact .add (.drop hrolesFirst (Or.inl rfl)) (by decide) hquota
  have hknown : ∀ p : Permission, p ∈ [Permission.viewVersion, .initConfig, .viewVersion] ↔
      p ∈ [Permission.initConfig, .viewVersion] := by
    intro p
    simp only [List.mem_cons, List.not_mem_nil, or_false]
    tauto
  have hunrecognized : ∀ name, name ∈ ["b", "a", "b"] ↔ name ∈ ["a", "b"] := by
    intro name
    simp only [List.mem_cons, List.not_mem_nil, or_false]
    tauto
  obtain ⟨-, -, same, again, -, user, userText⟩ := wire_roundTrip
  obtain ⟨s, hs, ht⟩ := same _ _ _ _ _ _ hparts hobject hknown hunrecognized
  obtain ⟨canonical, hread, -⟩ := again _ _ hs
  exact ⟨hparts, hobject, ⟨s, hs, ht, canonical, hread⟩, huser, (user _ _ huser).2.1, htext, userText _ _ htext⟩

end AdminConsole
