import AdminConsole.Wire
import AdminConsole.Wire.UserDataText
import AdminConsole.Proofs.Json.Decode
import AdminConsole.Proofs.Json.Skip

/-!
# Presentations of a user's data

The members that a server may send for a user's data: those that are written, in any order, among members with
other names, and without a list that is empty. Every such presentation reads as the user's data, be it read as
a value (`decode_of_presents`) or from its text (`ofText_of_presentsText`). In a text there may be anything under
another name that a reader passes over, a number with a fraction for one.

Both readers are followed with one invariant, `Draft.Fills`: what has been read so far is completed by the
members that are still to come, each field by at most one of them.
-/

namespace AdminConsole

open Json Json.Reader

/-! ## One field -/

namespace Json

section
variable {α β : Type} {write : α → β} {name : String} {member : String × β}
  {members members' : List (String × β)} {given final : Option α}

/-- Of the members with this name there is one that gives the value, or none if there is no value. -/
def Gives (write : α → β) (name : String) (members : List (String × β)) (value : Option α) : Prop :=
  members.filter (·.1 = name) = (value.map fun a => (name, write a)).toList

/-- The field has its final value, or the members give it. -/
def Completes (write : α → β) (name : String) (given : Option α) (members : List (String × β))
    (final : Option α) : Prop :=
  (given = none ∧ Gives write name members final) ∨ (given = final ∧ Gives write name members none)

theorem gives_cons_of_ne (h : member.1 ≠ name) :
    Gives write name (member :: members) final ↔ Gives write name members final := by
  simp [Gives, h]

theorem Gives.perm (h : Gives write name members final) (hperm : members.Perm members') :
    Gives write name members' final := by
  have hfilter := (hperm.filter fun member => decide (member.1 = name)).symm
  rw [Gives] at h ⊢
  rw [h] at hfilter
  cases final with
  | none => exact hfilter.eq_nil
  | some a => exact List.perm_singleton.1 hfilter

theorem Gives.tail (h : Gives write name (member :: members) final) (hname : member.1 = name) :
    (∃ a, final = some a ∧ member.2 = write a) ∧ Gives write name members none := by
  obtain ⟨n, v⟩ := member
  obtain rfl : n = name := hname
  cases final with
  | none => simp [Gives] at h
  | some a =>
    obtain ⟨hv, hrest⟩ : v = write a ∧ members.filter (·.1 = n) = [] := by simpa [Gives] using h
    exact ⟨⟨a, rfl, hv⟩, hrest⟩

theorem member?_of_gives {write : α → Json} {members : List (String × Json)}
    (h : Gives write name members final) : member? name members = final.map write := by
  induction members generalizing final with
  | nil => cases final <;> simp_all [Gives, member?]
  | cons member members ih =>
    by_cases hname : member.1 = name
    · obtain ⟨⟨a, rfl, ha⟩, hrest⟩ := h.tail hname
      simp [member?, ih hrest, hname, ha]
    · rw [member?, ih ((gives_cons_of_ne hname).1 h)]
      cases final <;> simp [hname]

theorem optional_of_gives {d : Decoder α} {write : α → Json} {members : List (String × Json)}
    (exact : ∀ a, d (write a) = .ok a) (h : Gives write name members final) :
    optional d name members = .ok final := by
  rw [optional, member?_of_gives h]
  cases final with
  | none => rfl
  | some a => simp [exact, Functor.map, Except.map]

theorem Completes.of_ne (h : Completes write name given (member :: members) final) (hname : member.1 ≠ name) :
    Completes write name given members final := by
  simpa only [Completes, gives_cons_of_ne hname] using h

/-- A member of the field's name comes while the field has no value, and brings the final one. -/
theorem Completes.of_eq {v : β} (h : Completes write name given ((name, v) :: members) final) :
    given = none ∧ ∃ a, v = write a ∧ Completes write name (some a) members final := by
  rcases h with ⟨hgiven, h⟩ | ⟨-, h⟩
  · obtain ⟨⟨a, rfl, ha⟩, hrest⟩ := h.tail rfl
    exact ⟨hgiven, a, ha, Or.inr ⟨rfl, hrest⟩⟩
  · obtain ⟨⟨a, ha, -⟩, -⟩ := h.tail rfl
    cases ha

theorem Completes.of_nil (h : Completes write name given [] final) : given = final := by
  rcases h with ⟨rfl, h⟩ | ⟨hgiven, -⟩
  · cases final with
    | none => rfl
    | some a => cases h
  · exact hgiven

end

end Json

namespace UserData

/-- A reader passes over the text where a value may stand. -/
def Passable (text : String) : Prop := ∀ rest, Ends rest → skipValue (text.toList ++ rest) = .ok rest

/-- How the members of a user's data are given: a name, a list, and what there may be under another name. -/
structure Form (β : Type) where
  name : String → β
  list : List String → β
  other : β → Prop

/-- As values, of which any may be there. -/
def Form.value : Form Json := ⟨str, strings, fun _ => True⟩

/-- As texts. -/
def Form.text : Form String := ⟨quote, fun l => compact (strings l), Passable⟩

/-- The members of a user's data: as they are written, without a list that is empty, with members that have
other names, and in any order. -/
inductive PresentsIn {β : Type} (form : Form β) (u : UserData) : List (String × β) → Prop where
  | written : PresentsIn form u [("username", form.name u.username), ("roles", form.list u.roles),
      ("permissions", form.list u.permissions)]
  | drop {name : String} {members : List (String × β)} (h : PresentsIn form u ((name, form.list []) :: members))
      (hname : name = "roles" ∨ name = "permissions") : PresentsIn form u members
  | add {name : String} {v : β} {members : List (String × β)} (h : PresentsIn form u members)
      (hname : name ∉ ["username", "roles", "permissions"]) (hother : form.other v) :
      PresentsIn form u ((name, v) :: members)
  | reorder {members members' : List (String × β)} (h : PresentsIn form u members)
      (hperm : members.Perm members') : PresentsIn form u members'

abbrev Presents (u : UserData) (members : List (String × Json)) : Prop := PresentsIn .value u members

abbrev PresentsText (u : UserData) (parts : List (String × String)) : Prop := PresentsIn .text u parts

/-- The text of a member whose value is a text already. -/
def memberText (part : String × String) : String := quote part.1 ++ ":" ++ part.2

def objectText (parts : List (String × String)) : String :=
  "\x7b" ++ ",".intercalate (parts.map memberText) ++ "\x7d"

/-- What is still to come completes the draft. -/
structure Draft.Fills (d : Draft) (parts : List (String × String)) (final : Draft) : Prop where
  username : Completes quote "username" d.username parts final.username
  roles : Completes (fun l => compact (strings l)) "roles" d.roles parts final.roles
  permissions : Completes (fun l => compact (strings l)) "permissions" d.permissions parts final.permissions
  other : ∀ part ∈ parts, part.1 ∉ ["username", "roles", "permissions"] → Passable part.2

section
variable {β : Type} {form : Form β} {members : List (String × β)} {u : UserData} {name : String} {v : β}

/-- The members give the list, which may be missing if it is empty. -/
def GivesList (write : List String → β) (name : String) (members : List (String × β)) (l : List String) : Prop :=
  ∃ given, Gives write name members given ∧ given.getD [] = l

theorem GivesList.of_drop {write : List String → β} {other : String} {l : List String}
    (hempty : ∀ l, write l = write [] → l = []) (h : GivesList write name ((other, write []) :: members) l) :
    GivesList write name members l := by
  obtain ⟨given, hgives, rfl⟩ := h
  by_cases hname : other = name
  · obtain ⟨⟨l, rfl, hl⟩, hrest⟩ := hgives.tail hname
    exact ⟨none, hrest, (hempty l hl.symm).symm⟩
  · exact ⟨given, (gives_cons_of_ne hname).1 hgives, rfl⟩

theorem GivesList.add {write : List String → β} {other : String} {l : List String}
    (h : GivesList write name members l) (hname : other ≠ name) :
    GivesList write name ((other, v) :: members) l := by
  obtain ⟨given, hgives, hl⟩ := h
  exact ⟨given, (gives_cons_of_ne hname).2 hgives, hl⟩

theorem GivesList.perm {write : List String → β} {members' : List (String × β)} {l : List String}
    (h : GivesList write name members l) (hperm : members.Perm members') : GivesList write name members' l := by
  obtain ⟨given, hgives, hl⟩ := h
  exact ⟨given, hgives.perm hperm, hl⟩

/-- A presentation gives every field once, except that an empty list may be missing. -/
theorem PresentsIn.gives (hempty : ∀ l, form.list l = form.list [] → l = []) (h : PresentsIn form u members) :
    Gives form.name "username" members (some u.username) ∧ GivesList form.list "roles" members u.roles ∧
      GivesList form.list "permissions" members u.permissions := by
  induction h with
  | written => exact ⟨rfl, ⟨some u.roles, rfl, rfl⟩, some u.permissions, rfl, rfl⟩
  | @drop name members h hname ih =>
    obtain ⟨husername, hroles, hpermissions⟩ := ih
    have hne : name ≠ "username" := by rcases hname with rfl | rfl <;> decide
    exact ⟨(gives_cons_of_ne hne).1 husername, hroles.of_drop hempty, hpermissions.of_drop hempty⟩
  | add h hname _ ih =>
    obtain ⟨husername, hroles, hpermissions⟩ := ih
    simp only [List.mem_cons, List.not_mem_nil, or_false, not_or] at hname
    obtain ⟨hu, hr, hp⟩ := hname
    exact ⟨(gives_cons_of_ne hu).2 husername, hroles.add hr, hpermissions.add hp⟩
  | reorder h hperm ih =>
    obtain ⟨husername, hroles, hpermissions⟩ := ih
    exact ⟨husername.perm hperm, hroles.perm hperm, hpermissions.perm hperm⟩

theorem PresentsIn.other (h : PresentsIn form u members) :
    ∀ member ∈ members, member.1 ∉ ["username", "roles", "permissions"] → form.other member.2 := by
  induction h with
  | written =>
    intro member hmember hname
    simp only [List.mem_cons, List.not_mem_nil, or_false] at hmember
    rcases hmember with rfl | rfl | rfl <;> exact absurd (by simp) hname
  | drop h hname ih => exact fun member hmember => ih member (List.mem_cons_of_mem _ hmember)
  | add h _ hother ih =>
    intro member hmember hname
    rcases List.mem_cons.1 hmember with rfl | hmember
    · exact hother
    · exact ih member hmember hname
  | reorder h hperm ih => exact fun member hmember => ih member (hperm.mem_iff.2 hmember)

end

section
variable {u : UserData} {d final : Draft} {members : List (String × Json)} {parts : List (String × String)}
  {name text : String} {rest : List Char}

/-! ## Reading a value -/

theorem decode_of_presents (h : Presents u members) : decode (obj members) = .ok u := by
  have hempty : ∀ l, strings l = strings [] → l = [] := fun l hl => by simpa [strings] using hl
  obtain ⟨husername, ⟨roles, hroles, hr⟩, permissions, hpermissions, hp⟩ := h.gives hempty
  have hu := optional_of_gives (fun _ => Decoder.string_eq_ok_iff.2 rfl) husername
  have hl := optional_of_gives (fun _ => Decoder.strings_eq_ok_iff.2 rfl) hroles
  have hm := optional_of_gives (fun _ => Decoder.strings_eq_ok_iff.2 rfl) hpermissions
  simp [decode, hu, hl, hm, hr, hp, present, bind, Except.bind, pure, Except.pure]

/-! ## Reading a text -/

/-- Only an empty list is written as two brackets. -/
theorem eq_nil_of_compact {l : List String} (h : compact (strings l) = compact (strings [])) : l = [] := by
  have hread : list string ((compact (strings l)).toList ++ []) = .ok ([], []) := by rw [h, list_strings]
  exact (Prod.mk.inj (Except.ok.inj (list_strings.symm.trans hread))).1

theorem PresentsText.fills (h : PresentsText u parts) :
    ∃ final : Draft, Draft.blank.Fills parts final ∧ final.complete = .ok u := by
  obtain ⟨husername, ⟨roles, hroles, hr⟩, permissions, hpermissions, hp⟩ := h.gives fun _ => eq_nil_of_compact
  refine ⟨⟨some u.username, roles, permissions⟩, ⟨Or.inl ⟨rfl, husername⟩, Or.inl ⟨rfl, hroles⟩,
    Or.inl ⟨rfl, hpermissions⟩, h.other⟩, ?_⟩
  rw [Draft.complete, hr, hp]

theorem Draft.Fills.of_nil (h : d.Fills [] final) : d = final := by
  obtain ⟨username, roles, permissions⟩ := d
  obtain ⟨username', roles', permissions'⟩ := final
  obtain rfl : username = username' := h.username.of_nil
  obtain rfl : roles = roles' := h.roles.of_nil
  obtain rfl : permissions = permissions' := h.permissions.of_nil
  rfl

theorem once_none {α : Type} {value : Reader α} : once none value (':' :: rest) = value rest := rfl

/-- What follows a name is read or passed over, and the draft is still completed by what then remains. -/
theorem member_of_fills (h : d.Fills ((name, text) :: parts) final) (ends : Ends rest) :
    ∃ d', member d name (':' :: (text.toList ++ rest)) = .ok (d', rest) ∧ d'.Fills parts final := by
  have hother := fun part hpart => h.other part (List.mem_cons_of_mem _ hpart)
  by_cases husername : name = "username"
  · subst husername
    obtain ⟨hgiven, s, rfl, hu⟩ := h.username.of_eq
    refine ⟨{ d with username := some s }, ?_, hu, h.roles.of_ne (by simp), h.permissions.of_ne (by simp), hother⟩
    simp [member, hgiven, once_none, string_quote, bind, Except.bind, pure, Except.pure]
  by_cases hroles : name = "roles"
  · subst hroles
    obtain ⟨hgiven, l, rfl, hl⟩ := h.roles.of_eq
    refine ⟨{ d with roles := some l }, ?_, h.username.of_ne (by simp), hl, h.permissions.of_ne (by simp), hother⟩
    simp [member, hgiven, once_none, list_strings, bind, Except.bind, pure, Except.pure]
  by_cases hpermissions : name = "permissions"
  · subst hpermissions
    obtain ⟨hgiven, l, rfl, hl⟩ := h.permissions.of_eq
    refine ⟨{ d with permissions := some l }, ?_, h.username.of_ne (by simp), h.roles.of_ne (by simp), hl, hother⟩
    simp [member, hgiven, once_none, list_strings, bind, Except.bind, pure, Except.pure]
  · have hpass := h.other _ List.mem_cons_self (by simp [husername, hroles, hpermissions]) rest ends
    refine ⟨d, ?_, h.username.of_ne husername, h.roles.of_ne hroles, h.permissions.of_ne hpermissions, hother⟩
    simp [member, husername, hroles, hpermissions, token_cons, Reader.isSpace, hpass, bind, Except.bind, pure,
      Except.pure]

theorem nextName_first : nextName true ((quote name).toList ++ rest) = .ok (some name, rest) := by
  rw [toList_quote]
  simp [nextName, skipSpace_cons, token_cons, isSpace, openString_quoted, bind, Except.bind, pure,
    Except.pure]

theorem nextName_comma : nextName false (',' :: ((quote name).toList ++ rest)) = .ok (some name, rest) := by
  rw [toList_quote]
  simp [nextName, skipSpace_cons, token_cons, isSpace, openString_quoted, bind, Except.bind, pure,
    Except.pure]

/-- A member is taken in one step, be it the first one or one behind a comma. -/
theorem members_cons (h : d.Fills ((name, text) :: parts) final) (ends : Ends rest) :
    ∃ d' : Draft, d'.Fills parts final ∧ ∀ fuel,
      UserData.members (fuel + 1) true d ((memberText (name, text)).toList ++ rest) =
          UserData.members fuel false d' rest ∧
        UserData.members (fuel + 1) false d (',' :: ((memberText (name, text)).toList ++ rest)) =
          UserData.members fuel false d' rest := by
  obtain ⟨d', hmember, hrest⟩ := member_of_fills h ends
  have htext : (memberText (name, text)).toList ++ rest =
      (quote name).toList ++ ':' :: (text.toList ++ rest) := by simp [memberText]
  refine ⟨d', hrest, fun fuel => ⟨?_, ?_⟩⟩
  · rw [htext, UserData.members, nextName_first]
    simp [hmember, bind, Except.bind]
  · rw [htext, UserData.members, nextName_comma]
    simp [hmember, bind, Except.bind]

theorem members_behindCommas {fuel : Nat} (h : d.Fills parts final) (hfuel : parts.length < fuel) :
    UserData.members fuel false d
        (behindCommas (parts.map memberText) ++ Container.object.closing :: rest) =
      .ok (final, Container.object.closing :: rest) := by
  induction parts generalizing d fuel with
  | nil =>
    obtain ⟨fuel, rfl⟩ := Nat.exists_eq_succ_of_ne_zero (Nat.ne_of_gt hfuel)
    obtain rfl := h.of_nil
    rfl
  | cons part parts ih =>
    obtain ⟨fuel, rfl⟩ := Nat.exists_eq_succ_of_ne_zero (Nat.ne_of_gt (Nat.zero_lt_of_lt hfuel))
    obtain ⟨d', hrest, hstep⟩ := members_cons h ends_behindCommas
    rw [List.map_cons, behindCommas_cons, List.cons_append, List.append_assoc, (hstep fuel).2]
    exact ih hrest (Nat.lt_of_succ_lt_succ hfuel)

theorem members_intercalate {cs : List Char} (h : d.Fills parts final)
    (hcs : cs = (",".intercalate (parts.map memberText)).toList ++ Container.object.closing :: rest) :
    UserData.members (cs.length + 1) true d cs = .ok (final, Container.object.closing :: rest) := by
  subst hcs
  cases parts with
  | nil =>
    obtain rfl := h.of_nil
    rfl
  | cons part parts =>
    obtain ⟨d', hrest, hstep⟩ := members_cons h ends_behindCommas
    have hlength := length_le_behindCommas (parts.map memberText)
    rw [List.length_map] at hlength
    rw [List.map_cons, toList_intercalate_cons, List.append_assoc, (hstep _).1]
    refine members_behindCommas hrest ?_
    simp only [List.length_append, List.length_cons]
    omega

theorem ofText_of_presentsText (h : PresentsText u parts) : ofText (objectText parts) = .ok u := by
  obtain ⟨final, hfills, hcomplete⟩ := h.fills
  obtain ⟨cs, hcs⟩ : ∃ cs, cs = (",".intercalate (parts.map memberText)).toList ++ ['\x7d'] := ⟨_, rfl⟩
  have htext : (objectText parts).toList = '\x7b' :: cs := by simp [objectText, hcs]
  have hread : read ('\x7b' :: cs) = .ok (u, []) := by
    rw [read, skipSpace_cons (by rfl)]
    simp only [members_intercalate hfills hcs, hcomplete, bind, Except.bind]
    rfl
  rw [ofText, htext, hread]
  rfl

/-- Members given as values are given as texts when they are written. -/
theorem Presents.presentsText (h : Presents u members) :
    PresentsText u (members.map fun member => (member.1, compact member.2)) := by
  induction h with
  | written =>
    have hname : compact (str u.username) = quote u.username := by rw [compact]
    rw [List.map_cons, List.map_cons, List.map_cons, List.map_nil]
    show PresentsText u [(_, compact (str u.username)), _, _]
    rw [hname]
    exact .written
  | drop h hname ih => exact .drop ih hname
  | add h hname _ ih => exact .add ih hname fun _ ends => skipValue_compact ends
  | reorder h hperm ih => exact .reorder ih (hperm.map _)

theorem compact_obj : compact (obj members) =
    objectText (members.map fun member => (member.1, compact member.2)) := by
  have hmembers : ∀ members, compactMembers members =
      (members.map fun member => (member.1, compact member.2)).map memberText := by
    intro members
    induction members with
    | nil => rw [compactMembers]; rfl
    | cons member members ih => rw [compactMembers, ih]; rfl
  rw [compact, hmembers, objectText]

theorem ofText_of_presents (h : Presents u members) : ofText (compact (obj members)) = .ok u := by
  rw [compact_obj]
  exact ofText_of_presentsText (Presents.presentsText h)

end

end UserData

end AdminConsole
