import AdminConsole.Permission
import AdminConsole.Route

/-!
# Navigation

The sections of the console and what unlocks them. The order of a table's entries matters: a user
lands on the first entry that is open to them. A table has at least one requirement per entry and
no key twice; `Table.ofEntries` refuses any other list and says which entry is at fault first.

| here | there |
| --- | --- |
| `Table.ofEntries`, `firstDefect` | `NavigationTable::new`, `validate` |
| `Table.get?` | `NavigationTable::get` |
| `Table.mainTabs` | `NavigationTable::main_tabs` |
-/

namespace AdminConsole.Navigation

/-- A section of the console. It is open to whoever holds any of the required permissions. -/
structure Entry where
  destination : Route
  /-- Names the entry within its table. -/
  key : String
  /-- The label's key in the translations. -/
  name : String
  required : List Permission
deriving DecidableEq, Repr, Inhabited

/-- What makes a list of entries unfit to be a table. -/
inductive Defect where
  | noRequirement (key : String)
  | duplicateKey (key : String)
deriving DecidableEq, Repr

def Defect.message : Defect → String
  | .noRequirement key =>
    "invariant violated: navigation entry '" ++ key ++ "' has no required permissions"
  | .duplicateKey key => "invariant violated: duplicate navigation key '" ++ key ++ "'"

/-- The first defect of a list whose entries come after entries with the keys `seen`. -/
def firstDefect (seen : List String) : List Entry → Option Defect
  | [] => none
  | e :: rest =>
    if e.required.isEmpty then some (.noRequirement e.key)
    else if seen.contains e.key then some (.duplicateKey e.key)
    else firstDefect (e.key :: seen) rest

/-- A list of entries without a defect. -/
structure Table where
  entries : List Entry
  sound : firstDefect [] entries = none
deriving DecidableEq, Repr

namespace Table

/-- The table of the given entries, or the first defect that keeps them from being one. -/
def ofEntries (entries : List Entry) : Except Defect Table :=
  match h : firstDefect [] entries with
  | some d => .error d
  | none => .ok ⟨entries, h⟩

def keys (t : Table) : List String := t.entries.map Entry.key

def size (t : Table) : Nat := t.entries.length

def isEmpty (t : Table) : Bool := t.entries.isEmpty

/-- The entry with the given key. -/
def get? (t : Table) (key : String) : Option Entry := t.entries.find? (·.key == key)

/-- The main menu of the console. Settings open on the first view below them. -/
def mainTabs : Table where
  entries := [
    ⟨.members, "members", "tab.main.members", [.viewMembers, .viewMemberDetails, .searchMembers]⟩,
    ⟨.securityServers, "keys", "tab.main.securityServers",
      [.viewSecurityServers, .viewSecurityServerDetails]⟩,
    ⟨.managementRequests, "managementRequests", "tab.main.managementRequests",
      [.viewManagementRequests, .viewManagementRequestDetails]⟩,
    ⟨.trustServices, "trustServices", "tab.main.trustServices",
      [.viewApprovedCas, .viewApprovedTsas]⟩,
    ⟨.internalConfiguration, "globalConfiguration", "tab.main.globalConfiguration",
      [.viewConfigurationManagement, .viewExternalConfigurationSource,
       .viewInternalConfigurationSource]⟩,
    ⟨.globalResources, "settings", "tab.main.settings", [.viewSystemSettings]⟩]
  sound := by decide

instance : Inhabited Table := ⟨mainTabs⟩

end Table

end AdminConsole.Navigation
