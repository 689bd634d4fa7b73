/-!
# Roles

The name of a role that the server gives to a user. Roles are shown and never decide anything:
permissions alone unlock a part of the console. A name that is not one of the server's own is kept.
-/

namespace AdminConsole

/-- A role, which is its name. -/
structure Role where
  name : String
deriving DecidableEq, Repr, Inhabited

namespace Role

def registrationOfficer : Role := ⟨"XROAD_REGISTRATION_OFFICER"⟩
def securityOfficer : Role := ⟨"XROAD_SECURITY_OFFICER"⟩
def systemAdministrator : Role := ⟨"XROAD_SYSTEM_ADMINISTRATOR"⟩

/-- The roles that the central server defines. -/
def all : List Role := [registrationOfficer, securityOfficer, systemAdministrator]

def isKnown (r : Role) : Bool := all.contains r

end Role

end AdminConsole
