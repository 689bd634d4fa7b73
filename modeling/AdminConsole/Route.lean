/-!
# Routes

The views of the console that a navigation entry may open, each with its path segment. Two routes
are also where the router sends a user by itself: `login` and `forbidden`.
-/

namespace AdminConsole

/-- A view of the console. -/
inductive Route where
  | baseRoute
  | members
  | memberDetails
  | memberManagementRequests
  | memberSubsystems
  | securityServers
  | managementRequests
  | trustServices
  | settings
  | globalResources
  | globalGroup
  | systemSettings
  | backupAndRestore
  | apiKeys
  | createApiKey
  | internalConfiguration
  | externalConfiguration
  | trustedAnchors
  | login
  | initialisation
  | securityServerDetails
  | securityServerManagementRequests
  | securityServerAuthenticationCertificates
  | securityServerClients
  | forbidden
deriving DecidableEq, Repr, Inhabited

namespace Route

/-- The route's segment in an address. -/
def path : Route → String
  | .baseRoute => "base"
  | .members => "members"
  | .memberDetails => "member-details"
  | .memberManagementRequests => "member-management-requests"
  | .memberSubsystems => "member-subsystems"
  | .securityServers => "security-servers"
  | .managementRequests => "management-requests"
  | .trustServices => "trust-services"
  | .settings => "settings"
  | .globalResources => "global-resources"
  | .globalGroup => "global-group"
  | .systemSettings => "system-settings"
  | .backupAndRestore => "backup-and-restore"
  | .apiKeys => "api-keys"
  | .createApiKey => "create-api-key"
  | .internalConfiguration => "internal-configuration"
  | .externalConfiguration => "external-configuration"
  | .trustedAnchors => "trusted-anchors"
  | .login => "login"
  | .initialisation => "init"
  | .securityServerDetails => "security-server-details"
  | .securityServerManagementRequests => "security-server-management-requests"
  | .securityServerAuthenticationCertificates => "security-server-authentication-certificates"
  | .securityServerClients => "security-server-clients"
  | .forbidden => "forbidden"

def all : List Route :=
  [.baseRoute, .members, .memberDetails, .memberManagementRequests, .memberSubsystems,
   .securityServers, .managementRequests, .trustServices, .settings, .globalResources,
   .globalGroup, .systemSettings, .backupAndRestore, .apiKeys, .createApiKey,
   .internalConfiguration, .externalConfiguration, .trustedAnchors, .login, .initialisation,
   .securityServerDetails, .securityServerManagementRequests,
   .securityServerAuthenticationCertificates, .securityServerClients, .forbidden]

/-- The route's name as one capitalised word. It is made of the words of the path, but for two
routes whose path is shorter than their name. -/
def title : Route → String
  | .baseRoute => "BaseRoute"
  | .initialisation => "Initialisation"
  | r => String.join ((r.path.splitOn "-").map String.capitalize)

def ofTitle? (title : String) : Option Route := all.find? (·.title == title)

theorem mem_all (r : Route) : r ∈ all := by cases r <;> decide

end Route

end AdminConsole
