/-!
# The permission catalog

Every capability that the central server can grant, with the identifier that stands for it on the
wire. The catalog is closed: an identifier outside it is not a permission. The order of the
constructors is the order in which permissions are listed and compared.

| here | there |
| --- | --- |
| `Permission.all`, `wire` | `Permission::ALL`, `as_str` |
| `Permission.ofWire?` | `Permission::from_str` |
-/

namespace AdminConsole

/-- A capability of the central server. -/
inductive Permission where
  | initConfig
  | searchMembers
  | viewMembers
  | addNewMember
  | viewMemberDetails
  | editMemberNameAndAdminContact
  | addSecurityServerRegRequest
  | memberToGlobalGroupAddRemove
  | addMemberSubsystem
  | removeMemberSubsystem
  | addSecurityServerClientRegRequest
  | stopOrContinueSecurityServerClientDataExchange
  | removeMemberFromSecurityServerClients
  | deleteMember
  | viewSecurityServers
  | viewSecurityServerDetails
  | editSecurityServerAddress
  | editSecurityServerSecurityCategory
  | addSecurityServerAuthCertRegRequest
  | deleteSecurityServerAuthCert
  | deleteSecurityServer
  | viewGlobalGroups
  | addGlobalGroup
  | viewGroupDetails
  | editGroupDescription
  | addAndRemoveGroupMembers
  | deleteGroup
  | viewCentralServices
  | viewCentralServiceDetails
  | addCentralService
  | editImplementingService
  | removeCentralService
  | viewApprovedCas
  | viewApprovedCaDetails
  | addApprovedCa
  | editApprovedCa
  | deleteApprovedCa
  | viewApprovedTsas
  | viewApprovedTsaDetails
  | addApprovedTsa
  | editApprovedTsa
  | deleteApprovedTsa
  | viewManagementRequests
  | viewManagementRequestDetails
  | confirmAuthCertRegRequest
  | declineAuthCertRegRequest
  | confirmSecurityServerClientRegRequest
  | declineSecurityServerClientRegRequest
  | viewMemberClasses
  | addMemberClass
  | editMemberClass
  | deleteMemberClass
  | viewSecurityCategories
  | addSecurityCategory
  | editSecurityCategory
  | deleteSecurityCategory
  | viewConfiguration
  | editManagementServicesAddress
  | editSigningKeyAndCert
  | viewConfigurationManagement
  | viewTrustedAnchors
  | uploadTrustedAnchor
  | deleteTrustedAnchor
  | downloadTrustedAnchor
  | viewInternalConfigurationSource
  | viewExternalConfigurationSource
  | generateSourceAnchor
  | downloadSourceAnchor
  | uploadConfigurationPart
  | downloadConfigurationPart
  | activateToken
  | deactivateToken
  | generateSigningKey
  | activateSigningKey
  | deleteSigningKey
  | viewSystemSettings
  | registerServiceProvider
  | backupConfiguration
  | restoreConfiguration
  | viewVersion
  | createApiKey
  | updateApiKey
  | revokeApiKey
  | viewApiKeys
deriving DecidableEq, Repr, Inhabited

namespace Permission

/-- The identifier that the server sends for the permission. -/
def wire : Permission → String
  | .initConfig => "INIT_CONFIG"
  | .searchMembers => "SEARCH_MEMBERS"
  | .viewMembers => "VIEW_MEMBERS"
  | .addNewMember => "ADD_NEW_MEMBER"
  | .viewMemberDetails => "VIEW_MEMBER_DETAILS"
  | .editMemberNameAndAdminContact => "EDIT_MEMBER_NAME_AND_ADMIN_CONTACT"
  | .addSecurityServerRegRequest => "ADD_SECURITY_SERVER_REG_REQUEST"
  | .memberToGlobalGroupAddRemove => "MEMBER_TO_GLOBAL_GROUP_ADD_REMOVE"
  | .addMemberSubsystem => "ADD_MEMBER_SUBSYSTEM"
  | .removeMemberSubsystem => "REMOVE_MEMBER_SUBSYSTEM"
  | .addSecurityServerClientRegRequest => "ADD_SECURITY_SERVER_CLIENT_REG_REQUEST"
  | .stopOrContinueSecurityServerClientDataExchange =>
    "STOP_OR_CONTINUE_SECURITY_SERVER_CLIENT_DATA_EXCHANGE"
  | .removeMemberFromSecurityServerClients => "REMOVE_MEMBER_FROM_SECURITY_SERVER_CLIENTS"
  | .deleteMember => "DELETE_MEMBER"
  | .viewSecurityServers => "VIEW_SECURITY_SERVERS"
  | .viewSecurityServerDetails => "VIEW_SECURITY_SERVER_DETAILS"
  | .editSecurityServerAddress => "EDIT_SECURITY_SERVER_ADDRESS"
  | .editSecurityServerSecurityCategory => "EDIT_SECURITY_SERVER_SECURITY_CATEGORY"
  | .addSecurityServerAuthCertRegRequest => "ADD_SECURITY_SERVER_AUTH_CERT_REG_REQUEST"
  | .deleteSecurityServerAuthCert => "DELETE_SECURITY_SERVER_AUTH_CERT"
  | .deleteSecurityServer => "DELETE_SECURITY_SERVER"
  | .viewGlobalGroups => "VIEW_GLOBAL_GROUPS"
  | .addGlobalGroup => "ADD_GLOBAL_GROUP"
  | .viewGroupDetails => "VIEW_GROUP_DETAILS"
  | .editGroupDescription => "EDIT_GROUP_DESCRIPTION"
  | .addAndRemoveGroupMembers => "ADD_AND_REMOVE_GROUP_MEMBERS"
  | .deleteGroup => "DELETE_GROUP"
  | .viewCentralServices => "VIEW_CENTRAL_SERVICES"
  | .viewCentralServiceDetails => "VIEW_CENTRAL_SERVICE_DETAILS"
  | .addCentralService => "ADD_CENTRAL_SERVICE"
  | .editImplementingService => "EDIT_IMPLEMENTING_SERVICE"
  | .removeCentralService => "REMOVE_CENTRAL_SERVICE"
  | .viewApprovedCas => "VIEW_APPROVED_CAS"
  | .viewApprovedCaDetails => "VIEW_APPROVED_CA_DETAILS"
  | .addApprovedCa => "ADD_APPROVED_CA"
  | .editApprovedCa => "EDIT_APPROVED_CA"
  | .deleteApprovedCa => "DELETE_APPROVED_CA"
  | .viewApprovedTsas => "VIEW_APPROVED_TSAS"
  | .viewApprovedTsaDetails => "VIEW_APPROVED_TSA_DETAILS"
  | .addApprovedTsa => "ADD_APPROVED_TSA"
  | .editApprovedTsa => "EDIT_APPROVED_TSA"
  | .deleteApprovedTsa => "DELETE_APPROVED_TSA"
  | .viewManagementRequests => "VIEW_MANAGEMENT_REQUESTS"
  | .viewManagementRequestDetails => "VIEW_MANAGEMENT_REQUEST_DETAILS"
  | .confirmAuthCertRegRequest => "CONFIRM_AUTH_CERT_REG_REQUEST"
  | .declineAuthCertRegRequest => "DECLINE_AUTH_CERT_REG_REQUEST"
  | .confirmSecurityServerClientRegRequest => "CONFIRM_SECURITY_SERVER_CLIENT_REG_REQUEST"
  | .declineSecurityServerClientRegRequest => "DECLINE_SECURITY_SERVER_CLIENT_REG_REQUEST"
  | .viewMemberClasses => "VIEW_MEMBER_CLASSES"
  | .addMemberClass => "ADD_MEMBER_CLASS"
  | .editMemberClass => "EDIT_MEMBER_CLASS"
  | .deleteMemberClass => "DELETE_MEMBER_CLASS"
  | .viewSecurityCategories => "VIEW_SECURITY_CATEGORIES"
  | .addSecurityCategory => "ADD_SECURITY_CATEGORY"
  | .editSecurityCategory => "EDIT_SECURITY_CATEGORY"
  | .deleteSecurityCategory => "DELETE_SECURITY_CATEGORY"
  | .viewConfiguration => "VIEW_CONFIGURATION"
  | .editManagementServicesAddress => "EDIT_MANAGEMENT_SERVICES_ADDRESS"
  | .editSigningKeyAndCert => "EDIT_SIGNING_KEY_AND_CERT"
  | .viewConfigurationManagement => "VIEW_CONFIGURATION_MANAGEMENT"
  | .viewTrustedAnchors => "VIEW_TRUSTED_ANCHORS"
  | .uploadTrustedAnchor => "UPLOAD_TRUSTED_ANCHOR"
  | .deleteTrustedAnchor => "DELETE_TRUSTED_ANCHOR"
  | .downloadTrustedAnchor => "DOWNLOAD_TRUSTED_ANCHOR"
  | .viewInternalConfigurationSource => "VIEW_INTERNAL_CONFIGURATION_SOURCE"
  | .viewExternalConfigurationSource => "VIEW_EXTERNAL_CONFIGURATION_SOURCE"
  | .generateSourceAnchor => "GENERATE_SOURCE_ANCHOR"
  | .downloadSourceAnchor => "DOWNLOAD_SOURCE_ANCHOR"
  | .uploadConfigurationPart => "UPLOAD_CONFIGURATION_PART"
  | .downloadConfigurationPart => "DOWNLOAD_CONFIGURATION_PART"
  | .activateToken => "ACTIVATE_TOKEN"
  | .deactivateToken => "DEACTIVATE_TOKEN"
  | .generateSigningKey => "GENERATE_SIGNING_KEY"
  | .activateSigningKey => "ACTIVATE_SIGNING_KEY"
  | .deleteSigningKey => "DELETE_SIGNING_KEY"
  | .viewSystemSettings => "VIEW_SYSTEM_SETTINGS"
  | .registerServiceProvider => "REGISTER_SERVICE_PROVIDER"
  | .backupConfiguration => "BACKUP_CONFIGURATION"
  | .restoreConfiguration => "RESTORE_CONFIGURATION"
  | .viewVersion => "VIEW_VERSION"
  | .createApiKey => "CREATE_API_KEY"
  | .updateApiKey => "UPDATE_API_KEY"
  | .revokeApiKey => "REVOKE_API_KEY"
  | .viewApiKeys => "VIEW_API_KEYS"

/-- The whole catalog, in order. -/
def all : List Permission :=
  [.initConfig, .searchMembers, .viewMembers, .addNewMember, .viewMemberDetails,
   .editMemberNameAndAdminContact, .addSecurityServerRegRequest, .memberToGlobalGroupAddRemove,
   .addMemberSubsystem, .removeMemberSubsystem, .addSecurityServerClientRegRequest,
   .stopOrContinueSecurityServerClientDataExchange, .removeMemberFromSecurityServerClients,
   .deleteMember, .viewSecurityServers, .viewSecurityServerDetails, .editSecurityServerAddress,
   .editSecurityServerSecurityCategory, .addSecurityServerAuthCertRegRequest,
   .deleteSecurityServerAuthCert, .deleteSecurityServer, .viewGlobalGroups, .addGlobalGroup,
   .viewGroupDetails, .editGroupDescription, .addAndRemoveGroupMembers, .deleteGroup,
   .viewCentralServices, .viewCentralServiceDetails, .addCentralService, .editImplementingService,
   .removeCentralService, .viewApprovedCas, .viewApprovedCaDetails, .addApprovedCa,
   .editApprovedCa, .deleteApprovedCa, .viewApprovedTsas, .viewApprovedTsaDetails,
   .addApprovedTsa, .editApprovedTsa, .deleteApprovedTsa, .viewManagementRequests,
   .viewManagementRequestDetails, .confirmAuthCertRegRequest, .declineAuthCertRegRequest,
   .confirmSecurityServerClientRegRequest, .declineSecurityServerClientRegRequest,
   .viewMemberClasses, .addMemberClass, .editMemberClass, .deleteMemberClass,
   .viewSecurityCategories, .addSecurityCategory, .editSecurityCategory, .deleteSecurityCategory,
   .viewConfiguration, .editManagementServicesAddress, .editSigningKeyAndCert,
   .viewConfigurationManagement, .viewTrustedAnchors, .uploadTrustedAnchor, .deleteTrustedAnchor,
   .downloadTrustedAnchor, .viewInternalConfigurationSource, .viewExternalConfigurationSource,
   .generateSourceAnchor, .downloadSourceAnchor, .uploadConfigurationPart,
   .downloadConfigurationPart, .activateToken, .deactivateToken, .generateSigningKey,
   .activateSigningKey, .deleteSigningKey, .viewSystemSettings, .registerServiceProvider,
   .backupConfiguration, .restoreConfiguration, .viewVersion, .createApiKey, .updateApiKey,
   .revokeApiKey, .viewApiKeys]

/-- The permission's place in the catalog. -/
def index (p : Permission) : Nat := p.ctorIdx

/-- The permission that a wire identifier names, if the catalog has it. -/
def ofWire? (name : String) : Option Permission := all.find? (·.wire == name)

/-- The permission's name as one capitalised word: that of `VIEW_MEMBERS` is `ViewMembers`. -/
def title (p : Permission) : String :=
  String.join ((p.wire.splitOn "_").map (·.toLower.capitalize))

/-! ## Order: the catalog's -/

instance : LT Permission := ⟨fun p q => p.index < q.index⟩
instance : LE Permission := ⟨fun p q => p.index ≤ q.index⟩
instance : DecidableLT Permission := fun p q => inferInstanceAs (Decidable (p.index < q.index))
instance : DecidableLE Permission := fun p q => inferInstanceAs (Decidable (p.index ≤ q.index))

theorem lt_iff {p q : Permission} : p < q ↔ p.index < q.index := .rfl

theorem le_iff {p q : Permission} : p ≤ q ↔ p.index ≤ q.index := .rfl

theorem all_getElem?_index (p : Permission) : all[p.index]? = some p := by cases p <;> rfl

theorem mem_all (p : Permission) : p ∈ all := List.mem_of_getElem? (all_getElem?_index p)

theorem index_inj {p q : Permission} (h : p.index = q.index) : p = q := by
  have hp := all_getElem?_index p
  rw [h, all_getElem?_index q] at hp
  exact (Option.some.inj hp).symm

instance : Std.IsLinearOrder Permission where
  le_refl _ := Nat.le_refl _
  le_trans _ _ _ := Nat.le_trans
  le_antisymm _ _ h₁ h₂ := index_inj (Nat.le_antisymm h₁ h₂)
  le_total _ _ := Nat.le_total _ _

instance : Std.LawfulOrderLT Permission := ⟨fun p q => by simp only [lt_iff, le_iff]; omega⟩

/-! ## Identifiers name permissions one to one -/

set_option maxRecDepth 10000 in
theorem wires_nodup : (all.map wire).Nodup := by decide

theorem wire_inj {p q : Permission} (h : p.wire = q.wire) : p = q := by
  have hp : (all.map wire)[p.index]? = some p.wire := by simp [all_getElem?_index]
  have hq : (all.map wire)[q.index]? = some q.wire := by simp [all_getElem?_index]
  have hlt : p.index < (all.map wire).length := (List.getElem?_eq_some_iff.1 hp).1
  exact index_inj ((List.getElem?_inj hlt wires_nodup).1 (by rw [hp, hq, h]))

theorem ofWire?_eq_some_iff {name : String} {p : Permission} :
    ofWire? name = some p ↔ p.wire = name := by
  constructor
  · intro h
    simpa using List.find?_some h
  · rintro rfl
    cases h : ofWire? p.wire with
    | none => simpa using (List.find?_eq_none.1 h) p (mem_all p)
    | some q => exact congrArg some (wire_inj (by simpa using List.find?_some h))

@[simp] theorem ofWire?_wire (p : Permission) : ofWire? p.wire = some p :=
  ofWire?_eq_some_iff.2 rfl

theorem ofWire?_eq_none_iff {name : String} : ofWire? name = none ↔ ∀ p : Permission, p.wire ≠ name := by
  simp only [Option.eq_none_iff_forall_ne_some, ne_eq, ofWire?_eq_some_iff]

end Permission

end AdminConsole
