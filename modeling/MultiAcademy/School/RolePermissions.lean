import MultiAcademy.School.Grading

/-!
# Roles and permissions

`common/auth/role-permissions.ts`: what each role may do, which permissions may be granted to a
user besides, and when a permission is implied by what was granted.
-/

namespace MultiAcademy.School

/-! ## The catalog -/

/-- `ROLE_IDS`. -/
inductive RoleId
  | director | schoolAdmin | itAdmin | headTeacher | principal | vicePrincipal
  | assistantHeadTeacher | bursar | classTeacher | subjectTeacher | administrativeStaff
  | student | parent | driver | guard | nurse
  deriving DecidableEq

def RoleId.slug : RoleId → String
  | .director => "director"
  | .schoolAdmin => "school_admin"
  | .itAdmin => "it_admin"
  | .headTeacher => "head_teacher"
  | .principal => "principal"
  | .vicePrincipal => "vice_principal"
  | .assistantHeadTeacher => "assistant_head_teacher"
  | .bursar => "bursar"
  | .classTeacher => "class_teacher"
  | .subjectTeacher => "subject_teacher"
  | .administrativeStaff => "administrative_staff"
  | .student => "student"
  | .parent => "parent"
  | .driver => "driver"
  | .guard => "guard"
  | .nurse => "nurse"

def roleIds : List RoleId :=
  [.director, .schoolAdmin, .itAdmin, .headTeacher, .principal, .vicePrincipal,
   .assistantHeadTeacher, .bursar, .classTeacher, .subjectTeacher, .administrativeStaff,
   .student, .parent, .driver, .guard, .nurse]

theorem mem_roleIds (id : RoleId) : id ∈ roleIds := by
  cases id <;> decide

def roleOfSlug (role : String) : Option RoleId := roleIds.find? fun id => id.slug = role

def schoolLeaderPermissions : List String :=
  ["ai:use", "results:read", "results:view_all", "results:approve", "students:update",
   "staff:read", "staff_records:view", "dashboards:view", "dashboards:view_strategic",
   "reports:view", "reports:generate", "analytics:view", "classes:read", "subjects:read",
   "student_attendance:read", "student_attendance:view_all", "staff_attendance:read",
   "staff_attendance:view_all", "staff_attendance:create", "biometric:verify",
   "notifications:view", "assignments:read", "curriculum:view", "curriculum:manage", "cbt:read",
   "cbt:manage", "cbt:publish", "inventory:read", "inventory:manage", "budgets:read",
   "budgets:manage", "payroll:read", "payroll:manage", "analytics:view", "ai:use",
   "consent:read", "consent:manage", "emergency:send", "hostel:read", "hostel:manage",
   "push:register", "push:send", "sync:write", "timetable:read", "timetable:manage",
   "lesson_notes:read", "lesson_notes:manage"]

def rolePermissions : RoleId → List String
  | .director =>
    ["ai:use", "organization:view", "organization:update", "organization_settings:configure",
     "dashboards:view", "dashboards:view_strategic", "reports:view", "reports:generate",
     "reports:export", "analytics:view", "audit_logs:view", "staff:read", "staff_records:view",
     "staff_attendance:view_all", "students:read", "students:update", "student_records:view",
     "student_attendance:view_all", "results:read", "results:view_all", "classes:read",
     "subjects:read", "curriculum:view", "fees:view", "fee_structures:read", "payments:view",
     "invoices:read", "users:read", "roles:assign", "announcements:read",
     "announcements:create", "notifications:view", "correspondence:manage", "calendar:manage",
     "cbt:read", "cbt:manage", "cbt:publish", "transport:read", "transport:manage",
     "clinic:read", "clinic:manage", "inventory:read", "inventory:manage", "budgets:read",
     "budgets:manage"]
  | .itAdmin =>
    ["ai:use", "organization:view", "users:create", "users:read", "users:update",
     "users:delete", "users:manage", "accounts:create", "accounts:manage", "accounts:reset",
     "roles:assign", "classes:read", "classes:create", "classes:update", "subjects:read",
     "subjects:create", "students:read", "students:update", "biometric:configure",
     "biometric:verify", "audit_logs:view", "system_config:view", "system_config:manage",
     "notifications:manage", "dashboards:view"]
  | .schoolAdmin =>
    ["ai:use", "organization:view", "organization:update", "organization_settings:configure",
     "academic_sessions:manage", "academic_terms:manage", "departments:manage",
     "school_levels:manage", "staff:read", "staff:create", "staff:update", "users:read",
     "users:create", "users:update", "roles:assign", "classes:manage", "classes:read",
     "classes:create", "classes:update", "classes:delete", "subjects:create", "subjects:read",
     "subjects:update", "subjects:delete", "results:read", "assignments:read",
     "curriculum:view", "reports:view", "reports:generate", "dashboards:view",
     "announcements:create", "announcements:read", "announcements:update",
     "announcements:delete", "correspondence:manage", "calendar:manage", "cbt:read",
     "cbt:manage", "cbt:publish", "transport:read", "transport:manage", "clinic:read",
     "clinic:manage", "inventory:read", "inventory:manage", "budgets:read", "budgets:manage",
     "student_attendance:read", "student_attendance:view_all", "student_attendance:create",
     "student_attendance:update", "staff_attendance:read", "staff_attendance:view_all",
     "staff_attendance:create", "biometric:configure", "biometric:verify",
     "notifications:view", "notifications:manage", "fees:view", "fee_structures:read",
     "payments:view", "invoices:read", "students:read", "students:create", "students:update",
     "student_records:view", "system_config:view", "nursery:read", "nursery:manage"]
  | .administrativeStaff =>
    ["ai:use", "students:create", "students:read", "students:update", "student_records:view",
     "student_records:update", "classes:read", "correspondence:manage", "calendar:manage",
     "cbt:read", "cbt:manage", "transport:read", "transport:manage", "clinic:read",
     "clinic:manage", "inventory:read", "inventory:manage", "budgets:read", "budgets:manage",
     "announcements:read", "reports:view", "dashboards:view"]
  | .headTeacher => schoolLeaderPermissions ++ ["nursery:read", "nursery:manage"]
  | .principal => schoolLeaderPermissions
  | .vicePrincipal => schoolLeaderPermissions
  | .assistantHeadTeacher =>
    ["ai:use", "results:read", "results:view_all", "students:update", "reports:view",
     "reports:generate", "analytics:view", "curriculum:view", "classes:read", "subjects:read",
     "staff:read", "staff_records:view", "staff_attendance:read", "staff_attendance:view_all",
     "staff_attendance:create", "dashboards:view", "nursery:read", "nursery:manage"]
  | .classTeacher =>
    ["ai:use", "sync:write", "timetable:read", "lesson_notes:read", "lesson_notes:manage",
     "cbt:read", "cbt:manage", "transport:read", "clinic:read", "student_attendance:create",
     "student_attendance:read", "student_attendance:update", "staff_attendance:create",
     "staff_attendance:read", "biometric:configure", "biometric:verify", "results:create",
     "results:read", "results:update", "assignments:create", "assignments:read",
     "assignments:update", "assignments:delete", "correspondence:manage",
     "announcements:create", "announcements:read", "students:read", "student_records:view",
     "classes:read", "subjects:read", "notifications:view", "dashboards:view", "nursery:read",
     "nursery:manage"]
  | .subjectTeacher =>
    ["ai:use", "sync:write", "timetable:read", "lesson_notes:read", "lesson_notes:manage",
     "cbt:read", "cbt:manage", "transport:read", "clinic:read", "results:create",
     "results:read", "results:update", "staff_attendance:create", "staff_attendance:read",
     "biometric:configure", "biometric:verify", "assignments:create", "assignments:read",
     "assignments:update", "assignments:delete", "students:read", "student_records:view",
     "classes:read", "subjects:read", "announcements:read", "notifications:view",
     "dashboards:view"]
  | .bursar =>
    ["inventory:read", "inventory:manage", "budgets:read", "budgets:manage", "payroll:read",
     "payroll:manage", "analytics:view", "fee_structures:create", "fee_structures:read",
     "fee_structures:update", "fee_structures:delete", "fees:view", "fees:manage",
     "payments:view", "payments:process", "biometric:verify", "staff_attendance:create",
     "staff_attendance:read", "invoices:create", "invoices:read", "scholarships:manage",
     "refunds:process", "reports:view", "reports:generate", "reports:export",
     "notifications:view", "dashboards:view", "students:read", "classes:read"]
  | .student =>
    ["ai:use", "consent:read", "hostel:read", "push:register", "timetable:read",
     "lesson_notes:read", "cbt:read", "cbt:take", "transport:read", "clinic:read",
     "results:read", "student_attendance:read", "assignments:read", "announcements:read",
     "fees:view", "notifications:view", "dashboards:view"]
  | .parent =>
    ["ai:use", "consent:read", "consent:respond", "hostel:read", "push:register",
     "timetable:read", "lesson_notes:read", "cbt:read", "transport:read", "clinic:read",
     "results:read", "student_attendance:read", "assignments:read", "announcements:read",
     "fees:view", "payments:process", "biometric:verify", "notifications:view",
     "correspondence:manage", "dashboards:view"]
  | .driver =>
    ["transport:read", "dashboards:view", "notifications:view", "students:read",
     "announcements:read"]
  | .guard =>
    ["dashboards:view", "notifications:view", "biometric:verify", "students:read",
     "announcements:read"]
  | .nurse =>
    ["clinic:read", "clinic:manage", "dashboards:view", "notifications:view", "students:read",
     "results:read", "announcements:read"]

def knownPermissions : List String := roleIds.flatMap rolePermissions

def roleOnlyCapabilities : List String :=
  ["payments:process", "refunds:process", "fees:manage", "fee_structures:create",
   "fee_structures:update", "fee_structures:delete", "scholarships:manage", "invoices:create",
   "results:approve", "results:update", "results:create", "users:manage", "users:delete",
   "users:create", "accounts:create", "accounts:manage", "accounts:reset", "roles:assign",
   "roles:manage", "system_config:manage", "audit_logs:view", "ai_features:configure"]

/-! ## Checks -/

def findInvalidRoles (roles : List String) : List String :=
  roles.filter fun role => (roleOfSlug role).isNone

def derivePermissionsForRoles (roles : List String) : List String :=
  ((roles.filterMap roleOfSlug).flatMap rolePermissions).eraseDups

def findUnknownCapabilities (capabilities : List String) : List String :=
  capabilities.filter fun cap => blank cap || trim cap = "*" || trim cap ∉ knownPermissions

def findRoleOnlyCapabilities (capabilities : List String) : List String :=
  capabilities.filter fun cap => trim cap ∈ roleOnlyCapabilities

def arraysEqualAsSets (a b : List String) : Bool :=
  a.length = b.length && a.all fun x => x ∈ b

/-- `const [resource] = permission.split(':')`. -/
def resourceOf (permission : String) : String :=
  String.ofList (permission.toList.takeWhile fun c => c ≠ ':')

/-- `${resource}:manage`. -/
def managing (permission : String) : String := resourceOf permission ++ ":manage"

def hasPermission (granted : List String) (permission : String) : Bool :=
  permission ∈ granted || managing permission ∈ granted || resourceOf permission ++ ":*" ∈ granted

/-- The claims of a token, whose `user_id` is its subject. -/
structure AuthUserClaims where
  sub : String
  userId : String
  permissions : List String := []
  capabilities : List String := []
  userId_eq : userId = sub := by rfl
  sub_ne : sub ≠ "" := by decide
  deriving DecidableEq

variable (actor : AuthUserClaims)

def AuthUserClaims.granted : List String :=
  actor.permissions ++ actor.capabilities

def actorHasWildcard : Bool := "*" ∈ actor.granted

def actorHasPermission (permission : String) : Bool :=
  "*" ∈ actor.granted || hasPermission actor.granted permission

/-! ## What implies what -/

/-- What may be granted besides the roles. -/
def Overridable (cap : String) : Prop := cap ∈ knownPermissions ∧ cap ∉ roleOnlyCapabilities

/-- One of the roles has the permission, or manages its resource. -/
def GrantedByRole (roles : List String) (permission : String) : Prop :=
  ∃ role ∈ roles, ∃ id, roleOfSlug role = some id
    ∧ (permission ∈ rolePermissions id ∨ managing permission ∈ rolePermissions id)

theorem not_known_wildcard : "*" ∉ knownPermissions := by decide

theorem roleOnly_resource : ∀ permission ∈ roleOnlyCapabilities,
    (managing permission ∈ knownPermissions → managing permission ∈ roleOnlyCapabilities)
      ∧ resourceOf permission ++ ":*" ∉ knownPermissions := by
  decide +kernel

variable {permission : String} {roles : List String}

/-- **What may be granted besides the roles implies nothing that comes with a role alone.** -/
theorem not_hasPermission_overridable {capabilities : List String}
    (hcaps : ∀ cap ∈ capabilities, Overridable cap) (hp : permission ∈ roleOnlyCapabilities) :
    hasPermission capabilities permission = false := by
  obtain ⟨hmanage, hall⟩ := roleOnly_resource permission hp
  have hself : permission ∉ capabilities := fun h => (hcaps _ h).2 hp
  have hmanaging : managing permission ∉ capabilities := fun h =>
    (hcaps _ h).2 (hmanage (hcaps _ h).1)
  have hstar : resourceOf permission ++ ":*" ∉ capabilities := fun h => hall (hcaps _ h).1
  simp [hasPermission, hself, hmanaging, hstar]

theorem mem_derivePermissionsForRoles :
    permission ∈ derivePermissionsForRoles roles
      ↔ ∃ role ∈ roles, ∃ id, roleOfSlug role = some id ∧ permission ∈ rolePermissions id := by
  simp only [derivePermissionsForRoles, List.mem_eraseDups, List.mem_flatMap, List.mem_filterMap]
  constructor
  · rintro ⟨id, ⟨role, hrole, hid⟩, hp⟩
    exact ⟨role, hrole, id, hid, hp⟩
  rintro ⟨role, hrole, id, hid, hp⟩
  exact ⟨id, ⟨role, hrole, hid⟩, hp⟩

theorem mem_known_of_derived
    (h : permission ∈ derivePermissionsForRoles roles) : permission ∈ knownPermissions := by
  obtain ⟨role, hrole, id, hid, hp⟩ := mem_derivePermissionsForRoles.1 h
  exact List.mem_flatMap.2 ⟨id, mem_roleIds id, hp⟩

/-- **What the permissions of some roles imply of what comes with a role alone, one of the roles
grants.** -/
theorem hasPermission_derived
    (hp : permission ∈ roleOnlyCapabilities)
    (h : hasPermission (derivePermissionsForRoles roles) permission = true) :
    GrantedByRole roles permission := by
  simp only [hasPermission, Bool.or_eq_true, decide_eq_true_eq] at h
  rcases h with (hself | hmanage) | hall
  · obtain ⟨role, hrole, id, hid, hmem⟩ := mem_derivePermissionsForRoles.1 hself
    exact ⟨role, hrole, id, hid, Or.inl hmem⟩
  · obtain ⟨role, hrole, id, hid, hmem⟩ := mem_derivePermissionsForRoles.1 hmanage
    exact ⟨role, hrole, id, hid, Or.inr hmem⟩
  · exact absurd (mem_known_of_derived hall) (roleOnly_resource permission hp).2

theorem hasPermission_append {granted granted' : List String} :
    hasPermission (granted ++ granted') permission
      = (hasPermission granted permission || hasPermission granted' permission) := by
  simp only [hasPermission, List.mem_append, Bool.decide_or]
  cases decide (permission ∈ granted) <;> cases decide (managing permission ∈ granted) <;>
    simp [Bool.or_comm, Bool.or_left_comm]

/-- What `findUnknownCapabilities` and `findRoleOnlyCapabilities` let pass, once trimmed. -/
theorem overridable_of_allowed {capabilities : List String}
    (hunknown : findUnknownCapabilities capabilities = [])
    (hroleOnly : findRoleOnlyCapabilities capabilities = []) :
    ∀ cap ∈ capabilities, Overridable (trim cap) := by
  intro cap hcap
  have hknown := List.filter_eq_nil_iff.1 hunknown cap hcap
  have halone := List.filter_eq_nil_iff.1 hroleOnly cap hcap
  simp only [Bool.or_eq_true, decide_eq_true_eq, not_or, not_not] at hknown halone
  exact ⟨hknown.2, halone⟩

end MultiAcademy.School
