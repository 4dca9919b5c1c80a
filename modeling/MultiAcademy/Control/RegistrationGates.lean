import MultiAcademy.Control.InternalRoutes

/-!
# Two gates on a registration

`routers/internal.py`: what `registration_check` holds against a school that signs up, and what
`register_tenant` holds against it once it has.
-/

namespace MultiAcademy.Control

open MultiAcademy.Lib

/-! ## The check -/

structure RegistrationCheckRequest where
  schoolName : String := ""
  slug : String := ""
  adminEmail : String := ""
  phone : String := ""
  installToken : String := ""
  deviceHash : String := ""

structure RegistrationCheck where
  allowed : Bool
  reasons : List String := []
  message : Option String := none
  deriving DecidableEq

def sameText (given listed : String) : Bool := given ≠ "" ∧ listed ≠ "" ∧ given = listed

def entryMatches (body : RegistrationCheckRequest) (entry : SchoolBlacklistEntry) : List String :=
  let email := lower (strip body.adminEmail)
  ([(sameText (lower (strip body.schoolName)) entry.schoolNameNormalized, "school_name"),
    (sameText (lower (strip body.slug)) entry.slug, "slug"),
    (sameText email entry.adminEmail, "admin_email"),
    (sameText (emailDomain email) entry.emailDomain, "email_domain"),
    (sameText (strip body.phone) entry.phone, "phone")].filter (·.1)).map (·.2)

/-- The domain of an address alone is a weak signal. -/
def isStrong (reasons : List String) : Bool :=
  reasons.any (· ≠ "email_domain") || 2 ≤ reasons.length

def blocksCheck (body : RegistrationCheckRequest) (entry : SchoolBlacklistEntry) : Bool :=
  entry.isActive && isStrong (entryMatches body entry)

variable (cfg : Settings)

def givenHash (text : String) : String := if strip text = "" then "" else cfg.fingerprint text

/-- The token or the device is that of a school that has registered. -/
def usedInstall (body : RegistrationCheckRequest) (db : Db) : Bool :=
  (body.installToken ≠ "" || body.deviceHash ≠ "")
    && db.installs.existsRow fun install => install.revokedAt.isNone
      && if givenHash cfg body.installToken ≠ "" then
          install.installTokenHash = givenHash cfg body.installToken
        else install.deviceHash = givenHash cfg body.deviceHash

/-- The slug is that of a tenant with another installation. -/
def otherInstall (body : RegistrationCheckRequest) (db : Db) : Bool :=
  body.installToken ≠ "" && body.deviceHash ≠ "" && body.slug ≠ ""
    && (((db.tenants.first? fun t => t.slug = lower (strip body.slug)).bind fun tenantId =>
        (db.installs.first? fun install => install.tenantId = tenantId).bind (db.installs[·]?)).any
      fun install => !installMatches cfg install body.installToken body.deviceHash)

/-- `POST /internal/v1/registration-check`. -/
def registrationCheck (body : RegistrationCheckRequest) (db : Db) : RegistrationCheck :=
  match db.blacklist.find? (blocksCheck body) with
  | some entry =>
    { allowed := false, reasons := entryMatches body entry
      message := some "Registration cannot be completed. Please contact support." }
  | none =>
    if usedInstall cfg body db then
      { allowed := false
        reasons := [if givenHash cfg body.installToken ≠ "" then "install_token" else "device_hash"]
        message := some
          "This device has already been used to register a school. Please contact support." }
    else if otherInstall cfg body db then
      { allowed := false, reasons := ["install_identity"]
        message := some "This installation is not recognized." }
    else { allowed := true }

def RegisterBody.asked (body : RegisterBody) : RegistrationCheckRequest :=
  { schoolName := body.name, slug := body.slug, adminEmail := body.adminEmail
    phone := body.adminPhone, installToken := body.installToken, deviceHash := body.deviceHash }

/-! ## What the registration holds against a school -/

/-- An entry of the blacklist stands against the registration. -/
def blacklisted (tenantRef : String) (body : RegisterBody) (db : Db) : Bool :=
  db.blacklist.existsRow (blocksRegistration (lower (strip (orElse body.slug tenantRef)))
    (lower (strip body.adminEmail)) (lower (strip (orElse body.name tenantRef))))

/-- Apart from the blacklist: a tenant that is there has other credentials, or a new one has a slug
or a token that is taken. -/
def turnedAway (tenantRef freshToken : String) (body : RegisterBody) (db : Db) : Bool :=
  match db.tenants.first? fun t => t.externalId = tenantRef with
  | some tenantId =>
    body.installToken ≠ "" && !installMatches cfg
      (ensureInstall cfg tenantId freshToken body.deviceHash db).1 body.installToken body.deviceHash
  | none =>
    db.tenants.existsRow (fun t => t.slug = lower (strip (orElse body.slug tenantRef)))
      || db.installs.existsRow fun i =>
        i.installTokenHash = cfg.fingerprint (orElse body.installToken freshToken)

def phoneListed (body : RegisterBody) (db : Db) : Bool :=
  db.blacklist.existsRow fun entry => entry.isActive && sameText (strip body.adminPhone) entry.phone

variable {cfg} {now : Time} {tenantRef freshToken : String} {body : RegisterBody} {db : Db}

theorem registerTenant_ok_iff :
    (registerTenant cfg now tenantRef freshToken body db).reply = .ok
      ↔ blacklisted tenantRef body db = false
        ∧ turnedAway cfg tenantRef freshToken body db = false := by
  unfold registerTenant
  dsimp only
  split
  · rename_i hlisted
    exact iff_of_false nofun fun h => Bool.false_ne_true (h.1.symm.trans hlisted)
  rename_i hlisted
  rw [Bool.not_eq_true] at hlisted
  have hfree : blacklisted tenantRef body db = false := hlisted
  rw [hfree, eq_self_iff_true, true_and, turnedAway]
  cases db.tenants.first? fun t => t.externalId = tenantRef with
  | some tenantId =>
    dsimp only
    split
    · rename_i hother
      exact iff_of_false nofun fun h => by simp_all
    rename_i hmatch
    exact iff_of_true rfl (by simpa using hmatch)
  | none =>
    dsimp only
    split
    · rename_i hslug
      exact iff_of_false nofun fun h => by simp_all
    split
    · rename_i htoken
      exact iff_of_false nofun fun h => by simp_all
    · exact iff_of_true rfl (by simp_all)

theorem isStrong_iff (a b c d e : Bool) :
    isStrong ((([(a, "school_name"), (b, "slug"), (c, "admin_email"), (d, "email_domain"),
      (e, "phone")] : List (Bool × String)).filter (·.1)).map (·.2)) = (a || b || c || e) := by
  revert a b c d e
  decide

theorem blocksCheck_eq (request : RegistrationCheckRequest) (entry : SchoolBlacklistEntry) :
    blocksCheck request entry = (entry.isActive
      && (sameText (lower (strip request.schoolName)) entry.schoolNameNormalized
        || sameText (lower (strip request.slug)) entry.slug
        || sameText (lower (strip request.adminEmail)) entry.adminEmail
        || sameText (strip request.phone) entry.phone)) := by
  rw [blocksCheck, entryMatches, isStrong_iff]

theorem blocksRegistration_eq (slug email name : String) (entry : SchoolBlacklistEntry) :
    blocksRegistration slug email name entry = (entry.isActive
      && (decide (entry.slug ≠ "" ∧ entry.slug = slug)
        || decide (entry.adminEmail ≠ "" ∧ entry.adminEmail = email)
        || decide (entry.schoolNameNormalized ≠ "" ∧ entry.schoolNameNormalized = name))) := by
  have hcount : ∀ a b c d : Bool,
      ((a || b || c) || decide (2 ≤ ([a, b, c, d].filter id).length)) = (a || b || c) := by decide
  simp only [blocksRegistration, hcount]

theorem sameText_iff {given listed : String} :
    sameText given listed = true ↔ given ≠ "" ∧ listed ≠ "" ∧ given = listed := decide_eq_true_iff

theorem sameText_given {given listed instead : String}
    (h : sameText (lower (strip given)) listed = true) :
    decide (listed ≠ "" ∧ listed = lower (strip (orElse given instead))) = true := by
  obtain ⟨hgiven, hlisted, rfl⟩ := sameText_iff.1 h
  have hne : given ≠ "" := by
    rintro rfl
    exact hgiven rfl
  rw [decide_eq_true_eq, orElse, if_neg hne]
  exact ⟨hlisted, rfl⟩

/-- **An entry that the check holds against a school stands against its registration, or has its
phone.** -/
theorem blocksCheck_asked {entry : SchoolBlacklistEntry}
    (h : blocksCheck body.asked entry = true) :
    blocksRegistration (lower (strip (orElse body.slug tenantRef))) (lower (strip body.adminEmail))
        (lower (strip (orElse body.name tenantRef))) entry = true
      ∨ (entry.isActive && sameText (strip body.adminPhone) entry.phone) = true := by
  rw [blocksCheck_eq, Bool.and_eq_true] at h
  rw [blocksRegistration_eq, h.1, Bool.true_and, Bool.true_and]
  simp only [Bool.or_eq_true] at h ⊢
  obtain ⟨-, ((hname | hslug) | hemail) | hphone⟩ := h
  · exact Or.inl (Or.inr (sameText_given hname))
  · exact Or.inl (Or.inl (Or.inl (sameText_given hslug)))
  · obtain ⟨-, hlisted, heq⟩ := sameText_iff.1 hemail
    exact Or.inl (Or.inl (Or.inr (decide_eq_true ⟨hlisted, heq.symm⟩)))
  · exact Or.inr hphone

theorem blocksCheck_of_phone {entry : SchoolBlacklistEntry}
    (h : (entry.isActive && sameText (strip body.adminPhone) entry.phone) = true) :
    blocksCheck body.asked entry = true := by
  rw [Bool.and_eq_true] at h
  have hphone : sameText (strip body.asked.phone) entry.phone = true := h.2
  rw [blocksCheck_eq, h.1, hphone, Bool.or_true]
  rfl

theorem allowed_iff :
    (registrationCheck cfg body.asked db).allowed = true
      ↔ db.blacklist.existsRow (blocksCheck body.asked) = false
        ∧ usedInstall cfg body.asked db = false ∧ otherInstall cfg body.asked db = false := by
  unfold registrationCheck
  split
  · rename_i entry hfind
    refine iff_of_false Bool.false_ne_true fun h => ?_
    have hlisted := List.any_eq_true.2 ⟨entry, List.mem_of_find?_eq_some hfind,
      List.find?_some hfind⟩
    exact Bool.false_ne_true (h.1.symm.trans hlisted)
  rename_i hnone
  have hlisted : db.blacklist.existsRow (blocksCheck body.asked) = false :=
    List.any_eq_false.2 (List.find?_eq_none.1 hnone)
  rw [hlisted, eq_self_iff_true, true_and]
  cases usedInstall cfg body.asked db <;> cases otherInstall cfg body.asked db <;> simp

/-- The entries the check goes by. -/
theorem existsRow_blocksCheck (hfree : blacklisted tenantRef body db = false) :
    db.blacklist.existsRow (blocksCheck body.asked) = phoneListed body db := by
  rw [Bool.eq_iff_iff, phoneListed, Table.existsRow_iff, Table.existsRow_iff]
  constructor
  · rintro ⟨i, entry, hentry, hblocks⟩
    refine ⟨i, entry, hentry, (@blocksCheck_asked tenantRef body _ hblocks).resolve_left ?_⟩
    intro hlisted
    exact Bool.false_ne_true (hfree.symm.trans (Table.existsRow_iff.2 ⟨i, entry, hentry, hlisted⟩))
  rintro ⟨i, entry, hentry, hphone⟩
  exact ⟨i, entry, hentry, blocksCheck_of_phone hphone⟩

namespace Example

def barredPhone : Db :=
  { blacklist := [{ tenantId := 0, schoolNameNormalized := "", slug := "", adminEmail := ""
                    emailDomain := "", phone := "+2348000000000", reason := "fraud"
                    evidence := "", severity := "high", permanent := true, createdBy := "ops" }] }

def registration : RegisterBody :=
  { slug := "hill", name := "Hill School", adminEmail := "head@hill.ng"
    adminPhone := "+2348000000000" }

end Example

end MultiAcademy.Control
