import MultiAcademy.Lib.Flight
import MultiAcademy.School.AcademicCalendar
import MultiAcademy.School.StaffAttendance

/-!
# The attendance settings and what the server keeps in them

One JSON column of `business_org` holds what a school has set for attendance together with what
the server keeps there: the manual code, and the day that was last finalized.  A save of the
settings, a regeneration of the code (for an administrator, or for a sign-in that used the
last one) and the end of the day all go through `updateBusinessOrganization`, which reads the
column, merges, and writes the whole of it back in another statement:
`organizations.service.ts`, `attendance.service.ts`.
-/

namespace MultiAcademy.School

open MultiAcademy.Lib

/-! ## The column -/

/-- The column `attendance_config`. -/
structure StoredAttendance extends AttendanceConfig where
  manualCodeCreatedAt : Option String := none
  lastStaffFinalizeDate : Option String := none

/-- An object given for the column: `none` is a key that is not there, and `some none` one that
is there without a value. -/
structure AttendancePatch where
  requireLocationVerification : Option (Option Bool) := none
  locations : Option (Option (List VerificationLocation)) := none
  sessionStartTime : Option (Option String) := none
  sessionEndTime : Option (Option String) := none
  biometricWindowStart : Option (Option String) := none
  biometricWindowEnd : Option (Option String) := none
  businessDays : Option (Option (List ℕ)) := none
  manualVerificationCode : Option (Option String) := none
  manualCodeCreatedAt : Option (Option String) := none
  verificationRequiredRoles : Option (Option (List String)) := none
  lastStaffFinalizeDate : Option (Option String) := none

def VerificationLocation.parse (loc : VerificationLocation) : VerificationLocation :=
  { loc with id := trim loc.id, name := trim loc.name }

def VerificationLocation.isValid (loc : VerificationLocation) : Bool :=
  loc.id ≠ "" && loc.name ≠ "" && 0 < loc.radiusMeters

/-- An object as `parseAttendanceConfig` reads it. -/
def StoredAttendance.parse (parsed : StoredAttendance) : StoredAttendance :=
  { requireLocationVerification := some (parsed.requireLocationVerification = some true)
    locations :=
      some (((parsed.locations.getD []).map VerificationLocation.parse).filter
        VerificationLocation.isValid)
    sessionStartTime := orNull parsed.sessionStartTime
    sessionEndTime := orNull parsed.sessionEndTime
    biometricWindowStart := orNull parsed.biometricWindowStart
    biometricWindowEnd := orNull parsed.biometricWindowEnd
    businessDays := parsed.businessDays.map fun days => days.filter fun day => day ≤ 6
    manualVerificationCode := orNull parsed.manualVerificationCode
    manualCodeCreatedAt := orNull parsed.manualCodeCreatedAt
    verificationRequiredRoles :=
      parsed.verificationRequiredRoles.map fun roles =>
        (roles.map normalizeRole).filter fun role => role ≠ ""
    lastStaffFinalizeDate := orNull parsed.lastStaffFinalizeDate }

/-- `parseAttendanceConfig`, of a column that holds an object or nothing. -/
def parseAttendanceConfig (raw : Option StoredAttendance) : Option StoredAttendance :=
  raw.map StoredAttendance.parse

/-- A row of `business_org`. -/
structure OrgRow where
  id : String
  id_ne_empty : id ≠ ""
  attendanceConfig : Option StoredAttendance := none

/-- `mapOrganizationRow`. -/
def OrgRow.mapped (row : OrgRow) : OrgRow :=
  { row with attendanceConfig := parseAttendanceConfig row.attendanceConfig }

/-- The configuration of a school that has set nothing. -/
def unsetAttendance : StoredAttendance :=
  { requireLocationVerification := some false, locations := some [] }

/-- `...config`, of what `getAttendanceConfig` returns. -/
def spreadAttendance : Option StoredAttendance → AttendancePatch
  | none => { requireLocationVerification := some (some false), locations := some (some []) }
  | some config =>
    { requireLocationVerification := some config.requireLocationVerification
      locations := some config.locations
      sessionStartTime := some config.sessionStartTime
      sessionEndTime := some config.sessionEndTime
      biometricWindowStart := some config.biometricWindowStart
      biometricWindowEnd := some config.biometricWindowEnd
      businessDays := some config.businessDays
      manualVerificationCode := some config.manualVerificationCode
      manualCodeCreatedAt := some config.manualCodeCreatedAt
      verificationRequiredRoles := some config.verificationRequiredRoles
      lastStaffFinalizeDate := some config.lastStaffFinalizeDate }

@[simp] theorem orNull_orNull (text : Option String) : orNull (orNull text) = orNull text := by
  simp [orNull]

theorem orNull_some {text : String} (h : text ≠ "") : orNull (some text) = some text := by
  simp [orNull, h]

/-- `{ ...base, ...incoming }`. -/
def AttendancePatch.over (incoming : AttendancePatch) (base : StoredAttendance) :
    StoredAttendance :=
  { requireLocationVerification :=
      incoming.requireLocationVerification.getD base.requireLocationVerification
    locations := incoming.locations.getD base.locations
    sessionStartTime := incoming.sessionStartTime.getD base.sessionStartTime
    sessionEndTime := incoming.sessionEndTime.getD base.sessionEndTime
    biometricWindowStart := incoming.biometricWindowStart.getD base.biometricWindowStart
    biometricWindowEnd := incoming.biometricWindowEnd.getD base.biometricWindowEnd
    businessDays := incoming.businessDays.getD base.businessDays
    manualVerificationCode := incoming.manualVerificationCode.getD base.manualVerificationCode
    manualCodeCreatedAt := incoming.manualCodeCreatedAt.getD base.manualCodeCreatedAt
    verificationRequiredRoles :=
      incoming.verificationRequiredRoles.getD base.verificationRequiredRoles
    lastStaffFinalizeDate := incoming.lastStaffFinalizeDate.getD base.lastStaffFinalizeDate }

/-- What `updateBusinessOrganization` writes to the column: the incoming keys over the existing
ones, and the code and the day again unless they are given. -/
def mergeAttendanceConfig (existing : Option StoredAttendance) (incoming : AttendancePatch) :
    StoredAttendance :=
  let merged := incoming.over (existing.getD unsetAttendance)
  let merged :=
    match existing with
    | some config =>
      if hasText config.manualVerificationCode && incoming.manualVerificationCode.isNone then
        { merged with
          manualVerificationCode := config.manualVerificationCode
          manualCodeCreatedAt := config.manualCodeCreatedAt }
      else merged
    | none => merged
  match existing with
  | some config =>
    if hasText config.lastStaffFinalizeDate && incoming.lastStaffFinalizeDate.isNone then
      { merged with lastStaffFinalizeDate := config.lastStaffFinalizeDate }
    else merged
  | none => merged

/-- The code that a save carries: the one it is given, or the one it has read. -/
theorem mergeAttendanceConfig_code (existing : Option StoredAttendance)
    (incoming : AttendancePatch) :
    orNull (mergeAttendanceConfig existing incoming).manualVerificationCode
      = orNull (incoming.manualVerificationCode.getD
          (existing.bind fun config => config.manualVerificationCode)) := by
  cases existing with
  | none => rfl
  | some config =>
    cases hgiven : incoming.manualVerificationCode <;>
      by_cases hcode : hasText config.manualVerificationCode = true <;>
        by_cases hdate : (hasText config.lastStaffFinalizeDate
          && incoming.lastStaffFinalizeDate.isNone) = true <;>
            simp [mergeAttendanceConfig, AttendancePatch.over, hgiven, hcode, hdate]

/-- The day that a save carries. -/
theorem mergeAttendanceConfig_date (existing : Option StoredAttendance)
    (incoming : AttendancePatch) :
    orNull (mergeAttendanceConfig existing incoming).lastStaffFinalizeDate
      = orNull (incoming.lastStaffFinalizeDate.getD
          (existing.bind fun config => config.lastStaffFinalizeDate)) := by
  cases existing with
  | none => rfl
  | some config =>
    cases hgiven : incoming.lastStaffFinalizeDate <;>
      by_cases hdate : hasText config.lastStaffFinalizeDate = true <;>
        by_cases hcode : (hasText config.manualVerificationCode
          && incoming.manualVerificationCode.isNone) = true <;>
            simp [mergeAttendanceConfig, AttendancePatch.over, hgiven, hcode, hdate]

/-! ## Codes and days -/

/-- A code of `generateManualVerificationCode`: twenty digits. -/
structure ManualCode where
  text : String
  digits : text.toList.all Char.isDigit = true
  length : text.toList.length = 20

theorem isSpace_of_isDigit {c : Char} (h : c.isDigit = true) : isSpace c = false := by
  have hrange : 48 ≤ c.toNat ∧ c.toNat ≤ 57 := by
    simp only [Char.isDigit, Bool.and_eq_true, decide_eq_true_eq] at h
    exact h
  simp only [isSpace, List.mem_cons, List.not_mem_nil, or_false, Bool.or_eq_false_iff,
    decide_eq_false_iff_not, Bool.and_eq_false_iff]
  omega

/-- A code is as `trim` leaves it. -/
@[simp] theorem ManualCode.trim_text (code : ManualCode) : trim code.text = code.text := by
  have hkeep : ∀ cs : List Char, cs.all Char.isDigit = true → cs.dropWhile isSpace = cs := by
    intro cs hcs
    cases cs with
    | nil => rfl
    | cons c cs =>
      have hc : c.isDigit = true := List.all_eq_true.1 hcs c List.mem_cons_self
      simp [isSpace_of_isDigit hc]
  have hreverse : code.text.toList.reverse.all Char.isDigit = true := by
    rw [List.all_reverse]
    exact code.digits
  rw [trim, hkeep _ code.digits, hkeep _ hreverse, List.reverse_reverse, String.ofList_toList]

theorem ManualCode.text_ne_empty (code : ManualCode) : code.text ≠ "" := by
  intro h
  have hlength := code.length
  rw [h] at hlength
  exact absurd hlength (by decide)

/-- A day of `schoolIsoDate`. -/
structure SchoolDay where
  text : String
  nonempty : text ≠ ""

theorem textOrElse_ne_empty {text : Option String} {other : String} (h : other ≠ "") :
    textOrElse text other ≠ "" := by
  unfold textOrElse hasText
  cases text with
  | none => simpa using h
  | some s => by_cases hs : s = "" <;> simp [hs, h]

/-- `date || schoolIsoDate()`. -/
def SchoolDay.of (date : Option String) (today : SchoolDay) : SchoolDay :=
  ⟨textOrElse date today.text, textOrElse_ne_empty today.nonempty⟩

/-! ## Requests -/

structure ManualSignIn where
  request : SignInRequest
  verificationCode : String
  manual : request.verification = .manual verificationCode

/-- The requests that read or write the column; `today` is the school's date when they come. -/
inductive ColumnRequest
  | updateBusinessOrganization (id : String) (attendanceConfig : Option AttendancePatch)
  | getManualVerificationCode
  | regenerateManualVerificationCode
  | markStaffAttendanceWithManualCode (request : ManualSignIn) (today : SchoolDay)
  | maybeFinalizeStaffDay (date : Option String) (today : SchoolDay)
      (actorUserId : Option String)

/-- A sign-in whose code was right, with the configuration it was checked under. -/
structure AcceptedSignIn where
  request : ManualSignIn
  config : StoredAttendance
  today : SchoolDay

def AcceptedSignIn.code (signIn : AcceptedSignIn) : String := trim signIn.request.verificationCode

inductive SaveReason
  | settings (incoming : AttendancePatch)
  | newCode (existing : Option StoredAttendance) (code : ManualCode) (createdAt : String)
      (signIn : Option AcceptedSignIn)
  | finalize (config : Option StoredAttendance) (today : SchoolDay)

/-- `body.attendanceConfig` of the save. -/
def SaveReason.incoming : SaveReason → AttendancePatch
  | .settings incoming => incoming
  | .newCode existing code createdAt _ =>
    { spreadAttendance existing with
      manualVerificationCode := some (some code.text)
      manualCodeCreatedAt := some (some createdAt) }
  | .finalize config today =>
    { spreadAttendance config with lastStaffFinalizeDate := some (some today.text) }

structure ColumnSave where
  id : String
  reason : SaveReason

inductive ColumnAnswer
  | error (status : ℕ) (message : String)
  | updated
  | code (code : String) (createdAt : Option String)
  | signedIn (row : StaffAttendance)
  | finalized
  | notFinalized

/-- Where a request is: the statement that it is about to run. -/
inductive ColumnCall
  | signingIn (request : ManualSignIn) (today : SchoolDay)
  | consuming (request : ManualSignIn) (config : StoredAttendance) (today : SchoolDay)
  | gettingCode
  | regenerating (signIn : Option AcceptedSignIn)
  | drawing (id : String) (signIn : Option AcceptedSignIn)
  | finalizing (today : SchoolDay) (actorUserId : Option String)
  | locating (config : Option StoredAttendance) (today : SchoolDay) (actorUserId : Option String)
  | markingAbsent (id : Option String) (config : Option StoredAttendance) (today : SchoolDay)
      (actorUserId : Option String)
  | reading (save : ColumnSave)
  | writing (save : ColumnSave) (existing : Option StoredAttendance)
  | deleting (mark : AttendanceMark) (today : SchoolDay)
  | inserting (mark : AttendanceMark) (today : SchoolDay)
  | answered (answer : ColumnAnswer)

def ColumnRequest.start : ColumnRequest → ColumnCall
  | .updateBusinessOrganization id attendanceConfig =>
    .reading { id, reason := .settings (attendanceConfig.getD {}) }
  | .getManualVerificationCode => .gettingCode
  | .regenerateManualVerificationCode => .regenerating none
  | .markStaffAttendanceWithManualCode request today => .signingIn request today
  | .maybeFinalizeStaffDay date today actorUserId =>
    .finalizing (SchoolDay.of date today) actorUserId

/-- What a step finds besides the tables: the roles of the staff member, the clock, and what it
draws. -/
structure ColumnDraw where
  code : ManualCode
  roles : List String := []
  now : LocalParts := { weekday := 1, hour := 8, minute := 0 }
  createdAt : String := ""
  rowId : String := ""
  signIn : String := ""

/-- The tables, newest organization first, and the history: the codes that were drawn, those
that were put in the column, those that a sign-in was accepted with and those that it had
replaced, the days that were recorded, and the rows of sign-ins with the school's date at the
time of their request. -/
structure ColumnStores where
  orgs : Keyed OrgRow.id
  staff : Keyed StaffAttendance.id := .empty
  generated : List String := []
  stored : List String := []
  accepted : List String := []
  consumed : List String := []
  recorded : List String := []
  verified : List (StaffAttendance × String) := []

namespace ColumnStores

def getCurrentOrganization (d : ColumnStores) : Option OrgRow :=
  d.orgs.rows.head?.map OrgRow.mapped

/-- `org?.id`, if there is one. -/
def currentId (d : ColumnStores) : Option String :=
  orNull (d.getCurrentOrganization.map OrgRow.id)

def getBusinessOrganizationById (d : ColumnStores) (id : String) : Option OrgRow :=
  (d.orgs.find? id).map OrgRow.mapped

/-- What `getAttendanceConfig` has parsed. -/
def parsedConfig (d : ColumnStores) : Option StoredAttendance :=
  parseAttendanceConfig (d.getCurrentOrganization.bind OrgRow.attendanceConfig)

def getAttendanceConfig (d : ColumnStores) : StoredAttendance :=
  d.parsedConfig.getD unsetAttendance

/-- What `updateBusinessOrganization` has parsed. -/
def existingConfig (d : ColumnStores) (id : String) : Option StoredAttendance :=
  parseAttendanceConfig ((d.getBusinessOrganizationById id).bind OrgRow.attendanceConfig)

/-- `UPDATE business_org SET attendance_config = ? WHERE id = ?`. -/
def setColumn (d : ColumnStores) (id : String) (merged : StoredAttendance) : ColumnStores :=
  { d with
    orgs := d.orgs.updateWhere (fun row => row.id = id)
      (fun row => { row with attendanceConfig := some merged }) fun _ => rfl }

def noteSave (d : ColumnStores) : SaveReason → ColumnStores
  | .settings _ => d
  | .newCode _ code _ signIn =>
    { d with
      stored := d.stored ++ [code.text]
      consumed := d.consumed ++ (signIn.map AcceptedSignIn.code).toList }
  | .finalize _ today => { d with recorded := d.recorded ++ [today.text] }

/-- The UPDATE of a save. -/
def write (d : ColumnStores) (save : ColumnSave) (existing : Option StoredAttendance) :
    ColumnStores :=
  (d.setColumn save.id (mergeAttendanceConfig existing save.reason.incoming)).noteSave save.reason

/-- The manual code in the column, as it is read. -/
def code (d : ColumnStores) : Option String :=
  d.parsedConfig.bind fun config => config.manualVerificationCode

/-- The day in the column that was last finalized, as it is read. -/
def finalizeDate (d : ColumnStores) : Option String :=
  d.parsedConfig.bind fun config => config.lastStaffFinalizeDate

/-- What a sign-in has to send to be accepted. -/
def expected (d : ColumnStores) : String := trim (textOrElse d.code "")

/-- The organization whose column is read. -/
def IsCurrent (d : ColumnStores) (id : String) : Prop :=
  d.orgs.rows.head?.map OrgRow.id = some id

instance (d : ColumnStores) (id : String) : Decidable (d.IsCurrent id) :=
  inferInstanceAs (Decidable (_ = _))

end ColumnStores

def SaveReason.carriedCode (reason : SaveReason) (existing : Option StoredAttendance) :
    Option String :=
  orNull (reason.incoming.manualVerificationCode.getD
    (existing.bind fun config => config.manualVerificationCode))

def SaveReason.carriedDate (reason : SaveReason) (existing : Option StoredAttendance) :
    Option String :=
  orNull (reason.incoming.lastStaffFinalizeDate.getD
    (existing.bind fun config => config.lastStaffFinalizeDate))

/-- Where a request goes once its save is done. -/
def SaveReason.after (env : AttendanceEnv) : SaveReason → ColumnCall
  | .settings _ => .answered .updated
  | .newCode _ code createdAt none => .answered (.code code.text (some createdAt))
  | .newCode _ _ _ (some signIn) =>
    match resolveStaffSignInLocation env.distanceMeters signIn.config.toAttendanceConfig
      signIn.request.request.latitude signIn.request.request.longitude
      signIn.request.request.locationHint with
    | .error e => .answered (.error e.1 e.2)
    | .ok resolvedLocation =>
      .deleting (signIn.request.request.mark resolvedLocation) signIn.today
  | .finalize _ _ => .answered .finalized

def columnNext (env : AttendanceEnv) (x : ColumnDraw) (call : ColumnCall) (d : ColumnStores) :
    ColumnCall × ColumnStores :=
  match call with
  | .signingIn request today =>
    match checkSignIn request.request d.getAttendanceConfig.toAttendanceConfig x.roles x.now
      d.staff.rows with
    | .error e => (.answered (.error e.1 e.2), d)
    | .ok () => (.consuming request d.getAttendanceConfig today, d)
  | .consuming request config today =>
    -- the organization is looked for in the next step
    match consumeManualVerificationCode d.getAttendanceConfig.toAttendanceConfig true
      request.verificationCode with
    | .error e => (.answered (.error e.1 e.2), d)
    | .ok () =>
      (.regenerating (some { request, config, today }),
        { d with accepted := d.accepted ++ [trim request.verificationCode] })
  | .gettingCode =>
    match d.getAttendanceConfig.manualVerificationCode with
    | some code => (.answered (.code code d.getAttendanceConfig.manualCodeCreatedAt), d)
    | none => (.regenerating none, d)
  | .regenerating signIn =>
    match d.currentId with
    | none => (.answered (.error 404 "Organization not found"), d)
    | some id => (.drawing id signIn, d)
  | .drawing id signIn =>
    (.reading { id, reason := .newCode d.parsedConfig x.code x.createdAt signIn },
      { d with generated := d.generated ++ [x.code.text] })
  | .finalizing today actorUserId =>
    if isSessionEnded d.getAttendanceConfig.toAttendanceConfig x.now then
      (.locating d.parsedConfig today actorUserId, d)
    else (.answered .notFinalized, d)
  | .locating config today actorUserId =>
    if (config.bind fun c => c.lastStaffFinalizeDate) = some today.text then
      (.answered .notFinalized, d)
    else
      (.markingAbsent d.currentId config today actorUserId, d)
  | .markingAbsent id config today actorUserId =>
    -- `processEndOfDayAbsent` has run by now
    match id with
    | some id =>
      if hasText actorUserId then
        (.reading { id, reason := .finalize config today }, d)
      else (.answered .finalized, d)
    | none => (.answered .finalized, d)
  | .reading save => (.writing save (d.existingConfig save.id), d)
  | .writing save existing => (save.reason.after env, d.write save existing)
  | .deleting mark today =>
    (.inserting mark today,
      { d with staff := d.staff.deleteWhere (StaffAttendance.isOf mark.staffId mark.date) })
  | .inserting mark today =>
    match d.staff.insert? (mark.row x.rowId x.signIn) with
    | none => (.answered (.error 500 "duplicate key"), d)
    | some staff =>
      (.answered (.signedIn (mark.row x.rowId x.signIn)),
        { d with
          staff
          verified := d.verified ++ [(mark.row x.rowId x.signIn, today.text)] })
  | .answered answer => (.answered answer, d)

/-! ## What the statements do to the column -/

namespace ColumnStores
variable {d : ColumnStores} {save : ColumnSave} {existing : Option StoredAttendance}

theorem code_eq (d : ColumnStores) : d.code
    = (d.orgs.rows.head?.bind OrgRow.attendanceConfig).bind fun config =>
        orNull config.manualVerificationCode := by
  unfold code parsedConfig getCurrentOrganization
  cases d.orgs.rows.head? with
  | none => rfl
  | some row => cases hcolumn : row.attendanceConfig <;>
      simp [OrgRow.mapped, parseAttendanceConfig, StoredAttendance.parse, hcolumn]

theorem finalizeDate_eq (d : ColumnStores) : d.finalizeDate
    = (d.orgs.rows.head?.bind OrgRow.attendanceConfig).bind fun config =>
        orNull config.lastStaffFinalizeDate := by
  unfold finalizeDate parsedConfig getCurrentOrganization
  cases d.orgs.rows.head? with
  | none => rfl
  | some row => cases hcolumn : row.attendanceConfig <;>
      simp [OrgRow.mapped, parseAttendanceConfig, StoredAttendance.parse, hcolumn]

@[simp] theorem noteSave_orgs (d : ColumnStores) (reason : SaveReason) :
    (d.noteSave reason).orgs = d.orgs := by
  cases reason <;> rfl

@[simp] theorem noteSave_generated (d : ColumnStores) (reason : SaveReason) :
    (d.noteSave reason).generated = d.generated := by
  cases reason <;> rfl

theorem write_eq (d : ColumnStores) (save : ColumnSave) (existing : Option StoredAttendance) :
    d.write save existing = (d.noteSave save.reason).setColumn save.id
      (mergeAttendanceConfig existing save.reason.incoming) := by
  unfold write
  cases save.reason <;> rfl

theorem write_head (d : ColumnStores) (save : ColumnSave) (existing : Option StoredAttendance) :
    (d.write save existing).orgs.rows.head?
      = d.orgs.rows.head?.map fun row =>
          if row.id = save.id then
            { row with
              attendanceConfig := some (mergeAttendanceConfig existing save.reason.incoming) }
          else row := by
  simp [write_eq, setColumn, Keyed.updateWhere]

theorem isCurrent_write {id : String} : (d.write save existing).IsCurrent id ↔ d.IsCurrent id := by
  unfold IsCurrent
  rw [write_head]
  cases d.orgs.rows.head? with
  | none => rfl
  | some row => by_cases h : row.id = save.id <;> simp [h]

theorem write_code (h : d.IsCurrent save.id) :
    (d.write save existing).code = save.reason.carriedCode existing := by
  obtain ⟨row, hrow, hid⟩ := Option.map_eq_some_iff.1 h
  rw [code_eq, write_head, hrow, SaveReason.carriedCode, ← mergeAttendanceConfig_code]
  simp [hid]

theorem write_finalizeDate (h : d.IsCurrent save.id) :
    (d.write save existing).finalizeDate = save.reason.carriedDate existing := by
  obtain ⟨row, hrow, hid⟩ := Option.map_eq_some_iff.1 h
  rw [finalizeDate_eq, write_head, hrow, SaveReason.carriedDate, ← mergeAttendanceConfig_date]
  simp [hid]

theorem write_head_of_not (h : ¬ d.IsCurrent save.id) :
    (d.write save existing).orgs.rows.head? = d.orgs.rows.head? := by
  rw [write_head]
  cases hrow : d.orgs.rows.head? with
  | none => rfl
  | some row =>
    have hid : row.id ≠ save.id := fun hid => h (by simp [IsCurrent, hrow, hid])
    simp [hid]

theorem code_congr {d' : ColumnStores} (h : d'.orgs.rows.head? = d.orgs.rows.head?) :
    d'.code = d.code := by
  rw [code_eq, code_eq, h]

theorem finalizeDate_congr {d' : ColumnStores} (h : d'.orgs.rows.head? = d.orgs.rows.head?) :
    d'.finalizeDate = d.finalizeDate := by
  rw [finalizeDate_eq, finalizeDate_eq, h]

end ColumnStores

@[simp] theorem SaveReason.carriedCode_newCode (read : Option StoredAttendance)
    (code : ManualCode) (createdAt : String) (signIn : Option AcceptedSignIn)
    (existing : Option StoredAttendance) :
    (SaveReason.newCode read code createdAt signIn).carriedCode existing = some code.text :=
  orNull_some code.text_ne_empty

@[simp] theorem SaveReason.carriedDate_finalize (config : Option StoredAttendance)
    (today : SchoolDay) (existing : Option StoredAttendance) :
    (SaveReason.finalize config today).carriedDate existing = some today.text :=
  orNull_some today.nonempty

/-- The requests in flight; nothing else writes the column. -/
def columnService (env : AttendanceEnv) :
    Service ColumnRequest ColumnDraw Empty ColumnStores ColumnCall where
  start := ColumnRequest.start
  next := columnNext env
  other := fun y _ => y.elim

end MultiAcademy.School
