import MultiAcademy.Lib.Keyed
import MultiAcademy.Lib.Run
import MultiAcademy.School.SchoolSession

/-!
# Staff attendance

A staff member signs in with a fingerprint or a code, and after the session a job marks those
absent who did not: `attendance.service.ts`.  Either looks for a record first, and then writes
with `persistStaffAttendance`: a DELETE of the records of the staff member and date and an
INSERT.  The steps of any number of calls interleave, and nothing in the table keeps two
records of a staff member and date apart.
-/

namespace MultiAcademy.School

open MultiAcademy.Lib

/-! ## Records -/

inductive AttendanceStatus
  | present
  | absent
  | late
  deriving DecidableEq

/-- A row of `attendance_staff`. -/
structure StaffAttendance where
  id : String
  staffId : String
  date : String
  status : AttendanceStatus
  signInTime : String
  location : String
  biometricVerified : Bool
  markedBy : String
  deriving DecidableEq

/-- A record of the staff member and date. -/
def StaffAttendance.isOf (staffId date : String) (row : StaffAttendance) : Bool :=
  row.staffId = staffId && row.date = date

/-- What `persistStaffAttendance` is given to write. -/
structure AttendanceMark where
  actorUserId : String
  staffId : String
  date : String
  status : AttendanceStatus
  resolvedLocation : String
  biometricVerified : Bool

def AttendanceMark.row (mark : AttendanceMark) (id signIn : String) : StaffAttendance :=
  { id, staffId := mark.staffId, date := mark.date, status := mark.status, signInTime := signIn
    location := mark.resolvedLocation, biometricVerified := mark.biometricVerified
    markedBy := mark.actorUserId }

/-! ## Signing in -/

inductive Verification
  | biometric (biometricAssertionId : String)
  | manual (verificationCode : String)

/-- The arguments of `markStaffAttendance` and `markStaffAttendanceWithManualCode`; a
coordinate is a number that is finite. -/
structure SignInRequest where
  actorUserId : String
  staffId : String
  date : String
  status : AttendanceStatus
  verification : Verification
  location : Option String := none
  latitude : Option ℚ := none
  longitude : Option ℚ := none

/-- What the two methods say to someone who signs in for another. -/
def Verification.notSelf : Verification → String
  | .biometric _ =>
    "You can only biometric-sign yourself in. Ask an admin to override manually."
  | .manual _ => "You can only verify yourself in."

variable (request : SignInRequest) (config : AttendanceConfig)

def assertVerificationWindow (now : LocalParts) :
    Except (ℕ × String) Unit :=
  if isVerificationWindowOpen config now then .ok ()
  else
    .error (400, "Staff verification is only available during the configured window ("
      ++ (resolveSessionConfig config).biometricWindowStart ++ "–"
      ++ (resolveSessionConfig config).biometricWindowEnd
      ++ " on business days). Applies to fingerprint and manual code.")

def assertNotAlreadyVerified (rows : List StaffAttendance) (staffId date : String) :
    Except (ℕ × String) Unit :=
  if rows.any fun row => row.isOf staffId date && row.biometricVerified then
    .error (400, "You have already completed biometric verification for today. "
      ++ "Only one verification per day is allowed.")
  else .ok ()

/-- The checks of a sign-in, up to its SELECT; `roles` are those of the staff member. -/
def checkSignIn (roles : List String)
    (now : LocalParts) (rows : List StaffAttendance) : Except (ℕ × String) Unit :=
  if request.actorUserId ≠ request.staffId then .error (400, request.verification.notSelf)
  else if !userRequiresDailyVerification roles config then
    .error (400, "Daily staff verification applies only to roles configured by your school "
      ++ "admin.")
  else do
    assertVerificationWindow config now
    assertNotAlreadyVerified rows request.staffId request.date

structure BiometricAssertion where
  tenantId : String
  userId : String
  purpose : String
  expiresAt : ℕ
  used : Bool := false

abbrev Assertions := String → Option BiometricAssertion

def purgeExpired (now : ℕ) (assertions : Assertions) : Assertions :=
  fun id => (assertions id).filter fun entry => !(entry.expiresAt < now || entry.used)

/-- `consumeAssertion` for `staff_attendance`, which reads the clock twice. -/
def consumeAssertion (assertionId tenantId userId : String) (purgedAt now : ℕ)
    (assertions : Assertions) : Except (ℕ × String) Unit × Assertions :=
  let assertions := purgeExpired purgedAt assertions
  match assertions assertionId with
  | none => (.error (401, "Biometric assertion is invalid or already used"), assertions)
  | some entry =>
    if entry.expiresAt < now then
      (.error (401, "Biometric assertion expired"), Function.update assertions assertionId none)
    else if entry.tenantId ≠ tenantId || entry.userId ≠ userId then
      (.error (401, "Biometric assertion does not belong to this user"), assertions)
    else if entry.purpose = "staff_attendance" || entry.purpose = "general"
        || entry.purpose = "staff_login" then
      (.ok (), Function.update assertions assertionId none)
    else
      (.error (401, "Biometric assertion was issued for " ++ entry.purpose
        ++ ", not staff_attendance"), assertions)

/-- `consumeManualVerificationCode`, from the configuration it reads; `organization` says
whether the regeneration finds the school. -/
def consumeManualVerificationCode (organization : Bool)
    (submittedCode : String) : Except (ℕ × String) Unit :=
  let expected := trim (textOrElse config.manualVerificationCode "")
  if expected = "" || expected ≠ trim submittedCode then
    .error (400, "Invalid verification code. Ask your school admin for the current code.")
  else if !organization then .error (404, "Organization not found")
  else .ok ()

/-- `matchVerificationLocation`, with the distance of two points. -/
def matchVerificationLocation (distanceMeters : ℚ → ℚ → ℚ → ℚ → ℚ)
    (locations : List VerificationLocation) (latitude longitude : ℚ) :
    Option VerificationLocation :=
  locations.find? fun loc =>
    distanceMeters latitude longitude loc.latitude loc.longitude ≤ loc.radiusMeters

/-- `locationHint?.trim() || 'Biometric verified'`. -/
def locationText (locationHint : Option String) : String :=
  textOrElse (locationHint.map trim) "Biometric verified"

def resolveStaffSignInLocation (distanceMeters : ℚ → ℚ → ℚ → ℚ → ℚ) (config : AttendanceConfig)
    (latitude longitude : Option ℚ) (locationHint : Option String) :
    Except (ℕ × String) String :=
  let locations := config.locations.getD []
  if config.requireLocationVerification = some true && !locations.isEmpty then
    match latitude, longitude with
    | some latitude, some longitude =>
      match matchVerificationLocation distanceMeters locations latitude longitude with
      | some found => .ok found.name
      | none =>
        .error (400, "You are not within an approved staff sign-in location. Move closer to "
          ++ "a configured campus/site and try again.")
    | _, _ =>
      .error (400, "Location access is required. Enable location on your device and try again.")
  else
    match latitude, longitude with
    | some latitude, some longitude =>
      match matchVerificationLocation distanceMeters locations latitude longitude with
      | some found => .ok found.name
      | none => .ok (locationText locationHint)
    | _, _ => .ok (locationText locationHint)

/-- The hint of a sign-in: `location`, or for a code `location || 'Manual code verified'`. -/
def SignInRequest.locationHint : Option String :=
  match request.verification with
  | .biometric _ => request.location
  | .manual _ => some (textOrElse request.location "Manual code verified")

def SignInRequest.mark (resolvedLocation : String) : AttendanceMark :=
  { actorUserId := request.actorUserId, staffId := request.staffId, date := request.date
    status := request.status, resolvedLocation, biometricVerified := true }

/-! ## The end of the day -/

/-- A row of `users`, with its column `roles` as text and as `parseRoles` reads it. -/
structure StaffUser where
  id : String
  rolesText : String
  roles : List String

/-- `roles NOT LIKE '%"student"%' AND roles NOT LIKE '%"parent"%'`. -/
def StaffUser.isStaff (user : StaffUser) : Bool :=
  !("\"student\"".toList <:+: user.rolesText.toList
    || "\"parent\"".toList <:+: user.rolesText.toList)

/-- The rest of the loop of `processEndOfDayAbsent`. -/
structure AbsenceLoop where
  date : String
  config : AttendanceConfig
  todo : List StaffUser
  markedAbsent : ℕ := 0

/-- What the job writes. -/
def absenceMark (staffId date : String) : AttendanceMark :=
  { actorUserId := staffId, staffId, date, status := .absent
    resolvedLocation := "Auto-marked (no verification)", biometricVerified := false }

/-! ## The calls and their steps -/

inductive AttendanceAnswer
  | error (status : ℕ) (message : String)
  | signedIn (row : StaffAttendance)
  | markedAbsent (count : ℕ)

/-- Where a call is.  A write belongs to a sign-in or to what the job has left to do; `removed`
is what its DELETE took out. -/
inductive AttendanceCall
  | idle
  | checked (request : SignInRequest) (config : AttendanceConfig)
  | looping (job : AbsenceLoop)
  | deleting (mark : AttendanceMark) (job : Option AbsenceLoop)
  | inserting (mark : AttendanceMark) (removed : List StaffAttendance) (job : Option AbsenceLoop)
  | answered (answer : AttendanceAnswer)

structure AttendanceEnv where
  tenantId : String
  distanceMeters : ℚ → ℚ → ℚ → ℚ → ℚ

/-- The table, the memory, the calls under way, and the history of what a write replaced by
what. -/
structure AttendanceState where
  staff : Keyed StaffAttendance.id := .empty
  assertions : Assertions := fun _ => none
  calls : ℕ → AttendanceCall := fun _ => .idle
  replaced : List (StaffAttendance × StaffAttendance) := []

inductive AttendanceOp
  /-- A sign-in comes in; what it reads, and its SELECT. -/
  | signIn (w : ℕ) (request : SignInRequest) (config : AttendanceConfig) (roles : List String)
      (now : LocalParts)
  /-- It uses up its assertion or its code. -/
  | consume (w purgedAt now : ℕ) (config : AttendanceConfig) (organization : Bool)
  /-- The job starts, and reads the users. -/
  | processEndOfDayAbsent (w : ℕ) (date : String) (config : AttendanceConfig) (now : LocalParts)
      (users : List StaffUser)
  /-- It looks at the next of them. -/
  | nextStaff (w : ℕ)
  /-- The DELETE of `persistStaffAttendance`. -/
  | delete (w : ℕ)
  /-- The INSERT of `persistStaffAttendance`. -/
  | insert (w : ℕ) (id signIn : String)
  | issue (id : String) (entry : BiometricAssertion)
  | crash (w : ℕ)

namespace AttendanceState

/-- The call goes on to the next phase. -/
def goTo (w : ℕ) (call : AttendanceCall) (s : AttendanceState) : AttendanceState :=
  { s with calls := Function.update s.calls w call }

def signIn (w : ℕ) (request : SignInRequest) (config : AttendanceConfig) (roles : List String)
    (now : LocalParts) (s : AttendanceState) : AttendanceState :=
  match s.calls w with
  | .idle =>
    match checkSignIn request config roles now s.staff.rows with
    | .error e => s.goTo w (.answered (.error e.1 e.2))
    | .ok () => s.goTo w (.checked request config)
  | _ => s

/-- What is verified, and what that leaves in memory. -/
def consumed (env : AttendanceEnv) (request : SignInRequest) (purgedAt now : ℕ)
    (config : AttendanceConfig) (organization : Bool) (s : AttendanceState) :
    Except (ℕ × String) Unit × Assertions :=
  match request.verification with
  | .biometric assertionId =>
    consumeAssertion assertionId env.tenantId request.actorUserId purgedAt now s.assertions
  | .manual code => (consumeManualVerificationCode config organization code, s.assertions)

def consume (env : AttendanceEnv) (w purgedAt now : ℕ) (config : AttendanceConfig)
    (organization : Bool) (s : AttendanceState) : AttendanceState :=
  match s.calls w with
  | .checked request attendanceConfig =>
    let (result, assertions) := s.consumed env request purgedAt now config organization
    let located := do
      result
      resolveStaffSignInLocation env.distanceMeters attendanceConfig request.latitude
        request.longitude request.locationHint
    match located with
    | .error e => { s with assertions }.goTo w (.answered (.error e.1 e.2))
    | .ok resolvedLocation =>
      { s with assertions }.goTo w (.deleting (request.mark resolvedLocation) none)
  | _ => s

def processEndOfDayAbsent (w : ℕ) (date : String) (config : AttendanceConfig) (now : LocalParts)
    (users : List StaffUser) (s : AttendanceState) : AttendanceState :=
  match s.calls w with
  | .idle =>
    if !isSessionEnded config now then s.goTo w (.answered (.markedAbsent 0))
    else s.goTo w (.looping { date, config, todo := users.filter StaffUser.isStaff })
  | _ => s

def nextStaff (w : ℕ) (s : AttendanceState) : AttendanceState :=
  match s.calls w with
  | .looping job =>
    match job.todo with
    | [] => s.goTo w (.answered (.markedAbsent job.markedAbsent))
    | teacher :: todo =>
      if !userRequiresDailyVerification teacher.roles job.config then
        s.goTo w (.looping { job with todo })
      else if s.staff.rows.any (StaffAttendance.isOf teacher.id job.date) then
        s.goTo w (.looping { job with todo })
      else s.goTo w (.deleting (absenceMark teacher.id job.date) (some { job with todo }))
  | _ => s

def delete (w : ℕ) (s : AttendanceState) : AttendanceState :=
  match s.calls w with
  | .deleting mark job =>
    { s with
      staff := s.staff.deleteWhere (StaffAttendance.isOf mark.staffId mark.date) }.goTo w
        (.inserting mark
          (s.staff.rows.filter (StaffAttendance.isOf mark.staffId mark.date)) job)
  | _ => s

/-- Where a call goes once its row is in. -/
def written (row : StaffAttendance) : Option AbsenceLoop → AttendanceCall
  | none => .answered (.signedIn row)
  | some job => .looping { job with markedAbsent := job.markedAbsent + 1 }

def insert (w : ℕ) (id signIn : String) (s : AttendanceState) : AttendanceState :=
  match s.calls w with
  | .inserting mark removed job =>
    match s.staff.insert? (mark.row id signIn) with
    | none => s.goTo w (.answered (.error 500 "duplicate key"))
    | some staff =>
      { s with
        staff
        replaced := s.replaced ++ removed.map fun old => (old, mark.row id signIn) }.goTo w
          (written (mark.row id signIn) job)
  | _ => s

end AttendanceState

def attendanceStep (env : AttendanceEnv) : AttendanceOp → AttendanceState → AttendanceState
  | .signIn w request config roles now => .signIn w request config roles now
  | .consume w purgedAt now config organization => .consume env w purgedAt now config organization
  | .processEndOfDayAbsent w date config now users =>
    .processEndOfDayAbsent w date config now users
  | .nextStaff w => .nextStaff w
  | .delete w => .delete w
  | .insert w id signIn => .insert w id signIn
  | .issue id entry => fun s =>
    { s with assertions := Function.update s.assertions id (some entry) }
  | .crash w => fun s => s.goTo w .idle

/-! ## What is kept -/

/-- No record of a sign-in was replaced by an automatic absence, and a staff member and date
have one record at most. -/
structure KeepsStronger (s : AttendanceState) : Prop where
  kept : ∀ p ∈ s.replaced, p.1.biometricVerified = true → p.2.biometricVerified = true
  once : ∀ row ∈ s.staff.rows, ∀ row' ∈ s.staff.rows,
    row.staffId = row'.staffId → row.date = row'.date → row = row'

/-- The write finds no record of the staff member and date, and if it is an absence its DELETE
found none of a sign-in. -/
def writesAlone (s : AttendanceState) : AttendanceOp → Bool
  | .insert w id _ =>
    match s.calls w with
    | .inserting mark removed _ =>
      (s.staff.find? id).isSome
        || ((removed.all fun old => !old.biometricVerified || mark.biometricVerified)
          && s.staff.rows.all fun row => !row.isOf mark.staffId mark.date)
    | _ => true
  | _ => true

variable {env : AttendanceEnv} {s : AttendanceState} {w : ℕ} {mark : AttendanceMark}
  {removed : List StaffAttendance} {job : Option AbsenceLoop} {id signIn : String}

theorem StaffAttendance.isOf_iff {staffId date : String} {row : StaffAttendance} :
    row.isOf staffId date = true ↔ row.staffId = staffId ∧ row.date = date := by
  simp [StaffAttendance.isOf]

/-! ## Steps that insert nothing -/

/-- A step that inserts nothing leaves the history alone, and no row it did not find. -/
structure Erases (s s' : AttendanceState) : Prop where
  rows : ∀ row ∈ s'.staff.rows, row ∈ s.staff.rows
  replaced : s'.replaced = s.replaced

theorem Erases.refl (s : AttendanceState) : Erases s s := ⟨fun _ h => h, rfl⟩

theorem erases_goTo (w : ℕ) (call : AttendanceCall) (s : AttendanceState) :
    Erases s (s.goTo w call) := ⟨fun _ h => h, rfl⟩

theorem erases_signIn (w : ℕ) (request : SignInRequest) (config : AttendanceConfig)
    (roles : List String) (now : LocalParts) (s : AttendanceState) :
    Erases s (s.signIn w request config roles now) := by
  simp only [AttendanceState.signIn]
  split
  · split <;> exact erases_goTo w _ s
  · exact .refl s

theorem erases_consume (env : AttendanceEnv) (w purgedAt now : ℕ) (config : AttendanceConfig)
    (organization : Bool) (s : AttendanceState) :
    Erases s (s.consume env w purgedAt now config organization) := by
  simp only [AttendanceState.consume]
  split
  · split <;> exact ⟨fun _ h => h, rfl⟩
  · exact .refl s

theorem erases_processEndOfDayAbsent (w : ℕ) (date : String) (config : AttendanceConfig)
    (now : LocalParts) (users : List StaffUser) (s : AttendanceState) :
    Erases s (s.processEndOfDayAbsent w date config now users) := by
  simp only [AttendanceState.processEndOfDayAbsent]
  split
  · split <;> exact erases_goTo w _ s
  · exact .refl s

theorem erases_nextStaff (w : ℕ) (s : AttendanceState) : Erases s (s.nextStaff w) := by
  simp only [AttendanceState.nextStaff]
  split
  · split
    · exact erases_goTo w _ s
    split
    · exact erases_goTo w _ s
    · split <;> exact erases_goTo w _ s
  · exact .refl s

theorem erases_delete (w : ℕ) (s : AttendanceState) : Erases s (s.delete w) := by
  simp only [AttendanceState.delete]
  split
  · exact ⟨fun row hrow => (Keyed.mem_deleteWhere.1 hrow).1, rfl⟩
  · exact .refl s

/-- Every step but an INSERT. -/
theorem erases_step (env : AttendanceEnv) {op : AttendanceOp}
    (hop : ∀ w id signIn, op ≠ .insert w id signIn) : Erases s (attendanceStep env op s) := by
  cases op with
  | insert w id signIn => exact absurd rfl (hop w id signIn)
  | signIn w request config roles now => exact erases_signIn w request config roles now s
  | consume w purgedAt now config organization =>
    exact erases_consume env w purgedAt now config organization s
  | processEndOfDayAbsent w date config now users =>
    exact erases_processEndOfDayAbsent w date config now users s
  | nextStaff w => exact erases_nextStaff w s
  | delete w => exact erases_delete w s
  | issue id entry => exact ⟨fun _ h => h, rfl⟩
  | crash w => exact erases_goTo w _ s

/-! ## Writes -/

theorem Erases.keepsStronger {s' : AttendanceState} (h : Erases s s') (hs : KeepsStronger s) :
    KeepsStronger s' := by
  constructor
  · rw [h.replaced]
    exact hs.kept
  intro row hrow row' hrow'
  exact hs.once row (h.rows row hrow) row' (h.rows row' hrow')

theorem keepsStronger_write {staff : Keyed StaffAttendance.id} (call : AttendanceCall)
    (hs : KeepsStronger s) (hinsert : s.staff.insert? (mark.row id signIn) = some staff) :
    KeepsStronger ({ s with
        staff
        replaced := s.replaced ++ removed.map fun old => (old, mark.row id signIn) }.goTo w call)
      ↔ (∀ old ∈ removed, old.biometricVerified = true → mark.biometricVerified = true)
        ∧ ∀ row ∈ s.staff.rows, row.isOf mark.staffId mark.date = false := by
  obtain ⟨hfree, hrows⟩ := Keyed.insert?_eq_some hinsert
  constructor
  · rintro ⟨hkept, honce⟩
    constructor
    · intro old hold
      exact hkept (old, mark.row id signIn) (List.mem_append_right _ (List.mem_map_of_mem hold))
    intro row hrow
    -- another record of the staff member and date would be the new one, whose id was free
    apply Bool.eq_false_iff.2
    intro hof
    obtain ⟨hstaff, hdate⟩ := StaffAttendance.isOf_iff.1 hof
    have hsame : row = mark.row id signIn :=
      honce row ((hrows row).2 (Or.inl hrow)) _ ((hrows _).2 (Or.inr rfl)) hstaff hdate
    exact Keyed.find?_eq_none.1 hfree row hrow (hsame ▸ rfl)
  rintro ⟨hremoved, hnone⟩
  have hother : ∀ row ∈ s.staff.rows, row.staffId = mark.staffId → row.date = mark.date →
      False := by
    intro row hrow hstaff hdate
    have hof := hnone row hrow
    rw [StaffAttendance.isOf_iff.2 ⟨hstaff, hdate⟩] at hof
    cases hof
  constructor
  · intro p hp hverified
    rcases List.mem_append.1 hp with hp | hp
    · exact hs.kept p hp hverified
    obtain ⟨old, hold, rfl⟩ := List.mem_map.1 hp
    exact hremoved old hold hverified
  intro row hrow row' hrow' hstaff hdate
  rcases (hrows row).1 hrow with hold | rfl
  · rcases (hrows row').1 hrow' with hold' | rfl
    · exact hs.once row hold row' hold' hstaff hdate
    · exact absurd hdate (hother row hold hstaff)
  rcases (hrows row').1 hrow' with hold' | rfl
  · exact absurd hdate.symm (hother row' hold' hstaff.symm)
  · rfl

/-- An INSERT keeps the records iff it is alone. -/
theorem keepsStronger_insert (hs : KeepsStronger s) :
    KeepsStronger (s.insert w id signIn) ↔ writesAlone s (.insert w id signIn) = true := by
  cases hcall : s.calls w with
  | inserting mark removed job =>
    simp only [AttendanceState.insert, writesAlone, hcall]
    cases hinsert : s.staff.insert? (mark.row id signIn) with
    | none =>
      have hused : (s.staff.find? id).isSome = true :=
        Option.isSome_iff_ne_none.2 (Keyed.insert?_eq_none hinsert)
      simp only [hused, Bool.true_or, iff_true]
      exact (erases_goTo w _ s).keepsStronger hs
    | some staff =>
      have hfree : s.staff.find? id = none := (Keyed.insert?_eq_some hinsert).1
      refine (keepsStronger_write _ hs hinsert).trans ?_
      simp [hfree, Bool.or_eq_true, imp_iff_not_or]
  | _ => simp [AttendanceState.insert, writesAlone, hcall, hs]

theorem keepsStronger_step (env : AttendanceEnv) (op : AttendanceOp) (hs : KeepsStronger s) :
    KeepsStronger (attendanceStep env op s) ↔ writesAlone s op = true := by
  cases op with
  | insert w id signIn => exact keepsStronger_insert hs
  | _ => exact iff_of_true ((erases_step env (by simp)).keepsStronger hs) rfl

/-- **Staff attendance.**  Whatever the order of the steps, the records are kept throughout a run
iff every write of it is alone. -/
theorem staff_attendance_iff (env : AttendanceEnv) (s : AttendanceState) (hs : KeepsStronger s)
    (ops : List AttendanceOp) :
    (∀ pre, pre <+: ops → KeepsStronger (run (attendanceStep env) s pre))
      ↔ Along (attendanceStep env) (fun s op => writesAlone s op = true) s ops := by
  refine (along_iff_throughout (D := fun _ _ => True) (fun _ op _ hI => ?_)
    (along_of_forall fun _ _ => trivial) hs).symm
  exact keepsStronger_step env op hI

namespace Example

/-- A school whose staff sign in until four. -/
def schoolHours : AttendanceConfig :=
  { sessionStartTime := some "08:00", sessionEndTime := some "16:00" }

def schoolEnv : AttendanceEnv := { tenantId := "school_a", distanceMeters := fun _ _ _ _ => 0 }

def teacher : StaffUser :=
  { id := "staff_a", rolesText := "[\"class_teacher\"]", roles := ["class_teacher"] }

/-- A teacher signs in a minute before the end of the session, up to the write. -/
def signingIn : List AttendanceOp :=
  [.issue "assertion_a"
      { tenantId := "school_a", userId := "staff_a", purpose := "staff_attendance"
        expiresAt := 100 },
   .signIn 0 { actorUserId := "staff_a", staffId := "staff_a", date := "2025-03-03"
               status := .present, verification := .biometric "assertion_a" }
     schoolHours ["class_teacher"] { weekday := 1, hour := 15, minute := 59 },
   .consume 0 50 50 schoolHours true]

/-- The job starts a minute after it, and finds no record of the teacher. -/
def markingAbsent : List AttendanceOp :=
  [.processEndOfDayAbsent 1 "2025-03-03" schoolHours { weekday := 1, hour := 16, minute := 1 }
     [teacher],
   .nextStaff 1]

def writing (w : ℕ) (id time : String) : List AttendanceOp := [.delete w, .insert w id time]

end Example

theorem staff_attendance_iff_example :
    KeepsStronger (run (attendanceStep Example.schoolEnv) {}
      (Example.signingIn ++ Example.writing 0 "att_a" "15:59:58" ++ Example.markingAbsent)) := by
  refine (staff_attendance_iff Example.schoolEnv {} ?_ _).2 ?_ _ (List.prefix_refl _)
  · constructor
    · intro p hp
      cases hp
    intro row hrow
    cases hrow
  · decide

/-- The job looks before the sign-in writes, and replaces its record by an absence. -/
theorem not_staff_attendance :
    ¬ ∀ ops : List AttendanceOp, KeepsStronger (run (attendanceStep Example.schoolEnv) {} ops) := by
  intro h
  have hkept := (h (Example.signingIn ++ Example.markingAbsent
    ++ Example.writing 0 "att_a" "15:59:58" ++ Example.writing 1 "att_b" "16:01:00")).kept
  exact absurd hkept (by decide)

end MultiAcademy.School
