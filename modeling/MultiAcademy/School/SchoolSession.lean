import MultiAcademy.School.Grading

/-!
# The school day

`school-session.util.ts`: the hours of a session and of the staff verification window, and the
roles that have to verify each day.
-/

namespace MultiAcademy.School

/-- A `StaffVerificationLocationDto`. -/
structure VerificationLocation where
  id : String
  name : String
  latitude : ℚ
  longitude : ℚ
  radiusMeters : ℚ

/-- An `AttendanceConfigDto`. -/
structure AttendanceConfig where
  requireLocationVerification : Option Bool := none
  locations : Option (List VerificationLocation) := none
  sessionStartTime : Option String := none
  sessionEndTime : Option String := none
  biometricWindowStart : Option String := none
  biometricWindowEnd : Option String := none
  businessDays : Option (List ℕ) := none
  manualVerificationCode : Option String := none
  verificationRequiredRoles : Option (List String) := none

/-! ## The clock -/

/-- `localParts`: the day of the week, from Sunday, and the time of day. -/
structure LocalParts where
  weekday : ℕ
  hour : ℕ
  minute : ℕ

/-- `parts.hour * 60 + parts.minute`. -/
def LocalParts.current (parts : LocalParts) : ℕ := parts.hour * 60 + parts.minute

/-- `!!text`. -/
def hasText (text : Option String) : Bool := text.any fun s => s ≠ ""

/-- `text || other`. -/
def textOrElse (text : Option String) (other : String) : String :=
  if hasText text then text.getD other else other

/-- The number that decimal digits write. -/
def digits (text : List Char) : Option ℕ :=
  if text.all Char.isDigit then some (text.foldl (fun n c => 10 * n + (c.toNat - 48)) 0)
  else none

/-- The groups of `/^(\d{1,2}):(\d{2})(?::\d{2})?$/`, before their characters are looked at. -/
def clockGroups : List Char → Option (List Char × List Char × List Char)
  | [h, ':', m, m'] => some ([h], [m, m'], [])
  | [h, h', ':', m, m'] => some ([h, h'], [m, m'], [])
  | [h, ':', m, m', ':', s, s'] => some ([h], [m, m'], [s, s'])
  | [h, h', ':', m, m', ':', s, s'] => some ([h, h'], [m, m'], [s, s'])
  | _ => none

def parseTimeToMinutes (value : String) : Option ℕ := do
  let (hour, minute, second) ← clockGroups (trim value).toList
  let hours ← digits hour
  let minutes ← digits minute
  let _ ← digits second
  if hours > 23 || minutes > 59 then none else some (hours * 60 + minutes)

structure SessionConfig where
  sessionStartTime : String
  sessionEndTime : String
  biometricWindowStart : String
  biometricWindowEnd : String
  businessDays : List ℕ

def defaultBusinessDays : List ℕ := [1, 2, 3, 4, 5]

def defaultSessionStart : String := "08:00"

def defaultSessionEnd : String := "16:00"

variable (config : AttendanceConfig)

def resolveSessionConfig : SessionConfig :=
  { sessionStartTime := textOrElse config.sessionStartTime defaultSessionStart
    sessionEndTime := textOrElse config.sessionEndTime defaultSessionEnd
    biometricWindowStart := textOrElse config.biometricWindowStart
      (textOrElse config.sessionStartTime defaultSessionStart)
    biometricWindowEnd := textOrElse config.biometricWindowEnd
      (textOrElse config.sessionEndTime defaultSessionEnd)
    businessDays :=
      match config.businessDays with
      | some (day :: days) => day :: days
      | _ => defaultBusinessDays }

def isBusinessDay (now : LocalParts) : Bool :=
  (resolveSessionConfig config).businessDays.contains now.weekday

/-- `isWithinTimeWindow`, of a window whose bounds are known; one that is no time is no bound,
and then neither is the other. -/
def isWithinTimeWindow (first last : String) (now : LocalParts) : Bool :=
  match parseTimeToMinutes first, parseTimeToMinutes last with
  | some lo, some hi => lo ≤ now.current && now.current ≤ hi
  | _, _ => true

def isVerificationWindowOpen (now : LocalParts) : Bool :=
  isBusinessDay config now
    && isWithinTimeWindow (resolveSessionConfig config).biometricWindowStart
      (resolveSessionConfig config).biometricWindowEnd now

def isSessionEnded (now : LocalParts) : Bool :=
  isBusinessDay config now
    && (parseTimeToMinutes (resolveSessionConfig config).sessionEndTime).any fun hi =>
      hi < now.current

/-! ## Roles -/

/-- `.replace(/[\s-]+/g, '_')`; the flag says that a run has begun. -/
def underscored : Bool → List Char → List Char
  | _, [] => []
  | inRun, c :: cs =>
    if isSpace c || c = '-' then (if inRun then [] else ['_']) ++ underscored true cs
    else c :: underscored false cs

/-- `String(role).trim().toLowerCase().replace(/[\s-]+/g, '_')`. -/
def normalizeRole (role : String) : String :=
  String.ofList (underscored false ((trim role).toList.map Char.toLower))

def defaultVerificationRequiredRoles : List String := ["class_teacher", "subject_teacher"]

def hasVerificationWindowConfigured : Bool :=
  (hasText config.biometricWindowStart && hasText config.biometricWindowEnd)
    || (hasText config.sessionStartTime && hasText config.sessionEndTime)

def resolveVerificationRequiredRoles : List String :=
  match config.verificationRequiredRoles with
  | some (role :: roles) => ((role :: roles).map normalizeRole).filter fun s => s ≠ ""
  | _ => defaultVerificationRequiredRoles

def userRequiresDailyVerification (userRoles : List String) (config : AttendanceConfig) : Bool :=
  if !hasVerificationWindowConfigured config then false
  else if userRoles.any fun role => normalizeRole role = "director" then false
  else (userRoles.map normalizeRole).any (resolveVerificationRequiredRoles config).contains

end MultiAcademy.School
