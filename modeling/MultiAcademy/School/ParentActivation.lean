import MultiAcademy.Lib.Flight
import MultiAcademy.Lib.Recent
import MultiAcademy.School.Grading

/-!
# Activation codes for parents

`parent-activation/parent-activation.service.ts`: `issue`, `preview` and `activate`.  Issuing a code
retires the parent's open codes and inserts the new one; the other two look for a code among the
newest open ones of the school, by its hash, the first in 50 of them and the second in 100.
-/

namespace MultiAcademy.School

open MultiAcademy.Lib

/-! ## The tables -/

/-- A row of `parent_activation_codes`, with its times `used_at` and `recovered_at` as flags; times
are in milliseconds. -/
structure ActivationCode where
  id : String
  parentId : String
  codeHash : String
  codeHint : String
  studentIds : List String
  expiresAt : ℤ
  createdBy : String
  used : Bool := false
  recovered : Bool := false
  deriving DecidableEq

/-- The columns of a row of `users` that are used here. -/
structure ParentUser where
  name : String
  email : String
  roles : List String
  passwordHash : Option String := none
  isActive : Bool := false
  deriving DecidableEq

/-- The codes, newest first, the users, whose students are whose, whether the school has the
feature, and the time.  Which codes a password was set with is recorded besides. -/
structure ActivationStores where
  codes : Keyed ActivationCode.id := .empty
  users : String → Option ParentUser := fun _ => none
  links : String → List String := fun _ => []
  enabled : Bool := true
  now : ℤ := 0
  spent : List String := []

/-- `used_at IS NULL AND recovered_at IS NULL`. -/
def ActivationCode.isOpen (row : ActivationCode) : Bool := !row.used && !row.recovered

/-! ## The requests -/

structure IssueCodeBody where
  parentId : String
  studentIds : Option (List String) := none
  daysValid : Option ℚ := none
  deriving DecidableEq

inductive ActivationRequest
  | issue (actorId : String) (body : IssueCodeBody)
  | preview (code : String)
  | activate (code password : String)
  deriving DecidableEq

/-- Where a request is: an issue, that the parent is there, that it has the students, that it has
retired the open codes, and what it returns; a preview, what it returns; an activation, the code
that it has found, that it has set the password, and what it returns.  Or it was refused. -/
inductive ActivationCall
  | asked (request : ActivationRequest)
  | parentFound (actorId : String) (body : IssueCodeBody)
  | studentsFound (actorId parentId : String) (studentIds : List String) (daysValid : Option ℚ)
  | retired (actorId parentId : String) (studentIds : List String) (daysValid : Option ℚ)
  | issued (code : String) (row : ActivationCode)
  | previewed (parentName parentEmail : String) (expiresAt : ℤ)
  | matched (id parentId password : String)
  | passwordSet (id parentId : String)
  | activated (parentId : String)
  | refused (status : ℕ) (message : String)
  deriving DecidableEq

/-- What a statement draws: a random id, a random code, and the salt of a password. -/
structure ActivationDraw where
  token : String
  code : String
  salt : String

/-- `Math.min(Math.max(Number(daysValid ?? 14), 1), 30)`, in milliseconds. -/
def validMilliseconds (daysValid : Option ℚ) : ℤ :=
  ⌊min (max (daysValid.getD 14) 1) 30 * 86400000⌋

/-- `issue`, the parent. -/
def findParent (actorId : String) (body : IssueCodeBody) (d : ActivationStores) : ActivationCall :=
  if d.enabled = false then .refused 403 "Feature disabled: users.parent_activation"
  else
    match d.users body.parentId with
    | none => .refused 404 "Parent not found"
    | some user =>
      if "parent" ∈ user.roles then .parentFound actorId body
      else .refused 400 "User is not a parent"

/-- `issue`, the students: the ones of the body, or all. -/
def findStudents (actorId : String) (body : IssueCodeBody) (d : ActivationStores) :
    ActivationCall :=
  let studentIds := body.studentIds.getD []
  .studentsFound actorId body.parentId
    (if studentIds = [] then d.links body.parentId else studentIds) body.daysValid

/-- `UPDATE parent_activation_codes SET recovered_at = NOW()` for the open codes of a parent. -/
def retireCodes (parentId : String) (d : ActivationStores) : ActivationStores :=
  { d with
    codes := d.codes.updateWhere (fun row => row.parentId = parentId && row.isOpen)
      (fun row => { row with recovered := true }) fun _ => rfl }

/-- `UPDATE users SET password_hash = ?, is_active = true`. -/
def setPassword (passwordHash id parentId : String) (d : ActivationStores) : ActivationStores :=
  { d with
    users := fun userId =>
      if userId = parentId then
        (d.users userId).map fun user =>
          { user with passwordHash := some passwordHash, isActive := true }
      else d.users userId
    spent := d.spent ++ [id] }

/-- `UPDATE parent_activation_codes SET used_at = NOW()`. -/
def markUsed (id : String) (d : ActivationStores) : ActivationStores :=
  { d with
    codes := d.codes.updateWhere (fun row => row.id = id) (fun row => { row with used := true })
      fun _ => rfl }

section Hash
variable (sha256 : String → String) (hashPassword : String → String → String)

def hashCode (value : String) : String := sha256 (trim value).toUpper

/-- `INSERT INTO parent_activation_codes`, with a random code. -/
def insertCode (draw : ActivationDraw) (actorId parentId : String) (studentIds : List String)
    (daysValid : Option ℚ) (d : ActivationStores) : ActivationCall × ActivationStores :=
  let row : ActivationCode :=
    { id := draw.token, parentId, codeHash := hashCode sha256 draw.code
      codeHint := String.ofList (draw.code.toList.drop (draw.code.length - 4)), studentIds
      expiresAt := d.now + validMilliseconds daysValid, createdBy := actorId }
  match d.codes.push? row with
  | some codes => (.issued draw.code row, { d with codes })
  | none => (.refused 500 "Internal server error", d)

/-- The row that a code is matched with, of the first rows of the query, unless it has expired. -/
def matchCode (limit : ℕ) (joined : ActivationCode → Bool) (code : String) (d : ActivationStores) :
    Option ActivationCode :=
  (d.codes.recent? limit (fun row => row.isOpen && joined row) fun row =>
    row.codeHash = hashCode sha256 code).filter fun row => d.now ≤ row.expiresAt

/-- The query of `preview`, which joins the users. -/
def previewMatch (code : String) (d : ActivationStores) : Option ActivationCode :=
  matchCode sha256 50 (fun row => (d.users row.parentId).isSome) code d

/-- The query of `activate`. -/
def activationMatch (code : String) (d : ActivationStores) : Option ActivationCode :=
  matchCode sha256 100 (fun _ => true) code d

/-- `preview`. -/
def previewCode (code : String) (d : ActivationStores) : ActivationCall :=
  match previewMatch sha256 code d with
  | none => .refused 400 "Activation code is invalid or expired"
  | some row =>
    match d.users row.parentId with
    | none => .refused 400 "Activation code is invalid or expired"
    | some user => .previewed user.name user.email row.expiresAt

/-- `activate`, up to its first write. -/
def matchActivation (code password : String) (d : ActivationStores) : ActivationCall :=
  if utf16Length password < 8 then .refused 400 "Password must be at least 8 characters"
  else if d.enabled = false then .refused 403 "Feature disabled: users.parent_activation"
  else
    match activationMatch sha256 code d with
    | none => .refused 400 "Activation code is invalid or expired"
    | some row => .matched row.id row.parentId password

/-- The next statement of a request. -/
def activationStep (draw : ActivationDraw) (call : ActivationCall) (d : ActivationStores) :
    ActivationCall × ActivationStores :=
  match call with
  | .asked (.issue actorId body) => (findParent actorId body d, d)
  | .asked (.preview code) => (previewCode sha256 code d, d)
  | .asked (.activate code password) => (matchActivation sha256 code password d, d)
  | .parentFound actorId body => (findStudents actorId body d, d)
  | .studentsFound actorId parentId studentIds daysValid =>
    (.retired actorId parentId studentIds daysValid, retireCodes parentId d)
  | .retired actorId parentId studentIds daysValid =>
    insertCode sha256 draw actorId parentId studentIds daysValid d
  | .matched id parentId password =>
    (.passwordSet id parentId, setPassword (hashPassword draw.salt password) id parentId d)
  | .passwordSet id parentId => (.activated parentId, markUsed id d)
  | call => (call, d)

/-- What else happens; users are never deleted. -/
inductive ActivationChange
  | saveUser (id : String) (user : ParentUser)
  | setLinks (links : String → List String)
  | setEnabled (enabled : Bool)
  | pass (milliseconds : ℕ)

def ActivationChange.apply (d : ActivationStores) : ActivationChange → ActivationStores
  | .saveUser id user =>
    { d with users := fun userId => if userId = id then some user else d.users userId }
  | .setLinks links => { d with links }
  | .setEnabled enabled => { d with enabled }
  | .pass milliseconds => { d with now := d.now + milliseconds }

def activationService : Service ActivationRequest ActivationDraw ActivationChange ActivationStores
    ActivationCall where
  start := .asked
  next := activationStep sha256 hashPassword
  other change d := change.apply d

abbrev ActivationState := Flight ActivationStores ActivationCall
abbrev ActivationEvent := FlightEvent ActivationRequest ActivationDraw ActivationChange

/-! ## What works -/

/-- The code is retired, or its parent has a newer one. -/
def superseded (row : ActivationCode) (d : ActivationStores) : Bool :=
  row.recovered || (d.codes.newer row.id).any fun later => later.parentId = row.parentId

/-- The code is not used, not superseded and not expired. -/
structure CodeStands (row : ActivationCode) (d : ActivationStores) : Prop where
  unused : row.id ∉ d.spent
  newest : superseded row d = false
  inTime : d.now ≤ row.expiresAt

/-- **Activation codes work**: one that stands is accepted by an activation for its parent, and by a
preview alike; one that they find is not superseded, and no password was set with it, unless by a
request that is about to mark it; and one that is retired has a successor, or is about to. -/
structure CodesWork (s : ActivationState) : Prop where
  accepted : ∀ row ∈ s.shared.codes.rows, CodeStands row s.shared → ∀ code,
    hashCode sha256 code = row.codeHash →
      (∀ password, 8 ≤ utf16Length password →
        matchActivation sha256 code password s.shared = .matched row.id row.parentId password)
      ∧ ∃ user, s.shared.users row.parentId = some user
        ∧ previewCode sha256 code s.shared = .previewed user.name user.email row.expiresAt
  refused : ∀ code row, activationMatch sha256 code s.shared = some row
      ∨ previewMatch sha256 code s.shared = some row →
    superseded row s.shared = false
      ∧ (row.id ∈ s.shared.spent → ∃ call ∈ s.calls, ∃ parentId, call = .passwordSet row.id parentId)
  replaced : ∀ row ∈ s.shared.codes.rows, row.recovered = true →
    (∃ later ∈ s.shared.codes.newer row.id, later.parentId = row.parentId)
      ∨ ∃ call ∈ s.calls, ∃ actorId studentIds daysValid,
        call = .retired actorId row.parentId studentIds daysValid

/-- A password is set with a code that no password was set with, that is not superseded, and for
its parent. -/
def SetsOnce (s : ActivationState) : ActivationEvent → Prop
  | .advance i _ =>
    ∀ id parentId password, s.calls[i]? = some (.matched id parentId password) →
      id ∉ s.shared.spent ∧ ∃ row ∈ s.shared.codes.rows, row.id = id ∧ row.parentId = parentId
        ∧ superseded row s.shared = false
  | _ => True

/-- A code is inserted under a new id while the feature is on, when no open code of the parent has
come in between, no code that stands has its hash, and fewer than 49 open ones are newer than any
code that stands; a password is set when the code is still open and no other request is about to
mark it; and the feature is not turned off while a code stands. -/
def CodeStepOk (s : ActivationState) : ActivationEvent → Prop
  | .advance i draw =>
    ∀ call, s.calls[i]? = some call →
      match call with
      | .retired _ parentId _ _ =>
        s.shared.enabled = true
          ∧ (∀ row ∈ s.shared.codes.rows, row.id ≠ draw.token
            ∧ (row.parentId = parentId → row.isOpen = false))
          ∧ ∀ row ∈ s.shared.codes.rows, CodeStands row s.shared →
            row.codeHash ≠ hashCode sha256 draw.code
              ∧ (s.shared.codes.newer row.id).countP ActivationCode.isOpen + 1 < 50
      | .matched id _ _ =>
        (∀ row ∈ s.shared.codes.rows, row.id = id → row.isOpen = true)
          ∧ ∀ call' ∈ s.calls, ∀ parentId, call' ≠ .passwordSet id parentId
      | _ => True
  | .other (.setEnabled false) => ∀ row ∈ s.shared.codes.rows, ¬ CodeStands row s.shared
  | _ => True

end Hash

end MultiAcademy.School
