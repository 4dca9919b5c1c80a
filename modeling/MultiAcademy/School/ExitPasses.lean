import MultiAcademy.Lib.Flight
import MultiAcademy.School.AcademicCalendar
import MultiAcademy.School.Grading

/-!
# Exit passes

`safeguarding/safeguarding.service.ts`: `createExeat`, `review`, `decide`, `confirmParentOtp`
and `redeemPass`; and `ops/gate/gate.service.ts`: `issueToken` and `redeem`.  A request reads the
roles and the links of its actor, reads the row that it is about, and writes it later by its id
alone.  The code of a token is unique among the tokens.  The code of a pass is unique among the
exeats where the migrations have been run; the table that the service makes for itself when they
have not lacks that index.  A code presented at the gate is looked for among the exeats first.
-/

namespace MultiAcademy.School

open MultiAcademy.Lib

/-! ## The tables -/

inductive ExeatKind
  | parentInitiated
  | schoolInitiated
  deriving DecidableEq

inductive ExeatStatus
  | pendingParent
  | pendingFormTeacher
  | pendingPrincipal
  | declined
  | approved
  | used
  deriving DecidableEq

/-- What an approval rests on: the roles of a leader, or the link of a parent and the code that
the parent has given. -/
inductive Approval
  | leader (roles : List String)
  | parent (linked : Bool) (kind : ExeatKind) (otpHash given : String) (expires now : ℕ)
  deriving DecidableEq

/-- A row of `safeguarding_exeats`, and what it is approved on unless it was declined since. -/
structure Exeat where
  id : ℕ
  studentId : String
  kind : ExeatKind
  reason : String
  pickupAt : String
  pickupAdultName : String
  pickupAdultPhone : Option String := none
  pickupAdultId : Option String := none
  status : ExeatStatus
  formTeacherId : Option String := none
  formTeacherAt : Option ℕ := none
  principalId : Option String := none
  principalAt : Option ℕ := none
  parentOtpHash : Option String := none
  parentOtpExpires : Option ℕ := none
  parentConfirmedAt : Option ℕ := none
  passCode : Option String := none
  passExpiresAt : Option ℕ := none
  gateUsedAt : Option ℕ := none
  gateUsedBy : Option String := none
  decisionNote : Option String := none
  createdBy : String
  approval : Option Approval := none
  deriving DecidableEq

/-- A row of `gate_pickup_tokens`. -/
structure GateToken where
  id : ℕ
  studentId : String
  guardianName : Option String := none
  tokenCode : String
  validUntil : ℕ
  usedAt : Option ℕ := none
  createdBy : String
  deriving DecidableEq

structure IssuedCode where
  code : String
  studentId : String
  exeatId : Option ℕ := none
  expiresAt : ℕ
  deriving DecidableEq

def Exeat.issuedPass (code : String) (expiresAt : ℕ) (row : Exeat) : IssuedCode :=
  { code, studentId := row.studentId, exeatId := some row.id, expiresAt }

def GateToken.issuedCode (token : GateToken) : IssuedCode :=
  { code := token.tokenCode, studentId := token.studentId, expiresAt := token.validUntil }

/-- The clock in milliseconds, the tables, whether they have `idx_safeguarding_exeats_pass`, the
codes that were issued and how many ids were drawn; and who has which role, which child and which
class, and what the school has enabled. -/
structure GateStores where
  now : ℕ
  indexed : Bool := true
  exeats : Keyed Exeat.id := .empty
  tokens : Keyed GateToken.tokenCode := .empty
  issued : List IssuedCode := []
  drawn : ℕ := 0
  roles : String → List String := fun _ => []
  linked : String → String → Bool := fun _ _ => false
  formTeacher : String → Option String := fun _ => none
  enabled : String → Bool := fun _ => true

/-! ## The writes -/

inductive ExeatDecision
  | declineAsTeacher (actorId : String) (note : Option String)
  | passOn (actorId : String)
  | declineAsLeader (actorId : String) (note : Option String)
  deriving DecidableEq

def ExeatDecision.apply (now : ℕ) (row : Exeat) : ExeatDecision → Exeat
  | .declineAsTeacher actorId note =>
    { row with
      status := .declined
      formTeacherId := some actorId
      formTeacherAt := some now
      decisionNote := orNull note
      approval := none }
  | .passOn actorId =>
    { row with
      status := .pendingPrincipal
      formTeacherId := some actorId
      formTeacherAt := some now }
  | .declineAsLeader actorId note =>
    { row with
      status := .declined
      principalId := some actorId
      principalAt := some now
      decisionNote := orNull note
      approval := none }

@[simp] theorem ExeatDecision.apply_id (now : ℕ) (row : Exeat) (decision : ExeatDecision) :
    (decision.apply now row).id = row.id := by
  cases decision <;> rfl

def ExeatDecision.status : ExeatDecision → ExeatStatus
  | .declineAsTeacher _ _ | .declineAsLeader _ _ => .declined
  | .passOn _ => .pendingPrincipal

/-- What `issuePass` writes. -/
def Exeat.approve (actorId passCode : String) (approval : Approval) (now : ℕ) (row : Exeat) :
    Exeat :=
  { row with
    status := .approved
    principalId := row.principalId.or (some actorId)
    principalAt := row.principalAt.or (some now)
    passCode := some passCode
    passExpiresAt := some (now + 6 * 3600000)
    approval := some approval }

/-- What `redeemPass` writes. -/
def Exeat.use (actorId : String) (now : ℕ) (row : Exeat) : Exeat :=
  { row with
    status := .used
    gateUsedAt := some now
    gateUsedBy := some actorId }

namespace GateStores

variable (id : ℕ)

/-- `UPDATE safeguarding_exeats SET … WHERE id = ?`. -/
def write (f : Exeat → Exeat) (hf : ∀ row, (f row).id = row.id) (d : GateStores) :
    GateStores :=
  { d with exeats := d.exeats.updateWhere (fun row => row.id = id) f hf }

def decide (decision : ExeatDecision) (d : GateStores) : GateStores :=
  d.write id (fun row => decision.apply d.now row) fun row => decision.apply_id d.now row

/-- `issuePass`: `none` when the index finds the code at another exeat. -/
def issuePass (actorId passCode : String) (approval : Approval) (d : GateStores) :
    Option GateStores :=
  if d.indexed && d.exeats.rows.any (fun row => row.id ≠ id && row.passCode = some passCode) then
    none
  else
    some
      { d.write id (Exeat.approve actorId passCode approval d.now) fun _ => rfl with
        issued := d.issued ++
          ((d.exeats.find? id).map (Exeat.issuedPass passCode (d.now + 6 * 3600000))).toList }

/-- `UPDATE safeguarding_exeats SET parent_confirmed_at = NOW() WHERE id = ?`. -/
def confirm (d : GateStores) : GateStores :=
  d.write id (fun row => { row with parentConfirmedAt := some d.now }) fun _ => rfl

/-- The write of `redeemPass`. -/
def usePass (actorId : String) (d : GateStores) : GateStores :=
  d.write id (Exeat.use actorId d.now) fun _ => rfl

/-- `INSERT INTO safeguarding_exeats`. -/
def insertExeat (row : Exeat) (d : GateStores) : Option GateStores :=
  (d.exeats.insert? row).map fun exeats => { d with exeats }

/-- `INSERT INTO gate_pickup_tokens`. -/
def insertToken (row : GateToken) (d : GateStores) : Option GateStores :=
  (d.tokens.insert? row).map fun tokens =>
    { d with tokens, issued := d.issued ++ [row.issuedCode] }

/-- `UPDATE gate_pickup_tokens SET used_at = NOW() WHERE id = ?`. -/
def useToken (d : GateStores) : GateStores :=
  { d with
    tokens := d.tokens.updateWhere (fun row => row.id = id)
      (fun row => { row with usedAt := some d.now }) fun _ => rfl }

end GateStores

/-! ## The requests -/

/-- The body of `createExeat`. -/
structure ExeatBody where
  studentId : String
  kind : Option ExeatKind := none
  reason : String
  pickupAt : String
  pickupAdultName : String
  pickupAdultPhone : Option String := none
  pickupAdultId : Option String := none
  deriving DecidableEq

/-- The body of `issueToken`. -/
structure TokenBody where
  studentId : String
  guardianName : Option String := none
  validHours : Option ℚ := none
  deriving DecidableEq

inductive GateRequest
  | createExeat (actorId : String) (body : ExeatBody)
  | review (actorId : String) (id : ℕ) (approve : Bool) (note : Option String := none)
  | decide (actorId : String) (id : ℕ) (approve : Bool) (note : Option String := none)
  | confirmParentOtp (parentId : String) (id : ℕ) (otp : String)
  | issueToken (userId : String) (body : TokenBody)
  | redeem (userId tokenCode : String)
  deriving DecidableEq

inductive Redemption
  | redeemed
  | alreadyUsed
  | expired
  deriving DecidableEq

inductive GateAnswer
  | created (id : ℕ) (status : ExeatStatus) (parentOtp : Option String)
  | decided (id : ℕ) (status : ExeatStatus)
  | passIssued (id : ℕ) (passCode : String) (passExpiresAt : ℕ)
  | tokenIssued (id : ℕ) (tokenCode : String) (validUntil : ℕ)
  | pass (id : ℕ) (studentId : String) (result : Redemption)
      (pickupAdultName : Option String := none)
  | token (id : ℕ) (studentId : String) (result : Redemption)
  deriving DecidableEq

/-- Where a request is. -/
inductive GatePhase
  | starting
  | reading (roles : List String)
  | checking (row : Exeat)
  | inserting (row : Exeat) (parentOtp : Option String)
  | deciding (id : ℕ) (decision : ExeatDecision)
  | approving (id : ℕ) (actorId : String) (approval : Approval)
  | confirming (id : ℕ) (passCode : String) (passExpiresAt : ℕ)
  | issuing
  | consuming (row : Exeat)
  | searching
  | consumingToken (row : GateToken)
  | answered (answer : GateAnswer)
  | failed (status : ℕ) (message : String)
  deriving DecidableEq

structure GateCall where
  request : GateRequest
  phase : GatePhase := .starting
  deriving DecidableEq

/-- What the random numbers of a step are: the digits of `digits(6)`, and the number of a
token's code above 100000; and which of several rows a `LIMIT 1` without an order takes. -/
structure GateDraw where
  digits : Fin 6 → Fin 10 := fun _ => 0
  number : Fin 900000 := 0
  pick : ℕ := 0

/-- `digits(6)`. -/
def GateDraw.passCode (draw : GateDraw) : String :=
  String.ofList ((List.ofFn draw.digits).map fun digit => Nat.digitChar digit)

/-- `String(Math.floor(100000 + Math.random() * 900000))`. -/
def GateDraw.tokenCode (draw : GateDraw) : String :=
  String.ofList (Nat.toDigits 10 (100000 + draw.number))

/-- One of the roles is among those that may. -/
def mayAct (roles allowed : List String) : Bool := roles.any fun role => role ∈ allowed

/-- The roles that `decide` asks for. -/
def leaderRoles : List String := ["principal", "head_teacher", "school_admin", "director"]

/-- The roles that `redeem` asks for. -/
def gateRoles : List String :=
  ["guard", "director", "school_admin", "it_admin", "principal", "head_teacher"]

/-- An approval by a leader, or by a linked parent with the code of an exeat that the school has
initiated, in time. -/
def Approval.Legitimate : Approval → Prop
  | .leader roles => mayAct roles leaderRoles = true
  | .parent linked kind otpHash given expires now =>
    linked = true ∧ kind = .schoolInitiated ∧ otpHash = given ∧ now ≤ expires

/-- `Math.min(Math.max(Number(validHours ?? 4), 1), 72)`, in milliseconds. -/
def tokenMilliseconds (validHours : Option ℚ) : ℕ :=
  ⌊min (max (validHours.getD 4) 1) 72 * 3600000⌋.toNat

section Hash
variable (sha256 : String → String)

def hashValue (value : String) : String := sha256 (trim value).toUpper

/-- `createExeat`, up to the insert. -/
def prepareExeat (draw : GateDraw) (actorId : String) (body : ExeatBody) (d : GateStores) :
    GatePhase :=
  let isParent := mayAct (d.roles actorId) ["parent"]
  let kind := body.kind.getD (if isParent then .parentInitiated else .schoolInitiated)
  if isParent && !d.linked actorId body.studentId then
    .failed 403 "Student is not linked to this parent"
  else if isParent && kind ≠ .parentInitiated then
    .failed 403 "Parents can only create parent-initiated exeats"
  else
    let otp := if kind = .schoolInitiated then some draw.passCode else none
    .inserting
      { id := d.drawn
        studentId := body.studentId
        kind
        reason := body.reason
        pickupAt := body.pickupAt
        pickupAdultName := body.pickupAdultName
        pickupAdultPhone := orNull body.pickupAdultPhone
        pickupAdultId := orNull body.pickupAdultId
        status :=
          if kind = .schoolInitiated then .pendingParent
          else if (d.formTeacher body.studentId).isSome then .pendingFormTeacher
          else .pendingPrincipal
        parentOtpHash := otp.map (hashValue sha256)
        parentOtpExpires := otp.map fun _ => d.now + 15 * 60000
        createdBy := actorId }
      otp

/-- `review`, once the row is read. -/
def reviewRow (actorId : String) (approve : Bool) (note : Option String) (row : Exeat)
    (d : GateStores) : GatePhase :=
  if d.formTeacher row.studentId = some actorId
      ∨ mayAct (d.roles actorId) ["principal", "head_teacher", "school_admin"] = true then
    .deciding row.id (if approve then .passOn actorId else .declineAsTeacher actorId note)
  else .failed 403 "Only the form teacher can review this request"

/-- `decide`, once the roles are read. -/
def decideRow (actorId : String) (roles : List String) (id : ℕ) (approve : Bool)
    (note : Option String) (d : GateStores) : GatePhase :=
  match d.exeats.find? id with
  | none => .failed 404 "Exeat not found"
  | some row =>
    if row.status ≠ .pendingPrincipal ∧ row.status ≠ .pendingFormTeacher then
      .failed 400 "Exeat is not waiting for approval"
    else if approve then .approving id actorId (.leader roles)
    else .deciding id (.declineAsLeader actorId note)

/-- `confirmParentOtp`, once the row is read. -/
def confirmRow (parentId otp : String) (row : Exeat) (d : GateStores) : GatePhase :=
  if d.linked parentId row.studentId = false then
    .failed 403 "Student is not linked to this parent"
  else if row.status ≠ .pendingParent then
    .failed 400 "This request is not waiting for parent confirmation"
  else
    match orNull row.parentOtpHash, row.parentOtpExpires with
    | some otpHash, some expires =>
      if expires < d.now then .failed 400 "OTP expired"
      else if otpHash ≠ hashValue sha256 otp then .failed 403 "Invalid OTP"
      else
        .approving row.id parentId
          (.parent (d.linked parentId row.studentId) row.kind otpHash (hashValue sha256 otp)
            expires d.now)
    | _, _ => .failed 400 "OTP is not available"

/-- `SELECT … FROM safeguarding_exeats WHERE pass_code = ? LIMIT 1`. -/
def passRow (pick : ℕ) (code : String) (d : GateStores) : Option Exeat :=
  let found := d.exeats.rows.filter fun row => row.passCode = some code
  found[pick % found.length]?

/-- `redeemPass`, up to the write. -/
def findPass (draw : GateDraw) (code : String) (d : GateStores) : GatePhase :=
  match passRow draw.pick code d with
  | none => .searching
  | some row =>
    if row.gateUsedAt.isSome then .answered (.pass row.id row.studentId .alreadyUsed)
    else if row.status ≠ .approved ∨ row.passExpiresAt.getD 0 < d.now then
      .answered (.pass row.id row.studentId .expired)
    else .consuming row

/-- `redeem`, once no exeat has the code. -/
def findToken (code : String) (d : GateStores) : GatePhase :=
  match d.tokens.find? code with
  | none => .failed 404 "Token not found"
  | some row =>
    if row.usedAt.isSome then .answered (.token row.id row.studentId .alreadyUsed)
    else if row.validUntil < d.now then .answered (.token row.id row.studentId .expired)
    else .consumingToken row

/-- The first checks of a request: the feature, and the roles and the links of the actor or the
row that it is about. -/
def enterGate (draw : GateDraw) (request : GateRequest) (d : GateStores) : GatePhase :=
  match request with
  | .createExeat actorId body =>
    if d.enabled "ops.safeguarding" then prepareExeat sha256 draw actorId body d
    else .failed 403 "Feature disabled: ops.safeguarding"
  | .review _ id _ _ =>
    if d.enabled "ops.safeguarding" then
      match d.exeats.find? id with
      | none => .failed 404 "Exeat not found"
      | some row =>
        if row.status ≠ .pendingFormTeacher then
          .failed 400 "Exeat is not waiting for form-teacher review"
        else .checking row
    else .failed 403 "Feature disabled: ops.safeguarding"
  | .decide actorId _ _ _ =>
    if d.enabled "ops.safeguarding" then
      if mayAct (d.roles actorId) leaderRoles then .reading (d.roles actorId)
      else .failed 403 "Only a school leader can approve exeats"
    else .failed 403 "Feature disabled: ops.safeguarding"
  | .confirmParentOtp _ id _ =>
    if d.enabled "ops.safeguarding" then
      match d.exeats.find? id with
      | none => .failed 404 "Exeat not found"
      | some row => .checking row
    else .failed 403 "Feature disabled: ops.safeguarding"
  | .issueToken userId body =>
    if d.enabled "ops.gate_security" then
      if mayAct (d.roles userId) ["guard"] then
        .failed 404 "Guards may redeem pickup codes only"
      else if mayAct (d.roles userId) ["parent"] && !d.linked userId body.studentId then
        .failed 404 "Student is not linked to this parent"
      else .issuing
    else .failed 403 "Feature disabled: ops.gate_security"
  | .redeem userId _ =>
    if d.enabled "ops.gate_security" then
      if mayAct (d.roles userId) gateRoles then .reading (d.roles userId)
      else .failed 404 "You are not authorized to redeem pickup codes"
    else .failed 403 "Feature disabled: ops.gate_security"

def GateRequest.passIssued (id : ℕ) (passCode : String) (passExpiresAt : ℕ) :
    GateRequest → GatePhase
  | .confirmParentOtp _ _ _ => .confirming id passCode passExpiresAt
  | _ => .answered (.passIssued id passCode passExpiresAt)

/-- The token of `issueToken`. -/
def tokenRow (draw : GateDraw) (userId : String) (body : TokenBody) (d : GateStores) :
    GateToken where
  id := d.drawn
  studentId := body.studentId
  guardianName := orNull body.guardianName
  tokenCode := draw.tokenCode
  validUntil := d.now + tokenMilliseconds body.validHours
  createdBy := userId

def gateStep (draw : GateDraw) (request : GateRequest) (phase : GatePhase) (d : GateStores) :
    GatePhase × GateStores :=
  match request, phase with
  | request, .starting => (enterGate sha256 draw request d, { d with drawn := d.drawn + 1 })
  | .decide actorId id approve note, .reading roles =>
    (decideRow actorId roles id approve note d, d)
  | .redeem _ code, .reading _ =>
    (if d.enabled "ops.safeguarding" then findPass draw code d
      else .failed 403 "Feature disabled: ops.safeguarding", d)
  | .review actorId _ approve note, .checking row => (reviewRow actorId approve note row d, d)
  | .confirmParentOtp parentId _ otp, .checking row => (confirmRow sha256 parentId otp row d, d)
  | _, .inserting row parentOtp =>
    match d.insertExeat row with
    | none => (.failed 500 "Internal server error", d)
    | some d' => (.answered (.created row.id row.status parentOtp), d')
  | _, .deciding id decision => (.answered (.decided id decision.status), d.decide id decision)
  | request, .approving id actorId approval =>
    match d.issuePass id actorId draw.passCode approval with
    | none => (.failed 500 "Internal server error", d)
    | some d' => (request.passIssued id draw.passCode (d.now + 6 * 3600000), d')
  | _, .confirming id passCode passExpiresAt =>
    (.answered (.passIssued id passCode passExpiresAt), d.confirm id)
  | .issueToken userId body, .issuing =>
    match d.insertToken (tokenRow draw userId body d) with
    | none => (.failed 500 "Internal server error", d)
    | some d' =>
      (.answered (.tokenIssued d.drawn draw.tokenCode
        (d.now + tokenMilliseconds body.validHours)), { d' with drawn := d.drawn + 1 })
  | .redeem userId _, .consuming row =>
    (.answered (.pass row.id row.studentId .redeemed row.pickupAdultName),
      d.usePass row.id userId)
  | .redeem _ code, .searching => (findToken code d, d)
  | .redeem _ _, .consumingToken row =>
    (.answered (.token row.id row.studentId .redeemed), d.useToken row.id)
  | _, phase => (phase, d)

/-- What else happens: time goes by, and the school changes roles, links, classes and
features. -/
inductive GateOther
  | tick (milliseconds : ℕ)
  | edit (roles : String → List String) (linked : String → String → Bool)
      (formTeacher : String → Option String) (enabled : String → Bool)

def GateOther.apply : GateOther → GateStores → GateStores
  | .tick milliseconds, d => { d with now := d.now + milliseconds }
  | .edit roles linked formTeacher enabled, d => { d with roles, linked, formTeacher, enabled }

/-- The requests of everyone. -/
def gateService : Service GateRequest GateDraw GateOther GateStores GateCall where
  start request := { request }
  next draw call d :=
    let next := gateStep sha256 draw call.request call.phase d
    ({ call with phase := next.1 }, next.2)
  other := GateOther.apply

abbrev GateState := Flight GateStores GateCall
abbrev GateEvent := FlightEvent GateRequest GateDraw GateOther

/-! ## What a step writes -/

inductive GateWrites (draw : GateDraw) :
    GateRequest → GatePhase → GateStores → GateStores → Prop
  | nothing (request : GateRequest) (phase : GatePhase) (d : GateStores) (drawn : ℕ) :
      GateWrites draw request phase d { d with drawn }
  | insert {row : Exeat} {d d' : GateStores} (request : GateRequest) (parentOtp : Option String)
      (h : d.insertExeat row = some d') : GateWrites draw request (.inserting row parentOtp) d d'
  | decide (request : GateRequest) (id : ℕ) (decision : ExeatDecision) (d : GateStores) :
      GateWrites draw request (.deciding id decision) d (d.decide id decision)
  | issue {id : ℕ} {actorId : String} {approval : Approval} {d d' : GateStores}
      (request : GateRequest) (h : d.issuePass id actorId draw.passCode approval = some d') :
      GateWrites draw request (.approving id actorId approval) d d'
  | confirm (request : GateRequest) (id : ℕ) (passCode : String) (expiresAt : ℕ)
      (d : GateStores) : GateWrites draw request (.confirming id passCode expiresAt) d (d.confirm id)
  | token {userId : String} {body : TokenBody} {d d' : GateStores} (drawn : ℕ)
      (h : d.insertToken (tokenRow draw userId body d) = some d') :
      GateWrites draw (.issueToken userId body) .issuing d { d' with drawn }
  | usePass (userId code : String) (row : Exeat) (d : GateStores) :
      GateWrites draw (.redeem userId code) (.consuming row) d (d.usePass row.id userId)
  | useToken (userId code : String) (row : GateToken) (d : GateStores) :
      GateWrites draw (.redeem userId code) (.consumingToken row) d (d.useToken row.id)

variable {sha256} {draw : GateDraw} {request : GateRequest} {phase : GatePhase}
  {d d' : GateStores} {call : GateCall}

theorem gateStep_approving {id : ℕ} {actorId : String} {approval : Approval} :
    (gateStep sha256 draw request (.approving id actorId approval) d).2
      = (d.issuePass id actorId draw.passCode approval).getD d := by
  cases hissue : d.issuePass id actorId draw.passCode approval <;> cases request <;>
    simp [gateStep, hissue]

theorem gateStep_writes (draw : GateDraw) (request : GateRequest) (phase : GatePhase)
    (d : GateStores) :
    GateWrites draw request phase d (gateStep sha256 draw request phase d).2 := by
  cases phase with
  | starting => cases request <;> exact .nothing _ _ d _
  | inserting row parentOtp =>
    have hstep : (gateStep sha256 draw request (.inserting row parentOtp) d).2
        = (d.insertExeat row).getD d := by
      cases hinsert : d.insertExeat row <;> cases request <;> simp [gateStep, hinsert]
    rw [hstep]
    cases hinsert : d.insertExeat row with
    | none => exact .nothing _ _ d _
    | some d' => exact .insert request parentOtp hinsert
  | approving id actorId approval =>
    rw [gateStep_approving]
    cases hissue : d.issuePass id actorId draw.passCode approval with
    | none => exact .nothing _ _ d _
    | some d' => exact .issue request hissue
  | deciding id decision => cases request <;> exact .decide _ id decision d
  | confirming id passCode expiresAt => cases request <;> exact .confirm _ id passCode expiresAt d
  | issuing =>
    cases request with
    | issueToken userId body =>
      simp only [gateStep]
      cases hinsert : d.insertToken (tokenRow draw userId body d) with
      | none => exact .nothing _ _ d _
      | some d' => exact .token _ hinsert
    | createExeat | review | decide | confirmParentOtp | redeem => exact .nothing _ _ d _
  | consuming row =>
    cases request with
    | redeem userId code => exact .usePass userId code row d
    | createExeat | review | decide | confirmParentOtp | issueToken => exact .nothing _ _ d _
  | consumingToken row =>
    cases request with
    | redeem userId code => exact .useToken userId code row d
    | createExeat | review | decide | confirmParentOtp | issueToken => exact .nothing _ _ d _
  | reading | checking | searching | answered | failed =>
    cases request <;> exact .nothing _ _ d _

end Hash

end MultiAcademy.School
