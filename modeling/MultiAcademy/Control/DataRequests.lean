import MultiAcademy.Control.TenantRoutes
import MultiAcademy.Lib.Run

/-!
# Data-subject requests and the legal hold

`routers/compliance.py`: the requests of data subjects, beside `PATCH /v1/tenants/id`,
which sets and lifts the legal hold of a tenant.  A request to delete that is received
under the hold is blocked, and `update_dsr` completes none under it; `fulfill_dsr`
asks for the status of the request only.

The package that `fulfill_dsr` writes to the disk is read by nothing here; that the write
may fail, before the commit, is in the model.
-/

namespace MultiAcademy.Control

open MultiAcademy.Lib

/-- `DSR_TYPES`. -/
inductive DsrType
  | access | export | delete
  deriving DecidableEq

def DsrType.ofString? : String → Option DsrType
  | "access" => some .access
  | "export" => some .export
  | "delete" => some .delete
  | _ => none

def DsrType.text : DsrType → String
  | .access => "access"
  | .export => "export"
  | .delete => "delete"

/-- `DSR_STATUSES`. -/
inductive DsrStatus
  | received | inProgress | completed | rejected | blockedLegalHold
  deriving DecidableEq

def DsrStatus.ofString? : String → Option DsrStatus
  | "received" => some .received
  | "in_progress" => some .inProgress
  | "completed" => some .completed
  | "rejected" => some .rejected
  | "blocked_legal_hold" => some .blockedLegalHold
  | _ => none

def DsrStatus.text : DsrStatus → String
  | .received => "received"
  | .inProgress => "in_progress"
  | .completed => "completed"
  | .rejected => "rejected"
  | .blockedLegalHold => "blocked_legal_hold"

structure DsrRequest where
  tenantId : Option ℕ
  requestType : DsrType
  subjectEmail : String
  subjectName : String := ""
  status : DsrStatus := .received
  notes : String := ""
  evidenceRef : String := ""
  exportUri : String := ""
  assignedTo : String := ""
  dueAt : Option Time := none
  completedAt : Option Time := none
  createdBy : String := ""

/-- The control plane's tables with the requests. -/
structure ComplianceDb where
  db : Db
  dsrRequests : Table DsrRequest

/-! ## The endpoints -/

structure DsrCreate where
  tenantId : Option ℕ := none
  requestType : String
  subjectEmail : String
  subjectName : String := ""
  notes : String := ""
  evidenceRef : String := ""
  dueAt : Option Time := none

structure DsrUpdate where
  status : Option String := none
  notes : Option String := none
  assignedTo : Option String := none
  exportUri : Option String := none

/-- The row `create_dsr` adds, whatever its status and notes. -/
def DsrCreate.row (body : DsrCreate) (requestType : DsrType) (createdBy : String)
    (status : DsrStatus) (notes : String) : DsrRequest :=
  { tenantId := body.tenantId
    requestType
    subjectEmail := lower body.subjectEmail
    subjectName := body.subjectName
    status
    notes
    evidenceRef := body.evidenceRef
    dueAt := body.dueAt
    createdBy }

/-- The notes of a request that was received under the hold. -/
def blockedNotes (tenant : Tenant) (notes : String) : String :=
  let why := if tenant.legalHoldReason = "" then "no reason" else tenant.legalHoldReason
  s!"Blocked: legal hold — {why}. {notes}"

/-- `POST /v1/compliance/dsr`. -/
def createDsr (staff : StaffContext) (body : DsrCreate) (s : ComplianceDb) :
    ComplianceDb × Reply :=
  match DsrType.ofString? body.requestType with
  | none => (s, .error 400 "request_type must be one of ('access', 'export', 'delete')")
  | some requestType =>
    let received := body.row requestType staff.email .received body.notes
    match body.tenantId with
    | none => ({ s with dsrRequests := s.dsrRequests.insert received }, .ok)
    | some tenantId =>
      match s.db.tenants[tenantId]? with
      | none => (s, .error 404 "Tenant not found")
      | some tenant =>
        if requestType = .delete ∧ tenant.legalHold then
          ({ s with
            dsrRequests := s.dsrRequests.insert
              (body.row requestType staff.email .blockedLegalHold
                (blockedNotes tenant body.notes)) }, .ok)
        else ({ s with dsrRequests := s.dsrRequests.insert received }, .ok)

/-- The tenant a request names is under legal hold.  No stored id is zero, so that
`req.tenant_id` is falsy for a request without a tenant only. -/
def DsrRequest.held (db : Db) (req : DsrRequest) : Bool :=
  req.tenantId.any fun tenantId => db.tenants[tenantId]?.any (·.legalHold)

def DsrUpdate.edit (body : DsrUpdate) (req : DsrRequest) : DsrRequest :=
  { req with
    notes := body.notes.getD req.notes
    assignedTo := body.assignedTo.getD req.assignedTo
    exportUri := body.exportUri.getD req.exportUri }

def DsrRequest.setStatus (now : Time) (status : DsrStatus) (req : DsrRequest) : DsrRequest :=
  { req with
    status
    completedAt := if status = .completed then some now else req.completedAt }

/-- `PATCH /v1/compliance/dsr/id`. -/
def updateDsr (now : Time) (dsrId : ℕ) (body : DsrUpdate) (s : ComplianceDb) :
    ComplianceDb × Reply :=
  match s.dsrRequests[dsrId]? with
  | none => (s, .error 404 "DSR not found")
  | some req =>
    match body.status with
    | none => ({ s with dsrRequests := s.dsrRequests.modify dsrId body.edit }, .ok)
    | some text =>
      match DsrStatus.ofString? text with
      | none =>
        (s, .error 400 ("status must be one of ('received', 'in_progress', 'completed', "
          ++ "'rejected', 'blocked_legal_hold')"))
      | some status =>
        if status = .completed ∧ req.requestType = .delete ∧ req.held s.db then
          (s, .error 409 "Cannot complete delete DSR while tenant is under legal hold")
        else
          ({ s with
            dsrRequests := s.dsrRequests.modify dsrId fun req =>
              body.edit (req.setStatus now status) }, .ok)

/-- The statuses `fulfill_dsr` turns away. -/
def DsrStatus.closed (status : DsrStatus) : Bool :=
  status = .completed ∨ status = .rejected ∨ status = .blockedLegalHold

/-- A request as `fulfill_dsr` leaves it. -/
def DsrRequest.fulfil (now : Time) (staff : StaffContext) (uri : String) (req : DsrRequest) :
    DsrRequest :=
  let stamp := isoformat now
  { req with
    exportUri := uri
    status := .completed
    completedAt := some now
    assignedTo := if req.assignedTo = "" then staff.email else req.assignedTo
    notes := req.notes ++ s!"\n[Fulfilled {stamp}] export at {uri}" }

def packagePath (cwd : String) (dsrId : ℕ) (requestType : DsrType) : String :=
  let id := publicId dsrId
  let type := requestType.text
  s!"{cwd}/exports/dsr/{id}/{type}-package.json"

/-- `POST /v1/compliance/dsr/id/fulfill`; `cwd` is where the service runs, and `written`
whether the disk took the package. -/
def fulfillDsr (now : Time) (staff : StaffContext) (cwd : String) (written : Bool) (dsrId : ℕ)
    (s : ComplianceDb) : ComplianceDb × Reply :=
  match s.dsrRequests[dsrId]? with
  | none => (s, .error 404 "DSR not found")
  | some req =>
    if req.status.closed then
      let status := req.status.text
      (s, .error 400 s!"DSR already {status}")
    else if !written then (s, .error 500 "Internal Server Error")
    else
      ({ s with
        dsrRequests := s.dsrRequests.modify dsrId
          (DsrRequest.fulfil now staff (packagePath cwd dsrId req.requestType)) }, .ok)

/-! ## Runs -/

/-- A request to the service: one of a data subject, or an edit of a tenant, which is how
a legal hold is set and lifted. -/
inductive ComplianceEvent
  | createDsr (staff : StaffContext) (body : DsrCreate)
  | updateDsr (now : Time) (dsrId : ℕ) (body : DsrUpdate)
  | fulfillDsr (now : Time) (staff : StaffContext) (cwd : String) (written : Bool) (dsrId : ℕ)
  | updateTenant (tenantId : ℕ) (body : TenantUpdate)

def complianceStep : ComplianceEvent → ComplianceDb → ComplianceDb
  | .createDsr staff body, s => (createDsr staff body s).1
  | .updateDsr now dsrId body, s => (updateDsr now dsrId body s).1
  | .fulfillDsr now staff cwd written dsrId, s => (fulfillDsr now staff cwd written dsrId s).1
  | .updateTenant tenantId body, s => { s with db := (updateTenant tenantId body s.db).db }

/-- From `old`, the request is moved to `completed`, or its time of completion is set. -/
def DsrRequest.CompletedFrom (old : Option DsrRequest) (req : DsrRequest) : Prop :=
  (req.status = .completed ∧ ∀ r, old = some r → r.status ≠ .completed)
    ∨ (req.completedAt ≠ none ∧ ∀ r, old = some r → r.completedAt ≠ req.completedAt)

/-- The step completes a request to delete whose tenant is under legal hold. -/
def CompletesHeld (s : ComplianceDb) (e : ComplianceEvent) : Prop :=
  ∃ (dsrId : ℕ) (req : DsrRequest), (complianceStep e s).dsrRequests[dsrId]? = some req
    ∧ req.requestType = .delete ∧ req.held s.db
    ∧ req.CompletedFrom s.dsrRequests[dsrId]?

/-- The step fulfils an open request to delete whose tenant is under legal hold. -/
def FulfilsHeld (s : ComplianceDb) : ComplianceEvent → Prop
  | .fulfillDsr _ _ _ written dsrId =>
    written ∧ ∃ req, s.dsrRequests[dsrId]? = some req
      ∧ req.requestType = .delete ∧ req.status.closed = false ∧ req.held s.db
  | _ => False

/-! ## What a step completes -/

section Completed
variable {req old : DsrRequest} {rows : Table DsrRequest} {dsrId k : ℕ}

@[simp] theorem completedFrom_none :
    req.CompletedFrom none ↔ req.status = .completed ∨ req.completedAt ≠ none := by
  simp [DsrRequest.CompletedFrom]

@[simp] theorem completedFrom_some :
    req.CompletedFrom (some old) ↔ (req.status = .completed ∧ old.status ≠ .completed)
      ∨ (req.completedAt ≠ none ∧ old.completedAt ≠ req.completedAt) := by
  simp [DsrRequest.CompletedFrom]

theorem not_completedFrom (hstatus : req.status = old.status)
    (htime : req.completedAt = old.completedAt) : ¬ req.CompletedFrom (some old) := by
  simp [hstatus, htime]

theorem not_completedFrom_self (h : rows[k]? = some req) : ¬ req.CompletedFrom rows[k]? := by
  rw [h]
  exact not_completedFrom rfl rfl

theorem completed_insert (h : (rows.insert old)[k]? = some req)
    (hcompleted : req.CompletedFrom rows[k]?) : req = old ∧ req.CompletedFrom none := by
  rw [Table.getElem?_insert] at h
  split at h
  · rename_i hk
    rw [hk, Table.nextId, List.getElem?_eq_none (Nat.le_refl _)] at hcompleted
    exact ⟨(Option.some.inj h).symm, hcompleted⟩
  · exact absurd hcompleted (not_completedFrom_self h)

/-- A rewritten row alone can be completed by the step that rewrites it. -/
theorem completed_modify {f : DsrRequest → DsrRequest} (hold : rows[dsrId]? = some old)
    (h : (rows.modify dsrId f)[k]? = some req) (hcompleted : req.CompletedFrom rows[k]?) :
    req = f old ∧ req.CompletedFrom (some old) := by
  rw [List.getElem?_modify] at h
  by_cases hk : dsrId = k
  · subst hk
    rw [hold] at h hcompleted
    exact ⟨by simpa using h.symm, hcompleted⟩
  simp only [if_neg hk, id_map'] at h
  exact absurd hcompleted (not_completedFrom_self h)

end Completed

section Steps
variable {s : ComplianceDb}

/-- A new request is not completed. -/
theorem createDsr_rows (staff : StaffContext) (body : DsrCreate) (s : ComplianceDb) :
    (createDsr staff body s).1.dsrRequests = s.dsrRequests
      ∨ ∃ req, (createDsr staff body s).1.dsrRequests = s.dsrRequests.insert req
        ∧ req.status ≠ .completed ∧ req.completedAt = none := by
  unfold createDsr
  split
  · exact Or.inl rfl
  split
  · exact Or.inr ⟨_, rfl, by simp [DsrCreate.row], rfl⟩
  split
  · exact Or.inl rfl
  split
  · exact Or.inr ⟨_, rfl, by simp [DsrCreate.row], rfl⟩
  · exact Or.inr ⟨_, rfl, by simp [DsrCreate.row], rfl⟩

/-- What `update_dsr` writes to a row: the status only where the hold allows it. -/
theorem updateDsr_rows (now : Time) (dsrId : ℕ) (body : DsrUpdate) (s : ComplianceDb) :
    (updateDsr now dsrId body s).1.dsrRequests = s.dsrRequests
      ∨ ∃ req f, s.dsrRequests[dsrId]? = some req
        ∧ (updateDsr now dsrId body s).1.dsrRequests = s.dsrRequests.modify dsrId f
        ∧ (f req).requestType = req.requestType ∧ (f req).tenantId = req.tenantId
        ∧ (req.requestType = .delete → req.held s.db →
          ¬ (f req).CompletedFrom (some req)) := by
  unfold updateDsr
  split
  · exact Or.inl rfl
  rename_i req hreq
  split
  · exact Or.inr ⟨req, body.edit, hreq, rfl, rfl, rfl, fun _ _ => not_completedFrom rfl rfl⟩
  split
  · exact Or.inl rfl
  split
  · exact Or.inl rfl
  rename_i status _ hallowed
  refine Or.inr ⟨req, _, hreq, rfl, rfl, rfl, fun hdelete hheld => ?_⟩
  have hstatus : status ≠ .completed := fun h => hallowed ⟨h, hdelete, hheld⟩
  simp [DsrUpdate.edit, DsrRequest.setStatus, hstatus]

/-- `fulfill_dsr` completes a request that is open, whatever its kind and its tenant. -/
theorem fulfillDsr_rows {now : Time} {staff : StaffContext} {cwd : String} {written : Bool}
    {dsrId : ℕ} (h : (fulfillDsr now staff cwd written dsrId s).1 ≠ s) :
    written ∧ ∃ req, s.dsrRequests[dsrId]? = some req ∧ req.status.closed = false
      ∧ (fulfillDsr now staff cwd written dsrId s).1.dsrRequests
        = s.dsrRequests.modify dsrId
          (DsrRequest.fulfil now staff (packagePath cwd dsrId req.requestType)) := by
  unfold fulfillDsr at h ⊢
  cases hreq : s.dsrRequests[dsrId]? with
  | none => simp [hreq] at h
  | some req =>
    rw [hreq] at h
    cases hclosed : req.status.closed with
    | true => simp [hclosed] at h
    | false =>
      cases written with
      | false => simp [hclosed] at h
      | true => exact ⟨rfl, req, rfl, hclosed, by simp [hclosed]⟩

theorem fulfillDsr_open {now : Time} {staff : StaffContext} {cwd : String} {dsrId : ℕ}
    {req : DsrRequest} (hreq : s.dsrRequests[dsrId]? = some req)
    (hopen : req.status.closed = false) :
    (fulfillDsr now staff cwd true dsrId s).1.dsrRequests[dsrId]?
      = some (req.fulfil now staff (packagePath cwd dsrId req.requestType)) := by
  simp [fulfillDsr, hreq, hopen]

/-- **A step completes a request to delete under the hold exactly when it fulfils one.** -/
theorem completesHeld_iff (e : ComplianceEvent) : CompletesHeld s e ↔ FulfilsHeld s e := by
  constructor
  · rintro ⟨k, req, hrow, hdelete, hheld, hcompleted⟩
    cases e with
    | createDsr staff body =>
      simp only [complianceStep] at hrow
      rcases createDsr_rows staff body s with hrows | ⟨new, hrows, hstatus, htime⟩
      · rw [hrows] at hrow
        exact absurd hcompleted (not_completedFrom_self hrow)
      rw [hrows] at hrow
      obtain ⟨rfl, hnew⟩ := completed_insert hrow hcompleted
      simp [hstatus, htime] at hnew
    | updateDsr now dsrId body =>
      simp only [complianceStep] at hrow
      rcases updateDsr_rows now dsrId body s with
        hrows | ⟨old, f, hold, hrows, htype, htenant, hno⟩
      · rw [hrows] at hrow
        exact absurd hcompleted (not_completedFrom_self hrow)
      rw [hrows] at hrow
      obtain ⟨rfl, hnew⟩ := completed_modify hold hrow hcompleted
      rw [DsrRequest.held, htenant] at hheld
      exact absurd hnew (hno (htype ▸ hdelete) hheld)
    | fulfillDsr now staff cwd written dsrId =>
      simp only [complianceStep] at hrow
      by_cases hsame : (fulfillDsr now staff cwd written dsrId s).1 = s
      · rw [hsame] at hrow
        exact absurd hcompleted (not_completedFrom_self hrow)
      obtain ⟨hwritten, old, hold, hopen, hrows⟩ := fulfillDsr_rows hsame
      rw [hrows] at hrow
      obtain ⟨rfl, -⟩ := completed_modify hold hrow hcompleted
      exact ⟨hwritten, old, hold, hdelete, hopen, hheld⟩
    | updateTenant tenantId body => exact absurd hcompleted (not_completedFrom_self hrow)
  intro h
  match e, h with
  | .fulfillDsr now staff cwd written dsrId, ⟨hwritten, req, hreq, hdelete, hopen, hheld⟩ =>
    subst hwritten
    refine ⟨dsrId, _, fulfillDsr_open hreq hopen, hdelete, hheld, ?_⟩
    have hstatus : req.status ≠ .completed := by
      intro h
      simp [DsrStatus.closed, h] at hopen
    rw [hreq, completedFrom_some]
    exact Or.inl ⟨rfl, hstatus⟩

end Steps

/-- **The hold blocks deletion where no open request is fulfilled under it.**  In every run,
from any tables, no step completes a request to delete whose tenant is under legal hold
exactly when no step is a `fulfill_dsr` of such a request that is open. -/
theorem hold_blocks_deletion (s : ComplianceDb) (es : List ComplianceEvent) :
    Along complianceStep (fun s e => ¬ CompletesHeld s e) s es
      ↔ Along complianceStep (fun s e => ¬ FulfilsHeld s e) s es := by
  simp only [completesHeld_iff]

namespace Example

def dataOfficer : StaffContext :=
  { id := "7", email := "dpo@platform.test", permissions := ["compliance:write"] }

/-- A school, before any request of a data subject. -/
def quietSchool : ComplianceDb where
  db :=
    { tenants :=
        [{ externalId := "s-1", slug := "hill", name := "Hill", status := .active
           statusMessage := "", statusReason := "", region := "NG", residencyTag := "NG"
           legalHold := false, legalHoldReason := "", adminEmail := "", adminPhone := ""
           tags := [], notes := "", courtesyUnlockUntil := none, createdAt := 0 }] }
  dsrRequests := []

/-- A request to delete is received, and then the school is put under legal hold. -/
def heldLate : ComplianceDb :=
  run complianceStep quietSchool
    [.createDsr dataOfficer
      { tenantId := some 0, requestType := "delete", subjectEmail := "Ada@hill.test" },
     .updateTenant 0 { legalHold := some true, legalHoldReason := some "court order" }]

end Example

/-- The hold does not always block deletion: a request from before the hold is fulfilled
under it. -/
theorem not_hold_blocks_deletion :
    ¬ Along complianceStep (fun s e => ¬ CompletesHeld s e) Example.heldLate
      [.fulfillDsr 1 Example.dataOfficer "/app" true 0] := by
  rintro ⟨hkept, -⟩
  refine hkept ⟨0, _, rfl, rfl, rfl, ?_⟩
  exact Or.inl ⟨rfl, fun old hold => by cases hold; exact nofun⟩

end MultiAcademy.Control
