import MultiAcademy.Control.BookSteps

/-!
# When a wipe is dispatched

Runs of the operations on offboarding jobs: operators schedule, cancel and place holds, the
school server reports, the worker dispatches what is due, and everything else goes on in
between.  A run remembers of which jobs an export was reported ready and which were closed,
cancelled or completed, at some time.

A report that an export is ready is taken in any status of the job, so one that comes late
puts a closed job back on its way to a wipe.
-/

namespace MultiAcademy.Control

open MultiAcademy.Lib

/-! ## Runs -/

/-- What can happen to an offboarding job. -/
inductive OffboardOp
  | schedule (now : Time) (staff : StaffContext) (tenantId : ℕ) (body : OffboardCreate)
  /-- A decision of the dual-control queue: an approved offboarding is scheduled by it. -/
  | decide (now : Time) (staff : StaffContext) (requestId : ℕ) (body : DualControlDecide)
  | cancel (now : Time) (tenantId jobId : ℕ) (reason : String)
  /-- Legal holds are placed and lifted here. -/
  | updateTenant (tenantId : ℕ) (body : TenantUpdate)
  | report (svc : ServiceContext) (tenantRef : String) (jobId : ℕ) (body : OffboardResultBody)
  | dispatch (now : Time) (limit : ℕ)
  /-- Anything else, which leaves the jobs alone. -/
  | elsewhere (db : Db)

/-- The database, and what the run remembers of its jobs. -/
structure OffboardState where
  db : Db
  /-- The jobs whose export was reported ready. -/
  ready : List ℕ := []
  /-- The jobs that were cancelled or completed at some time. -/
  closed : List ℕ := []

/-- The database after an operation. -/
def OffboardOp.apply (cfg : Settings) (db : Db) : OffboardOp → Db
  | .schedule now staff tenantId body => (scheduleOffboard cfg now staff tenantId body db).db
  | .decide now staff requestId body => (decideRequest cfg now staff requestId body db).db
  | .cancel now tenantId jobId reason => (cancelOffboard cfg now tenantId jobId reason db).db
  | .updateTenant tenantId body => (Control.updateTenant tenantId body db).db
  | .report svc tenantRef jobId body => (offboardResult tenantRef jobId body svc db).db
  | .dispatch now limit => (dispatchDueWipes cfg now limit db).2
  | .elsewhere db' => { db' with offboardJobs := db.offboardJobs }

/-- The report is for a job of the tenant behind the reference, and not refused. -/
def reportAccepted (db : Db) (svc : ServiceContext) (tenantRef : String) (jobId : ℕ) : Bool :=
  match tenantByRef db tenantRef svc, db.offboardJobs[jobId]? with
  | .ok (tenantId, _), some job => job.tenantId = tenantId
  | _, _ => false

/-- The operation is an accepted report that the export of the job is ready. -/
def OffboardOp.reportsReady (db : Db) (j : ℕ) : OffboardOp → Bool
  | .report svc tenantRef jobId body =>
    jobId = j && body.result = "export_ready" && reportAccepted db svc tenantRef jobId
  | _ => false

def closedJob (job : TenantOffboardJob) : Bool :=
  job.status = .cancelled || job.status = .completed

/-- One operation. -/
def offboardStep (cfg : Settings) (op : OffboardOp) (s : OffboardState) : OffboardState :=
  let db := op.apply cfg s.db
  { db
    ready := s.ready ++ (List.range s.db.offboardJobs.length).filter fun j =>
      op.reportsReady s.db j
    closed := s.closed ++ db.offboardJobs.select closedJob }

def jobStatus (db : Db) (j : ℕ) : Option OffboardStatus :=
  (db.offboardJobs[j]?).map (·.status)

/-- The step sends the wipe of a job. -/
def Dispatched (cfg : Settings) (s : OffboardState) (op : OffboardOp) (j : ℕ) : Prop :=
  jobStatus s.db j ≠ some .wipeDispatched
    ∧ jobStatus (offboardStep cfg op s).db j = some .wipeDispatched

/-- The job's retention date has passed, and its tenant is not under legal hold. -/
def wipeInOrder (now : Time) (db : Db) (j : ℕ) : Bool :=
  (db.offboardJobs[j]?).any fun job =>
    (job.wipeScheduledAt.any fun due => due ≤ now)
      && (db.tenants[job.tenantId]?).any fun tenant => !tenant.legalHold

/-- A wipe of the job is allowed: in order, its export was reported ready, and it was
neither cancelled nor completed. -/
def WipeAllowed (now : Time) (s : OffboardState) (j : ℕ) : Prop :=
  wipeInOrder now s.db j = true ∧ j ∈ s.ready ∧ j ∉ s.closed

def SendsAllowed (cfg : Settings) (s : OffboardState) (op : OffboardOp) : Prop :=
  ∀ j, Dispatched cfg s op j → ∃ now limit, op = .dispatch now limit ∧ WipeAllowed now s j

/-- The operation is a report of readiness for a job that was closed before. -/
def reopens (s : OffboardState) (op : OffboardOp) : Bool :=
  s.closed.any fun j => op.reportsReady s.db j

/-! ## What an operation does to the jobs -/

variable {cfg : Settings} {now : Time}

/-- Jobs come to be scheduled for a wipe, and wipes to be sent, only as `ready` and `sent`
say. -/
structure JobMoves (ready sent : ℕ → Prop) (jobs jobs' : Table TenantOffboardJob) : Prop where
  scheduled : ∀ j : ℕ, (jobs'[j]?).map (·.status) = some .wipeScheduled →
    (jobs[j]?).map (·.status) = some .wipeScheduled ∨ ready j
  dispatched : ∀ j : ℕ, (jobs'[j]?).map (·.status) = some .wipeDispatched →
    (jobs[j]?).map (·.status) = some .wipeDispatched ∨ sent j

section Moves
variable {ready sent : ℕ → Prop} {jobs : Table TenantOffboardJob}

theorem JobMoves.refl (jobs : Table TenantOffboardJob) : JobMoves ready sent jobs jobs :=
  ⟨fun _ h => Or.inl h, fun _ h => Or.inl h⟩

theorem JobMoves.trans {jobs' jobs'' : Table TenantOffboardJob}
    (h : JobMoves ready sent jobs jobs') (h' : JobMoves ready sent jobs' jobs'') :
    JobMoves ready sent jobs jobs'' :=
  ⟨fun j hj => (h'.scheduled j hj).elim (h.scheduled j) Or.inr,
    fun j hj => (h'.dispatched j hj).elim (h.dispatched j) Or.inr⟩

theorem JobMoves.insert {job : TenantOffboardJob} (h1 : job.status ≠ .wipeScheduled)
    (h2 : job.status ≠ .wipeDispatched) : JobMoves ready sent jobs (jobs.insert job) := by
  refine ⟨fun j hj => Or.inl ?_, fun j hj => Or.inl ?_⟩ <;>
    rw [Table.getElem?_insert] at hj <;> split at hj
  · exact absurd (Option.some.inj hj) h1
  · exact hj
  · exact absurd (Option.some.inj hj) h2
  · exact hj

/-- A job is rewritten to a status that is allowed for it. -/
theorem JobMoves.modify {f : TenantOffboardJob → TenantOffboardJob} {k : ℕ}
    (h1 : ∀ job, (f job).status = .wipeScheduled → ready k)
    (h2 : ∀ job, (f job).status = .wipeDispatched → sent k) :
    JobMoves ready sent jobs (jobs.modify k f) := by
  have hrow : ∀ (j : ℕ) status, ((jobs.modify k f)[j]?).map (·.status) = some status →
      (jobs[j]?).map (·.status) = some status ∨ k = j ∧ ∃ job, (f job).status = status := by
    intro j status hj
    rw [List.getElem?_modify] at hj
    by_cases hk : k = j
    · cases hjob : jobs[j]? with
      | none => simp [hjob] at hj
      | some job =>
        refine Or.inr ⟨hk, job, ?_⟩
        simpa [hjob, hk] using hj
    · exact Or.inl (by simpa [hk] using hj)
  refine ⟨fun j hj => ?_, fun j hj => ?_⟩
  · rcases hrow j _ hj with h | ⟨rfl, job, h⟩
    · exact Or.inl h
    · exact Or.inr (h1 job h)
  rcases hrow j _ hj with h | ⟨rfl, job, h⟩
  · exact Or.inl h
  · exact Or.inr (h2 job h)

end Moves

section Operations
variable (cfg) {ready sent : ℕ → Prop} (db : Db)

theorem jobs_scheduleOffboardJob (now : Time) (t : ℕ) (tenant : Tenant) (wipeInDays : ℤ)
    (notes createdBy : String) (committed : Db) :
    JobMoves ready sent committed.offboardJobs
      (scheduleOffboardJob cfg now t tenant wipeInDays notes createdBy db
        committed).offboardJobs := by
  simp only [scheduleOffboardJob]
  cases activeJobOf db t with
  | some jobId => exact .refl _
  | none => exact .insert (by simp) (by simp)

theorem jobs_schedule (now : Time) (staff : StaffContext) (t : ℕ) (body : OffboardCreate) :
    JobMoves ready sent db.offboardJobs
      (scheduleOffboard cfg now staff t body db).db.offboardJobs := by
  simp only [scheduleOffboard]
  split
  · exact .refl _
  split
  · exact .refl _
  split
  · exact .insert (by simp) (by simp)
  split
  · exact .refl _
  · exact jobs_scheduleOffboardJob cfg db _ _ _ _ _ _ _

theorem jobs_decide (now : Time) (staff : StaffContext) (requestId : ℕ)
    (body : DualControlDecide) :
    JobMoves ready sent db.offboardJobs
      (decideRequest cfg now staff requestId body db).db.offboardJobs := by
  simp only [decideRequest]
  split
  · exact .refl _
  rename_i req hreq
  have hverdict := verdict_spec cfg now staff requestId body req db
  revert hverdict
  generalize verdict cfg now staff requestId body req db = v
  intro hverdict
  cases hverdict with
  | refused code detail => exact .refl _
  | expired hlapsed => exact .refl _
  | rejected hpending hreject => exact .refl _
  | approved writes hlapsed hpending hother hyes happrove =>
    obtain ⟨done, heffect, rfl⟩ := approve_eq_ok happrove
    cases effect_spec heffect with
    | offboard t tenant haction htenant hhold =>
      exact jobs_scheduleOffboardJob cfg db _ _ _ _ _ _
        { db with
          dualRequests :=
            db.dualRequests.modify requestId (decided now staff body.reason .approved) }
    | blacklist t tenant => exact .refl _
    | unblacklist t => exact .refl _
    | destroy t => exact .refl _
    | killSwitch flagId on => exact .refl _
    | switch mode configId => exact .refl _

theorem jobs_cancel (now : Time) (t jobId : ℕ) (reason : String) :
    JobMoves ready sent db.offboardJobs
      (cancelOffboard cfg now t jobId reason db).db.offboardJobs := by
  have hcancel : JobMoves ready sent db.offboardJobs
      (cancelOffboardJob cfg now jobId reason db).offboardJobs := by
    unfold cancelOffboardJob
    split
    · exact .refl _
    split
    · exact .refl _
    dsimp only
    split <;> exact .modify (by simp) (by simp)
  simp only [cancelOffboard]
  split
  · exact .refl _
  split
  · exact .refl _
  split
  · exact .refl _
  split
  · exact .refl _
  split
  · exact .refl _
  · exact hcancel

theorem jobs_updateTenant (t : ℕ) (body : TenantUpdate) :
    (updateTenant t body db).db.offboardJobs = db.offboardJobs := by
  simp only [updateTenant]
  split <;> rfl

/-- A report of readiness schedules the wipe; the others do not. -/
theorem jobs_report (svc : ServiceContext) (tenantRef : String) (jobId : ℕ)
    (body : OffboardResultBody) :
    JobMoves (fun j => OffboardOp.reportsReady db j (.report svc tenantRef jobId body) = true) sent
      db.offboardJobs (offboardResult tenantRef jobId body svc db).db.offboardJobs := by
  simp only [offboardResult]
  rcases forTenant_cases db tenantRef svc _ with h | ⟨t, tenant, href, -, h⟩ <;> rw [h]
  · exact .refl _
  split
  · exact .refl _
  rename_i job hjob
  split
  · exact .refl _
  rename_i ht
  split
  · rename_i hresult
    refine .modify (fun _ _ => ?_) (by simp)
    simp [OffboardOp.reportsReady, hresult, reportAccepted, href, hjob, not_not.1 ht]
  split
  · refine .modify (fun row h => ?_) (fun row h => ?_) <;>
      dsimp only at h <;> split at h <;> cases h
  · exact .refl _

end Operations

/-! ## The dispatch of what is due -/

def wipeDueInOrder (now : Time) (db : Db) (j : ℕ) : Prop :=
  jobStatus db j = some .wipeScheduled ∧ wipeInOrder now db j = true

/-- What the pass has done so far: the tenants and the jobs' dates are as they were, and
only jobs that are in order had their wipes sent. -/
structure Wiping (now : Time) (db : Db) (acc : ℕ × Db) : Prop where
  tenants : acc.2.tenants = db.tenants
  owners : ∀ j : ℕ, (acc.2.offboardJobs[j]?).map (·.tenantId)
    = (db.offboardJobs[j]?).map (·.tenantId)
  moves : JobMoves (fun _ => False) (wipeDueInOrder now db) db.offboardJobs acc.2.offboardJobs

theorem map_owner_modify {f : TenantOffboardJob → TenantOffboardJob}
    (hf : ∀ job, (f job).tenantId = job.tenantId) (k j : ℕ) (jobs : Table TenantOffboardJob) :
    (List.modify jobs k f)[j]?.map (·.tenantId) = (jobs[j]?).map (·.tenantId) := by
  rw [List.getElem?_modify]
  cases jobs[j]? with
  | none => rfl
  | some job => by_cases hk : k = j <;> simp [hk, hf]

/-- One job that was due when the pass began. -/
theorem dispatchWipe_wiping {db : Db} {acc : ℕ × Db} {k : ℕ}
    (hdue : k ∈ db.offboardJobs.select (wipeDue now)) (h : Wiping now db acc) :
    Wiping now db (dispatchWipe cfg now acc k) := by
  have hrewrite : ∀ f : TenantOffboardJob → TenantOffboardJob,
      (∀ job, (f job).tenantId = job.tenantId) → (∀ job, (f job).status ≠ .wipeScheduled) →
      (∀ job, (f job).status = .wipeDispatched → wipeDueInOrder now db k) →
      ∀ acc' : ℕ × Db, acc'.2.tenants = acc.2.tenants →
      acc'.2.offboardJobs = acc.2.offboardJobs.modify k f → Wiping now db acc' := by
    intro f hf h1 h2 acc' htenants hjobs
    refine ⟨htenants.trans h.tenants, fun j => ?_, ?_⟩
    · rw [hjobs, map_owner_modify hf, h.owners]
    rw [hjobs]
    exact h.moves.trans (.modify (fun job hjob => h1 job hjob) h2)
  unfold dispatchWipe
  dsimp only
  split
  · exact h
  rename_i job hjob
  split
  · exact hrewrite cancelOrphan (fun _ => rfl) (by simp [cancelOrphan]) (by simp [cancelOrphan])
      _ rfl rfl
  rename_i tenant htenant
  split
  · exact hrewrite (blockByHold tenant) (fun _ => rfl) (by simp [blockByHold])
      (by simp [blockByHold]) _ rfl rfl
  rename_i hhold
  refine hrewrite (fun row => { row with status := .wipeDispatched }) (fun _ => rfl)
    (by simp) (fun _ _ => ?_) _ rfl rfl
  -- the job was due when the pass began, and its tenant is still the same
  obtain ⟨row, hrow, hrowDue⟩ := Table.mem_select.1 hdue
  rw [wipeDue, Bool.and_eq_true] at hrowDue
  have howner : job.tenantId = row.tenantId := by
    have howners := h.owners k
    rw [hjob, hrow] at howners
    exact Option.some.inj howners
  rw [h.tenants, howner] at htenant
  simp only [decide_eq_true_eq] at hrowDue
  exact ⟨by simp [jobStatus, hrow, hrowDue.1],
    by simp [wipeInOrder, hrow, hrowDue.2, htenant, hhold]⟩

theorem dispatchDueWipes_wiping (limit : ℕ) (db : Db) :
    Wiping now db (dispatchDueWipes cfg now limit db) := by
  have hrest : ∀ ids : List ℕ, (∀ k ∈ ids, k ∈ db.offboardJobs.select (wipeDue now)) →
      ∀ acc, Wiping now db acc → Wiping now db (ids.foldl (dispatchWipe cfg now) acc) := by
    intro ids
    induction ids with
    | nil => exact fun _ acc h => h
    | cons k ids ih =>
      intro hids acc h
      exact ih (fun k' hk' => hids k' (List.mem_cons_of_mem _ hk')) _
        (dispatchWipe_wiping (hids k List.mem_cons_self) h)
  exact hrest _ (fun k hk => List.mem_of_mem_take hk) (0, db)
    ⟨rfl, fun _ => rfl, .refl _⟩

/-! ## Wipes along a run -/

/-- Only the dispatch sends wipes. -/
def OffboardOp.sends (db : Db) (j : ℕ) (op : OffboardOp) : Prop :=
  ∃ now limit, op = .dispatch now limit ∧ wipeDueInOrder now db j

theorem jobs_apply (cfg : Settings) (db : Db) (op : OffboardOp) :
    JobMoves (fun j => op.reportsReady db j = true) (op.sends db) db.offboardJobs
      (op.apply cfg db).offboardJobs := by
  cases op with
  | schedule now staff t body => exact jobs_schedule cfg db _ _ _ _
  | decide now staff requestId body => exact jobs_decide cfg db _ _ _ _
  | cancel now t jobId reason => exact jobs_cancel cfg db _ _ _ _
  | updateTenant t body =>
    rw [OffboardOp.apply, jobs_updateTenant]
    exact .refl _
  | report svc tenantRef jobId body => exact jobs_report db _ _ _ _
  | dispatch now limit =>
    have hwiping : Wiping now db (dispatchDueWipes cfg now limit db) :=
      dispatchDueWipes_wiping limit db
    obtain ⟨-, -, hscheduled, hdispatched⟩ := hwiping
    exact ⟨fun j hj => (hscheduled j hj).imp_right False.elim,
      fun j hj => (hdispatched j hj).imp_right fun h => ⟨now, limit, rfl, h⟩⟩
  | elsewhere db' => exact .refl _

/-- The jobs that are scheduled for a wipe: reported ready, and not closed. -/
def ScheduledInOrder (s : OffboardState) : Prop :=
  ∀ j, jobStatus s.db j = some .wipeScheduled → j ∈ s.ready ∧ j ∉ s.closed

variable {s : OffboardState} {op : OffboardOp}

theorem mem_ready_of_reportsReady {j : ℕ}
    (h : op.reportsReady s.db j = true) : j ∈ (offboardStep cfg op s).ready := by
  refine List.mem_append_right _ (List.mem_filter.2 ⟨List.mem_range.2 ?_, h⟩)
  cases op with
  | report svc tenantRef jobId body =>
    simp only [OffboardOp.reportsReady, Bool.and_eq_true, decide_eq_true_eq] at h
    obtain ⟨⟨rfl, -⟩, haccepted⟩ := h
    simp only [reportAccepted] at haccepted
    split at haccepted
    · exact lt_length ‹_›
    · cases haccepted
  | _ => cases h

theorem scheduledInOrder_step (h : ScheduledInOrder s)
    (hreopens : reopens s op = false) : ScheduledInOrder (offboardStep cfg op s) := by
  intro j hj
  have hopen : ∀ {closed : List ℕ}, j ∉ closed →
      j ∉ closed ++ (op.apply cfg s.db).offboardJobs.select closedJob := by
    intro closed hclosed hmem
    rcases List.mem_append.1 hmem with hmem | hmem
    · exact hclosed hmem
    -- a job that is scheduled for its wipe is not closed now
    obtain ⟨job, hjob, hstatus⟩ := Table.mem_select.1 hmem
    have hscheduled : job.status = .wipeScheduled := by
      simpa [jobStatus, offboardStep, hjob] using hj
    simp [closedJob, hscheduled] at hstatus
  rcases (jobs_apply cfg s.db op).scheduled j hj with hbefore | hready
  · obtain ⟨hready, hclosed⟩ := h j hbefore
    exact ⟨List.mem_append_left _ hready, hopen hclosed⟩
  refine ⟨mem_ready_of_reportsReady hready, hopen fun hclosed => ?_⟩
  rw [reopens, List.any_eq_false] at hreopens
  exact hreopens j hclosed hready

theorem sendsAllowed_of_inOrder (h : ScheduledInOrder s) :
    SendsAllowed cfg s op := by
  intro j hsent
  cases (jobs_apply cfg s.db op).dispatched j hsent.2 with
  | inl hbefore => exact absurd hbefore hsent.1
  | inr hsends =>
    obtain ⟨now, limit, hop, hscheduled, horder⟩ := hsends
    exact ⟨now, limit, hop, horder, h j hscheduled⟩

/-- As long as no job that was closed is reported ready, wipes are sent only for jobs whose
export was reported ready, whose retention date has passed, which were never cancelled or
completed, and whose tenants are not under legal hold. -/
theorem wipes_allowed (cfg : Settings) (db : Db) (hjobs : db.offboardJobs = [])
    (ops : List OffboardOp)
    (h : Along (offboardStep cfg) (fun s op => reopens s op = false) { db } ops) :
    Along (offboardStep cfg) (SendsAllowed cfg) { db } ops := by
  have hstart : ScheduledInOrder { db } := by
    intro j hj
    rw [jobStatus, hjobs] at hj
    cases hj
  exact Along.of_invariant (I := ScheduledInOrder) (fun _ _ hI hop => scheduledInOrder_step hI hop)
    (fun _ _ hI _ => sendsAllowed_of_inOrder hI) hstart h

/-! ## A school that leaves -/

namespace Example

def server : ServiceContext := { clientId := "school-server", allowedTenantRefs := ["s"] }

/-- The school is scheduled for a wipe in thirty days, and its export is reported ready. -/
def leaving : List OffboardOp :=
  [.schedule (day 0) operator 0 { reason := "closing down" },
   .report server "s" 0 { result := "export_ready" }]

/-- It changes its mind, and the report comes once more. -/
def staying : List OffboardOp :=
  leaving ++ [.cancel (day 1) 0 0 "staying", .report server "s" 0 { result := "export_ready" }]

end Example

theorem wipes_allowed_example :
    Along (offboardStep Example.settings) (SendsAllowed Example.settings)
      { db := run (step Example.settings) {} Example.opened }
      (Example.leaving ++ [.dispatch (Example.day 40) 20]) :=
  wipes_allowed Example.settings _ (by decide) _ (by decide)

/-- A wipe may be sent for a job that was cancelled: the report that came after the
cancellation schedules it again. -/
theorem not_wipes_allowed :
    ¬ ∀ (cfg : Settings) (db : Db) (ops : List OffboardOp), db.offboardJobs = [] →
      Along (offboardStep cfg) (SendsAllowed cfg) { db } ops := by
  intro h
  have hrun := h Example.settings (run (step Example.settings) {} Example.opened)
    (Example.staying ++ [.dispatch (Example.day 40) 20]) (by decide)
  have hlast := (along_append.1 hrun).2.1
  obtain ⟨now, limit, -, -, -, hclosed⟩ := hlast 0 ⟨by decide, by decide⟩
  exact hclosed (by decide)

end MultiAcademy.Control
