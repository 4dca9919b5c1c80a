import MultiAcademy.Control.DueInvoices

/-!
# What a worker's pass keeps of its stages

Each stage of `_run_pass` works in a session of its own, and reports what it has done in counters:
the pass commits the session when they are not all zero, and rolls it back otherwise or when the
stage raises.  The courtesy pass clears the unlocks that are paid by now without counting them.
-/

namespace MultiAcademy.Control

open MultiAcademy.Lib

/-! ## A pass with its sessions -/

structure PassFaults where
  /-- The stage raises. -/
  raises : Stage → Bool := fun _ => false
  billing : BillingFaults := {}

/-- What a stage has done in its session, and whether its counters are not all zero. -/
def stageWork (cfg : Settings) (billing : BillingFaults) (now : Time) (stage : Stage) (db : Db) :
    Bool × BillingSession :=
  match stage with
  | .trial =>
    let (counts, db') := runTrialPass cfg now db
    (counts.reminders ≠ 0 ∨ counts.expired ≠ 0, ⟨db, db'⟩)
  | .generateDue =>
    let (created, session) := billAllWith billing now (db.subscriptions.select (isDue now)) db
    (created ≠ [], session)
  | .unsubscribed =>
    let (suspended, db') := runUnsubscribedPass cfg now (workerGraceDays cfg) db
    (suspended ≠ 0, ⟨db, db'⟩)
  | .courtesyExpiry =>
    let (expired, db') := runCourtesyUnlockExpiryPass cfg now db
    (expired ≠ 0, ⟨db, db'⟩)
  | .dunning =>
    let (results, db') := runDunningPass cfg now (workerGraceDays cfg) db
    (results ≠ [], ⟨db, db'⟩)
  | .wipes =>
    let (results, db') := dispatchDueWipes cfg now wipeLimit db
    (results ≠ 0, ⟨db, db'⟩)

/-- How `_run_pass` ends the session of a stage; that of the invoices is only closed. -/
def endSession (stage : Stage) (work : Bool × BillingSession) : BillingSession :=
  match stage with
  | .generateDue => work.2
  | _ => if work.1 then work.2.commit else work.2.rollback

variable (faults : PassFaults)

def passStage (cfg : Settings) (clock : Stage → Time) (db : Db)
    (stage : Stage) : Db :=
  if faults.raises stage then db
  else (endSession stage (stageWork cfg faults.billing (clock stage) stage db)).committed

/-- `_run_pass`. -/
def runPassWith (cfg : Settings) (clock : Stage → Time) (db : Db) : Db :=
  Stage.order.foldl (passStage faults cfg clock) db

def stageStart (cfg : Settings) (clock : Stage → Time) (stage : Stage)
    (db : Db) : Db :=
  (Stage.order.takeWhile (· ≠ stage)).foldl (passStage faults cfg clock) db

theorem committed_ended (worked : Bool) (db db' : Db) :
    (if worked then (BillingSession.mk db db').commit
      else (BillingSession.mk db db').rollback).committed = commitIf worked db' db := by
  cases worked <;> rfl

/-- A pass in which nothing is raised is `runPass`. -/
theorem runPassWith_ok (cfg : Settings) (clock : Stage → Time) (db : Db) :
    runPassWith {} cfg clock db = runPass cfg clock db := by
  have hstage : ∀ db stage,
      passStage {} cfg clock db stage = runStage cfg (clock stage) stage db := by
    intro db stage
    cases stage with
    | generateDue => exact generateDueWith_ok (clock .generateDue) db
    | trial | unsubscribed | courtesyExpiry | dunning | wipes => exact committed_ended _ _ _
  rw [runPassWith, runPass]
  congr 1
  funext db stage
  exact hstage db stage

/-! ## What is committed -/

/-- Tenants, subscriptions and invoices are the same. -/
structure SameRecords (db db' : Db) : Prop where
  tenants : db.tenants = db'.tenants
  subscriptions : db.subscriptions = db'.subscriptions
  invoices : db.invoices = db'.invoices

/-- **What the stages of a pass did is committed**, unless the stage raised. -/
def PassPersists (cfg : Settings) (clock : Stage → Time) (db : Db) : Prop :=
  ∀ stage, faults.raises stage = false →
    SameRecords (passStage faults cfg clock (stageStart faults cfg clock stage db) stage)
      (stageWork cfg faults.billing (clock stage) stage
        (stageStart faults cfg clock stage db)).2.working

/-- Where courtesy unlocks have ended, one of their tenants has not paid. -/
def UnlocksCounted (now : Time) (db : Db) : Prop :=
  (db.tenants.any (courtesyUnlockEnded now)) = true → someUnresolved now db = true

instance (now : Time) (db : Db) : Decidable (UnlocksCounted now db) :=
  inferInstanceAs (Decidable (_ → _))

section Stages
variable {cfg : Settings} {now : Time} {billing : BillingFaults} {db : Db}

/-- A stage whose counters are zero has done nothing, but for the courtesy pass. -/
theorem endSession_working {stage : Stage} (hstage : stage ≠ .courtesyExpiry) :
    (endSession stage (stageWork cfg billing now stage db)).committed
      = (stageWork cfg billing now stage db).2.working := by
  have hends : ∀ {worked : Bool} {db' : Db}, worked = true ∨ db' = db →
      (if worked then (BillingSession.mk db db').commit
        else (BillingSession.mk db db').rollback).committed = db' :=
    fun h => (committed_ended _ _ _).trans (commitIf_eq h)
  cases stage with
  | trial => exact hends ((runTrialPass_work db).imp_left decide_eq_true)
  | generateDue =>
    obtain ⟨news, kept, db', hfold, -⟩ := billAllWith_spec billing now
      (db.subscriptions.select (isDue now)) (Table.nodup_select db.subscriptions (isDue now)) []
      fun s hs => billingAt_candidate hs
    have hsession : (stageWork cfg billing now .generateDue db).2 = .clean db' := by
      simp only [stageWork, billAllWith, hfold]
    rw [endSession, hsession]
    rfl
  | unsubscribed => exact hends ((runUnsubscribedPass_work _ db).imp_left decide_eq_true)
  | courtesyExpiry => exact absurd rfl hstage
  | dunning => exact hends ((runDunningPass_work _ db).imp_left decide_eq_true)
  | wipes => exact hends ((dispatchDueWipes_work _ db).imp_left decide_eq_true)

/-- An unlock that has ended is cleared in the session. -/
theorem courtesy_tenants_ne (h : db.tenants.any (courtesyUnlockEnded now) = true) :
    db.tenants ≠ (runCourtesyUnlockExpiryPass cfg now db).2.tenants := by
  obtain ⟨tenant, hmem, hended⟩ := List.any_eq_true.1 h
  obtain ⟨t, hrow⟩ := List.mem_iff_getElem?.1 hmem
  intro hsame
  have hafter : (runCourtesyUnlockExpiryPass cfg now db).2.tenants[t]? = _ :=
    runCourtesyUnlockExpiryPass_row db
  rw [← hsame, hrow, Option.any_some, if_pos hended, Option.map_some, Option.some.injEq] at hafter
  have hcleared : (endUnlock (tenantBillingResolved db t) tenant).courtesyUnlockUntil = none := by
    cases tenantBillingResolved db t with
    | true => rfl
    | false =>
      simp only [endUnlock, Bool.false_eq_true, if_false, expireCourtesyUnlock]
      split
      · rfl
      · split <;> rfl
  rw [← hafter] at hcleared
  simp [courtesyUnlockEnded, hcleared] at hended

/-- **What a stage did is committed** by the pass, but for unlocks that are only cleared. -/
theorem stage_persists_iff (stage : Stage) :
    SameRecords (endSession stage (stageWork cfg billing now stage db)).committed
        (stageWork cfg billing now stage db).2.working
      ↔ (stage = .courtesyExpiry → UnlocksCounted now db) := by
  by_cases hstage : stage = .courtesyExpiry
  · subst hstage
    have hcommitted : (endSession .courtesyExpiry
        (stageWork cfg billing now .courtesyExpiry db)).committed
          = commitIf (decide ((runCourtesyUnlockExpiryPass cfg now db).1 ≠ 0))
            (runCourtesyUnlockExpiryPass cfg now db).2 db := committed_ended _ _ _
    have hworking : (stageWork cfg billing now .courtesyExpiry db).2.working
        = (runCourtesyUnlockExpiryPass cfg now db).2 := rfl
    rw [hcommitted, hworking, commitIf]
    simp only [forall_true_left]
    by_cases hcounted : someUnresolved now db = true
    · rw [if_pos (decide_eq_true ((runCourtesyUnlockExpiryPass_count db).2 hcounted))]
      exact iff_of_true ⟨rfl, rfl, rfl⟩ fun _ => hcounted
    have hzero : ¬ decide ((runCourtesyUnlockExpiryPass cfg now db).1 ≠ 0) = true := by
      rw [decide_eq_true_eq, runCourtesyUnlockExpiryPass_count]
      exact hcounted
    rw [if_neg hzero]
    by_cases hended : db.tenants.any (courtesyUnlockEnded now) = true
    · refine iff_of_false (fun h => courtesy_tenants_ne hended h.tenants) fun h => ?_
      exact hcounted (h hended)
    refine iff_of_true ?_ fun h => absurd h hended
    have hnone : db.tenants.select (courtesyUnlockEnded now) = [] := by
      rw [List.eq_nil_iff_forall_not_mem]
      intro t ht
      obtain ⟨tenant, hrow, htenant⟩ := Table.mem_select.1 ht
      exact hended (List.any_eq_true.2 ⟨tenant, List.mem_of_getElem? hrow, htenant⟩)
    rw [runCourtesyUnlockExpiryPass, hnone]
    exact ⟨rfl, rfl, rfl⟩
  rw [endSession_working hstage]
  exact iff_of_true ⟨rfl, rfl, rfl⟩ fun h => absurd h hstage

end Stages

/-- **A pass persists what its stages did exactly when the courtesy pass, unless it raises, finds
an unlock to count wherever it clears one.** -/
theorem pass_persists_iff (faults : PassFaults) (cfg : Settings) (clock : Stage → Time) (db : Db) :
    PassPersists faults cfg clock db
      ↔ (faults.raises .courtesyExpiry = false →
          UnlocksCounted (clock .courtesyExpiry)
            (stageStart faults cfg clock .courtesyExpiry db)) := by
  have hstage : ∀ stage, faults.raises stage = false →
      (SameRecords (passStage faults cfg clock (stageStart faults cfg clock stage db) stage)
          (stageWork cfg faults.billing (clock stage) stage
            (stageStart faults cfg clock stage db)).2.working
        ↔ (stage = .courtesyExpiry →
            UnlocksCounted (clock stage) (stageStart faults cfg clock stage db))) := by
    intro stage hraises
    rw [passStage, hraises, if_neg Bool.false_ne_true]
    exact stage_persists_iff stage
  constructor
  · intro h hraises
    exact (hstage _ hraises).1 (h _ hraises) rfl
  intro h stage hraises
  refine (hstage stage hraises).2 ?_
  rintro rfl
  exact h hraises

namespace Example

/-- A school that owes nothing, with a courtesy unlock. -/
def unlockedInOrder : List Event :=
  [.catalogue [basicPlan] [],
   .staff (day 0) operator (.createTenant { externalId := "s", slug := "s", name := "School" }),
   .staff (day 0) operator (.courtesyUnlock goodwill)]

end Example

/-- The unlock of a school that owes nothing is not cleared when it has ended. -/
theorem not_pass_persists :
    ¬ ∀ (faults : PassFaults) (cfg : Settings) (clock : Stage → Time) (db : Db), Reach cfg db →
      PassPersists faults cfg clock db := by
  intro h
  have hreach : Reach Example.settings (run (step Example.settings) {} Example.unlockedInOrder) :=
    ⟨_, rfl⟩
  have htenants := (h {} Example.settings (fun _ => Example.day 30) _ hreach .courtesyExpiry
    rfl).tenants
  have hlost : (passStage {} Example.settings (fun _ => Example.day 30)
        (stageStart {} Example.settings (fun _ => Example.day 30) .courtesyExpiry
          (run (step Example.settings) {} Example.unlockedInOrder)) .courtesyExpiry).tenants.map
            (·.courtesyUnlockUntil)
      ≠ (stageWork Example.settings {} (Example.day 30) .courtesyExpiry
          (stageStart {} Example.settings (fun _ => Example.day 30) .courtesyExpiry
            (run (step Example.settings) {} Example.unlockedInOrder))).2.working.tenants.map
              (·.courtesyUnlockUntil) := by
    decide
  exact hlost (congrArg (List.map (·.courtesyUnlockUntil)) htenants)

end MultiAcademy.Control
