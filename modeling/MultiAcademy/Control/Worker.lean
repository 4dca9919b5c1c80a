import MultiAcademy.Control.Billing
import MultiAcademy.Control.Lifecycle

/-!
# The billing worker

`services/billing_worker.py`: one scheduling pass is six stages, each in its own
session.  A stage commits when its pass reports work and rolls back otherwise;
invoice generation commits by itself, one subscription at a time.
-/

namespace MultiAcademy.Control

open MultiAcademy.Lib

inductive Stage
  | trial | generateDue | unsubscribed | courtesyExpiry | dunning | wipes
  deriving DecidableEq

/-- The order of `_run_pass`. -/
def Stage.order : List Stage :=
  [.trial, .generateDue, .unsubscribed, .courtesyExpiry, .dunning, .wipes]

/-- `max(1, int(dunning_grace_days or 7))`. -/
def workerGraceDays (cfg : Settings) : ℤ :=
  max 1 (if cfg.dunningGraceDays = 0 then 7 else cfg.dunningGraceDays)

/-- Commit the pass when it did some work, roll back otherwise. -/
def commitIf (worked : Bool) (db' db : Db) : Db := if worked then db' else db

/-- The limit of `dispatch_due_wipes`. -/
def wipeLimit : ℕ := 20

/-- One stage of `_run_pass`. -/
def runStage (cfg : Settings) (now : Time) (stage : Stage) (db : Db) : Db :=
  match stage with
  | .trial =>
    let (counts, db') := runTrialPass cfg now db
    commitIf (counts.reminders ≠ 0 ∨ counts.expired ≠ 0) db' db
  | .generateDue => (generateDueInvoices now db).2
  | .unsubscribed =>
    let (suspended, db') := runUnsubscribedPass cfg now (workerGraceDays cfg) db
    commitIf (suspended ≠ 0) db' db
  | .courtesyExpiry =>
    let (expired, db') := runCourtesyUnlockExpiryPass cfg now db
    commitIf (expired ≠ 0) db' db
  | .dunning =>
    let (results, db') := runDunningPass cfg now (workerGraceDays cfg) db
    commitIf (results ≠ []) db' db
  | .wipes =>
    let (results, db') := dispatchDueWipes cfg now wipeLimit db
    commitIf (results ≠ 0) db' db

/-- `_run_pass`; each stage reads the clock for itself. -/
def runPass (cfg : Settings) (clock : Stage → Time) (db : Db) : Db :=
  Stage.order.foldl (fun db stage => runStage cfg (clock stage) stage db) db

end MultiAcademy.Control
