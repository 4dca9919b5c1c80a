import MultiAcademy.School.Invoices

/-!
# What a settlement does to the money

A call of `verify` or a webhook, run from its start to its end, inserts one payment and
marks its invoice paid when the closed sessions cover it, or touches neither table.
-/

namespace MultiAcademy.School

open MultiAcademy.Lib

def SettlePhase.toInsert : SettlePhase → Option Settlement
  | .inserting job => some job
  | _ => none

/-- How many steps a call takes before it inserts. -/
def Source.lead : Source → ℕ
  | .verify _ => 4
  | .webhook _ _ _ => 2

/-- The settlement whose payment a call inserts, when nothing else interrupts it. -/
def settles (source : Source) (env : GatewayEnv) (reply : Reply) (db : FeeDb) :
    Option Settlement :=
  (settleFor env reply source.lead (source.start, db)).1.toInsert

/-- With the session, the closed sessions cover the invoice. -/
def Settlement.covers (job : Settlement) (i : ℕ) (db : FeeDb) : Bool :=
  db.invoices[i]?.any fun row => row.amount ≤ settledAmount i db + job.session.amount

variable {db db' : FeeDb} {env : GatewayEnv} {reply : Reply} {job : Settlement} {paymentId : ℕ}
  {phase : SettlePhase} {source : Source} {i : ℕ}

/-! ## What a settlement leaves alone -/

/-- The keys of the sessions, the plans and the number of invoices are as they were. -/
structure SameKeys (db db' : FeeDb) : Prop where
  invoices : db'.invoices.length = db.invoices.length
  plans : db'.plans = db.plans
  sessions : db'.sessions.map (fun row => (row.kind, row.invoiceId))
    = db.sessions.map fun row => (row.kind, row.invoiceId)

theorem SameKeys.refl (db : FeeDb) : SameKeys db db := ⟨rfl, rfl, rfl⟩

theorem SameKeys.trans {db'' : FeeDb} (h : SameKeys db db') (h' : SameKeys db' db'') :
    SameKeys db db'' :=
  ⟨h'.invoices.trans h.invoices, h'.plans.trans h.plans, h'.sessions.trans h.sessions⟩

theorem sameKeys_markSettled (sid : ℕ) (q : String) (db : FeeDb) :
    SameKeys db (markSettled sid q db) := by
  refine ⟨rfl, rfl, ?_⟩
  apply List.ext_getElem?
  intro k
  simp only [markSettled, List.getElem?_map, List.getElem?_modify]
  cases db.sessions[k]? with
  | none => rfl
  | some row =>
    by_cases hk : sid = k
    · simp [hk, CheckoutSession.settle]
    · simp [hk]

theorem sameKeys_paidStep (stage : Stage) (job : Settlement) (paymentId : ℕ) (db : FeeDb) :
    SameKeys db (paidStep stage job paymentId db).2 := by
  cases stage with
  | session => exact sameKeys_markSettled _ _ db
  | balance =>
    simp only [paidStep]
    split
    · exact SameKeys.refl db
    · exact SameKeys.refl db
  | invoice =>
    simp only [paidStep]
    cases job.session.invoiceId with
    | none => exact SameKeys.refl db
    | some i => exact ⟨by simp [markInvoicePaid], rfl, rfl⟩
  | reminders =>
    simp only [paidStep]
    cases job.session.invoiceId with
    | none => exact SameKeys.refl db
    | some i => exact ⟨rfl, rfl, rfl⟩
  | installment =>
    simp only [paidStep]
    cases job.session.installmentId with
    | none => exact SameKeys.refl db
    | some i => exact ⟨rfl, rfl, rfl⟩
  | credit => exact ⟨rfl, rfl, rfl⟩

theorem sameKeys_settleStep (env : GatewayEnv) (reply : Reply) (phase : SettlePhase)
    (db : FeeDb) : SameKeys db (settleStep env reply phase db).2 := by
  cases phase with
  | lookup | verifying | charging | checking =>
    simp only [settleStep]
    split
    · exact SameKeys.refl db
    · exact SameKeys.refl db
  | inserting job =>
    simp only [settleStep]
    split
    · exact SameKeys.refl db
    · exact ⟨rfl, rfl, rfl⟩
  | closing sid q receipt => exact sameKeys_markSettled sid q db
  | paid stage job paymentId => exact sameKeys_paidStep stage job paymentId db
  | reading | answered | failed => exact SameKeys.refl db

theorem sameKeys_settleFor (n : ℕ) (x : SettlePhase × FeeDb) :
    SameKeys x.2 (settleFor env reply n x).2 :=
  settleFor_invariant (I := fun y => SameKeys x.2 y.2)
    (fun y h => h.trans (sameKeys_settleStep env reply y.1 y.2)) (SameKeys.refl x.2) n

theorem settleFor_add (m n : ℕ) (x : SettlePhase × FeeDb) :
    settleFor env reply (m + n) x = settleFor env reply n (settleFor env reply m x) := by
  induction m generalizing x with
  | zero => rw [Nat.zero_add]; rfl
  | succ m ih => rw [Nat.succ_add]; exact ih _

/-! ## A call that inserts nothing -/

/-- The tables of payments and invoices are as they were. -/
def SameMoney (db db' : FeeDb) : Prop := db'.payments = db.payments ∧ db'.invoices = db.invoices

theorem SameMoney.trans {db'' : FeeDb} (h : SameMoney db db') (h' : SameMoney db' db'') :
    SameMoney db db'' := ⟨h'.1.trans h.1, h'.2.trans h.2⟩

/-- The call ends without an insertion. -/
def SettlePhase.quiet : SettlePhase → Bool
  | .charging _ | .closing _ _ _ | .answered _ _ | .failed _ _ => true
  | _ => false

theorem quiet_settleStep (hquiet : phase.quiet = true) :
    (settleStep env reply phase db).1.quiet = true
      ∧ SameMoney db (settleStep env reply phase db).2 := by
  cases phase with
  | charging saas =>
    simp only [settleStep]
    split
    · exact ⟨rfl, rfl, rfl⟩
    · exact ⟨rfl, rfl, rfl⟩
  | closing | answered | failed => exact ⟨rfl, rfl, rfl⟩
  | lookup | verifying | reading | checking | inserting | paid => cases hquiet

theorem quiet_settleFor (n : ℕ) (hquiet : phase.quiet = true) :
    (settleFor env reply n (phase, db)).1.quiet = true
      ∧ SameMoney db (settleFor env reply n (phase, db)).2 := by
  refine settleFor_invariant (I := fun x => x.1.quiet = true ∧ SameMoney db x.2) ?_
    ⟨hquiet, rfl, rfl⟩ n
  rintro ⟨phase, db'⟩ ⟨hphase, hsame⟩
  obtain ⟨hnext, hstep⟩ := quiet_settleStep hphase
  exact ⟨hnext, hsame.trans hstep⟩

theorem toInsert_eq_none (hquiet : phase.quiet = true) : phase.toInsert = none := by
  cases phase with
  | charging | closing | answered | failed => rfl
  | lookup | verifying | reading | checking | inserting | paid => cases hquiet

/-! ## A call up to its insertion -/

/-- The settlement is of an open session, under a reference no payment has. -/
structure Ready (db : FeeDb) (job : Settlement) : Prop where
  row : db.sessions[job.sessionId]? = some job.session
  pending : job.session.status = .pending
  schoolFee : job.session.kind ≠ .saasSubscription
  positive : 0 < job.session.amount
  unused : findPayment job.input.providerReference db = none

/-- Where a call is that has written no payment: about to insert one, or quiet. -/
def Leads (db : FeeDb) (x : SettlePhase × FeeDb) : Prop :=
  (x.1.quiet = true ∧ SameMoney db x.2) ∨ ∃ job, x = (.inserting job, db) ∧ Ready db job

theorem quiet_chargeSaas (sid : ℕ) (session : CheckoutSession) (amountMinor : ℤ)
    (providerId providerReference : String) :
    (chargeSaas sid session amountMinor providerId providerReference).quiet = true := by
  simp only [chargeSaas]
  split
  · rfl
  · rfl

theorem pending_of_not_closed {status : SessionStatus} (h : ¬ status.closed = true) :
    status = .pending := by
  cases status with
  | pending => rfl
  | settled | success => exact absurd rfl h

/-- From reading the session, two steps. -/
theorem leads_reading (input : SettleInput) (db : FeeDb) :
    Leads db (settleFor env reply 2 (.reading input, db)) := by
  have hquiet : ∀ {phase : SettlePhase}, phase.quiet = true →
      Leads db (settleFor env reply 1 (phase, db)) :=
    fun h => Or.inl (quiet_settleFor 1 h)
  change Leads db (settleFor env reply 1 (readSession input db, db))
  simp only [readSession]
  split
  · exact hquiet rfl
  rename_i sid session hfound
  split
  · exact hquiet rfl
  rename_i hopen
  split
  · exact hquiet rfl
  rename_i hamount
  split
  · exact hquiet rfl
  split
  · exact hquiet (quiet_chargeSaas _ _ _ _ _)
  rename_i hkind
  simp only [settleFor, settleStep]
  cases hunused : findPayment input.providerReference db with
  | some paymentId => exact Or.inl ⟨rfl, rfl, rfl⟩
  | none =>
    refine Or.inr ⟨_, rfl, (findSession_eq_some hfound).1,
      pending_of_not_closed hopen, hkind, ?_, hunused⟩
    rw [not_or, not_le, not_not] at hamount
    exact hamount.2 ▸ hamount.1

theorem leads_quiet (n : ℕ) (hquiet : phase.quiet = true) :
    Leads db (settleFor env reply n (phase, db)) := Or.inl (quiet_settleFor n hquiet)

theorem leads_verified (reference : String) (session : Option (ℕ × CheckoutSession))
    (verification : PaymentVerification) :
    Leads db (settleFor env reply 2 (verified reference session verification, db)) := by
  unfold verified
  split
  · exact leads_quiet 2 rfl
  simp only
  split
  · exact leads_quiet 2 (quiet_chargeSaas _ _ _ _ _)
  · exact leads_reading _ db

theorem leads_verifying (reference : String) (session : Option (ℕ × CheckoutSession)) :
    Leads db (settleFor env reply 3 (.verifying reference session, db)) := by
  rw [settleFor]
  simp only [settleStep]
  split
  · exact leads_quiet 2 rfl
  · exact leads_verified reference session _

/-- **A call gets to its insertion, or is quiet.** -/
theorem leads_start (env : GatewayEnv) (reply : Reply) (db : FeeDb) (source : Source) :
    Leads db (settleFor env reply source.lead (source.start, db)) := by
  cases source with
  | webhook providerId gatewayId result =>
    simp only [Source.start, webhookPhase, Source.lead]
    split
    · exact leads_quiet 2 rfl
    split
    · exact leads_quiet 2 rfl
    · exact leads_reading _ db
  | verify reference =>
    simp only [Source.start, Source.lead]
    rw [settleFor]
    simp only [settleStep]
    split
    · exact leads_quiet 3 rfl
    · exact leads_verifying reference _

/-! ## A call after its insertion -/

/-- No more writes to the invoices are to come. -/
def SettlePhase.tail : SettlePhase → Bool
  | .paid .reminders _ _ | .paid .installment _ _ | .paid .credit _ _ | .answered _ _ => true
  | _ => false

theorem tail_afterInstallment (job : Settlement) (paymentId : ℕ) :
    (afterInstallment job paymentId).tail = true := by
  simp only [afterInstallment]
  split
  · rfl
  · rfl

theorem tail_afterInvoice (job : Settlement) (paymentId : ℕ) :
    (afterInvoice job paymentId).tail = true := by
  simp only [afterInvoice]
  split
  · rfl
  · exact tail_afterInstallment job paymentId

theorem tail_reminders (job : Settlement) (paymentId : ℕ) :
    (SettlePhase.paid .reminders job paymentId).tail = true := rfl

theorem tail_settleStep (htail : phase.tail = true) :
    (settleStep env reply phase db).1.tail = true
      ∧ SameMoney db (settleStep env reply phase db).2 := by
  cases phase with
  | paid stage job paymentId =>
    cases stage with
    | reminders =>
      refine ⟨tail_afterInvoice job paymentId, ?_⟩
      simp only [settleStep, paidStep]
      cases job.session.invoiceId with
      | none => exact ⟨rfl, rfl⟩
      | some i => exact ⟨rfl, rfl⟩
    | installment =>
      refine ⟨tail_afterInstallment job paymentId, ?_⟩
      simp only [settleStep, paidStep]
      cases job.session.installmentId with
      | none => exact ⟨rfl, rfl⟩
      | some i => exact ⟨rfl, rfl⟩
    | credit => exact ⟨rfl, rfl, rfl⟩
    | session | balance | invoice => cases htail
  | answered => exact ⟨rfl, rfl, rfl⟩
  | lookup | verifying | reading | charging | closing | checking | inserting | failed =>
    cases htail

theorem tail_settleFor (env : GatewayEnv) (reply : Reply) (db : FeeDb) (n : ℕ)
    (htail : phase.tail = true) :
    SameMoney db (settleFor env reply n (phase, db)).2 := by
  refine (settleFor_invariant (I := fun x => x.1.tail = true ∧ SameMoney db x.2) ?_
    ⟨htail, rfl, rfl⟩ n).2
  rintro ⟨phase, db'⟩ ⟨hphase, hsame⟩
  obtain ⟨hnext, hstep⟩ := tail_settleStep hphase
  exact ⟨hnext, hsame.trans hstep⟩

def Settlement.payInvoice (job : Settlement) (db : FeeDb) : Table FeeInvoice :=
  job.session.invoiceId.elim db.invoices fun i =>
    if job.covers i db then db.invoices.modify i fun row => { row with status := .paid }
    else db.invoices

/-- **A call after its insertion leaves the payments, and marks the invoice paid when the
closed sessions cover it.** -/
theorem settleFor_inserted (hready : Ready db job) (n : ℕ) :
    (settleFor env reply (n + 4) (.inserting job, db)).2.payments
        = db.payments.insert job.payment
      ∧ (settleFor env reply (n + 4) (.inserting job, db)).2.invoices = job.payInvoice db := by
  have hinsert : settleStep env reply (.inserting job) db
      = (.paid .session job db.payments.nextId,
        { db with payments := db.payments.insert job.payment }) := by
    simp [settleStep, hready.unused]
  -- after the insertion and the session, before the invoice
  set closed : FeeDb := markSettled job.sessionId job.input.providerReference
    { db with payments := db.payments.insert job.payment } with hclosed
  have hsession : settleFor env reply (n + 4) (.inserting job, db)
      = settleFor env reply (n + 2) (afterSession job db.payments.nextId, closed) := by
    rw [show n + 4 = (n + 2) + 1 + 1 from rfl, settleFor, hinsert]
    rfl
  rw [hsession, afterSession]
  cases hi : job.session.invoiceId with
  | none =>
    rw [if_neg (by simp)]
    have htail := tail_settleFor env reply closed (n + 2)
      (tail_afterInvoice job db.payments.nextId)
    exact ⟨htail.1, by rw [htail.2, Settlement.payInvoice, hi]; rfl⟩
  | some i =>
    rw [if_pos (by simp)]
    have hamount : settledAmount i closed = settledAmount i db + job.session.amount :=
      settledAmount_markSettled hready.row hready.pending hi
    have hcovers : invoiceCovered i closed = job.covers i db := by
      rw [invoiceCovered, hamount]
      rfl
    rw [show n + 2 = n + 1 + 1 from rfl, settleFor]
    simp only [settleStep, paidStep, hi, Option.any_some, hcovers, Settlement.payInvoice,
      Option.elim_some]
    split
    · rw [settleFor]
      simp only [settleStep, paidStep, hi, Option.elim_some]
      have htail := tail_settleFor env reply (markInvoicePaid i closed) n
        (tail_reminders job db.payments.nextId)
      exact ⟨htail.1, htail.2⟩
    have htail := tail_settleFor env reply closed (n + 1)
      (tail_reminders job db.payments.nextId)
    exact ⟨htail.1, htail.2⟩

/-- **What a settlement does to the money.** -/
theorem settlement_cases (source : Source) (env : GatewayEnv) (reply : Reply) (db : FeeDb) :
    (settles source env reply db = none ∧ SameMoney db (settlement source env reply db))
    ∨ ∃ job, settles source env reply db = some job ∧ Ready db job
      ∧ (settlement source env reply db).payments = db.payments.insert job.payment
      ∧ (settlement source env reply db).invoices = job.payInvoice db := by
  have hrun : settlement source env reply db
      = (settleFor env reply (11 - source.lead)
          (settleFor env reply source.lead (source.start, db))).2 := by
    rw [← settleFor_add]
    cases source with
    | verify => rfl
    | webhook => rfl
  rw [hrun, settles]
  rcases leads_start env reply db source with ⟨hquiet, hsame⟩ | ⟨job, hjob, hready⟩
  · refine Or.inl ⟨toInsert_eq_none hquiet, hsame.trans ?_⟩
    exact (quiet_settleFor _ hquiet).2
  refine Or.inr ⟨job, by rw [hjob]; rfl, hready, ?_⟩
  rw [hjob]
  cases source with
  | verify => exact settleFor_inserted hready 3
  | webhook => exact settleFor_inserted hready 5

end MultiAcademy.School
