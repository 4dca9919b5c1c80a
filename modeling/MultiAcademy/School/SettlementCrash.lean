import MultiAcademy.School.SettlementRace

/-!
# Settlement after a crash

A settlement writes the payment, the session, the invoice, the installment and the advance
credit one after another.  A retry looks at the first two only: when the session is settled
it answers success, and when there is a payment under its reference it settles the session
and answers success, so what a stopped attempt left undone stays undone.
-/

namespace MultiAcademy.School

open MultiAcademy.Lib

/-- What starts an attempt. -/
inductive Source
  | verify (reference : String)
  | webhook (providerId gatewayId : String) (result : WebhookResult)

def Source.start : Source → SettlePhase
  | .verify reference => .lookup reference
  | .webhook providerId gatewayId result => webhookPhase providerId gatewayId result

def Source.reference : Source → String
  | .verify reference => reference
  | .webhook _ _ result => result.reference

/-- An attempt to settle a session: it stops after some steps, when it has not ended before. -/
structure Attempt where
  source : Source
  env : GatewayEnv
  reply : Reply
  steps : ℕ

/-- Some steps of a call that nothing else interrupts. -/
def settleFor (env : GatewayEnv) (reply : Reply) : ℕ → SettlePhase × FeeDb → SettlePhase × FeeDb
  | 0, x => x
  | n + 1, x => settleFor env reply n (settleStep env reply x.1 x.2)

def Attempt.run (a : Attempt) (db : FeeDb) : SettlePhase × FeeDb :=
  settleFor a.env a.reply a.steps (a.source.start, db)

def attemptStep (a : Attempt) (db : FeeDb) : FeeDb := (a.run db).2

def SettlePhase.succeeded : SettlePhase → Bool
  | .answered .success _ => true
  | _ => false

/-- The provider's reference `verify` settles under. -/
def Reply.providerReference (reference : String) (reply : Reply) : String :=
  match reply.verification with
  | .ok verification =>
    if verification.providerReference = "" then reference else verification.providerReference
  | .error _ => reference

def Attempt.providerReference (a : Attempt) : String :=
  match a.source with
  | .verify reference => a.reply.providerReference reference
  | .webhook _ _ result => result.reference

/-- An attempt to settle the session, under a reference that names no other transaction. -/
def Attempt.retries (r : String) (db : FeeDb) (a : Attempt) : Prop :=
  a.source.reference = r ∧ findPayment a.providerReference db = none

/-! ## The effects -/

/-- The invoice is paid when the closed sessions cover it. -/
def InvoiceDone (session : CheckoutSession) (db : FeeDb) : Prop :=
  ∀ i, session.invoiceId = some i → ∀ inv, db.invoices[i]? = some inv →
    inv.amount ≤ settledAmount i db → inv.status = .paid

def InstallmentDone (session : CheckoutSession) (db : FeeDb) : Prop :=
  ∀ i, session.installmentId = some i → ∀ row, db.installments[i]? = some row →
    row.status = .paid

/-- All effects of settling the session are there, once. -/
structure Effects (sessionId : ℕ) (session : CheckoutSession) (db : FeeDb) : Prop where
  payment : ∃ row, db.payments.filter (FeePayment.settles session.reference) = [row]
    ∧ row.studentId = session.studentId ∧ row.invoiceId = session.invoiceId
    ∧ row.installmentId = session.installmentId ∧ row.amount = session.amount
    ∧ row.status = .completed
  settled : ∃ row, db.sessions[sessionId]? = some row ∧ row.status = .settled
  invoice : InvoiceDone session db
  installment : InstallmentDone session db
  credit : (db.credits.filter fun row => row.reference = session.reference).map (·.amount)
    = if session.kind = .advance then [session.amount] else []

/-- A school-fee session that nothing has settled yet. -/
structure Unsettled (sessionId : ℕ) (session : CheckoutSession) (db : FeeDb) : Prop where
  found : findSession session.reference db = some (sessionId, session)
  named : session.reference ≠ ""
  pending : session.status = .pending
  schoolFee : session.kind ≠ .saasSubscription
  unpaid : paymentsOf session.reference db = 0
  uncredited : creditsOf session.reference db = 0

/-! ## What is due -/

def CheckoutSession.invoiceDue (session : CheckoutSession) (db : FeeDb) : Bool :=
  session.invoiceId.any fun i =>
    db.invoices[i]?.any fun inv =>
      inv.status ≠ .paid && inv.amount ≤ settledAmount i db + session.amount

def CheckoutSession.installmentDue (session : CheckoutSession) (db : FeeDb) : Bool :=
  session.installmentId.any fun i => db.installments[i]?.any fun row => row.status ≠ .paid

/-- A write is due at a stage after the payment or later. -/
def CheckoutSession.due (session : CheckoutSession) (db : FeeDb) : Stage → Bool
  | .session | .credit => true
  | .balance | .invoice =>
    session.invoiceDue db || session.installmentDue db || session.kind = .advance
  | .reminders | .installment => session.installmentDue db || session.kind = .advance

/-- The attempt stops after its payment, with a write still due. -/
def Attempt.interrupted (session : CheckoutSession) (a : Attempt) (db : FeeDb) : Bool :=
  match (a.run db).1 with
  | .paid stage _ _ => session.due db stage
  | _ => false

variable {env : GatewayEnv} {reply : Reply} {sid : ℕ} {session : CheckoutSession} {db db0 : FeeDb}
  {job : Settlement} {paymentId : ℕ} {stage : Stage} {a : Attempt} {q : String}

/-! ## Sessions -/

variable {x : SettlePhase × FeeDb} {r : String} {row : CheckoutSession}

theorem findSession_eq_some
    (h : findSession r db = some (sid, row)) :
    db.sessions[sid]? = some row ∧ row.reference = r := by
  simp only [findSession] at h
  obtain ⟨id, hfirst, hmap⟩ := Option.bind_eq_some_iff.1 h
  obtain ⟨row', hrow, heq⟩ := Option.map_eq_some_iff.1 hmap
  cases heq
  obtain ⟨row', hrow', hp⟩ := Table.mem_select.1 (Table.mem_of_first? hfirst)
  rw [hrow] at hrow'
  cases hrow'
  exact ⟨hrow, of_decide_eq_true hp⟩

theorem findSession_congr (h : db.sessions = db0.sessions) :
    findSession r db = findSession r db0 := by
  rw [findSession, findSession, h]

/-- A settled session is found where it was. -/
theorem findSession_markSettled
    (h : findSession r db = some (sid, row)) :
    findSession r (markSettled sid q db) = some (sid, row.settle q) := by
  obtain ⟨hrow, -⟩ := findSession_eq_some h
  simp only [findSession] at h ⊢
  obtain ⟨id, hfirst, hmap⟩ := Option.bind_eq_some_iff.1 h
  obtain ⟨row', -, heq⟩ := Option.map_eq_some_iff.1 hmap
  cases heq
  have hsame : (markSettled sid q db).sessions.first? (fun row => row.reference = r)
      = some sid :=
    (Table.first?_modify (f := CheckoutSession.settle q) db.sessions sid fun _ => rfl).trans hfirst
  rw [hsame]
  simp [markSettled, List.getElem?_modify, hrow]

theorem settledAmount_markSettled {i : ℕ} (hrow : db.sessions[sid]? = some session)
    (hpending : session.status = .pending) (hi : session.invoiceId = some i) :
    settledAmount i (markSettled sid q db) = settledAmount i db + session.amount := by
  rw [settledAmount, settledAmount, markSettled, Table.total_modify hrow]
  simp [hi, hpending, SessionStatus.closed, CheckoutSession.settle]

/-! ## From the payment to the answer -/

/-- A settlement of the session that has passed its checks. -/
structure Chosen (db0 : FeeDb) (sid : ℕ) (session : CheckoutSession) (job : Settlement) :
    Prop where
  sessionId : job.sessionId = sid
  row : job.session = session
  reference : job.input.reference = session.reference
  unused : findPayment job.input.providerReference db0 = none
  positive : 0 < session.amount

/-- The payment is there and the session is settled; no credit is given yet. -/
structure Booked (db0 : FeeDb) (sid : ℕ) (session : CheckoutSession) (job : Settlement)
    (db : FeeDb) : Prop where
  chosen : Chosen db0 sid session job
  payments : db.payments = db0.payments.insert job.payment
  credits : db.credits = db0.credits
  sessions : db.sessions = (markSettled sid job.input.providerReference db0).sessions

/-- The tables at a stage after the payment, compared with those before the attempt. -/
def Midway (db0 : FeeDb) (sid : ℕ) (session : CheckoutSession) (stage : Stage)
    (job : Settlement) (db : FeeDb) : Prop :=
  match stage with
  | .session =>
    Chosen db0 sid session job ∧ db = { db0 with payments := db0.payments.insert job.payment }
  | .balance | .invoice =>
    Booked db0 sid session job db ∧ db.invoices = db0.invoices
      ∧ db.installments = db0.installments
  | .reminders | .installment =>
    Booked db0 sid session job db ∧ InvoiceDone session db
      ∧ db.installments = db0.installments
  | .credit =>
    Booked db0 sid session job db ∧ InvoiceDone session db ∧ InstallmentDone session db
      ∧ session.kind = .advance

/-- The session is found settled. -/
def Closed (sid : ℕ) (session : CheckoutSession) (db : FeeDb) : Prop :=
  ∃ row, findSession session.reference db = some (sid, row) ∧ row.status = .settled
    ∧ row.kind = session.kind

theorem Booked.closed (h : Booked db0 sid session job db) (hu : Unsettled sid session db0) :
    Closed sid session db := by
  refine ⟨session.settle job.input.providerReference, ?_, rfl, rfl⟩
  rw [findSession_congr h.sessions]
  exact findSession_markSettled hu.found

theorem Booked.settledAmount_eq (h : Booked db0 sid session job db)
    (hu : Unsettled sid session db0) {i : ℕ} (hi : session.invoiceId = some i) :
    settledAmount i db = settledAmount i db0 + session.amount := by
  have hmarked := settledAmount_markSettled (q := job.input.providerReference)
    (findSession_eq_some hu.found).1 hu.pending hi
  rw [settledAmount] at hmarked
  rw [settledAmount, h.sessions]
  exact hmarked

/-- With the invoice, the installment and the credit done, all effects are there. -/
theorem Booked.effects (h : Booked db0 sid session job db) (hu : Unsettled sid session db0)
    (hinvoice : InvoiceDone session db) (hinstallment : InstallmentDone session db)
    (paymentId : ℕ) (credits : Table AdvanceCredit)
    (hcredit : credits = if session.kind = .advance then db0.credits.insert
      (job.credit paymentId) else db0.credits) : Effects sid session { db with credits } := by
  obtain ⟨hsid, hrow, href, -, -⟩ := h.chosen
  have hnone : db0.payments.filter (FeePayment.settles session.reference) = [] := by
    have hcount := hu.unpaid
    rwa [paymentsOf, List.countP_eq_length_filter, List.length_eq_zero_iff] at hcount
  have hfree : (db0.credits.filter fun row => row.reference = session.reference) = [] := by
    have hcount := hu.uncredited
    rwa [creditsOf, List.countP_eq_length_filter, List.length_eq_zero_iff] at hcount
  refine ⟨⟨job.payment, ?_, ?_⟩, ?_, hinvoice, hinstallment, ?_⟩
  · simp only [h.payments, Table.insert, List.filter_append, hnone]
    simp [FeePayment.settles, Settlement.payment, href]
  · simp [Settlement.payment, hrow]
  · refine ⟨session.settle job.input.providerReference, ?_, rfl⟩
    simp [h.sessions, markSettled, (findSession_eq_some hu.found).1]
  rw [hcredit]
  by_cases hadvance : session.kind = .advance
  · simp only [hadvance, if_true, Table.insert, List.filter_append, hfree]
    simp [Settlement.credit, href, hrow]
  simp only [hadvance, if_false, hfree]
  rfl

/-- Where a call is that has inserted the payment: at a stage, or at its end. -/
def Underway (db0 : FeeDb) (sid : ℕ) (session : CheckoutSession) (x : SettlePhase × FeeDb) :
    Prop :=
  match x.1 with
  | .paid stage job _ => Midway db0 sid session stage job x.2
  | phase => phase.succeeded = true ∧ Effects sid session x.2 ∧ Closed sid session x.2

/-- From the installment on. -/
theorem underway_afterInstallment (h : Booked db0 sid session job db)
    (hu : Unsettled sid session db0) (hinvoice : InvoiceDone session db)
    (hinstallment : InstallmentDone session db) :
    Underway db0 sid session (afterInstallment job paymentId, db) := by
  simp only [afterInstallment]
  rw [h.chosen.row]
  split
  · rename_i hadvance
    exact ⟨h, hinvoice, hinstallment, hadvance⟩
  rename_i hadvance
  refine ⟨rfl, h.effects hu hinvoice hinstallment paymentId _ ?_, h.closed hu⟩
  rw [if_neg hadvance]
  exact h.credits

/-- From the invoice on. -/
theorem underway_afterInvoice (h : Booked db0 sid session job db)
    (hu : Unsettled sid session db0) (hinvoice : InvoiceDone session db)
    (hinstallments : db.installments = db0.installments) :
    Underway db0 sid session (afterInvoice job paymentId, db) := by
  simp only [afterInvoice]
  rw [h.chosen.row]
  split
  · exact ⟨h, hinvoice, hinstallments⟩
  rename_i hnone
  refine underway_afterInstallment h hu hinvoice ?_
  intro i hi
  rw [hi] at hnone
  exact absurd rfl hnone

/-- Paying the invoice does what is due to it, and nothing else. -/
theorem invoiceDone_markPaid (session : CheckoutSession) (db : FeeDb) :
    ∃ invoices, (session.invoiceId.elim db fun i => markInvoicePaid i db) = { db with invoices }
      ∧ InvoiceDone session { db with invoices } := by
  cases hi : session.invoiceId with
  | none =>
    refine ⟨_, rfl, ?_⟩
    intro i hsome
    rw [hi] at hsome
    cases hsome
  | some i =>
    refine ⟨_, rfl, ?_⟩
    intro i' hsome inv hinv _
    rw [hi] at hsome
    cases hsome
    simp only [List.getElem?_modify] at hinv
    obtain ⟨old, -, rfl⟩ := Option.map_eq_some_iff.1 hinv
    simp

theorem stopReminders_frame (invoiceId : Option ℕ) (db : FeeDb) :
    ∃ reminders, (invoiceId.elim db fun i => stopReminders i db) = { db with reminders } := by
  cases invoiceId with
  | none => exact ⟨_, rfl⟩
  | some i => exact ⟨_, rfl⟩

/-- Paying the installment does what is due to it, and nothing else. -/
theorem installmentDone_markPaid (session : CheckoutSession) (db : FeeDb) :
    ∃ installments, (session.installmentId.elim db fun i => markInstallmentPaid i db)
        = { db with installments }
      ∧ InstallmentDone session { db with installments } := by
  cases hi : session.installmentId with
  | none =>
    refine ⟨_, rfl, ?_⟩
    intro i hsome
    rw [hi] at hsome
    cases hsome
  | some i =>
    refine ⟨_, rfl, ?_⟩
    intro i' hsome row hrow
    rw [hi] at hsome
    cases hsome
    simp only [List.getElem?_modify] at hrow
    obtain ⟨old, -, rfl⟩ := Option.map_eq_some_iff.1 hrow
    simp

/-- **Each write after the payment keeps what the earlier ones have done.** -/
theorem underway_paidStep (h : Midway db0 sid session stage job db)
    (hu : Unsettled sid session db0) :
    Underway db0 sid session (paidStep stage job paymentId db) := by
  cases stage with
  | session =>
    obtain ⟨hchosen, rfl⟩ := h
    have hbooked : Booked db0 sid session job
        (markSettled job.sessionId job.input.providerReference
          { db0 with payments := db0.payments.insert job.payment }) := by
      refine ⟨hchosen, rfl, rfl, ?_⟩
      rw [hchosen.sessionId]
      rfl
    simp only [paidStep, afterSession, hchosen.row]
    split
    · exact ⟨hbooked, rfl, rfl⟩
    rename_i hnone
    refine underway_afterInvoice hbooked hu ?_ rfl
    intro i hi
    rw [hi] at hnone
    exact absurd rfl hnone
  | balance =>
    obtain ⟨hbooked, hinvoices, hinstallments⟩ := h
    simp only [paidStep, hbooked.chosen.row]
    split
    · exact ⟨hbooked, hinvoices, hinstallments⟩
    rename_i hcovered
    refine ⟨hbooked, ?_, hinstallments⟩
    intro i hi inv hinv hle
    -- the balance that was read does not cover it
    refine absurd ?_ hcovered
    simp [hi, invoiceCovered, hinv, hle]
  | invoice =>
    obtain ⟨hbooked, -, hinstallments⟩ := h
    obtain ⟨invoices, hframe, hdone⟩ := invoiceDone_markPaid session db
    simp only [paidStep, hbooked.chosen.row, hframe]
    exact ⟨⟨hbooked.chosen, hbooked.payments, hbooked.credits, hbooked.sessions⟩, hdone,
      hinstallments⟩
  | reminders =>
    obtain ⟨hbooked, hinvoice, hinstallments⟩ := h
    obtain ⟨reminders, hframe⟩ := stopReminders_frame job.session.invoiceId db
    simp only [paidStep, hframe]
    exact underway_afterInvoice
      ⟨hbooked.chosen, hbooked.payments, hbooked.credits, hbooked.sessions⟩ hu hinvoice
      hinstallments
  | installment =>
    obtain ⟨hbooked, hinvoice, -⟩ := h
    obtain ⟨installments, hframe, hdone⟩ := installmentDone_markPaid session db
    simp only [paidStep, hbooked.chosen.row, hframe]
    exact underway_afterInstallment
      ⟨hbooked.chosen, hbooked.payments, hbooked.credits, hbooked.sessions⟩ hu hinvoice hdone
  | credit =>
    obtain ⟨hbooked, hinvoice, hdone, hadvance⟩ := h
    simp only [paidStep]
    refine ⟨rfl, hbooked.effects hu hinvoice hdone paymentId _ ?_, ?_⟩
    · rw [if_pos hadvance, hbooked.credits]
    · exact hbooked.closed hu

/-! ## From the start to the payment -/

/-- Where a call is that has not inserted a payment: nothing is written yet. -/
def Early (db0 : FeeDb) (sid : ℕ) (session : CheckoutSession) (reply : Reply)
    (x : SettlePhase × FeeDb) : Prop :=
  x.2 = db0 ∧ x.1.succeeded = false ∧
    match x.1 with
    | .lookup reference =>
      reference = session.reference
        ∧ findPayment (reply.providerReference session.reference) db0 = none
    | .verifying reference found =>
      reference = session.reference ∧ found = some (sid, session)
        ∧ findPayment (reply.providerReference session.reference) db0 = none
    | .reading input =>
      input.reference = session.reference ∧ findPayment input.providerReference db0 = none
    | .checking job | .inserting job => Chosen db0 sid session job
    | .answered _ _ | .failed _ _ => True
    | .paid _ _ _ | .charging _ | .closing _ _ _ => False

theorem early_start (hu : Unsettled sid session db0) (ha : a.retries session.reference db0) :
    Early db0 sid session a.reply (a.source.start, db0) := by
  obtain ⟨href, hunused⟩ := ha
  rw [Attempt.providerReference] at hunused
  cases hsource : a.source with
  | verify reference =>
    rw [hsource] at href hunused
    subst href
    exact ⟨rfl, rfl, rfl, hunused⟩
  | webhook providerId gatewayId result =>
    rw [hsource] at href hunused
    simp only [Source.start, webhookPhase]
    split
    · exact ⟨rfl, rfl, trivial⟩
    split
    · rename_i hstatus
      refine ⟨rfl, ?_, trivial⟩
      rcases hstatus with hstatus | hempty
      · cases h : result.status with
        | success => exact absurd h hstatus
        | failed | pending | ignored => rfl
      · exact absurd (href.symm.trans hempty) hu.named
    · exact ⟨rfl, rfl, href, hunused⟩

/-- A verification of a school fee goes on to settle it. -/
theorem verified_schoolFee (hkind : row.kind ≠ .saasSubscription)
    (reference : String) {verification : PaymentVerification}
    (hstatus : verification.status = .success) :
    verified reference (some (sid, row)) verification
      = .reading
        { reference
          amountMinor := verification.amountMinor
          currency := verification.currency
          providerId :=
            if verification.providerId = "" then row.providerId else verification.providerId
          providerReference :=
            if verification.providerReference = "" then reference
            else verification.providerReference } := by
  have hnone : (some (sid, row)).filter
      (fun found => decide (found.2.kind = .saasSubscription)) = none := by
    simp [Option.filter, hkind]
  simp only [verified, hstatus, ne_eq, not_true_eq_false, if_false, hnone]
  rfl

theorem verified_other (reference : String) (found : Option (ℕ × CheckoutSession))
    {verification : PaymentVerification} (hstatus : verification.status ≠ .success) :
    verified reference found verification = .answered verification.status none
      ∧ (SettlePhase.answered verification.status none).succeeded = false := by
  refine ⟨if_pos hstatus, ?_⟩
  cases h : verification.status with
  | success => exact absurd h hstatus
  | failed | pending | ignored => rfl

/-- **A step before the payment writes nothing, and the insert is the first write.** -/
theorem early_step (hu : Unsettled sid session db0)
    (h : Early db0 sid session reply x) :
    Early db0 sid session reply (settleStep env reply x.1 x.2)
      ∨ Underway db0 sid session (settleStep env reply x.1 x.2) := by
  obtain ⟨phase, db⟩ := x
  obtain ⟨rfl, hfails, h⟩ := h
  cases phase with
  | lookup reference =>
    obtain ⟨rfl, hunused⟩ := h
    simp only [settleStep, hu.found]
    split
    · exact Or.inl ⟨rfl, rfl, trivial⟩
    · exact Or.inl ⟨rfl, rfl, rfl, rfl, hunused⟩
  | verifying reference found =>
    obtain ⟨rfl, rfl, hunused⟩ := h
    simp only [settleStep]
    split
    · exact Or.inl ⟨rfl, rfl, trivial⟩
    rename_i verification hreply
    by_cases hstatus : verification.status = .success
    · rw [verified_schoolFee hu.schoolFee _ hstatus]
      simp only [Reply.providerReference, hreply] at hunused
      exact Or.inl ⟨rfl, rfl, rfl, hunused⟩
    obtain ⟨hother, hfails⟩ := verified_other session.reference (some (sid, session)) hstatus
    rw [hother]
    exact Or.inl ⟨rfl, hfails, trivial⟩
  | reading input =>
    obtain ⟨href, hunused⟩ := h
    simp only [settleStep, readSession, href, hu.found, hu.pending, SessionStatus.closed]
    simp only [reduceCtorEq, decide_false, Bool.or_self, Bool.false_eq_true, if_false]
    split
    · exact Or.inl ⟨rfl, rfl, trivial⟩
    rename_i hamount
    rw [not_or, not_le, not_not] at hamount
    split
    · exact Or.inl ⟨rfl, rfl, trivial⟩
    rw [if_neg hu.schoolFee]
    refine Or.inl ⟨rfl, rfl, rfl, rfl, href, hunused, ?_⟩
    rw [← hamount.2]
    exact hamount.1
  | checking job =>
    simp only [settleStep, h.unused]
    exact Or.inl ⟨rfl, rfl, h⟩
  | inserting job =>
    simp only [settleStep, h.unused, Option.isSome_none, Bool.false_eq_true, if_false]
    exact Or.inr ⟨h, rfl⟩
  | answered status receipt => exact Or.inl ⟨rfl, hfails, trivial⟩
  | failed status message => exact Or.inl ⟨rfl, rfl, trivial⟩
  | paid | charging | closing => exact absurd h id

theorem underway_step (hu : Unsettled sid session db0)
    (h : Underway db0 sid session x) : Underway db0 sid session (settleStep env reply x.1 x.2) := by
  obtain ⟨phase, db⟩ := x
  cases phase with
  | paid stage job paymentId => exact underway_paidStep h hu
  | answered status receipt => exact h
  | lookup | verifying | reading | charging | closing | checking | inserting | failed =>
    cases h.1

theorem settleFor_invariant {I : SettlePhase × FeeDb → Prop}
    (hstep : ∀ x, I x → I (settleStep env reply x.1 x.2)) (h : I x)
    (n : ℕ) : I (settleFor env reply n x) := by
  induction n generalizing x with
  | zero => exact h
  | succ n ih => exact ih (hstep x h)

/-- **An attempt on an unsettled session writes nothing, or has inserted the payment and
gone on from there.** -/
theorem run_unsettled (hu : Unsettled sid session db0) (ha : a.retries session.reference db0) :
    Early db0 sid session a.reply (a.run db0) ∨ Underway db0 sid session (a.run db0) := by
  refine settleFor_invariant
    (I := fun x => Early db0 sid session a.reply x ∨ Underway db0 sid session x) ?_
    (Or.inl (early_start hu ha)) a.steps
  rintro x (h | h)
  · exact early_step hu h
  · exact Or.inr (underway_step hu h)

/-! ## A settled session -/

/-- Where a call is that finds the session settled: it writes nothing. -/
def Resting (db : FeeDb) (r : String) (x : SettlePhase × FeeDb) : Prop :=
  x.2 = db ∧
    match x.1 with
    | .lookup reference => reference = r
    | .verifying reference found => reference = r ∧ found = findSession r db
    | .reading input => input.reference = r
    | .answered _ _ | .failed _ _ => True
    | .checking _ | .inserting _ | .paid _ _ _ | .charging _ | .closing _ _ _ => False

theorem resting_step (hc : Closed sid session db) (hkind : session.kind ≠ .saasSubscription) (h : Resting db session.reference x) :
    Resting db session.reference (settleStep env reply x.1 x.2) := by
  obtain ⟨phase, db'⟩ := x
  obtain ⟨hdb, h⟩ := h
  simp only at hdb h
  subst hdb
  obtain ⟨row, hfound, hstatus, hrow⟩ := hc
  cases phase with
  | lookup reference =>
    cases h
    simp only [settleStep]
    split
    · exact ⟨rfl, trivial⟩
    · exact ⟨rfl, rfl, rfl⟩
  | verifying reference found =>
    obtain ⟨rfl, rfl⟩ := h
    simp only [settleStep]
    split
    · exact ⟨rfl, trivial⟩
    rename_i verification _
    rw [hfound]
    by_cases hsuccess : verification.status = .success
    · rw [verified_schoolFee (hrow ▸ hkind) _ hsuccess]
      exact ⟨rfl, rfl⟩
    rw [(verified_other _ _ hsuccess).1]
    exact ⟨rfl, trivial⟩
  | reading input =>
    have href : input.reference = session.reference := h
    simp only [settleStep, readSession, href, hfound, hstatus, SessionStatus.closed]
    exact ⟨rfl, trivial⟩
  | answered | failed => exact ⟨rfl, trivial⟩
  | checking | inserting | paid | charging | closing => exact absurd h id

theorem run_closed (hc : Closed sid session db) (hkind : session.kind ≠ .saasSubscription)
    (ha : a.source.reference = session.reference) :
    Resting db session.reference (a.run db) := by
  refine settleFor_invariant (fun x h => resting_step hc hkind h) ?_ a.steps
  cases hsource : a.source with
  | verify reference =>
    rw [hsource] at ha
    exact ⟨rfl, ha⟩
  | webhook providerId gatewayId result =>
    rw [hsource] at ha
    simp only [Source.start, webhookPhase]
    split
    · exact ⟨rfl, trivial⟩
    split
    · exact ⟨rfl, trivial⟩
    · exact ⟨rfl, ha⟩

/-! ## A retry that runs to its end -/

theorem settleFor_answered (n : ℕ) (status : ProviderStatus) (receipt : Option Receipt) :
    settleFor env reply n (.answered status receipt, db) = (.answered status receipt, db) := by
  induction n with
  | zero => rfl
  | succ n ih => exact ih

/-- A call that has inserted the payment answers success, and inserts no other. -/
theorem settleFor_paid (stage : Stage) (n : ℕ) (hn : stage.rank < n) :
    ∃ db', settleFor env reply n (.paid stage job paymentId, db)
        = (.answered .success (some (.payment paymentId)), db')
      ∧ db'.payments = db.payments := by
  induction n generalizing stage db with
  | zero => omega
  | succ n ih =>
    obtain ⟨hpayments, hnext⟩ := paidStep_cases stage job paymentId db
    have hstep : settleStep env reply (.paid stage job paymentId) db
        = paidStep stage job paymentId db := rfl
    simp only [settleFor, hstep]
    rcases hnext with ⟨-, stage', hrank, hnext⟩ | ⟨hnext, -⟩
    · obtain ⟨db', hrun, hsame⟩ := @ih (paidStep stage job paymentId db).2 stage' (by omega)
      refine ⟨db', ?_, hsame.trans hpayments⟩
      rw [← hrun, ← hnext]
    refine ⟨(paidStep stage job paymentId db).2, ?_, hpayments⟩
    rw [← settleFor_answered n, ← hnext]

/-- A verification under the provider's reference `q`, to its end. -/
def verification (session : CheckoutSession) (q : String) : Attempt :=
  { source := .verify session.reference
    env := { feesGateway := true }
    reply :=
      { verification := .ok
          { status := .success
            amountMinor := session.amount
            currency := if session.currency = "" then "NGN" else session.currency
            providerReference := q
            providerId := session.providerId } }
    steps := 11 }

theorem exists_unused (db : FeeDb) : ∃ q, q ≠ "" ∧ findPayment q db = none := by
  obtain ⟨q, hq⟩ := Infinite.exists_notMem_finset
    (insert "" (db.payments.filterMap (·.providerReference)).toFinset)
  rw [Finset.mem_insert, not_or, List.mem_toFinset] at hq
  refine ⟨q, hq.1, findPayment_eq_none.2 ?_⟩
  intro row hrow hsame
  exact hq.2 (List.mem_filterMap.2 ⟨row, hrow, hsame⟩)

theorem verification_retries (hq : q ≠ "") (hunused : findPayment q db = none) :
    (verification session q).retries session.reference db := by
  refine ⟨rfl, ?_⟩
  simpa [verification, Attempt.providerReference, Reply.providerReference, hq] using hunused

/-- It gets as far as `settleSuccess`. -/
theorem verification_run
    (hfound : findSession session.reference db = some (sid, row))
    (hkind : row.kind ≠ .saasSubscription) (hq : q ≠ "") :
    ∃ input : SettleInput, input.reference = session.reference
      ∧ input.amountMinor = session.amount ∧ input.currency.toUpper = session.expectedCurrency
      ∧ input.providerReference = q
      ∧ (verification session q).run db
        = settleFor (verification session q).env (verification session q).reply 9
          (.reading input, db) := by
  refine ⟨{ reference := session.reference
            amountMinor := session.amount
            currency := if session.currency = "" then "NGN" else session.currency
            providerId :=
              if session.providerId = "" then row.providerId else session.providerId
            providerReference := q }, rfl, rfl, rfl, rfl, ?_⟩
  have hlookup : settleStep (verification session q).env (verification session q).reply
      (.lookup session.reference) db
      = (.verifying session.reference (some (sid, row)), db) := by
    simp [settleStep, verification, hfound]
  have hverified : settleStep (verification session q).env (verification session q).reply
      (.verifying session.reference (some (sid, row))) db
      = (.reading
          { reference := session.reference
            amountMinor := session.amount
            currency := if session.currency = "" then "NGN" else session.currency
            providerId :=
              if session.providerId = "" then row.providerId else session.providerId
            providerReference := q }, db) := by
    simp only [settleStep, verification]
    rw [verified_schoolFee hkind _ rfl, if_neg hq]
  have hrun : (verification session q).run db
      = settleFor (verification session q).env (verification session q).reply 11
        (.lookup session.reference, db) := rfl
  rw [hrun, settleFor, hlookup, settleFor, hverified]

theorem verification_closed (hc : Closed sid session db)
    (hkind : session.kind ≠ .saasSubscription) (hq : q ≠ "") :
    (verification session q).run db = (.answered .success (some (.session sid)), db) := by
  obtain ⟨row, hfound, hstatus, hrow⟩ := hc
  obtain ⟨input, href, -, -, -, hrun⟩ := verification_run hfound (hrow ▸ hkind) hq
  have hread : settleStep (verification session q).env (verification session q).reply
      (.reading input) db = (.answered .success (some (.session sid)), db) := by
    simp [settleStep, readSession, href, hfound, hstatus, SessionStatus.closed]
  rw [hrun, settleFor, hread, settleFor_answered]

/-- With a payment there and the session still open, it inserts another one. -/
theorem verification_open (hfound : findSession session.reference db = some (sid, session))
    (hpending : session.status = .pending) (hkind : session.kind ≠ .saasSubscription)
    (hpositive : 0 < session.amount) (hq : q ≠ "") (hunused : findPayment q db = none) :
    ((verification session q).run db).1.succeeded = true
      ∧ paymentsOf session.reference ((verification session q).run db).2
        = paymentsOf session.reference db + 1 := by
  obtain ⟨input, href, hamount, hcurrency, rfl, hrun⟩ := verification_run hfound hkind hq
  have hread : settleStep (verification session input.providerReference).env
      (verification session input.providerReference).reply (.reading input) db
      = (.checking ⟨input, sid, session⟩, db) := by
    simp [settleStep, readSession, href, hfound, hpending, SessionStatus.closed, hamount,
      hcurrency, hkind, Int.not_le.2 hpositive]
  have hcheck : settleStep (verification session input.providerReference).env
      (verification session input.providerReference).reply (.checking ⟨input, sid, session⟩) db
      = (.inserting ⟨input, sid, session⟩, db) := by
    simp [settleStep, hunused]
  have hinsert : settleStep (verification session input.providerReference).env
      (verification session input.providerReference).reply (.inserting ⟨input, sid, session⟩) db
      = (.paid .session ⟨input, sid, session⟩ db.payments.nextId,
        { db with
          payments := db.payments.insert (Settlement.payment ⟨input, sid, session⟩) }) := by
    simp [settleStep, hunused]
  obtain ⟨db', hpaid, hpayments⟩ := settleFor_paid .session 6 (by decide)
  rw [hrun, settleFor, hread, settleFor, hcheck, settleFor, hinsert, hpaid]
  refine ⟨rfl, ?_⟩
  have hcount := paymentsOf_insert session.reference ⟨input, sid, session⟩ db
  rw [if_pos href] at hcount
  rw [← hcount, paymentsOf, paymentsOf, hpayments]

/-! ## What is due, and what is done -/

theorem installmentDue_eq_false :
    session.installmentDue db = false ↔ InstallmentDone session db := by
  rw [CheckoutSession.installmentDue, InstallmentDone]
  cases hi : session.installmentId with
  | none => simp
  | some i =>
    cases hrow : db.installments[i]? with
    | none => simp [hrow]
    | some row => simp [hrow]

/-- What the money will cover is what it covers once the session is settled. -/
theorem Booked.invoiceDue_eq_false (h : Booked db0 sid session job db)
    (hu : Unsettled sid session db0) (hinvoices : db.invoices = db0.invoices) :
    session.invoiceDue db0 = false ↔ InvoiceDone session db := by
  rw [CheckoutSession.invoiceDue, InvoiceDone, hinvoices]
  cases hi : session.invoiceId with
  | none => simp
  | some i =>
    have hamount := h.settledAmount_eq hu hi
    cases hrow : db0.invoices[i]? with
    | none => simp [hrow]
    | some inv =>
      by_cases hpaid : inv.status = .paid
      · simp [hrow, hpaid]
      · simp [hrow, hpaid, hamount]

/-- An advance payment that is not credited. -/
theorem Booked.not_effects_of_advance (h : Booked db0 sid session job db)
    (hu : Unsettled sid session db0) (hadvance : session.kind = .advance) :
    ¬ Effects sid session db := by
  intro heffects
  have hcredit := heffects.credit
  have hfree : (db0.credits.filter fun row => row.reference = session.reference) = [] := by
    have hcount := hu.uncredited
    rwa [creditsOf, List.countP_eq_length_filter, List.length_eq_zero_iff] at hcount
  rw [h.credits, hfree, if_pos hadvance] at hcredit
  cases hcredit

/-- All effects of a payment whose session is settled are there exactly when nothing is
due. -/
theorem effects_iff_not_due (hm : Midway db0 sid session stage job db)
    (hu : Unsettled sid session db0) (hstage : stage ≠ .session) :
    Effects sid session db ↔ session.due db0 stage = false := by
  have hdone : Booked db0 sid session job db → InvoiceDone session db →
      InstallmentDone session db → session.kind ≠ .advance → Effects sid session db := by
    intro hbooked hinvoice hinstallment hadvance
    have heffects := hbooked.effects hu hinvoice hinstallment 0 db.credits
      (by rw [if_neg hadvance]; exact hbooked.credits)
    exact heffects
  cases stage with
  | session => exact absurd rfl hstage
  | balance | invoice =>
    obtain ⟨hbooked, hinvoices, hinstallments⟩ := hm
    have hinstallment : session.installmentDue db0 = false ↔ InstallmentDone session db := by
      rw [← installmentDue_eq_false, CheckoutSession.installmentDue,
        CheckoutSession.installmentDue, hinstallments]
    simp only [CheckoutSession.due, Bool.or_eq_false_iff, decide_eq_false_iff_not,
      hbooked.invoiceDue_eq_false hu hinvoices, hinstallment]
    constructor
    · intro heffects
      exact ⟨⟨heffects.invoice, heffects.installment⟩,
        fun hadvance => hbooked.not_effects_of_advance hu hadvance heffects⟩
    rintro ⟨⟨hinvoice, hrest⟩, hadvance⟩
    exact hdone hbooked hinvoice hrest hadvance
  | reminders | installment =>
    obtain ⟨hbooked, hinvoice, hinstallments⟩ := hm
    have hinstallment : session.installmentDue db0 = false ↔ InstallmentDone session db := by
      rw [← installmentDue_eq_false, CheckoutSession.installmentDue,
        CheckoutSession.installmentDue, hinstallments]
    simp only [CheckoutSession.due, Bool.or_eq_false_iff, decide_eq_false_iff_not, hinstallment]
    constructor
    · intro heffects
      exact ⟨heffects.installment,
        fun hadvance => hbooked.not_effects_of_advance hu hadvance heffects⟩
    rintro ⟨hrest, hadvance⟩
    exact hdone hbooked hinvoice hrest hadvance
  | credit =>
    obtain ⟨hbooked, -, -, hadvance⟩ := hm
    exact iff_of_false (hbooked.not_effects_of_advance hu hadvance) nofun

theorem Midway.booked (hm : Midway db0 sid session stage job db) (hstage : stage ≠ .session) :
    Booked db0 sid session job db := by
  cases stage with
  | session => exact absurd rfl hstage
  | balance | invoice | reminders | installment | credit => exact hm.1

/-! ## Sequences of attempts -/

/-- Between attempts that are not interrupted: nothing is written yet, or everything is. -/
def AllOrNothing (db0 : FeeDb) (sid : ℕ) (session : CheckoutSession) (db : FeeDb) : Prop :=
  db = db0 ∨ (Effects sid session db ∧ Closed sid session db)

/-- A retry of a session that is all or nothing leaves all effects when it succeeds. -/
theorem AllOrNothing.retry (h : AllOrNothing db0 sid session db) (hu : Unsettled sid session db0)
    (ha : a.retries session.reference db0) (hsuccess : (a.run db).1.succeeded = true) :
    Effects sid session (a.run db).2 := by
  rcases h with rfl | ⟨heffects, hclosed⟩
  · rcases run_unsettled hu ha with ⟨-, hfails, -⟩ | hunderway
    · rw [hfails] at hsuccess
      cases hsuccess
    simp only [Underway] at hunderway
    split at hunderway
    · rename_i hphase
      rw [hphase] at hsuccess
      cases hsuccess
    · exact hunderway.2.1
  obtain ⟨hdb, -⟩ := run_closed hclosed hu.schoolFee ha.1
  rw [hdb]
  exact heffects

/-- **An attempt that is not interrupted leaves all or nothing.** -/
theorem AllOrNothing.step (h : AllOrNothing db0 sid session db) (hu : Unsettled sid session db0)
    (ha : a.retries session.reference db0) (hrun : a.interrupted session db = false) :
    AllOrNothing db0 sid session (attemptStep a db) := by
  rcases h with rfl | ⟨heffects, hclosed⟩
  · rcases run_unsettled hu ha with ⟨hdb, -, -⟩ | hunderway
    · exact Or.inl hdb
    right
    simp only [Underway] at hunderway
    split at hunderway
    · rename_i stage job paymentId hphase
      rw [Attempt.interrupted, hphase] at hrun
      have hstage : stage ≠ .session := by
        rintro rfl
        cases hrun
      exact ⟨(effects_iff_not_due hunderway hu hstage).2 hrun,
        (hunderway.booked hstage).closed hu⟩
    · exact hunderway.2
  obtain ⟨hdb, -⟩ := run_closed hclosed hu.schoolFee ha.1
  rw [attemptStep, hdb]
  exact Or.inr ⟨heffects, hclosed⟩

/-- **After an interrupted attempt some retry reports success with an effect missing, or
with a second payment.** -/
theorem exists_bad_retry (h : AllOrNothing db0 sid session db) (hu : Unsettled sid session db0)
    (ha : a.retries session.reference db0) (hrun : a.interrupted session db = true) :
    ∃ retry : Attempt, retry.retries session.reference db0
      ∧ (retry.run (attemptStep a db)).1.succeeded = true
      ∧ ¬ Effects sid session (retry.run (attemptStep a db)).2 := by
  rw [Attempt.interrupted] at hrun
  split at hrun
  · rename_i stage job paymentId hphase
    rcases h with rfl | ⟨heffects, hclosed⟩
    · have hmid : Midway db sid session stage job (attemptStep a db) := by
        rcases run_unsettled hu ha with ⟨-, -, hearly⟩ | hunderway
        · rw [hphase] at hearly
          exact absurd hearly id
        rw [Underway, hphase] at hunderway
        exact hunderway
      obtain ⟨q, hq, hunused⟩ := exists_unused (attemptStep a db)
      have hstart : findPayment q db = none := by
        rw [findPayment_eq_none] at hunused ⊢
        intro row hrow
        refine hunused row ?_
        by_cases hstage : stage = .session
        · subst hstage
          rw [hmid.2]
          exact List.mem_append_left _ hrow
        rw [(hmid.booked hstage).payments]
        exact List.mem_append_left _ hrow
      refine ⟨verification session q, verification_retries hq hstart, ?_⟩
      by_cases hstage : stage = .session
      · subst hstage
        obtain ⟨hchosen, hdb⟩ := hmid
        have hfound : findSession session.reference (attemptStep a db) = some (sid, session) := by
          rw [hdb]
          exact hu.found
        obtain ⟨hsuccess, hcount⟩ := verification_open hfound hu.pending hu.schoolFee
          hchosen.positive hq hunused
        refine ⟨hsuccess, ?_⟩
        intro heffects
        obtain ⟨row, hone, -⟩ := heffects.payment
        rw [paymentsOf, List.countP_eq_length_filter, hone, hdb, paymentsOf_insert,
          if_pos hchosen.reference, hu.unpaid] at hcount
        cases hcount
      have hclosed := (hmid.booked hstage).closed hu
      rw [verification_closed hclosed hu.schoolFee hq]
      refine ⟨rfl, ?_⟩
      rw [effects_iff_not_due hmid hu hstage, hrun]
      exact Bool.noConfusion
    obtain ⟨-, hrest⟩ := run_closed hclosed hu.schoolFee ha.1
    rw [hphase] at hrest
    exact absurd hrest id
  · cases hrun

/-- **Every retry that reports success leaves the payment, the settled session, the paid
invoice, the paid installment and the advance credit, each once, whatever attempts stopped
before, exactly when none of them stopped between its payment and the last write due.** -/
theorem settlement_survives_iff (sid : ℕ) (session : CheckoutSession) (db : FeeDb)
    (attempts : List Attempt) (hu : Unsettled sid session db)
    (hattempts : ∀ a ∈ attempts, a.retries session.reference db) :
    (∀ pre, pre <+: attempts → ∀ retry : Attempt, retry.retries session.reference db →
        (retry.run (run attemptStep db pre)).1.succeeded = true →
        Effects sid session (retry.run (run attemptStep db pre)).2)
      ↔ Along attemptStep (fun db a => a.interrupted session db = false) db attempts := by
  have hiff : Along attemptStep (fun db a => a.interrupted session db = false) db attempts
      ↔ ∀ pre, pre <+: attempts → AllOrNothing db sid session (run attemptStep db pre) := by
    refine along_iff_throughout (D := fun _ a => a.retries session.reference db) ?_
      (along_of_forall hattempts) (Or.inl rfl)
    intro db' a ha hall
    constructor
    · intro hnext
      rw [← Bool.not_eq_true]
      intro hrun
      obtain ⟨retry, hretry, hsuccess, hbad⟩ := exists_bad_retry hall hu ha hrun
      exact hbad (hnext.retry hu hretry hsuccess)
    · exact hall.step hu ha
  rw [hiff]
  constructor
  · intro h pre
    induction pre using List.reverseRecOn with
    | nil =>
      intro _
      exact Or.inl rfl
    | append_singleton pre a ih =>
      intro hpre
      have hprefix : pre <+: attempts := (List.prefix_append pre [a]).trans hpre
      have ha := hattempts a (hpre.subset (List.mem_append_right _ List.mem_cons_self))
      have hall := ih hprefix
      have hnext := h (pre ++ [a]) hpre
      rw [run_append, run_cons, run_nil] at hnext ⊢
      refine hall.step hu ha ?_
      rw [← Bool.not_eq_true]
      intro hrun
      obtain ⟨retry, hretry, hsuccess, hbad⟩ := exists_bad_retry hall hu ha hrun
      exact hbad (hnext retry hretry hsuccess)
  intro h pre hpre retry hretry hsuccess
  exact (h pre hpre).retry hu hretry hsuccess

/-! ## A crash after the payment -/

def advanceSession : CheckoutSession :=
  { feeSession with invoiceId := none, kind := .advance }

def advanceDb : FeeDb := { sessions := [advanceSession] }

/-- A webhook whose process dies once the payment is inserted and the session settled. -/
def cutShort : Attempt :=
  { source := .webhook "paystack" "paystack"
      (PaystackGateway.handleWebhook "charge.success" feeTransaction)
    env := {}
    reply := feeReply
    steps := 4 }

/-- The webhook is delivered again. -/
def redelivery : Attempt := { cutShort with steps := 11 }

theorem unsettled_advance : Unsettled 0 advanceSession advanceDb :=
  ⟨by decide +kernel, by decide, rfl, by decide, by decide, by decide⟩

/-- The equivalence at that attempt. -/
theorem settlement_survives_iff_example :
    (∀ pre, pre <+: [cutShort] → ∀ retry : Attempt, retry.retries "pay_1" advanceDb →
        (retry.run (run attemptStep advanceDb pre)).1.succeeded = true →
        Effects 0 advanceSession (retry.run (run attemptStep advanceDb pre)).2)
      ↔ Along attemptStep (fun db a => a.interrupted advanceSession db = false) advanceDb
        [cutShort] :=
  settlement_survives_iff 0 advanceSession advanceDb [cutShort] unsettled_advance (by
    intro a ha
    rw [List.mem_singleton.1 ha]
    exact ⟨by decide, by decide⟩)

/-- The retry reports success, and the advance is never credited. -/
theorem not_settlement_survives :
    ¬ ∀ (sid : ℕ) (session : CheckoutSession) (db : FeeDb) (attempt retry : Attempt),
      Unsettled sid session db → attempt.retries session.reference db →
      retry.retries session.reference db →
      (retry.run (attemptStep attempt db)).1.succeeded = true →
      Effects sid session (retry.run (attemptStep attempt db)).2 := by
  intro h
  have heffects := h 0 advanceSession advanceDb cutShort redelivery unsettled_advance
    ⟨by decide, by decide⟩ ⟨by decide, by decide⟩ (by decide +kernel)
  have hcredit := heffects.credit
  revert hcredit
  decide +kernel

end MultiAcademy.School
