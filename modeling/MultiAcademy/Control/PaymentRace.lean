import MultiAcademy.Control.LedgerSound

/-!
# Concurrent payments of one invoice

The two payment endpoints, each request in its own transaction at READ COMMITTED: a
request reads the invoice row, checks its reference against the committed payments
and its amount against the row it read, and then commits a payment row together with
the columns it changed.  Nothing locks the invoice, and the reference has an index but
no unique constraint.
-/

namespace MultiAcademy.Control

open MultiAcademy.Lib

/-- A request to pay an invoice, through either endpoint; the tenant of a settlement is
the one behind its reference. -/
inductive PayRequest
  | pay (staff : StaffContext) (body : SaasPaymentCreate)
  | settle (svc : ServiceContext) (tenantId : ℕ) (body : SettleBody)

def recorded (payments : Table SaasPayment) (reference : String) : Bool :=
  payments.existsRow fun payment => payment.providerReference = reference

/-- The payment row of a request whose checks pass on the invoice row it read. -/
def PayRequest.check (i : ℕ) (snap : SaasInvoice) (payments : Table SaasPayment) :
    PayRequest → Option SaasPayment
  | .pay staff body =>
    if snap.status = .void ∨ snap.status = .writtenOff ∨ body.amountMinor ≤ 0
        ∨ outstanding snap < body.amountMinor
        ∨ (body.providerReference ≠ "" ∧ recorded payments body.providerReference) then none
    else some (body.toRow staff i snap)
  | .settle svc tenantId body =>
    if snap.tenantId ≠ tenantId ∨ body.providerReference = ""
        ∨ recorded payments body.providerReference ∨ body.amountMinor ≤ 0
        ∨ outstanding snap < body.amountMinor then none
    else some (body.toRow svc tenantId i snap)

/-- Where a request is: not started, with the row it read, with its payment about to be
committed, or answered. -/
inductive Phase
  | start
  | read (snap : SaasInvoice)
  | checked (snap : SaasInvoice) (payment : SaasPayment)
  | done

/-- The invoice row a request works on. -/
def Phase.snapshot? : Phase → Option SaasInvoice
  | .read snap | .checked snap _ => some snap
  | .start | .done => none

/-- The committed invoice row and payments, and where each request is. -/
structure Race where
  row : SaasInvoice
  payments : Table SaasPayment
  phase : ℕ → Phase

def Race.start (row : SaasInvoice) (payments : Table SaasPayment) : Race :=
  { row, payments, phase := fun _ => .start }

def Race.setPhase (s : Race) (k : ℕ) (phase : Phase) : Race :=
  { s with phase := Function.update s.phase k phase }

/-- The columns an UPDATE writes are those that differ from the row that was read. -/
def writeBack (now : Time) (amount : ℤ) (snap row : SaasInvoice) : SaasInvoice :=
  let new := credited now amount snap
  { row with
    amountPaidMinor := new.amountPaidMinor
    status := if new.status = snap.status then row.status else new.status
    paidAt := if new.paidAt = snap.paidAt then row.paidAt else new.paidAt }

/-- The next step of request `e.1`, at time `e.2`. -/
def raceStep (i : ℕ) (requests : ℕ → PayRequest) (e : ℕ × Time) (s : Race) : Race :=
  match s.phase e.1 with
  | .start => s.setPhase e.1 (.read s.row)
  | .read snap =>
    match (requests e.1).check i snap s.payments with
    | some payment => s.setPhase e.1 (.checked snap payment)
    | none => s.setPhase e.1 .done
  | .checked snap payment =>
    { s.setPhase e.1 .done with
      row := writeBack e.2 payment.amountMinor snap s.row
      payments := s.payments.insert payment }
  | .done => s

variable {cfg : Settings} {now : Time} {i : ℕ} {requests : ℕ → PayRequest} {s : Race}
  {e : ℕ × Time}

/-! ## A request alone -/

theorem credited_paid (now : Time) (amount : ℤ) (inv : SaasInvoice) :
    (credited now amount inv).amountPaidMinor = inv.amountPaidMinor + amount := by
  simp only [credited]
  split
  · rename_i hfull
    simp only [markPaid]
    rw [if_neg (Int.not_lt.2 hfull)]
  · rfl

/-- Written back to the row it was read from, a row is the credited one. -/
theorem writeBack_self (now : Time) (amount : ℤ) (inv : SaasInvoice) :
    writeBack now amount inv inv = credited now amount inv := by
  have hstatus : ∀ {α : Type} [DecidableEq α] (a b : α), (if a = b then b else a) = a := by
    intro α _ a b
    split
    · exact Eq.symm ‹_›
    · rfl
  simp only [writeBack, hstatus]
  simp only [credited]
  split <;> rfl

/-- The three steps of a request that nothing interrupts. -/
theorem run_solo (i : ℕ) (request : PayRequest) (now : Time) (inv : SaasInvoice)
    (payments : Table SaasPayment) :
    ∃ phase, run (raceStep i fun _ => request) (Race.start inv payments)
        [(0, now), (0, now), (0, now)]
      = match request.check i inv payments with
        | some payment =>
          ⟨credited now payment.amountMinor inv, payments.insert payment, phase⟩
        | none => ⟨inv, payments, phase⟩ := by
  cases hcheck : request.check i inv payments with
  | none =>
    exact ⟨_, by simp [raceStep, Race.start, Race.setPhase, hcheck]; rfl⟩
  | some payment =>
    exact ⟨_, by simp [raceStep, Race.start, Race.setPhase, hcheck, writeBack_self]; rfl⟩

/-- What a handler does to an invoice and the payments, from its checks. -/
structure Handles (i : ℕ) (inv : SaasInvoice) (request : PayRequest) (now : Time)
    (db db' : Db) : Prop where
  row : db'.invoices[i]? = some
    (match request.check i inv db.payments with
      | some payment => credited now payment.amountMinor inv
      | none => inv)
  payments : db'.payments = match request.check i inv db.payments with
    | some payment => db.payments.insert payment
    | none => db.payments

variable {payment : SaasPayment} {db : Db} {inv : SaasInvoice} {payments : Table SaasPayment}
  {request : PayRequest}

theorem handles_of_none
    (hinv : db.invoices[i]? = some inv) (h : request.check i inv db.payments = none) :
    Handles i inv request now db db := by
  refine ⟨?_, ?_⟩ <;> rw [h]
  exact hinv

theorem handles_of_some {db' : Db} (hinv : db.invoices[i]? = some inv)
    (h : request.check i inv db.payments = some payment) (hi : payment.invoiceId = i)
    (hpos : 0 < payment.amountMinor) (hrec : recordPayment cfg now payment db = some db') :
    Handles i inv request now db db' := by
  subst hi
  obtain ⟨hpayments, hinvoices, -, -⟩ := recordPayment_spec hinv hpos hrec
  refine ⟨?_, ?_⟩ <;> rw [h]
  · rw [hinvoices, List.getElem?_modify, hinv]
    simp
  · exact hpayments

theorem payInvoice_handles (staff : StaffContext) (body : SaasPaymentCreate) (hinv : db.invoices[i]? = some inv) :
    Handles i inv (.pay staff body) now db (payInvoice cfg now staff i body db).db := by
  unfold payInvoice
  simp only [hinv]
  split
  · rename_i h
    refine handles_of_none hinv ?_
    rcases h with h | h <;> simp [PayRequest.check, h]
  rename_i hstatus
  split
  · rename_i h
    exact handles_of_none hinv (by simp [PayRequest.check, h])
  rename_i hpos
  split
  · rename_i h
    exact handles_of_none hinv (by simp [PayRequest.check, h])
  rename_i hcovered
  split
  · rename_i h
    refine handles_of_none hinv ?_
    rw [PayRequest.check, if_pos]
    exact Or.inr (Or.inr (Or.inr (Or.inr h)))
  rename_i hfresh
  have hcheck : PayRequest.check i inv db.payments (.pay staff body)
      = some (body.toRow staff i inv) := by
    rw [not_or] at hstatus
    simp only [PayRequest.check, recorded, hstatus, hpos, hcovered, hfresh, or_self,
      if_false]
  obtain ⟨db', hdb'⟩ := @recordPayment_isSome cfg now (body.toRow staff i inv) inv db hinv
    (Int.not_le.1 hpos)
  rw [hdb']
  exact handles_of_some hinv hcheck rfl (Int.not_le.1 hpos) hdb'

theorem settleTenantInvoice_handles (tenantRef : String) (svc : ServiceContext) (body : SettleBody) {tenantId : ℕ} {tenant : Tenant}
    (href : tenantByRef db tenantRef svc = .ok (tenantId, tenant))
    (hinv : db.invoices[i]? = some inv) :
    Handles i inv (.settle svc tenantId body) now db
      (settleTenantInvoice cfg now tenantRef i body svc db).db := by
  unfold settleTenantInvoice forTenant
  simp only [href, hinv]
  split
  · rename_i h
    exact handles_of_none hinv (by rw [PayRequest.check, if_pos (Or.inl h)])
  rename_i htenant
  split
  · rename_i h
    exact handles_of_none hinv (by rw [PayRequest.check, if_pos (Or.inr (Or.inl h))])
  rename_i hne
  split
  · rename_i dup hdup
    have hrecorded : recorded db.payments body.providerReference = true := by
      obtain ⟨k, hk, hrow⟩ := Option.bind_eq_some_iff.1 hdup
      obtain ⟨row, hrow', hp⟩ := Table.mem_select.1 (Table.mem_of_first? hk)
      rw [recorded, Table.existsRow_iff]
      exact ⟨k, row, hrow', hp⟩
    have hnone : PayRequest.check i inv db.payments (.settle svc tenantId body) = none := by
      rw [PayRequest.check, if_pos (Or.inr (Or.inr (Or.inl hrecorded)))]
    split <;> exact handles_of_none hinv hnone
  rename_i hdup
  have hrecorded : recorded db.payments body.providerReference = false := by
    rw [recorded, Table.existsRow, List.any_eq_false]
    intro row hmem hp
    exact reference_fresh hdup row hmem (of_decide_eq_true hp)
  split
  · rename_i h
    refine handles_of_none hinv ?_
    rw [PayRequest.check, if_pos (Or.inr (Or.inr (Or.inr h)))]
  rename_i hamount
  have hcheck : PayRequest.check i inv db.payments (.settle svc tenantId body)
      = some (body.toRow svc tenantId i inv) := by
    rw [PayRequest.check, if_neg]
    simp only [htenant, hne, hrecorded, hamount, Bool.false_eq_true, or_self,
      not_false_eq_true]
  rw [not_or] at hamount
  obtain ⟨db', hdb'⟩ := @recordPayment_isSome cfg now (body.toRow svc tenantId i inv) inv
    db hinv (Int.not_le.1 hamount.1)
  rw [hdb']
  exact handles_of_some hinv hcheck rfl (Int.not_le.1 hamount.1) hdb'

theorem Handles.solo {db' : Db}
    (h : Handles i inv request now db db') :
    db'.invoices[i]? = some (run (raceStep i fun _ => request) (Race.start inv db.payments)
        [(0, now), (0, now), (0, now)]).row
      ∧ db'.payments = (run (raceStep i fun _ => request) (Race.start inv db.payments)
        [(0, now), (0, now), (0, now)]).payments := by
  obtain ⟨phase, hrun⟩ := run_solo i request now inv db.payments
  rw [hrun, h.row, h.payments]
  cases request.check i inv db.payments <;> exact ⟨rfl, rfl⟩

/-- **The endpoints are their steps, uninterrupted.** -/
theorem endpoints_solo (hinv : db.invoices[i]? = some inv) :
    (∀ staff body, ∃ s, s = run (raceStep i fun _ => .pay staff body)
        (Race.start inv db.payments) [(0, now), (0, now), (0, now)]
      ∧ (payInvoice cfg now staff i body db).db.invoices[i]? = some s.row
      ∧ (payInvoice cfg now staff i body db).db.payments = s.payments)
    ∧ ∀ svc tenantRef tenantId tenant body,
      tenantByRef db tenantRef svc = .ok (tenantId, tenant) →
      ∃ s, s = run (raceStep i fun _ => .settle svc tenantId body)
          (Race.start inv db.payments) [(0, now), (0, now), (0, now)]
        ∧ (settleTenantInvoice cfg now tenantRef i body svc db).db.invoices[i]? = some s.row
        ∧ (settleTenantInvoice cfg now tenantRef i body svc db).db.payments = s.payments := by
  constructor
  · exact fun staff body => ⟨_, rfl, (payInvoice_handles staff body hinv).solo⟩
  intro svc tenantRef tenantId tenant body href
  exact ⟨_, rfl, (settleTenantInvoice_handles tenantRef svc body href hinv).solo⟩

theorem endpoints_solo_example : ∃ inv s,
    s = run (raceStep 0 fun _ => .pay Example.operator { amountMinor := 250000 })
        (Race.start inv (run (step Example.settings) {} Example.opened).payments)
        [(0, Example.day 5), (0, Example.day 5), (0, Example.day 5)]
      ∧ (payInvoice Example.settings (Example.day 5) Example.operator 0 { amountMinor := 250000 }
        (run (step Example.settings) {} Example.opened)).db.invoices[0]? = some s.row
      ∧ (payInvoice Example.settings (Example.day 5) Example.operator 0 { amountMinor := 250000 }
        (run (step Example.settings) {} Example.opened)).db.payments = s.payments :=
  ⟨_, (endpoints_solo rfl).1 Example.operator { amountMinor := 250000 }⟩

/-! ## Every schedule -/

/-- The ledger of the invoice is in order: its balance is the sum of its payments, at
most its amount, and no reference is on two payments. -/
structure Settled (i : ℕ) (s : Race) : Prop where
  sum : s.row.amountPaidMinor = paidTotal s.payments i
  covered : s.row.amountPaidMinor ≤ s.row.amountMinor
  refs : RefsUnique s.payments

/-- The request's next step commits a payment on a row that has not moved since it was
read, with a reference that is still unused; or it commits nothing. -/
def freshCommit (s : Race) (k : ℕ) : Bool :=
  match s.phase k with
  | .checked snap payment =>
    s.row.amountPaidMinor = snap.amountPaidMinor
      && (payment.providerReference = "" || !recorded s.payments payment.providerReference)
  | .start | .read _ | .done => true

/-- What a request that is about to commit has checked. -/
structure Checked (i : ℕ) (snap : SaasInvoice) (payment : SaasPayment) : Prop where
  invoice : payment.invoiceId = i
  positive : 0 < payment.amountMinor
  covered : payment.amountMinor ≤ outstanding snap

/-- Every request that is about to commit passed its checks. -/
def Ready (i : ℕ) (s : Race) : Prop :=
  ∀ k snap payment, s.phase k = .checked snap payment → Checked i snap payment

theorem check_checked {snap : SaasInvoice} (h : request.check i snap payments = some payment) :
    Checked i snap payment := by
  cases request with
  | pay staff body =>
    rw [PayRequest.check] at h
    split at h
    · cases h
    rename_i hno
    cases h
    simp only [not_or] at hno
    exact ⟨rfl, Int.not_le.1 hno.2.2.1, Int.not_lt.1 hno.2.2.2.1⟩
  | settle svc tenantId body =>
    rw [PayRequest.check] at h
    split at h
    · cases h
    rename_i hno
    cases h
    simp only [not_or] at hno
    exact ⟨rfl, Int.not_le.1 hno.2.2.2.1, Int.not_lt.1 hno.2.2.2.2⟩

/-- **What one step can do**: answer or check (nothing is committed, and the row the
request holds is the current one or the one it held), or commit. -/
theorem raceStep_cases (i : ℕ) (requests : ℕ → PayRequest) (s : Race) (e : ℕ × Time) :
    (∃ phase, raceStep i requests e s = s.setPhase e.1 phase
        ∧ freshCommit s e.1 = true
        ∧ (∀ snap, phase.snapshot? = some snap →
          snap = s.row ∨ (s.phase e.1).snapshot? = some snap)
        ∧ ∀ snap payment, phase = .checked snap payment → Checked i snap payment)
      ∨ ∃ snap payment, s.phase e.1 = .checked snap payment
        ∧ raceStep i requests e s
          = ⟨writeBack e.2 payment.amountMinor snap s.row, s.payments.insert payment,
            Function.update s.phase e.1 .done⟩ := by
  unfold raceStep freshCommit
  cases hphase : s.phase e.1 with
  | start =>
    refine Or.inl ⟨.read s.row, rfl, rfl, ?_, ?_⟩
    · intro snap h
      exact Or.inl (Option.some.inj h).symm
    intro snap payment h
    cases h
  | read snap =>
    simp only
    cases hcheck : (requests e.1).check i snap s.payments with
    | none =>
      refine Or.inl ⟨.done, rfl, trivial, ?_, ?_⟩
      · intro snap h
        cases h
      intro snap payment h
      cases h
    | some payment =>
      refine Or.inl ⟨.checked snap payment, rfl, trivial, ?_, ?_⟩
      · intro snap' h
        exact Or.inr h
      intro snap' payment' h
      cases h
      exact check_checked hcheck
  | checked snap payment => exact Or.inr ⟨snap, payment, rfl, rfl⟩
  | done =>
    have hself : Function.update s.phase e.1 .done = s.phase := by
      rw [← hphase]
      exact Function.update_eq_self e.1 s.phase
    refine Or.inl ⟨.done, ?_, rfl, ?_, ?_⟩
    · simp only [Race.setPhase, hself]
    · intro snap h
      cases h
    intro snap payment h
    cases h

theorem Ready.setPhase (h : Ready i s) (k : ℕ) {phase : Phase}
    (hphase : ∀ snap payment, phase = .checked snap payment → Checked i snap payment)
    {row : SaasInvoice} :
    Ready i ⟨row, payments, Function.update s.phase k phase⟩ := by
  intro k' snap payment hk'
  simp only [Function.update_apply] at hk'
  split at hk'
  · exact hphase snap payment hk'
  · exact h k' snap payment hk'

theorem ready_step (h : Ready i s) : Ready i (raceStep i requests e s) := by
  rcases raceStep_cases i requests s e with ⟨phase, heq, -, -, hc⟩ | ⟨snap, payment, -, heq⟩ <;>
    rw [heq]
  · exact h.setPhase e.1 hc
  refine h.setPhase e.1 fun snap payment h => ?_
  cases h

/-- A property of every row that a request holds. -/
def Snaps (p : SaasInvoice → Prop) (s : Race) : Prop :=
  ∀ k snap, (s.phase k).snapshot? = some snap → p snap

theorem Snaps.setPhase {p q : SaasInvoice → Prop} (h : Snaps p s) (hpq : ∀ snap, p snap → q snap)
    (k : ℕ) {phase : Phase} (hphase : ∀ snap, phase.snapshot? = some snap → q snap)
    {row : SaasInvoice} :
    Snaps q ⟨row, payments, Function.update s.phase k phase⟩ := by
  intro k' snap hk'
  simp only [Function.update_apply] at hk'
  split at hk'
  · exact hphase snap hk'
  · exact hpq snap (h k' snap hk')

/-- While no commit was stale: the ledger is in order, and no request holds more than
has been paid. -/
structure InStep (i : ℕ) (s : Race) : Prop where
  settled : Settled i s
  ready : Ready i s
  snaps : Snaps (fun snap => snap.amountMinor = s.row.amountMinor
    ∧ snap.amountPaidMinor ≤ paidTotal s.payments i) s

/-- After a stale commit: the balance and every row a request holds are below the sum of
the payments, or a reference is on two of them. -/
structure OutOfStep (i : ℕ) (s : Race) : Prop where
  ready : Ready i s
  lost : (s.row.amountPaidMinor < paidTotal s.payments i
      ∧ Snaps (fun snap => snap.amountPaidMinor < paidTotal s.payments i) s)
    ∨ ¬ RefsUnique s.payments

@[simp] theorem writeBack_amount (now : Time) (amount : ℤ) (snap row : SaasInvoice) :
    (writeBack now amount snap row).amountMinor = row.amountMinor := rfl

@[simp] theorem writeBack_paid (now : Time) (amount : ℤ) (snap row : SaasInvoice) :
    (writeBack now amount snap row).amountPaidMinor = snap.amountPaidMinor + amount :=
  credited_paid now amount snap

theorem Checked.paidTotal {snap : SaasInvoice}
    (h : Checked i snap payment) (payments : Table SaasPayment) :
    paidTotal (payments.insert payment) i = paidTotal payments i + payment.amountMinor := by
  rw [paidTotal_insert, if_pos h.invoice]

theorem RefsUnique.of_insert
    (h : RefsUnique (payments.insert payment)) : RefsUnique payments := by
  intro j k p q hp hq
  refine h j k p q ?_ ?_
  · rw [Table.getElem?_insert, if_neg (by have := lt_length hp; rw [Table.nextId]; omega), hp]
  · rw [Table.getElem?_insert, if_neg (by have := lt_length hq; rw [Table.nextId]; omega), hq]

/-- A reference recorded a second time is on two payments. -/
theorem not_refsUnique_of_recorded
    (hne : payment.providerReference ≠ "")
    (hrec : recorded payments payment.providerReference = true) :
    ¬ RefsUnique (payments.insert payment) := by
  intro h
  rw [recorded, Table.existsRow_iff] at hrec
  obtain ⟨j, old, hold, heq⟩ := hrec
  have hlt := lt_length hold
  have hj : (payments.insert payment)[j]? = some old := by
    rw [Table.getElem?_insert, if_neg (by rw [Table.nextId]; omega), hold]
  have hnew : (payments.insert payment)[payments.nextId]? = some payment := by
    rw [Table.getElem?_insert, if_pos rfl]
  have hsame := h payments.nextId j payment old hnew hj hne (of_decide_eq_true heq).symm
  rw [Table.nextId] at hsame
  omega

theorem inStep_fresh (h : InStep i s) (hfresh : freshCommit s e.1 = true) :
    InStep i (raceStep i requests e s) := by
  have hready : Ready i (raceStep i requests e s) := ready_step h.ready
  rcases raceStep_cases i requests s e with
    ⟨phase, heq, -, hsnap, -⟩ | ⟨snap, payment, hphase, heq⟩ <;> rw [heq] at hready ⊢
  · refine ⟨⟨h.settled.sum, h.settled.covered, h.settled.refs⟩, hready, ?_⟩
    refine h.snaps.setPhase (fun _ hp => hp) e.1 fun snap hs => ?_
    rcases hsnap snap hs with rfl | hheld
    · exact ⟨rfl, Int.le_of_eq h.settled.sum⟩
    · exact h.snaps e.1 snap hheld
  have hc := h.ready e.1 snap payment hphase
  obtain ⟨hamount, -⟩ := h.snaps e.1 snap (by rw [hphase]; rfl)
  have hpos := hc.positive
  have hcovered := hc.covered
  have hsum := h.settled.sum
  simp only [freshCommit, hphase, Bool.and_eq_true, decide_eq_true_eq, Bool.or_eq_true,
    Bool.not_eq_true'] at hfresh
  obtain ⟨hrow, href⟩ := hfresh
  refine ⟨⟨?_, ?_, ?_⟩, hready, ?_⟩
  · simp only [writeBack_paid, hc.paidTotal]
    omega
  · simp only [writeBack_paid, writeBack_amount]
    rw [outstanding] at hcovered
    omega
  · refine h.settled.refs.insert payment fun hne other hother heq' => ?_
    rcases href with href | href
    · exact hne href
    have hrec : recorded s.payments payment.providerReference = true := by
      rw [recorded, Table.existsRow, List.any_eq_true]
      exact ⟨other, hother, decide_eq_true heq'⟩
    rw [href] at hrec
    cases hrec
  refine h.snaps.setPhase ?_ e.1 ?_
  · rintro snap' ⟨ha, hp⟩
    refine ⟨ha, ?_⟩
    simp only [hc.paidTotal]
    omega
  intro snap' h
  cases h

theorem outOfStep_of_stale (h : InStep i s) (hstale : freshCommit s e.1 ≠ true) :
    OutOfStep i (raceStep i requests e s) := by
  have hready : Ready i (raceStep i requests e s) := ready_step h.ready
  rcases raceStep_cases i requests s e with
    ⟨phase, heq, hfresh, -, -⟩ | ⟨snap, payment, hphase, heq⟩ <;> rw [heq] at hready ⊢
  · exact absurd hfresh hstale
  have hc := h.ready e.1 snap payment hphase
  have hpos := hc.positive
  have hsum := h.settled.sum
  obtain ⟨-, hle⟩ := h.snaps e.1 snap (by rw [hphase]; rfl)
  refine ⟨hready, ?_⟩
  by_cases hrow : s.row.amountPaidMinor = snap.amountPaidMinor
  · -- the row has not moved, so the reference was recorded meanwhile
    simp only [freshCommit, hphase, hrow, decide_true, Bool.true_and, ne_eq, Bool.or_eq_true,
      decide_eq_true_eq, Bool.not_eq_true', not_or, Bool.not_eq_false] at hstale
    exact Or.inr (not_refsUnique_of_recorded hstale.1 hstale.2)
  -- a credit made since the row was read is overwritten
  refine Or.inl ⟨?_, h.snaps.setPhase ?_ e.1 ?_⟩
  · simp only [writeBack_paid, hc.paidTotal]
    omega
  · rintro snap' ⟨-, hp⟩
    simp only [hc.paidTotal]
    omega
  intro snap' h
  cases h

theorem outOfStep_step (h : OutOfStep i s) : OutOfStep i (raceStep i requests e s) := by
  have hready : Ready i (raceStep i requests e s) := ready_step h.ready
  rcases raceStep_cases i requests s e with
    ⟨phase, heq, -, hsnap, -⟩ | ⟨snap, payment, hphase, heq⟩ <;> rw [heq] at hready ⊢
  · refine ⟨hready, h.lost.imp_left fun ⟨hrow, hsnaps⟩ => ⟨hrow, ?_⟩⟩
    refine hsnaps.setPhase (fun _ hp => hp) e.1 fun snap hs => ?_
    rcases hsnap snap hs with rfl | hheld
    · exact hrow
    · exact hsnaps e.1 snap hheld
  have hc := h.ready e.1 snap payment hphase
  have hpos := hc.positive
  refine ⟨hready, ?_⟩
  rcases h.lost with ⟨hrow, hsnaps⟩ | hrefs
  · have hlt := hsnaps e.1 snap (by rw [hphase]; rfl)
    refine Or.inl ⟨?_, hsnaps.setPhase ?_ e.1 ?_⟩
    · simp only [writeBack_paid, hc.paidTotal]
      omega
    · intro snap' hp
      simp only [hc.paidTotal]
      omega
    intro snap' h
    cases h
  · exact Or.inr fun h => hrefs h.of_insert

theorem OutOfStep.not_settled (h : OutOfStep i s) : ¬ Settled i s := by
  intro hs
  rcases h.lost with ⟨hrow, -⟩ | hrefs
  · have hsum := hs.sum
    omega
  · exact hrefs hs.refs

/-! ## An invoice for less than nothing -/

/-- Balances, and what the requests hold, are never negative; the amount stays. -/
structure NonNegative (amount : ℤ) (i : ℕ) (s : Race) : Prop where
  amount : s.row.amountMinor = amount
  ready : Ready i s
  row : 0 ≤ s.row.amountPaidMinor
  snaps : Snaps (fun snap => 0 ≤ snap.amountPaidMinor) s

theorem nonNegative_step {amount : ℤ} (h : NonNegative amount i s) :
    NonNegative amount i (raceStep i requests e s) := by
  have hready : Ready i (raceStep i requests e s) := ready_step h.ready
  rcases raceStep_cases i requests s e with
    ⟨phase, heq, -, hsnap, -⟩ | ⟨snap, payment, hphase, heq⟩ <;> rw [heq] at hready ⊢
  · refine ⟨h.amount, hready, h.row, h.snaps.setPhase (fun _ hp => hp) e.1 fun snap hs => ?_⟩
    rcases hsnap snap hs with rfl | hheld
    · exact h.row
    · exact h.snaps e.1 snap hheld
  have hpos := (h.ready e.1 snap payment hphase).positive
  have hsnap := h.snaps e.1 snap (by rw [hphase]; rfl)
  refine ⟨h.amount, hready, ?_, h.snaps.setPhase (fun _ hp => hp) e.1 ?_⟩
  · simp only [writeBack_paid]
    omega
  intro snap' h
  cases h

/-! ## The verdict -/

theorem snaps_start (p : SaasInvoice → Prop) (row : SaasInvoice) (payments : Table SaasPayment) :
    Snaps p (Race.start row payments) := by
  intro k snap h
  cases h

theorem ready_start (row : SaasInvoice) (payments : Table SaasPayment) :
    Ready i (Race.start row payments) := by
  intro k snap payment h
  cases h

/-- **Concurrent payments of an invoice keep its ledger in order exactly when** the
invoice is not for a negative amount and every commit of the schedule is fresh. -/
theorem payments_race_iff (cfg : Settings) (db : Db) (i : ℕ) (inv : SaasInvoice)
    (requests : ℕ → PayRequest) (schedule : List (ℕ × Time)) (hreach : Reach cfg db)
    (hinv : db.invoices[i]? = some inv) :
    Settled i (run (raceStep i requests) (Race.start inv db.payments) schedule)
      ↔ 0 ≤ inv.amountMinor
        ∧ Along (raceStep i requests) (fun s e => freshCommit s e.1 = true)
          (Race.start inv db.payments) schedule := by
  have hledger := hreach.books.ledger
  have hbalance := hledger.status inv (List.mem_of_getElem? hinv)
  by_cases hamount : 0 ≤ inv.amountMinor
  · rw [and_iff_right hamount]
    refine along_iff_final (I := InStep i) (B := OutOfStep i)
      (fun _ _ h hfresh => inStep_fresh h hfresh) (fun _ _ h hstale => outOfStep_of_stale h hstale)
      (fun _ _ h => outOfStep_step h) (fun _ h => h.settled) (fun _ h => h.not_settled) ?_
    refine ⟨⟨hledger.balance i inv hinv, ?_, hledger.refs⟩, ready_start inv db.payments,
      snaps_start _ inv db.payments⟩
    have hle := hbalance.le_amount
    simp only [Race.start]
    omega
  -- nothing is ever covered by a negative amount
  refine iff_of_false ?_ fun h => hamount h.1
  intro hsettled
  have hstart : NonNegative inv.amountMinor i (Race.start inv db.payments) :=
    ⟨rfl, ready_start inv db.payments, hbalance.nonneg, snaps_start _ inv db.payments⟩
  have hend : NonNegative inv.amountMinor i
      (run (raceStep i requests) (Race.start inv db.payments) schedule) :=
    run_invariant (fun _ _ h => nonNegative_step h) hstart schedule
  have hcovered := hsettled.covered
  rw [hend.amount] at hcovered
  have hrow := hend.row
  omega

/-- Two operators record a transfer of half the example school's invoice each. -/
def Example.halves : ℕ → PayRequest := fun k =>
  .pay operator { amountMinor := 250000, providerReference := if k = 0 then "trf-1" else "trf-2" }

/-- One after the other, and interleaved. -/
def Example.inTurn : List (ℕ × Time) :=
  [(0, day 5), (0, day 5), (0, day 5), (1, day 5), (1, day 5), (1, day 5)]

def Example.interleaved : List (ℕ × Time) :=
  [(0, day 5), (1, day 5), (0, day 5), (1, day 5), (0, day 5), (1, day 5)]

/-- The equivalence at the example school's invoice, for two payments in turn. -/
theorem payments_race_iff_example :
    ∃ inv, (run (step Example.settings) {} Example.opened).invoices[0]? = some inv
      ∧ (Settled 0 (run (raceStep 0 Example.halves)
          (Race.start inv (run (step Example.settings) {} Example.opened).payments)
          Example.inTurn)
        ↔ 0 ≤ inv.amountMinor
          ∧ Along (raceStep 0 Example.halves) (fun s e => freshCommit s e.1 = true)
            (Race.start inv (run (step Example.settings) {} Example.opened).payments)
            Example.inTurn) :=
  ⟨_, rfl, payments_race_iff Example.settings _ 0 _ Example.halves Example.inTurn
    ⟨Example.opened, rfl⟩ rfl⟩

/-- Payments are lost under concurrency: two transfers of half the amount are both
recorded, and the invoice is credited one. -/
theorem not_payments_race :
    ¬ ∀ (cfg : Settings) (db : Db) (i : ℕ) (inv : SaasInvoice) (requests : ℕ → PayRequest)
        (schedule : List (ℕ × Time)), Reach cfg db → db.invoices[i]? = some inv →
      0 ≤ inv.amountMinor →
      Settled i (run (raceStep i requests) (Race.start inv db.payments) schedule) := by
  intro h
  have hsettled := h Example.settings _ 0 _ Example.halves Example.interleaved
    ⟨Example.opened, rfl⟩ rfl (by decide)
  have hsum := hsettled.sum
  revert hsum
  decide

end MultiAcademy.Control
