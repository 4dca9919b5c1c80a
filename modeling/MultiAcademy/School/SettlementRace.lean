import MultiAcademy.School.GatewayPayments

/-!
# One settlement of a checkout session

A settlement looks for a payment under the provider's reference and inserts one when there
is none.  The look-up and the insert are two steps, and a verification and a webhook name
one transaction by two references, so neither the look-up nor the unique index keeps two
settlements of a session apart.
-/

namespace MultiAcademy.School

open MultiAcademy.Lib

/-- A payment of the session with reference `r`, from a settlement. -/
def FeePayment.settles (r : String) (row : FeePayment) : Bool :=
  row.reference = some r && row.providerReference.isSome

def paymentsOf (r : String) (db : FeeDb) : ℕ := db.payments.countP (FeePayment.settles r)

/-- How many advance credits a session has. -/
def creditsOf (r : String) (db : FeeDb) : ℕ := db.credits.countP fun row => row.reference = r

/-- The provider's reference under which a call is about to insert a payment of `r`. -/
def SettlePhase.inserts (r : String) : SettlePhase → Option String
  | .inserting job => if job.input.reference = r then some job.input.providerReference else none
  | _ => none

/-- The references under which calls are about to insert a payment of `r`, as far as the
unique index lets them. -/
def inserting (r : String) (s : GatewayState) : List String :=
  (s.calls.filterMap (SettlePhase.inserts r)).filter fun q => (findPayment q s.db).isNone

/-- A settlement of `r` that looks for a payment and finds none is the only one: the
session has no payment, and none is about to be inserted under another reference. -/
def settlesAlone (r : String) (s : GatewayState) : GatewayEvent → Bool
  | .advance i _ =>
    match s.calls[i]? with
    | some (.checking job) =>
      job.input.reference ≠ r || (findPayment job.input.providerReference s.db).isSome
        || (paymentsOf r s.db = 0
          && (inserting r s).all fun q => q = job.input.providerReference)
    | _ => true
  | _ => true

/-- The event is a step of a call that is about to insert a payment of `r`. -/
def goesOn (r : String) (s : GatewayState) : GatewayEvent → Bool
  | .advance i _ => s.calls[i]?.any fun phase => (phase.inserts r).isSome
  | _ => false

variable {env : GatewayEnv} {r q : String} {s s' : GatewayState} {e : GatewayEvent}
  {reply : Reply} {phase : SettlePhase} {db : FeeDb} {i : ℕ}

/-! ## What a step inserts -/

theorem findPayment_eq_none :
    findPayment q db = none ↔ ∀ row ∈ db.payments, row.providerReference ≠ some q := by
  simp [findPayment, Table.first?_eq_none]

theorem mem_inserting :
    q ∈ inserting r s
      ↔ (∃ phase ∈ s.calls, phase.inserts r = some q) ∧ findPayment q s.db = none := by
  simp [inserting, Option.isNone_iff_eq_none]

/-- The phases from which a call is not past its look-up, and those after its answer. -/
def SettlePhase.idle : SettlePhase → Bool
  | .inserting _ | .paid _ _ _ => false
  | _ => true

/-- A call that found no payment, or came later. -/
def SettlePhase.past : SettlePhase → Bool
  | .inserting _ | .paid _ _ _ | .answered _ _ | .failed _ _ => true
  | _ => false

theorem idle_chargeSaas (sessionId : ℕ) (session : CheckoutSession) (amountMinor : ℤ)
    (providerId providerReference : String) :
    (chargeSaas sessionId session amountMinor providerId providerReference).idle = true := by
  simp only [chargeSaas]
  split <;> rfl

theorem idle_readSession (input : SettleInput) (db : FeeDb) :
    (readSession input db).idle = true := by
  simp only [readSession]
  split
  · rfl
  split
  · rfl
  split
  · rfl
  split
  · rfl
  split
  · exact idle_chargeSaas _ _ _ _ _
  · rfl

theorem idle_verified (reference : String) (session : Option (ℕ × CheckoutSession))
    (verification : PaymentVerification) :
    (verified reference session verification).idle = true := by
  unfold verified
  split
  · rfl
  simp only
  split
  · exact idle_chargeSaas _ _ _ _ _
  · rfl

/-- A step that pays nothing and credits nothing. -/
structure Idles (phase : SettlePhase) (db : FeeDb) (next : SettlePhase × FeeDb) : Prop where
  idle : next.1.idle = true
  past : phase.past = true → next.1.past = true
  payments : next.2.payments = db.payments
  credits : next.2.credits = db.credits

/-- **What a step does**: a look-up that finds nothing, an insert, a write after it, or
nothing to the payments and the credits. -/
theorem settleStep_cases (env : GatewayEnv) (reply : Reply) (phase : SettlePhase) (db : FeeDb) :
    (∃ job, phase = .checking job ∧ findPayment job.input.providerReference db = none
      ∧ settleStep env reply phase db = (.inserting job, db))
    ∨ (∃ job, phase = .inserting job ∧ findPayment job.input.providerReference db = none
      ∧ settleStep env reply phase db
        = (.paid .session job db.payments.nextId,
          { db with payments := db.payments.insert job.payment }))
    ∨ (∃ stage job paymentId, phase = .paid stage job paymentId
      ∧ settleStep env reply phase db = paidStep stage job paymentId db)
    ∨ Idles phase db (settleStep env reply phase db) := by
  cases phase with
  | lookup reference =>
    refine Or.inr (Or.inr (Or.inr ?_))
    simp only [settleStep]
    split
    · exact ⟨rfl, nofun, rfl, rfl⟩
    · exact ⟨rfl, nofun, rfl, rfl⟩
  | verifying reference session =>
    refine Or.inr (Or.inr (Or.inr ?_))
    simp only [settleStep]
    split
    · exact ⟨rfl, fun _ => rfl, rfl, rfl⟩
    · exact ⟨idle_verified reference session _, nofun, rfl, rfl⟩
  | reading input => exact Or.inr (Or.inr (Or.inr ⟨idle_readSession input db, nofun, rfl, rfl⟩))
  | charging saas =>
    refine Or.inr (Or.inr (Or.inr ?_))
    simp only [settleStep]
    split
    · exact ⟨rfl, nofun, rfl, rfl⟩
    · exact ⟨rfl, nofun, rfl, rfl⟩
  | checking job =>
    simp only [settleStep]
    cases hfind : findPayment job.input.providerReference db with
    | none => exact Or.inl ⟨job, rfl, hfind, rfl⟩
    | some paymentId => exact Or.inr (Or.inr (Or.inr ⟨rfl, nofun, rfl, rfl⟩))
  | inserting job =>
    simp only [settleStep]
    cases hfind : findPayment job.input.providerReference db with
    | none => exact Or.inr (Or.inl ⟨job, rfl, hfind, rfl⟩)
    | some paymentId => exact Or.inr (Or.inr (Or.inr ⟨rfl, fun _ => rfl, rfl, rfl⟩))
  | paid stage job paymentId => exact Or.inr (Or.inr (Or.inl ⟨stage, job, paymentId, rfl, rfl⟩))
  | closing | answered | failed => exact Or.inr (Or.inr (Or.inr ⟨rfl, fun _ => rfl, rfl, rfl⟩))

/-- How many writes after the payment a stage may be from the end. -/
def Stage.rank : Stage → ℕ
  | .session => 5
  | .balance => 4
  | .invoice => 3
  | .reminders => 2
  | .installment => 1
  | .credit => 0

/-- A write after the payment: the call goes on with the payment, at a later stage, or
answers with it, and its last write may be the credit. -/
theorem paidStep_cases (stage : Stage) (job : Settlement) (paymentId : ℕ) (db : FeeDb) :
    (paidStep stage job paymentId db).2.payments = db.payments
    ∧ (((paidStep stage job paymentId db).2.credits = db.credits
        ∧ ∃ stage', stage'.rank < stage.rank
          ∧ (paidStep stage job paymentId db).1 = .paid stage' job paymentId)
      ∨ ((paidStep stage job paymentId db).1 = .answered .success (some (.payment paymentId))
        ∧ ((paidStep stage job paymentId db).2.credits = db.credits
          ∨ (paidStep stage job paymentId db).2.credits
            = db.credits.insert (job.credit paymentId)))) := by
  have hinstallment : afterInstallment job paymentId = .paid .credit job paymentId
      ∨ afterInstallment job paymentId = .answered .success (some (.payment paymentId)) := by
    simp only [afterInstallment]
    split
    · exact Or.inl rfl
    · exact Or.inr rfl
  have hinvoice : (∃ stage', stage'.rank < 2
        ∧ afterInvoice job paymentId = .paid stage' job paymentId)
      ∨ afterInvoice job paymentId = .answered .success (some (.payment paymentId)) := by
    simp only [afterInvoice]
    split
    · exact Or.inl ⟨.installment, by decide, rfl⟩
    · exact hinstallment.imp (⟨.credit, by decide, ·⟩) id
  have hsession : (∃ stage', stage'.rank < 5
        ∧ afterSession job paymentId = .paid stage' job paymentId)
      ∨ afterSession job paymentId = .answered .success (some (.payment paymentId)) := by
    simp only [afterSession]
    split
    · exact Or.inl ⟨.balance, by decide, rfl⟩
    · exact hinvoice.imp (fun ⟨stage', hrank, h⟩ => ⟨stage', by omega, h⟩) id
  cases stage with
  | session => exact ⟨rfl, hsession.imp (⟨rfl, ·⟩) (⟨·, Or.inl rfl⟩)⟩
  | balance =>
    simp only [paidStep]
    split
    · exact ⟨rfl, Or.inl ⟨rfl, .invoice, by decide, rfl⟩⟩
    · exact ⟨rfl, Or.inl ⟨rfl, .reminders, by decide, rfl⟩⟩
  | invoice =>
    simp only [paidStep]
    cases job.session.invoiceId with
    | none => exact ⟨rfl, Or.inl ⟨rfl, .reminders, by decide, rfl⟩⟩
    | some i => exact ⟨rfl, Or.inl ⟨rfl, .reminders, by decide, rfl⟩⟩
  | reminders =>
    simp only [paidStep]
    cases job.session.invoiceId with
    | none => exact ⟨rfl, hinvoice.imp (⟨rfl, ·⟩) (⟨·, Or.inl rfl⟩)⟩
    | some i => exact ⟨rfl, hinvoice.imp (⟨rfl, ·⟩) (⟨·, Or.inl rfl⟩)⟩
  | installment =>
    have hcredit := hinstallment.imp
      (fun h => (⟨.credit, by decide, h⟩ : ∃ stage' : Stage, stage'.rank < 1
        ∧ afterInstallment job paymentId = .paid stage' job paymentId)) id
    simp only [paidStep]
    cases job.session.installmentId with
    | none => exact ⟨rfl, hcredit.imp (⟨rfl, ·⟩) (⟨·, Or.inl rfl⟩)⟩
    | some i => exact ⟨rfl, hcredit.imp (⟨rfl, ·⟩) (⟨·, Or.inl rfl⟩)⟩
  | credit => exact ⟨rfl, Or.inr ⟨rfl, Or.inr rfl⟩⟩

theorem inserts_of_idle (h : phase.idle = true) : phase.inserts r = none := by
  cases phase with
  | inserting => cases h
  | lookup | verifying | reading | charging | closing | checking | paid | answered | failed => rfl

theorem webhookPhase_inserts (providerId gatewayId : String) (result : WebhookResult) :
    (webhookPhase providerId gatewayId result).inserts r = none := by
  simp only [webhookPhase]
  split
  · rfl
  · split <;> rfl

theorem paymentsOf_insert (r : String) (job : Settlement) (db : FeeDb) :
    paymentsOf r { db with payments := db.payments.insert job.payment }
      = paymentsOf r db + if job.input.reference = r then 1 else 0 := by
  simp [paymentsOf, Table.insert, List.countP_append, FeePayment.settles, Settlement.payment]

theorem inserts_eq_some :
    phase.inserts r = some q
      ↔ ∃ job, phase = .inserting job ∧ job.input.reference = r
        ∧ job.input.providerReference = q := by
  cases phase with
  | inserting job => simp [SettlePhase.inserts]
  | lookup | verifying | reading | charging | closing | checking | paid | answered | failed =>
    simp [SettlePhase.inserts]

/-! ## Settling alone -/

/-- The session has one payment or none, whatever the calls about to insert do. -/
structure Sole (r : String) (s : GatewayState) : Prop where
  one : paymentsOf r s.db ≤ 1
  unpaid : ∀ q ∈ inserting r s, paymentsOf r s.db = 0
  same : ∀ q ∈ inserting r s, ∀ q' ∈ inserting r s, q = q'

/-- A step that inserts nothing, and makes no call insert. -/
theorem Sole.quiet (h : Sole r s) (hpayments : s'.db.payments = s.db.payments)
    (hcalls : ∀ phase ∈ s'.calls, ∀ q, phase.inserts r = some q → phase ∈ s.calls) :
    Sole r s' := by
  have hcount : paymentsOf r s'.db = paymentsOf r s.db := by
    rw [paymentsOf, paymentsOf, hpayments]
  have hsub : ∀ q, q ∈ inserting r s' → q ∈ inserting r s := by
    intro q hq
    rw [mem_inserting] at hq ⊢
    obtain ⟨⟨phase, hphase, hinserts⟩, hnone⟩ := hq
    rw [findPayment_eq_none, hpayments, ← findPayment_eq_none] at hnone
    exact ⟨⟨phase, hcalls phase hphase q hinserts, hinserts⟩, hnone⟩
  refine ⟨?_, ?_, ?_⟩
  · rw [hcount]
    exact h.one
  · intro q hq
    rw [hcount]
    exact h.unpaid q (hsub q hq)
  intro q hq q' hq'
  exact h.same q (hsub q hq) q' (hsub q' hq')

theorem mem_calls_set {calls : List SettlePhase} (h : phase.inserts r = none) :
    ∀ phase' ∈ calls.set i phase, ∀ q, phase'.inserts r = some q → phase' ∈ calls := by
  intro phase' hmem q hinserts
  rcases List.mem_or_eq_of_mem_set hmem with hold | rfl
  · exact hold
  rw [h] at hinserts
  cases hinserts

/-- **The look-up.**  A call that finds no payment will insert one. -/
theorem sole_checked {job : Settlement} (h : Sole r s)
    (hphase : s.calls[i]? = some (.checking job))
    (hnone : findPayment job.input.providerReference s.db = none) :
    Sole r { s with calls := s.calls.set i (.inserting job) }
      ↔ job.input.reference ≠ r ∨ (paymentsOf r s.db = 0
        ∧ ∀ q ∈ inserting r s, q = job.input.providerReference) := by
  have hi : i < s.calls.length := (List.getElem?_eq_some_iff.1 hphase).1
  by_cases href : job.input.reference = r
  · have hinserts : (SettlePhase.inserting job).inserts r = some job.input.providerReference := by
      simp [SettlePhase.inserts, href]
    have hnew : ∀ q, q ∈ inserting r { s with calls := s.calls.set i (.inserting job) }
        ↔ q = job.input.providerReference ∨ q ∈ inserting r s := by
      intro q
      simp only [mem_inserting]
      constructor
      · rintro ⟨⟨phase, hmem, hq⟩, hfree⟩
        rcases List.mem_or_eq_of_mem_set hmem with hold | rfl
        · exact Or.inr ⟨⟨phase, hold, hq⟩, hfree⟩
        rw [hinserts] at hq
        exact Or.inl (Option.some.inj hq).symm
      rintro (rfl | ⟨⟨phase, hmem, hq⟩, hfree⟩)
      · exact ⟨⟨_, List.mem_set hi _, hinserts⟩, hnone⟩
      refine ⟨⟨phase, ?_, hq⟩, hfree⟩
      -- it is not the call that moves
      obtain ⟨j, hj⟩ := List.mem_iff_getElem?.1 hmem
      refine List.mem_iff_getElem?.2 ⟨j, ?_⟩
      rw [List.getElem?_set, if_neg ?_]
      · exact hj
      rintro rfl
      rw [hphase] at hj
      cases hj
      cases hq
    constructor
    · intro hsole
      have hmine := (hnew _).2 (Or.inl rfl)
      refine Or.inr ⟨hsole.unpaid _ hmine, ?_⟩
      intro q hq
      exact hsole.same q ((hnew q).2 (Or.inr hq)) _ hmine
    rintro (hne | ⟨hunpaid, hsame⟩)
    · exact absurd href hne
    have hall : ∀ q, q ∈ inserting r { s with calls := s.calls.set i (.inserting job) } →
        q = job.input.providerReference := by
      intro q hq
      rcases (hnew q).1 hq with rfl | hq
      · rfl
      · exact hsame q hq
    refine ⟨h.one, fun _ _ => hunpaid, ?_⟩
    intro q hq q' hq'
    rw [hall q hq, hall q' hq']
  refine iff_of_true (h.quiet rfl (mem_calls_set ?_)) (Or.inl href)
  simp [SettlePhase.inserts, href]

/-- **The insert.**  The payment of the one settlement stops every other. -/
theorem sole_inserted {job : Settlement} (h : Sole r s)
    (hphase : s.calls[i]? = some (.inserting job))
    (hnone : findPayment job.input.providerReference s.db = none) (next : SettlePhase)
    (hnext : next.inserts r = none) :
    Sole r
      { db := { s.db with payments := s.db.payments.insert job.payment }
        calls := s.calls.set i next } := by
  have hsub : ∀ q, q ∈ inserting r
        { db := { s.db with payments := s.db.payments.insert job.payment }
          calls := s.calls.set i next } →
      q ∈ inserting r s ∧ q ≠ job.input.providerReference := by
    intro q hq
    rw [mem_inserting] at hq ⊢
    obtain ⟨⟨phase, hmem, hinserts⟩, hfree⟩ := hq
    rw [findPayment_eq_none] at hfree
    have hold : findPayment q s.db = none :=
      findPayment_eq_none.2 fun row hrow => hfree row (List.mem_append_left _ hrow)
    refine ⟨⟨⟨phase, mem_calls_set hnext phase hmem q hinserts, hinserts⟩, hold⟩, ?_⟩
    rintro rfl
    exact hfree job.payment (List.mem_append_right _ List.mem_cons_self) rfl
  have hcount := paymentsOf_insert r job s.db
  by_cases href : job.input.reference = r
  · have hmine : job.input.providerReference ∈ inserting r s :=
      mem_inserting.2 ⟨⟨_, List.mem_of_getElem? hphase, by simp [SettlePhase.inserts, href]⟩,
        hnone⟩
    have hempty : ∀ q, q ∉ inserting r
        { db := { s.db with payments := s.db.payments.insert job.payment }
          calls := s.calls.set i next } := by
      intro q hq
      exact (hsub q hq).2 (h.same q (hsub q hq).1 _ hmine)
    refine ⟨?_, fun q hq => absurd hq (hempty q), fun q hq => absurd hq (hempty q)⟩
    rw [hcount, h.unpaid _ hmine, if_pos href]
  rw [if_neg href, Nat.add_zero] at hcount
  refine ⟨?_, ?_, ?_⟩
  · rw [hcount]
    exact h.one
  · intro q hq
    rw [hcount]
    exact h.unpaid q (hsub q hq).1
  intro q hq q' hq'
  exact h.same q (hsub q hq).1 q' (hsub q' hq').1

/-- **One step keeps a session's settlement the only one exactly when a look-up that finds
no payment is the only one.** -/
theorem gatewayStep_sole (h : Sole r s) :
    Sole r (gatewayStep env e s) ↔ settlesAlone r s e = true := by
  cases e with
  | verify reference =>
    refine iff_of_true (h.quiet rfl ?_) rfl
    intro phase hmem q hinserts
    rcases List.mem_append.1 hmem with hold | hnew
    · exact hold
    rw [List.mem_singleton.1 hnew] at hinserts
    cases hinserts
  | webhook providerId gatewayId result =>
    refine iff_of_true (h.quiet rfl ?_) rfl
    intro phase hmem q hinserts
    rcases List.mem_append.1 hmem with hold | hnew
    · exact hold
    rw [List.mem_singleton.1 hnew, webhookPhase_inserts] at hinserts
    cases hinserts
  | stop i => exact iff_of_true (h.quiet rfl (mem_calls_set rfl)) rfl
  | advance i reply =>
    simp only [gatewayStep, settlesAlone]
    cases hphase : s.calls[i]? with
    | none => exact iff_of_true h rfl
    | some phase =>
      rcases settleStep_cases env reply phase s.db with ⟨job, rfl, hnone, hstep⟩
        | ⟨job, rfl, hnone, hstep⟩ | ⟨stage, job, paymentId, rfl, hstep⟩ | hidles
      · simp only [hstep, sole_checked h hphase hnone]
        simp [hnone]
      · simp only [hstep]
        exact iff_of_true (sole_inserted h hphase hnone _ rfl) trivial
      · obtain ⟨hpayments, hnext⟩ := paidStep_cases stage job paymentId s.db
        simp only [hstep]
        refine iff_of_true (h.quiet hpayments (mem_calls_set ?_)) trivial
        rcases hnext with ⟨-, stage', -, hnext⟩ | ⟨hnext, -⟩
        · rw [hnext]
          rfl
        rw [hnext]
        rfl
      refine iff_of_true (h.quiet hidles.payments (mem_calls_set
        (inserts_of_idle hidles.idle))) ?_
      cases phase with
      | checking job =>
        cases hfind : findPayment job.input.providerReference s.db with
        | some paymentId => simp [hfind]
        | none =>
          have hinserting := hidles.idle
          simp only [settleStep, hfind] at hinserting
          cases hinserting
      | lookup | verifying | reading | charging | closing | inserting | paid | answered
      | failed => rfl

/-! ## Going on -/

theorem settleStep_past (h : phase.past = true) :
    (settleStep env reply phase db).1.past = true := by
  rcases settleStep_cases env reply phase db with ⟨job, rfl, -, -⟩ | ⟨job, rfl, -, hstep⟩
    | ⟨stage, job, paymentId, rfl, hstep⟩ | hidles
  · cases h
  · rw [hstep]
    rfl
  · rw [hstep]
    rcases (paidStep_cases stage job paymentId db).2 with ⟨-, stage', -, hnext⟩ | ⟨hnext, -⟩
    · rw [hnext]
      rfl
    rw [hnext]
    rfl
  · exact hidles.past h

def pastLookup (s : GatewayState) : GatewayEvent → Bool
  | .advance i _ => s.calls[i]?.any SettlePhase.past
  | _ => false

theorem goesOn_pastLookup (h : goesOn r s e = true) : pastLookup s e = true := by
  cases e with
  | verify | webhook | stop => cases h
  | advance i reply =>
    simp only [goesOn, pastLookup, Option.any_eq_true] at h ⊢
    obtain ⟨phase, hphase, hinserts⟩ := h
    refine ⟨phase, hphase, ?_⟩
    cases phase with
    | inserting => rfl
    | lookup | verifying | reading | charging | closing | checking | paid | answered
    | failed => cases hinserts

/-- A call that is past the look-up stays past it. -/
theorem pastLookup_step {e' : GatewayEvent} (he : pastLookup s e = true)
    (he' : pastLookup s e' = true) : pastLookup (gatewayStep env e s) e' = true := by
  cases e with
  | verify | webhook | stop => cases he
  | advance i reply =>
    cases e' with
    | verify | webhook | stop => cases he'
    | advance j reply' =>
      simp only [pastLookup, Option.any_eq_true] at he he' ⊢
      obtain ⟨phase, hphase, hpast⟩ := he
      obtain ⟨phase', hphase', hpast'⟩ := he'
      have hi : i < s.calls.length := (List.getElem?_eq_some_iff.1 hphase).1
      simp only [gatewayStep, hphase]
      by_cases hid : i = j
      · subst hid
        exact ⟨(settleStep env reply phase s.db).1, by simp [hi], settleStep_past hpast⟩
      · exact ⟨phase', by rw [List.getElem?_set, if_neg hid, hphase'], hpast'⟩

/-- A step past the look-up meets the condition. -/
theorem settlesAlone_of_pastLookup (h : pastLookup s e = true) : settlesAlone r s e = true := by
  cases e with
  | verify | webhook | stop => rfl
  | advance i reply =>
    simp only [pastLookup, Option.any_eq_true] at h
    obtain ⟨phase, hphase, hpast⟩ := h
    simp only [settlesAlone, hphase]
    cases phase with
    | checking => cases hpast
    | lookup | verifying | reading | charging | closing | inserting | paid | answered
    | failed => rfl

/-- **The settlements under way keep the one settlement the only one.** -/
theorem Sole.goesOn {more : List GatewayEvent} (h : Sole r s)
    (hmore : ∀ e ∈ more, pastLookup s e = true) : Sole r (run (gatewayStep env) s more) := by
  induction more generalizing s with
  | nil => exact h
  | cons e more ih =>
    have he := hmore e List.mem_cons_self
    refine ih ((gatewayStep_sole h).2 (settlesAlone_of_pastLookup he)) ?_
    intro e' he'
    exact pastLookup_step he (hmore e' (List.mem_cons_of_mem _ he'))

/-! ## Credits -/

/-- A call that has inserted a payment of `r`, and may still credit it. -/
def SettlePhase.owes (r : String) : SettlePhase → Bool
  | .paid _ job _ => job.input.reference = r
  | _ => false

/-- Every credit of a session, given or still due, has a payment. -/
def Backed (r : String) (s : GatewayState) : Prop :=
  creditsOf r s.db + s.calls.countP (SettlePhase.owes r) ≤ paymentsOf r s.db

theorem owes_of_idle (h : phase.idle = true) : phase.owes r = false := by
  cases phase with
  | paid => cases h
  | lookup | verifying | reading | charging | closing | checking | inserting | answered
  | failed => rfl

/-- A step credits what was owed, and owes what it paid. -/
theorem settleStep_backed (env : GatewayEnv) (reply : Reply) (phase : SettlePhase) (db : FeeDb) :
    creditsOf r (settleStep env reply phase db).2
        + ((if (settleStep env reply phase db).1.owes r then 1 else 0) + paymentsOf r db)
      ≤ creditsOf r db + ((if phase.owes r then 1 else 0)
        + paymentsOf r (settleStep env reply phase db).2) := by
  rcases settleStep_cases env reply phase db with ⟨job, rfl, -, hstep⟩ | ⟨job, rfl, -, hstep⟩
    | ⟨stage, job, paymentId, rfl, hstep⟩ | hidles
  · rw [hstep]
    exact Nat.le_refl _
  · rw [hstep]
    simp only [SettlePhase.owes, creditsOf, paymentsOf, Table.insert, List.countP_append]
    by_cases href : job.input.reference = r
    · simp [href, FeePayment.settles, Settlement.payment]
      omega
    · simp [href, FeePayment.settles, Settlement.payment]
  · rw [hstep]
    obtain ⟨hpayments, hnext⟩ := paidStep_cases stage job paymentId db
    rw [paymentsOf, paymentsOf, hpayments]
    rcases hnext with ⟨hcredits, stage', -, hnext⟩ | ⟨hnext, hcredits | hcredits⟩
    · rw [creditsOf, hcredits, hnext]
      exact Nat.le_refl _
    · rw [creditsOf, hcredits, hnext]
      simp only [SettlePhase.owes, creditsOf, Bool.false_eq_true, if_false]
      omega
    rw [creditsOf, hcredits, hnext]
    simp only [SettlePhase.owes, creditsOf, Table.insert, List.countP_append]
    by_cases href : job.input.reference = r
    · simp [href, Settlement.credit]
      omega
    · simp [href, Settlement.credit]
  rw [creditsOf, creditsOf, paymentsOf, paymentsOf, hidles.credits, hidles.payments,
    owes_of_idle hidles.idle]
  simp

/-- **Every step backs the credits it gives and owes.** -/
theorem gatewayStep_backed (h : Backed r s) : Backed r (gatewayStep env e s) := by
  simp only [Backed] at h ⊢
  cases e with
  | verify reference => simpa [gatewayStep, SettlePhase.owes] using h
  | webhook providerId gatewayId result =>
    have howes : (webhookPhase providerId gatewayId result).owes r = false := by
      simp only [webhookPhase]
      split
      · rfl
      · split <;> rfl
    simpa [gatewayStep, howes] using h
  | stop i =>
    simp only [gatewayStep]
    by_cases hi : i < s.calls.length
    · have hkept : (s.calls.set i (.failed 500 "Internal server error")).countP
          (SettlePhase.owes r) ≤ s.calls.countP (SettlePhase.owes r) := by
        rw [List.countP_set hi]
        exact Nat.sub_le _ _
      omega
    · rwa [List.set_eq_of_length_le (Nat.not_lt.1 hi)]
  | advance i reply =>
    simp only [gatewayStep]
    cases hphase : s.calls[i]? with
    | none => exact h
    | some phase =>
      obtain ⟨hi, hget⟩ := List.getElem?_eq_some_iff.1 hphase
      have hstep := settleStep_backed (r := r) env reply phase s.db
      have hpos : (if phase.owes r then 1 else 0) ≤ s.calls.countP (SettlePhase.owes r) := by
        split
        · exact List.countP_pos_iff.2 ⟨phase, List.mem_of_getElem? hphase, ‹_›⟩
        · exact Nat.zero_le _
      simp only [List.countP_set hi, hget]
      omega

/-! ## Runs -/

/-- A call that is about to insert a payment of `r` does. -/
theorem gatewayStep_insert {job : Settlement} (hphase : s.calls[i]? = some (.inserting job))
    (hfree : findPayment job.input.providerReference s.db = none) :
    gatewayStep env (.advance i reply) s
      = { db := { s.db with payments := s.db.payments.insert job.payment }
          calls := s.calls.set i (.paid .session job s.db.payments.nextId) } := by
  simp [gatewayStep, hphase, settleStep, hfree]

/-- Payments about to be inserted under two references, or one besides a payment that is
there, would come about. -/
theorem sole_of_goesOn (env : GatewayEnv) (h : ∀ more : List GatewayEvent,
    (∀ e ∈ more, goesOn r s e = true) → paymentsOf r (run (gatewayStep env) s more).db ≤ 1) :
    Sole r s := by
  have hreply : Reply := { verification := .error (500, "Internal server error") }
  have hfind : ∀ q ∈ inserting r s, ∃ (i : ℕ) (job : Settlement),
      s.calls[i]? = some (.inserting job) ∧ job.input.reference = r
        ∧ job.input.providerReference = q ∧ findPayment q s.db = none := by
    intro q hq
    obtain ⟨⟨phase, hmem, hinserts⟩, hfree⟩ := mem_inserting.1 hq
    obtain ⟨job, rfl, href, hprovider⟩ := inserts_eq_some.1 hinserts
    obtain ⟨i, hi⟩ := List.mem_iff_getElem?.1 hmem
    exact ⟨i, job, hi, href, hprovider, hfree⟩
  refine ⟨h [] nofun, ?_, ?_⟩
  · intro q hq
    obtain ⟨i, job, hi, href, rfl, hfree⟩ := hfind q hq
    have hone := h [.advance i hreply] (by simp [goesOn, hi, SettlePhase.inserts, href])
    rw [run_cons, run_nil, gatewayStep_insert hi hfree, paymentsOf_insert, if_pos href] at hone
    omega
  intro q hq q' hq'
  obtain ⟨i, job, hi, href, rfl, hfree⟩ := hfind q hq
  obtain ⟨j, job', hj, href', rfl, hfree'⟩ := hfind q' hq'
  by_contra hne
  have hid : i ≠ j := by
    rintro rfl
    rw [hi] at hj
    cases hj
    exact hne rfl
  have hone := h [.advance i hreply, .advance j hreply]
    (by simp [goesOn, hi, hj, SettlePhase.inserts, href, href'])
  have hj' : (s.calls.set i (.paid .session job s.db.payments.nextId))[j]?
      = some (.inserting job') := by
    rw [List.getElem?_set, if_neg hid, hj]
  have hfree'' : findPayment job'.input.providerReference
      { s.db with payments := s.db.payments.insert job.payment } = none := by
    rw [findPayment_eq_none] at hfree' ⊢
    intro row hrow
    rcases List.mem_append.1 hrow with hold | hnew
    · exact hfree' row hold
    rw [List.mem_singleton.1 hnew]
    intro hsame
    exact hne (Option.some.inj hsame)
  rw [run_cons, run_cons, run_nil, gatewayStep_insert hi hfree, gatewayStep_insert hj' hfree'',
    paymentsOf_insert, paymentsOf_insert, if_pos href, if_pos href'] at hone
  omega

/-- **A session is paid once and credited at most once, whatever its settlements under way
go on to do, exactly along the runs in which a settlement that looks for a payment and finds
none is the only one: the session has no payment, and none is about to be inserted under
another reference of the provider.** -/
theorem settled_once_iff (env : GatewayEnv) (db : FeeDb) (r : String) (es : List GatewayEvent)
    (hpayments : paymentsOf r db = 0) (hcredits : creditsOf r db = 0) :
    (∀ pre, pre <+: es → ∀ more,
      (∀ e ∈ more, goesOn r (run (gatewayStep env) { db } pre) e = true) →
        paymentsOf r (run (gatewayStep env) { db } (pre ++ more)).db ≤ 1
        ∧ creditsOf r (run (gatewayStep env) { db } (pre ++ more)).db ≤ 1)
      ↔ Along (gatewayStep env) (fun s e => settlesAlone r s e = true) { db } es := by
  have hsole : Sole r ({ db } : GatewayState) := by
    have hempty : ∀ q, q ∉ inserting r ({ db } : GatewayState) := by
      intro q hq
      obtain ⟨⟨phase, hmem, -⟩, -⟩ := mem_inserting.1 hq
      cases hmem
    exact ⟨by rw [hpayments]; exact Nat.zero_le 1, fun q hq => absurd hq (hempty q),
      fun q hq => absurd hq (hempty q)⟩
  have hbacked : Backed r ({ db } : GatewayState) := by
    simp [Backed, hcredits, hpayments]
  have hiff : Along (gatewayStep env) (fun s e => settlesAlone r s e = true) { db } es
      ↔ ∀ pre, pre <+: es → Sole r (run (gatewayStep env) { db } pre) :=
    along_iff_throughout (D := fun _ _ => True) (fun _ _ _ h => gatewayStep_sole h)
      (along_of_forall (D := fun _ => True) fun _ _ => trivial) hsole
  rw [hiff]
  constructor
  · intro h pre hpre
    refine sole_of_goesOn env ?_
    intro more hmore
    rw [← run_append]
    exact (h pre hpre more hmore).1
  intro h pre hpre more hmore
  have hone : paymentsOf r (run (gatewayStep env) { db } (pre ++ more)).db ≤ 1 := by
    rw [run_append]
    exact ((h pre hpre).goesOn fun e he => goesOn_pastLookup (hmore e he)).one
  have hback : Backed r (run (gatewayStep env) { db } (pre ++ more)) :=
    run_invariant (fun _ _ h => gatewayStep_backed h) hbacked _
  simp only [Backed] at hback
  exact ⟨hone, by omega⟩

/-! ## A verification beside a webhook -/

/-- A parent pays 500.00 of an invoice. -/
def feeSession : CheckoutSession :=
  { studentId := "student", invoiceId := some 0, installmentId := none, amount := 50000
    currency := "NGN", reference := "pay_1", providerId := "paystack", kind := .invoice }

def feeDb : FeeDb :=
  { invoices := [{ studentId := "student", amount := 50000, status := .unpaid }]
    sessions := [feeSession] }

def feeTransaction : Transaction :=
  { id := 4099, reference := "pay_1", status := "success", amount := 50000, currency := "NGN" }

def feeReply : Reply :=
  { verification := .ok (PaystackGateway.verifyTransaction feeTransaction) }

/-- The verification and the webhook both look for a payment before either inserts one. -/
def crossing : List GatewayEvent :=
  [.verify "pay_1", .advance 0 feeReply, .advance 0 feeReply, .advance 0 feeReply,
    .webhook "paystack" "paystack" (PaystackGateway.handleWebhook "charge.success" feeTransaction),
    .advance 1 feeReply, .advance 1 feeReply, .advance 0 feeReply, .advance 0 feeReply,
    .advance 1 feeReply]

/-- The equivalence at that run. -/
theorem settled_once_iff_example :
    (∀ pre, pre <+: crossing → ∀ more,
      (∀ e ∈ more, goesOn "pay_1" (run (gatewayStep {}) { db := feeDb } pre) e = true) →
        paymentsOf "pay_1" (run (gatewayStep {}) { db := feeDb } (pre ++ more)).db ≤ 1
        ∧ creditsOf "pay_1" (run (gatewayStep {}) { db := feeDb } (pre ++ more)).db ≤ 1)
      ↔ Along (gatewayStep {}) (fun s e => settlesAlone "pay_1" s e = true) { db := feeDb }
        crossing :=
  settled_once_iff {} feeDb "pay_1" crossing (by decide) (by decide)

/-- One transaction is recorded as two payments. -/
theorem not_settled_once :
    ¬ ∀ (env : GatewayEnv) (db : FeeDb) (r : String) (es : List GatewayEvent),
      paymentsOf r db = 0 → creditsOf r db = 0 →
      paymentsOf r (run (gatewayStep env) { db } es).db ≤ 1 := by
  intro h
  have hone := h {} feeDb "pay_1" crossing (by decide) (by decide)
  revert hone
  decide +kernel

end MultiAcademy.School
