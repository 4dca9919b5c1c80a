import MultiAcademy.Control.BookSteps

/-!
# The ledger of the running program

The ledger invariant of the books, read back on the rows of every reachable database,
and replays: a payment whose reference is already recorded leaves the database alone,
through either endpoint.

An invoice may be issued for a negative amount, which nothing pays and nothing
settles; its balance is zero, above its amount.
-/

namespace MultiAcademy.Control

open MultiAcademy.Lib

variable {cfg : Settings} {now : Time} {db : Db}

/-- What a status says of a positive amount: paid means covered. -/
theorem InvoiceBalance.paid_iff {inv : SaasInvoice} (h : InvoiceBalance inv)
    (hpos : 0 < inv.amountMinor) :
    inv.status = .paid ↔ inv.amountMinor ≤ inv.amountPaidMinor := by
  cases h with
  | settled hstatus _ hpaid => exact iff_of_true hstatus (by omega)
  | owed howing _ _ hlt =>
    have hless := hlt hpos
    refine iff_of_false ?_ (by omega)
    intro hstatus
    simp [owing, hstatus] at howing

theorem InvoiceBalance.le_amount {inv : SaasInvoice} (h : InvoiceBalance inv) :
    inv.amountPaidMinor ≤ max inv.amountMinor 0 := by
  cases h with
  | settled _ hpos hpaid => omega
  | owed _ _ hle _ => exact hle

theorem InvoiceBalance.nonneg {inv : SaasInvoice} (h : InvoiceBalance inv) :
    0 ≤ inv.amountPaidMinor := by
  cases h with
  | settled _ hpos hpaid => omega
  | owed _ h0 _ _ => exact h0

/-! ## Replays -/

/-- A settlement whose reference is recorded changes nothing. -/
theorem settleTenantInvoice_replay (tenantRef : String) (i : ℕ) (body : SettleBody)
    (svc : ServiceContext) {payment : SaasPayment} (hmem : payment ∈ db.payments)
    (href : payment.providerReference = body.providerReference) :
    (settleTenantInvoice cfg now tenantRef i body svc db).db = db := by
  obtain ⟨k, dup, hfirst, hrow, -⟩ := Table.exists_first? hmem
    (p := fun payment => payment.providerReference = body.providerReference)
    (decide_eq_true href)
  unfold settleTenantInvoice
  rcases forTenant_cases db tenantRef svc _ with h | ⟨tenantId, tenant, -, -, h⟩
  · exact h
  rw [h, hfirst, Option.bind_some, hrow]
  split
  · rfl
  split
  · rfl
  split
  · rfl
  simp only
  split <;> rfl

/-- A payment whose non-empty reference is recorded changes nothing. -/
theorem payInvoice_replay (staff : StaffContext) (i : ℕ) (body : SaasPaymentCreate)
    {payment : SaasPayment} (hmem : payment ∈ db.payments)
    (href : payment.providerReference = body.providerReference)
    (hne : body.providerReference ≠ "") :
    (payInvoice cfg now staff i body db).db = db := by
  have hdup : body.providerReference ≠ "" ∧ db.payments.existsRow (fun payment =>
      payment.providerReference = body.providerReference) = true := by
    refine ⟨hne, ?_⟩
    simp only [Table.existsRow, List.any_eq_true]
    exact ⟨payment, hmem, decide_eq_true href⟩
  unfold payInvoice
  split
  · rfl
  split
  · rfl
  split
  · rfl
  split
  · rfl
  -- `hdup` decides the last check
  rfl

/-! ## Every reachable database -/

/-- **The ledger of every reachable database.**  Balances are the sums of the payments,
at most the amount of an invoice that is for a non-negative one; a positive amount is
covered exactly when the invoice is paid; no reference is on two payments; and a
recorded reference is not credited again. -/
theorem ledger_sound (cfg : Settings) (db : Db) (hreach : Reach cfg db) :
    (∀ (i : ℕ) inv, db.invoices[i]? = some inv →
      inv.amountPaidMinor = paidTotal db.payments i
        ∧ inv.amountPaidMinor ≤ max inv.amountMinor 0
        ∧ (0 < inv.amountMinor → (inv.status = .paid ↔ inv.amountMinor ≤ inv.amountPaidMinor)))
    ∧ RefsUnique db.payments
    ∧ (∀ payment ∈ db.payments, payment.providerReference ≠ "" →
      (∀ (now : Time) (tenantRef : String) (i : ℕ) (body : SettleBody) (svc : ServiceContext),
        body.providerReference = payment.providerReference →
        (settleTenantInvoice cfg now tenantRef i body svc db).db = db)
      ∧ ∀ (now : Time) (staff : StaffContext) (i : ℕ) (body : SaasPaymentCreate),
        body.providerReference = payment.providerReference →
        (payInvoice cfg now staff i body db).db = db) := by
  have hledger := hreach.books.ledger
  refine ⟨?_, hledger.refs, ?_⟩
  · intro i inv hinv
    have hbalance := hledger.status inv (List.mem_of_getElem? hinv)
    exact ⟨hledger.balance i inv hinv, hbalance.le_amount, hbalance.paid_iff⟩
  intro payment hmem hne
  refine ⟨?_, ?_⟩
  · intro now tenantRef i body svc href
    exact settleTenantInvoice_replay tenantRef i body svc hmem href.symm
  intro now staff i body href
  exact payInvoice_replay staff i body hmem href.symm (by rw [href]; exact hne)

/-- The example school pays half its invoice by transfer and the rest through a gateway,
which reports the settlement twice; dunning runs in between. -/
def Example.twoPayments : List Event :=
  opened ++
  [.staff (day 5) operator
      (.payInvoice 0 { amountMinor := 250000, providerReference := "trf-1" }),
   .stage (day 20) .dunning,
   .service (day 21) { clientId := "school", allowedTenantRefs := [] }
      (.settleTenantInvoice "s" 0 { amountMinor := 250000, providerReference := "gw-1" }),
   .service (day 21) { clientId := "school", allowedTenantRefs := [] }
      (.settleTenantInvoice "s" 0 { amountMinor := 250000, providerReference := "gw-1" })]

/-- The ledger of the example school: its invoice is settled by the two payments. -/
theorem ledger_sound_example :
    ∃ inv, (run (step Example.settings) {} Example.twoPayments).invoices[0]? = some inv
      ∧ inv.amountPaidMinor
        = paidTotal (run (step Example.settings) {} Example.twoPayments).payments 0
      ∧ inv.status = .paid := by
  obtain ⟨hrows, -, -⟩ := ledger_sound Example.settings
    (run (step Example.settings) {} Example.twoPayments) ⟨Example.twoPayments, rfl⟩
  have hrow : ∃ inv, (run (step Example.settings) {} Example.twoPayments).invoices[0]? = some inv
      ∧ inv.amountMinor = 500000 ∧ inv.amountPaidMinor = 500000 := by
    refine ⟨_, rfl, ?_, ?_⟩ <;> decide
  obtain ⟨inv, hinv, hamount, hpaid⟩ := hrow
  obtain ⟨hsum, -, hstatus⟩ := hrows 0 inv hinv
  exact ⟨inv, hinv, hsum, (hstatus (by omega)).2 (by omega)⟩

/-- A balance can exceed its amount: an operator issues an invoice for a negative one. -/
theorem not_paid_le_amount :
    ¬ ∀ (cfg : Settings) (db : Db), Reach cfg db → ∀ (i : ℕ) inv, db.invoices[i]? = some inv →
      inv.amountPaidMinor ≤ inv.amountMinor := by
  intro h
  have hrow : ∃ inv, (run (step Example.settings) {}
      [.catalogue [Example.basicPlan] [],
       .staff (Example.day 0) Example.operator
        (.createTenant { externalId := "s", slug := "s", name := "School" }),
       .staff (Example.day 0) Example.operator
        (.createInvoice { tenantId := 0, amountMinor := some (-5) })]).invoices[0]? = some inv
      ∧ inv.amountMinor = -5 ∧ inv.amountPaidMinor = 0 := by
    refine ⟨_, rfl, ?_, ?_⟩ <;> decide
  obtain ⟨inv, hinv, hamount, hpaid⟩ := hrow
  have hle := h Example.settings _ ⟨_, rfl⟩ 0 inv hinv
  omega

end MultiAcademy.Control
