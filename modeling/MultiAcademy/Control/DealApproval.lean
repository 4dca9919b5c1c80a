import MultiAcademy.Control.SubscriptionStates

/-!
# Approved deals and the invoice that activates them

Approval leaves a deal past due: it becomes active with the payment of an invoice.  The
invoice is opened by the approval itself, but only of a deal whose billing date has come
and for a period that has none yet.  Any other deal is left with the invoices it had,
which may be none; and an invoice for nothing, or a second one, stands in the way of
the payment that would activate it.
-/

namespace MultiAcademy.Control

open MultiAcademy.Lib

/-! ## Activation -/

/-- The invoices a subscription has to pay. -/
def owedBy (s : ℕ) (inv : SaasInvoice) : Bool := inv.subscriptionId = some s ∧ owing inv

/-- The event is an accepted payment of everything outstanding on the invoice. -/
def PaysFull (db : Db) (i : ℕ) (e : Event) : Prop :=
  ∃ now payment inv, e.accepted db = some (now, payment) ∧ payment.invoiceId = i
    ∧ db.invoices[i]? = some inv ∧ payment.amountMinor = outstanding inv

def activeCurrent (s : ℕ) (db : Db) : Bool :=
  (db.subscriptions[s]?).any fun sub => sub.status = .active && sub.isCurrent

/-- An unpaid invoice of the subscription can be paid in full, and every such payment
makes the subscription active and current. -/
def Activatable (cfg : Settings) (s : ℕ) (db : Db) : Prop :=
  ∃ (i : ℕ) (inv : SaasInvoice), db.invoices[i]? = some inv ∧ owedBy s inv = true
    ∧ (∃ e, PaysFull db i e) ∧ ∀ e, PaysFull db i e → activeCurrent s (step cfg e db) = true

section Activate
variable {cfg : Settings} {now : Time} {db : Db} {i s : ℕ} {inv : SaasInvoice}
  {sub : Subscription}

theorem owedBy_iff : owedBy s inv = true ↔ inv.subscriptionId = some s ∧ owing inv = true := by
  simp [owedBy]

theorem existsOther_eq_false {p : SaasInvoice → Bool} :
    existsOther db i p = false ↔ ∀ k ∈ db.invoices.select p, k = i := by
  simp [existsOther]

/-- An invoice that is owing can be paid in full exactly when it is for a positive
amount. -/
theorem paysFull_exists_iff (hb : InvoiceBalance inv) (hinv : db.invoices[i]? = some inv)
    (howing : owing inv = true) : (∃ e, PaysFull db i e) ↔ 0 < inv.amountMinor := by
  cases hb with
  | settled hstatus _ _ => simp [owing, hstatus] at howing
  | owed _ h0 hle hlt =>
    constructor
    · rintro ⟨e, now, payment, row, hacc, hi, hrow, hamount⟩
      obtain rfl : row = inv := Option.some.inj (hrow.symm.trans hinv)
      obtain ⟨row', ha⟩ := accepted_row hacc
      have hpos := ha.positive
      rw [hamount, outstanding] at hpos
      omega
    intro hpos
    exact ⟨payRest 0 i inv, 0, _, inv, payRest_accepted 0 hinv howing (hlt hpos), rfl, hinv,
      rfl⟩

/-- A payment in full of the only invoice a current subscription owes activates it. -/
theorem PaysFull.activates {e : Event} (h : PaysFull db i e) (hinv : db.invoices[i]? = some inv)
    (hs : inv.subscriptionId = some s) (hsub : db.subscriptions[s]? = some sub)
    (hcurrent : sub.isCurrent = true) (honly : existsOther db i (owedBy s) = false) :
    activeCurrent s (step cfg e db) = true := by
  obtain ⟨now, payment, row, hacc, rfl, hrow, hamount⟩ := h
  obtain rfl : row = inv := Option.some.inj (hrow.symm.trans hinv)
  obtain ⟨row', ha⟩ := accepted_row hacc
  obtain rfl : row' = row := Option.some.inj (ha.row.symm.trans hinv)
  have hfull : row'.amountMinor ≤ row'.amountPaidMinor + payment.amountMinor := by
    rw [hamount, outstanding]
    omega
  have hreact : reactivatedSubscription db payment.invoiceId row' = some s :=
    reactivatedSubscription_eq_some.2 ⟨hs, by simp [hsub], honly⟩
  have hsubs := recordPayment_subscriptions ha (step_accepted cfg hacc)
  rw [if_pos hfull, hreact] at hsubs
  simp [activeCurrent, hsubs, hsub, reactivate, hcurrent]

/-- While another invoice is owing, a payment in full activates nothing. -/
theorem PaysFull.not_activates {e : Event} (h : PaysFull db i e)
    (hinv : db.invoices[i]? = some inv) (hs : inv.subscriptionId = some s)
    (hsub : db.subscriptions[s]? = some sub) (hstatus : sub.status ≠ .active)
    (hother : existsOther db i (owedBy s) = true) :
    activeCurrent s (step cfg e db) = false := by
  obtain ⟨now, payment, row, hacc, rfl, hrow, hamount⟩ := h
  obtain rfl : row = inv := Option.some.inj (hrow.symm.trans hinv)
  obtain ⟨row', ha⟩ := accepted_row hacc
  obtain rfl : row' = row := Option.some.inj (ha.row.symm.trans hinv)
  have hreact : reactivatedSubscription db payment.invoiceId row' = none := by
    rw [Option.eq_none_iff_forall_not_mem]
    intro r hr
    obtain ⟨hr', -, hnone⟩ := reactivatedSubscription_eq_some.1 hr
    obtain rfl : s = r := Option.some.inj (hs.symm.trans hr')
    rw [show existsOther db payment.invoiceId (fun other =>
      other.subscriptionId = some s ∧ owing other) = true from hother] at hnone
    cases hnone
  have hsubs := recordPayment_subscriptions ha (step_accepted cfg hacc)
  simp only [hreact, ite_self] at hsubs
  simp [activeCurrent, hsubs, hsub, hstatus]

/-- **When a subscription that is current and not active can be activated**: it has
exactly one invoice to pay, for a positive amount. -/
theorem activatable_iff_single (hl : Ledger db) (hsub : db.subscriptions[s]? = some sub)
    (hcurrent : sub.isCurrent = true) (hstatus : sub.status ≠ .active) :
    Activatable cfg s db
      ↔ ∃ (i : ℕ) (inv : SaasInvoice), db.invoices.select (owedBy s) = [i]
        ∧ db.invoices[i]? = some inv ∧ 0 < inv.amountMinor := by
  constructor
  · rintro ⟨i, inv, hinv, howed, ⟨e, he⟩, hall⟩
    obtain ⟨hs, howing⟩ := owedBy_iff.1 howed
    have hb := hl.status inv (List.mem_of_getElem? hinv)
    refine ⟨i, inv, ?_, hinv, (paysFull_exists_iff hb hinv howing).1 ⟨e, he⟩⟩
    rw [Table.select_eq_singleton]
    refine ⟨Table.mem_select.2 ⟨inv, hinv, howed⟩, existsOther_eq_false.1 ?_⟩
    by_contra hother
    rw [Bool.not_eq_false] at hother
    have hnot : activeCurrent s (step cfg e db) = false :=
      he.not_activates hinv hs hsub hstatus hother
    rw [hall e he] at hnot
    cases hnot
  rintro ⟨i, inv, hselect, hinv, hpos⟩
  obtain ⟨hi, honly⟩ := Table.select_eq_singleton.1 hselect
  obtain ⟨row, hrow, howed⟩ := Table.mem_select.1 hi
  obtain rfl : row = inv := Option.some.inj (hrow.symm.trans hinv)
  obtain ⟨hs, howing⟩ := owedBy_iff.1 howed
  have hb := hl.status row (List.mem_of_getElem? hinv)
  refine ⟨i, row, hinv, howed, (paysFull_exists_iff hb hinv howing).2 hpos, ?_⟩
  intro e he
  exact he.activates hinv hs hsub hcurrent (existsOther_eq_false.2 honly)

end Activate

/-! ## Approval -/

/-- The subscription has an invoice for the period with this key. -/
def invoiced (invoices : Table SaasInvoice) (s : ℕ) (key : String) : Bool :=
  invoices.existsRow fun inv => inv.subscriptionId = some s ∧ inv.periodKey = key

/-- Approving the deal opens an invoice: its billing date has come, and its first period
has none. -/
def opensInvoice (now : Time) (dealId : ℕ) (deal : Subscription) (db : Db) : Bool :=
  deal.nextInvoiceAt.getD (nextPeriodStart now deal) ≤ now
    && !invoiced db.invoices dealId (periodKeyFor deal (deal.contractStart.getD now))

/-- After its approval the deal owes one invoice, for a positive amount: the one it
opens, or the one it owed before. -/
def owesOne (now : Time) (dealId : ℕ) (deal : Subscription) (db : Db) : Bool :=
  match opensInvoice now dealId deal db, db.invoices.select (owedBy dealId) with
  | true, [] => 0 < resolvePeriodAmountMinor db deal
  | false, [i] => (db.invoices[i]?).any fun inv => 0 < inv.amountMinor
  | _, _ => false

/-- The deal endpoint's answer to an approval: what it may approve. -/
theorem approveDeal_ok {cfg : Settings} {now : Time} {dealId : ℕ} {deal : Subscription} {db : Db}
    (hdeal : db.subscriptions[dealId]? = some deal)
    (hok : (approveDeal cfg now dealId db).reply = .ok) :
    ¬ deal.type ≠ .custom ∧ ¬ (deal.approvalStatus ≠ .draft ∧ deal.approvalStatus ≠ .pending) := by
  simp only [approveDeal, hdeal] at hok
  split at hok
  · cases hok
  rename_i htype
  split at hok
  · cases hok
  rename_i happroval
  exact ⟨htype, happroval⟩

section Approve
variable {cfg : Settings} {now : Time} {dealId : ℕ} {deal : Subscription} {db : Db}

@[simp] theorem approved_isCurrent (now : Time) (deal : Subscription) :
    (approved now deal).isCurrent = true := by
  simp only [approved]
  split <;> rfl

@[simp] theorem approved_status (now : Time) (deal : Subscription) :
    (approved now deal).status = .pastDue := by
  simp only [approved]
  split <;> rfl

theorem approved_terms (now : Time) (deal : Subscription) (start : Time) (db : Db) :
    periodKeyFor (approved now deal) start = periodKeyFor deal start
      ∧ resolvePeriodAmountMinor db (approved now deal) = resolvePeriodAmountMinor db deal := by
  simp only [approved]
  split <;> exact ⟨rfl, rfl⟩

theorem approved_nextInvoiceAt (now : Time) (deal : Subscription) :
    (approved now deal).nextInvoiceAt
      = some (deal.nextInvoiceAt.getD (nextPeriodStart now deal)) := by
  cases hnia : deal.nextInvoiceAt with
  | none => simp [approved, hnia, setNextInvoiceAt, nextPeriodStart, nextScheduledDate]
  | some nia => simp [approved, hnia]

def approvalInvoice (now : Time) (dealId : ℕ) (deal : Subscription) (db : Db) : SaasInvoice :=
  newInvoice db now dealId (approved now deal) (deal.contractStart.getD now) 14

theorem approvalInvoice_owed (now : Time) (dealId : ℕ) (deal : Subscription) (db : Db) :
    owedBy dealId (approvalInvoice now dealId deal db) = true
      ∧ (approvalInvoice now dealId deal db).amountMinor = resolvePeriodAmountMinor db deal := by
  constructor
  · simp [owedBy, approvalInvoice, newInvoice, owing]
  · simp only [approvalInvoice, newInvoice, (approved_terms now deal now db).2]

/-- What `create_invoice_for_subscription` does for a subscription that exists. -/
theorem createInvoiceForSubscription_eq (hdeal : db.subscriptions[dealId]? = some deal)
    (dueDays : ℤ) (start : Option Time) :
    createInvoiceForSubscription now dealId dueDays start db
      = if invoiced db.invoices dealId
            (periodKeyFor deal ((start.or deal.nextInvoiceAt).getD now)) = true then
          (none, db)
        else
          (some db.invoices.nextId,
            { db with
              invoices := db.invoices.insert (newInvoice db now dealId deal
                ((start.or deal.nextInvoiceAt).getD now) dueDays)
              subscriptions := db.subscriptions.modify dealId (afterInvoice db now) }) := by
  simp only [createInvoiceForSubscription, hdeal]
  rfl

theorem redated_row (hdeal : db.subscriptions[dealId]? = some deal) (at_ : Time) :
    ∃ row, ((db.subscriptions.modify dealId (afterInvoice db now)).modify dealId
        (advanceNextInvoiceAt at_))[dealId]? = some row
      ∧ row.isCurrent = deal.isCurrent ∧ row.status = deal.status := by
  refine ⟨advanceNextInvoiceAt at_ (afterInvoice db now deal), ?_, ?_⟩
  · simp [hdeal]
  simp only [advanceNextInvoiceAt, afterInvoice]
  split <;> split <;> exact ⟨rfl, rfl⟩

/-- What `invoiceDeal` does: nothing, when the period is invoiced, or issue one invoice and
move the deal's dates. -/
theorem invoiceDeal_spec (now : Time) (hdeal : db.subscriptions[dealId]? = some deal)
    (start : Time) :
    (invoiceDeal now dealId (some start) db).invoices
        = (if invoiced db.invoices dealId (periodKeyFor deal start) = true then db.invoices
          else db.invoices.insert (newInvoice db now dealId deal start 14))
      ∧ ∃ row, (invoiceDeal now dealId (some start) db).subscriptions[dealId]? = some row
        ∧ row.isCurrent = deal.isCurrent ∧ row.status = deal.status := by
  rw [invoiceDeal, createInvoiceForSubscription_eq hdeal, Option.some_or, Option.getD_some]
  by_cases hkey : invoiced db.invoices dealId (periodKeyFor deal start) = true
  · rw [if_pos hkey, if_pos hkey]
    exact ⟨rfl, deal, hdeal, rfl, rfl⟩
  rw [if_neg hkey, if_neg hkey]
  exact ⟨rfl, redated_row hdeal _⟩

/-- The control plane after the deal is made current and before it is invoiced. -/
def promoted (now : Time) (dealId : ℕ) (deal : Subscription) (db : Db) : Db :=
  { db with
    subscriptions := (retireCurrent deal.tenantId db.subscriptions).modify dealId (approved now) }

theorem promoted_row (now : Time) (hdeal : db.subscriptions[dealId]? = some deal) :
    (promoted now dealId deal db).subscriptions[dealId]? = some (approved now deal) := by
  have hretired : approved now { deal with isCurrent := false } = approved now deal := rfl
  simp only [promoted, retireCurrent, List.getElem?_modify, Table.getElem?_updateWhere, hdeal,
    if_true, Option.map_eq_map, Option.map_some]
  split
  · rw [hretired]
  · rfl

/-- **What an approval does**: it makes the deal its tenant's current subscription, past
due, and opens one invoice or none. -/
theorem approveDeal_spec (hdeal : db.subscriptions[dealId]? = some deal)
    (hok : (approveDeal cfg now dealId db).reply = .ok) :
    (approveDeal cfg now dealId db).db.invoices
        = (if opensInvoice now dealId deal db then
          db.invoices.insert (approvalInvoice now dealId deal db) else db.invoices)
      ∧ ∃ row, (approveDeal cfg now dealId db).db.subscriptions[dealId]? = some row
        ∧ row.isCurrent = true ∧ row.status = .pastDue := by
  obtain ⟨htype, happroval⟩ := approveDeal_ok hdeal hok
  have hdue : (approved now deal).nextInvoiceAt.all (· ≤ now)
      = decide (deal.nextInvoiceAt.getD (nextPeriodStart now deal) ≤ now) := by
    rw [approved_nextInvoiceAt, Option.all_some]
  have hinvoiced : invoiced (promoted now dealId deal db).invoices dealId
      (periodKeyFor (approved now deal) (deal.contractStart.getD now))
      = invoiced db.invoices dealId (periodKeyFor deal (deal.contractStart.getD now)) := by
    rw [(approved_terms now deal _ db).1]
    rfl
  have happrove : (approveDeal cfg now dealId db).db = bumpConfigVersion cfg now
      (if deal.nextInvoiceAt.getD (nextPeriodStart now deal) ≤ now then
        invoiceDeal now dealId (some (deal.contractStart.getD now)) (promoted now dealId deal db)
      else promoted now dealId deal db) := by
    simp only [approveDeal, hdeal, if_neg htype, if_neg happroval, hdue, decide_eq_true_eq]
    rfl
  rw [happrove, bumpConfigVersion_invoices, bumpConfigVersion_subscriptions]
  obtain ⟨hinvoices, row, hrow, hcurrent, hstatus⟩ := invoiceDeal_spec now
    (promoted_row now hdeal) (deal.contractStart.getD now)
  by_cases hnow : deal.nextInvoiceAt.getD (nextPeriodStart now deal) ≤ now
  · rw [if_pos hnow]
    refine ⟨?_, row, hrow, by simpa using hcurrent, by simpa using hstatus⟩
    rw [hinvoices, hinvoiced]
    simp only [opensInvoice, hnow, decide_true, Bool.true_and]
    cases invoiced db.invoices dealId (periodKeyFor deal (deal.contractStart.getD now)) with
    | true => rfl
    | false => rfl
  rw [if_neg hnow]
  refine ⟨?_, approved now deal, promoted_row now hdeal, by simp, by simp⟩
  simp [opensInvoice, hnow, promoted]

end Approve

/-- **Which approvals leave a deal that can be activated**, in every reachable database:
those after which the deal owes exactly one invoice, for a positive amount. -/
theorem activatable_iff (cfg : Settings) (now : Time) (dealId : ℕ) (deal : Subscription)
    (db : Db) (hreach : Reach cfg db) (hdeal : db.subscriptions[dealId]? = some deal)
    (hok : (approveDeal cfg now dealId db).reply = .ok) :
    Activatable cfg dealId (approveDeal cfg now dealId db).db
      ↔ owesOne now dealId deal db = true := by
  have hledger : Ledger (approveDeal cfg now dealId db).db :=
    ((effect_approveDeal dealId db).moves.books hreach.books).ledger
  obtain ⟨hinvoices, row, hrow, hcurrent, hstatus⟩ := approveDeal_spec hdeal hok
  rw [activatable_iff_single hledger hrow hcurrent (by rw [hstatus]; decide), hinvoices]
  obtain ⟨howed, hamount⟩ := approvalInvoice_owed now dealId deal db
  cases hopens : opensInvoice now dealId deal db with
  | true =>
    -- the invoice it opens has to be the only one
    simp only [if_true, Table.select_insert, howed, owesOne, hopens]
    cases hselect : db.invoices.select (owedBy dealId) with
    | nil =>
      simp only [List.nil_append, List.cons.injEq, and_true, Table.getElem?_insert,
        decide_eq_true_eq]
      constructor
      · rintro ⟨i, inv, rfl, hinv, hpos⟩
        rw [if_pos rfl] at hinv
        rwa [← hamount, Option.some.inj hinv]
      intro hpos
      exact ⟨_, _, rfl, if_pos rfl, by rwa [hamount]⟩
    | cons i rest => simp
  | false =>
    simp only [Bool.false_eq_true, if_false, owesOne, hopens]
    match hselect : db.invoices.select (owedBy dealId) with
    | [] => simp
    | [i] => simp [Option.any_eq_true]
    | i :: j :: rest => simp

namespace Example

def negotiator : StaffContext :=
  { id := "2", email := "deals@example.edu", permissions := ["tenants:write", "deals:write"] }

/-- A school with a deal from a given start, or none. -/
def dealOffered (contractStart : Option Time) : List Event :=
  [.staff (day 0) negotiator (.createTenant
      { externalId := "s", slug := "s", name := "School", planKey := none }),
   .staff (day 0) negotiator (.createDeal
      { tenantId := 0, dealName := "Deal", priceMinor := 500000, terms := { contractStart } })]

end Example

/-- The deal that starts on the day it is made can be activated once it is approved. -/
theorem activatable_iff_example :
    Activatable Example.settings 0 (approveDeal Example.settings (Example.day 1) 0
      (run (step Example.settings) {} (Example.dealOffered (some (Example.day 0))))).db := by
  have hrow : ∃ deal, (run (step Example.settings) {}
      (Example.dealOffered (some (Example.day 0)))).subscriptions[0]? = some deal
      ∧ owesOne (Example.day 1) 0 deal (run (step Example.settings) {}
        (Example.dealOffered (some (Example.day 0)))) = true := by
    refine ⟨_, rfl, ?_⟩
    decide
  obtain ⟨deal, hdeal, howes⟩ := hrow
  exact (activatable_iff Example.settings (Example.day 1) 0 deal _ ⟨_, rfl⟩ hdeal
    (by decide)).2 howes

/-- Not every approved deal can be activated: a deal with no start date is billed a month
later, and its approval leaves nothing to pay. -/
theorem not_activatable :
    ¬ ∀ (cfg : Settings) (now : Time) (dealId : ℕ) (db : Db), Reach cfg db →
      (approveDeal cfg now dealId db).reply = .ok →
      Activatable cfg dealId (approveDeal cfg now dealId db).db := by
  intro h
  obtain ⟨i, inv, hinv, -⟩ := h Example.settings (Example.day 1) 0
    (run (step Example.settings) {} (Example.dealOffered none)) ⟨_, rfl⟩ (by decide)
  have hnone : (approveDeal Example.settings (Example.day 1) 0
      (run (step Example.settings) {} (Example.dealOffered none))).db.invoices.length = 0 := by
    decide
  have hlt := lt_length hinv
  omega

end MultiAcademy.Control
