import MultiAcademy.Control.System

/-!
# The books

What the control plane's subscriptions, invoices and payments are for, apart from who
changes them: an abstract system whose moves enrol a subscription, make one the current
one, issue an invoice, let open invoices age and credit a payment.  Everything else
the program does is quiet here.

The invariants of the books are proved once, of the moves; `Control/BookSteps.lean`
shows that every event of the program is a sequence of moves.
-/

namespace MultiAcademy.Control

open MultiAcademy.Lib

/-! ## Quiet changes -/

/-- Subscriptions keep their tenant, and none becomes current. -/
def SubsKept (subs subs' : Table Subscription) : Prop :=
  ∀ i : ℕ, (subs'[i]?).map (·.tenantId) = (subs[i]?).map (·.tenantId)
    ∧ ((subs'[i]?).any (·.isCurrent) = true → (subs[i]?).any (·.isCurrent) = true)

/-- A rewriting of a subscription that keeps its tenant and does not make it current. -/
def Keeps (f : Subscription → Subscription) : Prop :=
  ∀ sub, (f sub).tenantId = sub.tenantId ∧ ((f sub).isCurrent = true → sub.isCurrent = true)

namespace SubsKept
variable {subs subs' subs'' : Table Subscription}

theorem refl (subs : Table Subscription) : SubsKept subs subs := fun _ => ⟨rfl, id⟩

theorem trans (h : SubsKept subs subs') (h' : SubsKept subs' subs'') : SubsKept subs subs'' :=
  fun i => ⟨(h' i).1.trans (h i).1, fun hc => (h i).2 ((h' i).2 hc)⟩

variable {f : Subscription → Subscription}

theorem modify (hf : Keeps f) (s : ℕ) :
    SubsKept subs (subs.modify s f) := by
  intro i
  rw [List.getElem?_modify]
  cases subs[i]? with
  | none => simp
  | some sub =>
    by_cases h : s = i
    · simpa [h, (hf sub).1] using (hf sub).2
    · simp [h]

theorem updateWhere (hf : Keeps f) (p : Subscription → Bool) :
    SubsKept subs (subs.updateWhere p f) := by
  intro i
  rw [Table.getElem?_updateWhere]
  cases subs[i]? with
  | none => simp
  | some sub =>
    by_cases h : p sub = true
    · simpa [h, (hf sub).1] using (hf sub).2
    · simp [h]

theorem updateIds (hf : Keeps f) (ids : List ℕ) :
    SubsKept subs (subs.updateIds ids f) := by
  intro i
  rw [Table.updateIds, List.getElem?_mapIdx]
  cases subs[i]? with
  | none => simp
  | some sub =>
    by_cases h : i ∈ ids
    · simpa [h, (hf sub).1] using (hf sub).2
    · simp [h]

end SubsKept

/-- The books are left alone: no invoice and no payment changes, and subscriptions
keep their tenants and do not become current. -/
structure Quiet (db db' : Db) : Prop where
  invoices : db'.invoices = db.invoices
  payments : db'.payments = db.payments
  tenants : db.tenants.length ≤ db'.tenants.length
  subs : SubsKept db.subscriptions db'.subscriptions

/-! ## Moves -/

/-- An invoice row as it is issued: nothing paid, and for a subscription of its tenant. -/
structure Issued (db : Db) (inv : SaasInvoice) : Prop where
  unpaid : inv.amountPaidMinor = 0
  isOpen : inv.status = .open
  linked : ∃ s sub, inv.subscriptionId = some s ∧ db.subscriptions[s]? = some sub
    ∧ sub.tenantId = inv.tenantId

/-- Open invoices that satisfy `p` become past due. -/
def age (p : SaasInvoice → Bool) (invoices : Table SaasInvoice) : Table SaasInvoice :=
  invoices.updateWhere (fun inv => p inv && inv.status = .open)
    fun inv => { inv with status := .pastDue }

/-- A payment credited to an invoice row. -/
def credited (now : Time) (amount : ℤ) (inv : SaasInvoice) : SaasInvoice :=
  let row := { inv with amountPaidMinor := inv.amountPaidMinor + amount }
  if inv.amountMinor ≤ inv.amountPaidMinor + amount then markPaid now row
  else { row with status := .partiallyPaid }

/-- The checks both payment endpoints make. -/
structure Accepted (db : Db) (payment : SaasPayment) (inv : SaasInvoice) : Prop where
  row : db.invoices[payment.invoiceId]? = some inv
  positive : 0 < payment.amountMinor
  covered : payment.amountMinor ≤ outstanding inv
  fresh : payment.providerReference ≠ "" →
    ∀ other ∈ db.payments, other.providerReference ≠ payment.providerReference

/-- Subscription `s` may be current: no other current one has its tenant. -/
def Exclusive (subs : Table Subscription) (s tenantId : ℕ) : Prop :=
  ∀ (s' : ℕ) sub', subs[s']? = some sub' → sub'.isCurrent = true → sub'.tenantId = tenantId →
    s' = s

/-- What can happen to the books. -/
inductive Move : Db → Db → Prop
  | quiet {db db' : Db} (h : Quiet db db') : Move db db'
  | enrol {db : Db} (sub : Subscription) (htenant : sub.tenantId < db.tenants.length)
      (hcurrent : sub.isCurrent = true →
        Exclusive db.subscriptions db.subscriptions.nextId sub.tenantId) :
      Move db { db with subscriptions := db.subscriptions.insert sub }
  | promote {db : Db} (s : ℕ) (sub : Subscription) (f : Subscription → Subscription)
      (hsub : db.subscriptions[s]? = some sub)
      (hf : ∀ row, (f row).tenantId = row.tenantId)
      (hcurrent : Exclusive db.subscriptions s sub.tenantId) :
      Move db { db with subscriptions := db.subscriptions.modify s f }
  | issue {db : Db} (inv : SaasInvoice) (h : Issued db inv) :
      Move db { db with invoices := db.invoices.insert inv }
  | age {db : Db} (p : SaasInvoice → Bool) : Move db { db with invoices := age p db.invoices }
  | credit {db : Db} (now : Time) (payment : SaasPayment) (inv : SaasInvoice)
      (h : Accepted db payment inv) :
      Move db { db with
        payments := db.payments.insert payment
        invoices := db.invoices.modify payment.invoiceId (credited now payment.amountMinor) }

abbrev Moves : Db → Db → Prop := Relation.ReflTransGen Move

variable {db db' : Db}

theorem Moves.quiet (h : Quiet db db') : Moves db db' := .single (.quiet h)

/-! ## Whose subscriptions and invoices are -/

/-- Subscriptions belong to tenants, at most one of each tenant is current, and an
invoice is of the tenant of its subscription. -/
structure WellFormed (db : Db) : Prop where
  tenant : ∀ (s : ℕ) sub, db.subscriptions[s]? = some sub → sub.tenantId < db.tenants.length
  current : ∀ (s : ℕ) sub, db.subscriptions[s]? = some sub → sub.isCurrent = true →
    Exclusive db.subscriptions s sub.tenantId
  linked : ∀ inv ∈ db.invoices, ∃ s sub, inv.subscriptionId = some s
    ∧ db.subscriptions[s]? = some sub ∧ sub.tenantId = inv.tenantId

theorem WellFormed.empty : WellFormed {} := by
  constructor <;> simp

theorem linked_kept {subs subs' : Table Subscription} {inv : SaasInvoice}
    (hsubs : ∀ (s : ℕ) sub, subs[s]? = some sub →
      ∃ sub', subs'[s]? = some sub' ∧ sub'.tenantId = sub.tenantId)
    (h : ∃ s sub, inv.subscriptionId = some s ∧ subs[s]? = some sub
      ∧ sub.tenantId = inv.tenantId) :
    ∃ s sub, inv.subscriptionId = some s ∧ subs'[s]? = some sub ∧ sub.tenantId = inv.tenantId := by
  obtain ⟨s, sub, hs, hsub, ht⟩ := h
  obtain ⟨sub', hsub', ht'⟩ := hsubs s sub hsub
  exact ⟨s, sub', hs, hsub', ht'.trans ht⟩

/-- A row of the kept table, read back in the table it was kept from. -/
theorem SubsKept.back {subs subs' : Table Subscription} (h : SubsKept subs subs') {s : ℕ}
    {sub' : Subscription} (hsub' : subs'[s]? = some sub') :
    ∃ sub, subs[s]? = some sub ∧ sub.tenantId = sub'.tenantId
      ∧ (sub'.isCurrent = true → sub.isCurrent = true) := by
  obtain ⟨ht, hc⟩ := h s
  rw [hsub'] at ht hc
  cases hsub : subs[s]? with
  | none => rw [hsub] at ht; exact absurd ht (by simp)
  | some sub =>
    rw [hsub] at ht hc
    refine ⟨sub, rfl, ?_, hc⟩
    simpa using ht.symm

/-- A row of a table, read in a table it is kept in. -/
theorem SubsKept.forth {subs subs' : Table Subscription} (h : SubsKept subs subs') {s : ℕ}
    {sub : Subscription} (hsub : subs[s]? = some sub) :
    ∃ sub', subs'[s]? = some sub' ∧ sub'.tenantId = sub.tenantId := by
  obtain ⟨ht, -⟩ := h s
  rw [hsub] at ht
  cases hsub' : subs'[s]? with
  | none => rw [hsub'] at ht; exact absurd ht (by simp)
  | some sub' =>
    rw [hsub'] at ht
    exact ⟨sub', rfl, by simpa using ht⟩

theorem WellFormed.quiet (h : WellFormed db) (hq : Quiet db db') :
    WellFormed db' where
  tenant := by
    intro s sub' hsub'
    obtain ⟨sub, hsub, ht, -⟩ := hq.subs.back hsub'
    rw [← ht]
    exact (h.tenant s sub hsub).trans_le hq.tenants
  current := by
    intro s sub' hsub' hc r row' hrow' hc' ht'
    obtain ⟨sub, hsub, ht, hback⟩ := hq.subs.back hsub'
    obtain ⟨row, hrow, htr, hbackr⟩ := hq.subs.back hrow'
    exact h.current s sub hsub (hback hc) r row hrow (hbackr hc') (by rw [htr, ht, ht'])
  linked := by
    intro inv hinv
    rw [hq.invoices] at hinv
    exact linked_kept (fun s sub hsub => hq.subs.forth hsub) (h.linked inv hinv)

theorem WellFormed.enrol {db : Db} (h : WellFormed db) (sub : Subscription)
    (htenant : sub.tenantId < db.tenants.length)
    (hcurrent : sub.isCurrent = true →
      Exclusive db.subscriptions db.subscriptions.nextId sub.tenantId) :
    WellFormed { db with subscriptions := db.subscriptions.insert sub } where
  tenant := by
    intro s row hrow
    rw [Table.getElem?_insert] at hrow
    split at hrow
    · cases hrow; exact htenant
    · exact h.tenant s row hrow
  current := by
    intro s row hrow hc s' row' hrow' hc' ht
    rw [Table.getElem?_insert] at hrow hrow'
    split at hrow
    · cases hrow
      split at hrow'
      · omega
      -- the new subscription is current, so no old one of its tenant is
      rename_i hs hs'
      exact absurd (hcurrent hc s' row' hrow' hc' ht) hs'
    split at hrow'
    · cases hrow'
      rename_i hs hs'
      exact absurd (hcurrent hc' s row hrow hc ht.symm) hs
    · exact h.current s row hrow hc s' row' hrow' hc' ht
  linked := by
    intro inv hinv
    refine linked_kept (fun s row hrow => ⟨row, ?_, rfl⟩) (h.linked inv hinv)
    have hlt : s < db.subscriptions.length := (List.getElem?_eq_some_iff.1 hrow).1
    rw [Table.getElem?_insert, if_neg (by rw [Table.nextId]; omega), hrow]

theorem WellFormed.promote {db : Db} (h : WellFormed db) (s : ℕ) (sub : Subscription)
    (f : Subscription → Subscription) (hsub : db.subscriptions[s]? = some sub)
    (hf : ∀ row, (f row).tenantId = row.tenantId)
    (hcurrent : Exclusive db.subscriptions s sub.tenantId) :
    WellFormed { db with subscriptions := db.subscriptions.modify s f } where
  tenant := by
    intro r row hrow
    simp only [List.getElem?_modify, Option.map_eq_map, Option.map_eq_some_iff] at hrow
    obtain ⟨old, hold, rfl⟩ := hrow
    have := h.tenant r old hold
    split
    · rwa [hf]
    · exact this
  current := by
    intro r row hrow hc r' row' hrow' hc' ht
    simp only [List.getElem?_modify, Option.map_eq_map, Option.map_eq_some_iff] at hrow hrow'
    obtain ⟨old, hold, rfl⟩ := hrow
    obtain ⟨old', hold', rfl⟩ := hrow'
    by_cases hr : s = r <;> by_cases hr' : s = r'
    · omega
    · subst hr
      rw [hsub] at hold
      cases hold
      simp only [hr', if_true, if_false, hf] at ht hc'
      exact hcurrent r' old' hold' hc' ht
    · subst hr'
      rw [hsub] at hold'
      cases hold'
      simp only [hr, if_true, if_false, hf] at ht hc
      exact (hcurrent r old hold hc ht.symm).symm
    simp only [hr, hr', if_false] at hc hc' ht
    exact h.current r old hold hc r' old' hold' hc' ht
  linked := by
    intro inv hinv
    refine linked_kept (fun r row hrow => ?_) (h.linked inv hinv)
    refine ⟨if s = r then f row else row, by simp [List.getElem?_modify, hrow], ?_⟩
    split
    · exact hf row
    · rfl

/-- Invoices rewritten without touching whose they are stay linked. -/
theorem WellFormed.invoices {db : Db} (h : WellFormed db) {invoices : Table SaasInvoice}
    {payments : Table SaasPayment}
    (hinv : ∀ inv ∈ invoices, ∃ old ∈ db.invoices, inv.subscriptionId = old.subscriptionId
      ∧ inv.tenantId = old.tenantId) :
    WellFormed { db with invoices, payments } where
  tenant := h.tenant
  current := h.current
  linked := by
    intro inv hmem
    obtain ⟨old, hold, hs, ht⟩ := hinv inv hmem
    rw [hs, ht]
    exact h.linked old hold

@[simp] theorem credited_subscriptionId (now : Time) (amount : ℤ) (inv : SaasInvoice) :
    (credited now amount inv).subscriptionId = inv.subscriptionId := by
  simp only [credited]
  split <;> rfl

@[simp] theorem credited_tenantId (now : Time) (amount : ℤ) (inv : SaasInvoice) :
    (credited now amount inv).tenantId = inv.tenantId := by
  simp only [credited]
  split <;> rfl

theorem mem_modify {α : Type} {l : List α} {i : ℕ} {f : α → α} {x : α} (h : x ∈ l.modify i f) :
    x ∈ l ∨ ∃ old, l[i]? = some old ∧ x = f old := by
  obtain ⟨j, hj⟩ := List.mem_iff_getElem?.1 h
  rw [List.getElem?_modify, Option.map_eq_map, Option.map_eq_some_iff] at hj
  obtain ⟨old, hold, rfl⟩ := hj
  by_cases hij : i = j
  · subst hij; exact Or.inr ⟨old, hold, by simp⟩
  · exact Or.inl (by simpa [hij] using List.mem_of_getElem? hold)

/-- The rows of an aged table are old rows, or open ones that became past due. -/
theorem mem_age {p : SaasInvoice → Bool} {invoices : Table SaasInvoice} {inv : SaasInvoice}
    (h : inv ∈ age p invoices) :
    inv ∈ invoices
      ∨ ∃ old ∈ invoices, old.status = .open ∧ inv = { old with status := .pastDue } := by
  simp only [age, Table.updateWhere, List.mem_map] at h
  obtain ⟨old, hold, rfl⟩ := h
  split
  · rename_i hp
    simp only [Bool.and_eq_true, decide_eq_true_eq] at hp
    exact Or.inr ⟨old, hold, hp.2, rfl⟩
  · exact Or.inl hold

/-- **The moves keep the books well formed.** -/
theorem Move.wellFormed (h : Move db db') (hw : WellFormed db) : WellFormed db' := by
  cases h with
  | quiet h => exact hw.quiet h
  | enrol sub htenant hcurrent => exact hw.enrol sub htenant hcurrent
  | promote s sub f hsub hf hcurrent => exact hw.promote s sub f hsub hf hcurrent
  | issue inv h =>
    refine ⟨hw.tenant, hw.current, ?_⟩
    intro inv' hmem
    rcases List.mem_append.1 hmem with hold | hnew
    · exact hw.linked inv' hold
    · rw [List.mem_singleton.1 hnew]; exact h.linked
  | age p =>
    have hold : ∀ inv ∈ Control.age p db.invoices, ∃ old ∈ db.invoices,
        inv.subscriptionId = old.subscriptionId ∧ inv.tenantId = old.tenantId := by
      intro inv hmem
      rcases mem_age hmem with hold | ⟨old, hold, -, rfl⟩
      · exact ⟨inv, hold, rfl, rfl⟩
      · exact ⟨old, hold, rfl, rfl⟩
    exact hw.invoices hold
  | credit now payment inv h =>
    refine hw.invoices fun inv' hmem => ?_
    rcases mem_modify hmem with hold | ⟨old, hold, rfl⟩
    · exact ⟨inv', hold, rfl, rfl⟩
    · exact ⟨old, List.mem_of_getElem? hold, by simp, by simp⟩

/-! ## The ledger -/

variable (payments : Table SaasPayment)

/-- The sum of the payments of an invoice. -/
def paidTotal (invoiceId : ℕ) : ℤ :=
  ((payments.filter fun payment => payment.invoiceId = invoiceId).map (·.amountMinor)).sum

theorem paidTotal_insert (payment : SaasPayment) (i : ℕ) :
    paidTotal (payments.insert payment) i
      = paidTotal payments i + if payment.invoiceId = i then payment.amountMinor else 0 := by
  by_cases h : payment.invoiceId = i <;>
    simp [paidTotal, Table.insert, List.filter_append, h]

theorem paidTotal_eq_zero {payments : Table SaasPayment} {i : ℕ}
    (h : ∀ payment ∈ payments, payment.invoiceId ≠ i) : paidTotal payments i = 0 := by
  have hnil : payments.filter (fun payment => payment.invoiceId = i) = [] := by
    rw [List.filter_eq_nil_iff]
    intro payment hp
    simpa using h payment hp
  simp [paidTotal, hnil]

inductive InvoiceBalance (inv : SaasInvoice) : Prop
  | settled (hstatus : inv.status = .paid) (hpos : 0 < inv.amountMinor)
      (hpaid : inv.amountPaidMinor = inv.amountMinor)
  | owed (howing : owing inv = true) (h0 : 0 ≤ inv.amountPaidMinor)
      (hle : inv.amountPaidMinor ≤ max inv.amountMinor 0)
      (hlt : 0 < inv.amountMinor → inv.amountPaidMinor < inv.amountMinor)

/-- No reference is on two payments. -/
def RefsUnique : Prop :=
  ∀ (j k : ℕ) p q, payments[j]? = some p → payments[k]? = some q → p.providerReference ≠ "" →
    p.providerReference = q.providerReference → j = k

/-- **The ledger.**  Every invoice's balance is the sum of its payments and agrees with
its status, and no reference is recorded twice. -/
structure Ledger (db : Db) : Prop where
  balance : ∀ (i : ℕ) inv, db.invoices[i]? = some inv →
    inv.amountPaidMinor = paidTotal db.payments i
  status : ∀ inv ∈ db.invoices, InvoiceBalance inv
  refs : RefsUnique db.payments
  posted : ∀ payment ∈ db.payments, payment.invoiceId < db.invoices.length

theorem Ledger.empty : Ledger {} := by
  constructor <;> simp [RefsUnique]

theorem Ledger.quiet (h : Ledger db) (hq : Quiet db db') : Ledger db' where
  balance := by rw [hq.payments, hq.invoices]; exact h.balance
  status := by rw [hq.invoices]; exact h.status
  refs := by rw [hq.payments]; exact h.refs
  posted := by rw [hq.payments, hq.invoices]; exact h.posted

theorem Ledger.paidTotal_nextId {db : Db} (h : Ledger db) :
    paidTotal db.payments db.invoices.nextId = 0 := by
  apply paidTotal_eq_zero
  intro payment hp
  have := h.posted payment hp
  rw [Table.nextId]
  omega

theorem Ledger.issue {db : Db} (h : Ledger db) (inv : SaasInvoice) (hi : Issued db inv) :
    Ledger { db with invoices := db.invoices.insert inv } where
  balance := by
    intro i row hrow
    rw [Table.getElem?_insert] at hrow
    split at hrow
    · rename_i hnew
      cases hrow
      rw [hnew, h.paidTotal_nextId, hi.unpaid]
    · exact h.balance i row hrow
  status := by
    intro row hmem
    rcases List.mem_append.1 hmem with hold | hnew
    · exact h.status row hold
    rw [List.mem_singleton.1 hnew]
    have h0 := hi.unpaid
    exact .owed (by simp [owing, hi.isOpen]) (by omega) (by omega) (by omega)
  refs := h.refs
  posted := by
    intro payment hp
    have := h.posted payment hp
    simp only [Table.length_insert]
    omega

theorem Ledger.age {db : Db} (h : Ledger db) (p : SaasInvoice → Bool) :
    Ledger { db with invoices := age p db.invoices } where
  balance := by
    intro i row hrow
    simp only [Control.age, Table.getElem?_updateWhere, Option.map_eq_some_iff] at hrow
    obtain ⟨old, hold, rfl⟩ := hrow
    have := h.balance i old hold
    split <;> exact this
  status := by
    intro row hmem
    rcases mem_age hmem with hold | ⟨old, hold, hopen, rfl⟩
    · exact h.status row hold
    cases h.status old hold with
    | settled hstatus hpos hpaid => rw [hopen] at hstatus; cases hstatus
    | owed howing h0 hle hlt => exact .owed (by simp [owing]) h0 hle hlt
  refs := h.refs
  posted := by
    intro payment hp
    have := h.posted payment hp
    simpa [Control.age] using this

/-- A payment within what is outstanding keeps an invoice's balance in step with its
status. -/
theorem InvoiceBalance.credited {inv : SaasInvoice} (h : InvoiceBalance inv) (now : Time)
    {amount : ℤ} (hpos : 0 < amount) (hle : amount ≤ outstanding inv) :
    InvoiceBalance (credited now amount inv)
      ∧ (Control.credited now amount inv).amountPaidMinor = inv.amountPaidMinor + amount := by
  simp only [outstanding] at hle
  have hroom : inv.amountPaidMinor + amount ≤ inv.amountMinor := by omega
  have h0 : 0 ≤ inv.amountPaidMinor := by
    cases h with
    | settled _ hp hpaid => omega
    | owed _ h0 _ _ => exact h0
  simp only [Control.credited]
  split
  · rename_i hfull
    have hpaid : inv.amountPaidMinor + amount = inv.amountMinor := by omega
    refine ⟨.settled rfl ?_ ?_, ?_⟩
    · simp only [markPaid]; omega
    · simp [markPaid, hpaid]
    · simp [markPaid, hpaid]
  rename_i hpart
  refine ⟨.owed rfl ?_ ?_ ?_, rfl⟩
  · show 0 ≤ inv.amountPaidMinor + amount
    omega
  · show inv.amountPaidMinor + amount ≤ max inv.amountMinor 0
    omega
  intro _
  show inv.amountPaidMinor + amount < inv.amountMinor
  omega

theorem RefsUnique.insert {payments : Table SaasPayment} (h : RefsUnique payments)
    (payment : SaasPayment) (hfresh : payment.providerReference ≠ "" →
      ∀ other ∈ payments, other.providerReference ≠ payment.providerReference) :
    RefsUnique (payments.insert payment) := by
  intro j k p q hp hq hne heq
  rw [Table.getElem?_insert] at hp hq
  split at hp <;> split at hq
  · omega
  · cases hp
    exact absurd heq.symm (hfresh hne q (List.mem_of_getElem? hq))
  · cases hq
    exact absurd heq (hfresh (heq ▸ hne) p (List.mem_of_getElem? hp))
  · exact h j k p q hp hq hne heq

theorem Ledger.credit {db : Db} (h : Ledger db) (now : Time) (payment : SaasPayment)
    (inv : SaasInvoice) (ha : Accepted db payment inv) :
    Ledger { db with
      payments := db.payments.insert payment
      invoices := db.invoices.modify payment.invoiceId (credited now payment.amountMinor) } where
  balance := by
    intro i row hrow
    rw [List.getElem?_modify, Option.map_eq_map, Option.map_eq_some_iff] at hrow
    obtain ⟨old, hold, rfl⟩ := hrow
    rw [paidTotal_insert, ← h.balance i old hold]
    by_cases hi : payment.invoiceId = i
    · subst hi
      have hold' : old = inv := by
        have := ha.row
        rw [hold] at this
        exact Option.some.inj this
      subst hold'
      simp only [if_true]
      exact ((h.status old (List.mem_of_getElem? hold)).credited now ha.positive ha.covered).2
    · simp [hi]
  status := by
    intro row hmem
    rcases mem_modify hmem with hold | ⟨old, hold, rfl⟩
    · exact h.status row hold
    have hold' : old = inv := by
      have := ha.row
      rw [hold] at this
      exact Option.some.inj this
    subst hold'
    exact ((h.status old (List.mem_of_getElem? hold)).credited now ha.positive ha.covered).1
  refs := h.refs.insert payment ha.fresh
  posted := by
    intro p hp
    simp only [List.length_modify]
    rcases List.mem_append.1 hp with hold | hnew
    · exact h.posted p hold
    rw [List.mem_singleton.1 hnew]
    exact (List.getElem?_eq_some_iff.1 ha.row).1

/-- **The moves keep the ledger.** -/
theorem Move.ledger (h : Move db db') (hl : Ledger db) : Ledger db' := by
  cases h with
  | quiet h => exact hl.quiet h
  | enrol sub htenant hcurrent => exact ⟨hl.balance, hl.status, hl.refs, hl.posted⟩
  | promote s sub f hsub hf hcurrent => exact ⟨hl.balance, hl.status, hl.refs, hl.posted⟩
  | issue inv h => exact hl.issue inv h
  | age p => exact hl.age p
  | credit now payment inv h => exact hl.credit now payment inv h

structure Books (db : Db) : Prop where
  wellFormed : WellFormed db
  ledger : Ledger db

theorem Moves.books (h : Moves db db') (hb : Books db) : Books db' := by
  induction h with
  | refl => exact hb
  | tail _ hmove ih => exact ⟨hmove.wellFormed ih.wellFormed, hmove.ledger ih.ledger⟩

end MultiAcademy.Control
