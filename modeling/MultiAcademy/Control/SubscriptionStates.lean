import MultiAcademy.Control.Payments

/-!
# Current and dormant subscriptions

Billing, enforcement and the runtime config all read "the" current subscription of a
tenant.  Seven endpoints insert or promote one, each retiring the previous one in its own
way, and the books show that they leave at most one.

A payment in full wakes its invoice's subscription when that owes nothing else.
Settlement does not look at the status it overwrites: a subscription that was cancelled,
or a deal whose terms nobody has approved, becomes active as well.
-/

namespace MultiAcademy.Control

open MultiAcademy.Lib

/-! ## The current subscription -/

theorem WellFormed.current_unique {db : Db} (h : WellFormed db) {t s s' : ℕ}
    (hs : s ∈ db.subscriptions.select (isCurrentOf t))
    (hs' : s' ∈ db.subscriptions.select (isCurrentOf t)) : s = s' := by
  simp only [Table.mem_select, isCurrentOf, decide_eq_true_eq, Bool.decide_and, Bool.and_eq_true,
    Bool.decide_eq_true] at hs hs'
  obtain ⟨sub, hsub, ht, hc⟩ := hs
  obtain ⟨sub', hsub', ht', hc'⟩ := hs'
  exact (h.current s sub hsub hc s' sub' hsub' hc' (ht'.trans ht.symm)).symm

/-- **One current subscription per tenant**, after every run of the control plane. -/
theorem one_current_subscription (cfg : Settings) (events : List Event) (tenantId : ℕ) :
    ((run (step cfg) {} events).subscriptions.select (isCurrentOf tenantId)).length ≤ 1 := by
  have hreach : Reach cfg (run (step cfg) {} events) := ⟨events, rfl⟩
  have hnodup := Table.nodup_select (run (step cfg) {} events).subscriptions (isCurrentOf tenantId)
  have hunique : ∀ s ∈ (run (step cfg) {} events).subscriptions.select (isCurrentOf tenantId),
      ∀ s' ∈ (run (step cfg) {} events).subscriptions.select (isCurrentOf tenantId), s = s' :=
    fun s hs s' hs' => hreach.books.wellFormed.current_unique hs hs'
  match hselect : (run (step cfg) {} events).subscriptions.select (isCurrentOf tenantId) with
  | [] => simp
  | [_] => simp
  | s :: s' :: rest =>
    rw [hselect] at hnodup hunique
    have heq : s = s' := hunique s (by simp) s' (by simp)
    rw [heq] at hnodup
    simp at hnodup

/-! ## Dormant subscriptions -/

/-- Cancelled, cancelled by blacklisting, or with terms nobody has approved. -/
def dormant (sub : Subscription) : Bool :=
  sub.status = .cancelled || sub.status = .cancelledBlacklisted
    || sub.approvalStatus = .draft || sub.approvalStatus = .pending

/-- A dormant subscription that is not active stays so. -/
def DormantKept (db db' : Db) : Prop :=
  ∀ (s : ℕ) sub sub', db.subscriptions[s]? = some sub → dormant sub = true →
    sub.status ≠ .active → db'.subscriptions[s]? = some sub' → sub'.status ≠ .active

/-- Settling the payment reactivates a dormant subscription: it pays the invoice in full,
and the subscription has no other invoice to pay. -/
def wakesDormant (db : Db) (payment : SaasPayment) : Bool :=
  (db.invoices[payment.invoiceId]?).any fun inv =>
    inv.amountMinor ≤ inv.amountPaidMinor + payment.amountMinor
    && inv.subscriptionId.any fun s =>
      (db.subscriptions[s]?).any (fun sub => dormant sub && sub.status ≠ .active)
      && !existsOther db payment.invoiceId fun other =>
        other.subscriptionId = some s && owing other

section Wake
variable {cfg : Settings} {db db' : Db} {payment : SaasPayment} {inv : SaasInvoice}

theorem reactivatedSubscription_eq_some {i s : ℕ} :
    reactivatedSubscription db i inv = some s
      ↔ inv.subscriptionId = some s ∧ (db.subscriptions[s]?).isSome = true
        ∧ existsOther db i (fun other => other.subscriptionId = some s ∧ owing other) = false := by
  simp only [reactivatedSubscription]
  cases inv.subscriptionId with
  | none => simp
  | some r =>
    cases hrow : db.subscriptions[r]? with
    | none =>
      have hnone : r = s → (db.subscriptions[s]?).isSome ≠ true := by
        rintro rfl
        simp [hrow]
      simpa [hrow] using fun hr hlt => absurd (by simpa using hlt) (hnone hr)
    | some sub =>
      simp only [hrow, Option.some.injEq]
      split
      · rename_i hother
        simp only [reduceCtorEq, false_iff, not_and, Bool.not_eq_false]
        rintro rfl -
        exact hother
      rename_i hother
      simp only [Option.some.injEq]
      constructor
      · rintro rfl
        exact ⟨rfl, by simp [hrow], by simpa using hother⟩
      · exact And.left

/-- Settling the payment wakes exactly the dormant subscription it reactivates. -/
theorem wakesDormant_iff :
    wakesDormant db payment = true
      ↔ ∃ inv s sub, db.invoices[payment.invoiceId]? = some inv
        ∧ inv.amountMinor ≤ inv.amountPaidMinor + payment.amountMinor
        ∧ reactivatedSubscription db payment.invoiceId inv = some s
        ∧ db.subscriptions[s]? = some sub ∧ dormant sub = true ∧ sub.status ≠ .active := by
  simp only [wakesDormant, Option.any_eq_true, Bool.and_eq_true, decide_eq_true_eq,
    reactivatedSubscription_eq_some]
  constructor
  · rintro ⟨inv, hinv, hfull, s, hs, ⟨sub, hsub, hdormant, hactive⟩, hother⟩
    exact ⟨inv, s, sub, hinv, hfull, ⟨hs, by simp [hsub], by simpa using hother⟩, hsub, hdormant,
      hactive⟩
  rintro ⟨inv, s, sub, hinv, hfull, ⟨hs, -, hother⟩, hsub, hdormant, hactive⟩
  exact ⟨inv, hinv, hfull, s, hs, ⟨sub, hsub, hdormant, hactive⟩, by simpa using hother⟩

/-- **Which payments keep the dormant subscriptions**: all that wake none. -/
theorem dormantKept_iff {now : Time} (ha : Accepted db payment inv)
    (h : recordPayment cfg now payment db = some db') :
    DormantKept db db' ↔ wakesDormant db payment = false := by
  have hsubs := recordPayment_subscriptions ha h
  rw [← Bool.not_eq_true, wakesDormant_iff]
  constructor
  · rintro hkept ⟨row, s, sub, hrow, hfull, hreact, hsub, hdormant, hactive⟩
    obtain rfl : row = inv := Option.some.inj (hrow.symm.trans ha.row)
    rw [if_pos hfull, hreact] at hsubs
    refine hkept s sub (reactivate sub) hsub hdormant hactive ?_ rfl
    rw [hsubs]
    simp [hsub]
  intro hno s sub sub' hsub hdormant hactive hsub'
  rw [hsubs] at hsub'
  split at hsub'
  · rename_i hfull
    split at hsub'
    · rename_i r hreact
      by_cases hr : r = s
      · subst hr
        exact absurd ⟨inv, r, sub, ha.row, hfull, hreact, hsub, hdormant, hactive⟩ hno
      have hsame : (db.subscriptions.modify r reactivate)[s]? = some sub := by
        simp [hr, hsub]
      rwa [← Option.some.inj (hsame.symm.trans hsub')]
    rw [hsub] at hsub'
    rwa [← Option.some.inj hsub']
  rw [hsub] at hsub'
  rwa [← Option.some.inj hsub']

theorem DormantKept.refl (db : Db) : DormantKept db db := by
  intro s sub sub' hsub _ hactive hsub'
  rw [hsub] at hsub'
  rwa [← Option.some.inj hsub']

/-- One payment request keeps the dormant subscriptions exactly when it is refused or
wakes none. -/
theorem dormantKept_step (cfg : Settings) {e : Event} (hpay : e.isPayment = true) :
    DormantKept db (step cfg e db)
      ↔ (e.accepted db).all (fun p => !wakesDormant db p.2) = true := by
  cases hacc : e.accepted db with
  | none =>
    rw [step_refused cfg hpay hacc]
    exact iff_of_true (DormantKept.refl db) rfl
  | some p =>
    obtain ⟨now, payment⟩ := p
    obtain ⟨inv, ha⟩ := accepted_row hacc
    rw [dormantKept_iff ha (step_accepted cfg hacc)]
    simp

end Wake

/-- **Payments keep dormant subscriptions dormant** in a run exactly when no accepted
payment of it settles the last invoice that a dormant subscription owes. -/
theorem dormant_kept_iff (cfg : Settings) (events : List Event) :
    Along (step cfg) (fun db e => e.isPayment = true → DormantKept db (step cfg e db)) {} events
      ↔ Along (step cfg) (fun db e => e.isPayment = true →
        (e.accepted db).all (fun p => !wakesDormant db p.2) = true) {} events := by
  refine along_congr (I := fun _ => True) (D := fun _ => True) ?_ ?_ ?_ trivial
  · intro _ _ _ _
    trivial
  · intro db e _ _
    exact imp_congr_right fun hpay => dormantKept_step cfg hpay
  intro _ _
  trivial

/-- The example school is blacklisted, and its open invoice is paid after that. -/
def Example.blacklistedPayer : List Event :=
  opened ++
  [.staff (day 3) operator (.blacklistTenant 0 { reason := "fraud" }),
   .staff (day 5) operator (.payInvoice 0 { amountMinor := 500000 })]

/-- The payment after the blacklisting makes the cancelled subscription active. -/
theorem not_dormant_kept :
    ¬ ∀ (cfg : Settings) (events : List Event),
      Along (step cfg) (fun db e => e.isPayment = true → DormantKept db (step cfg e db)) {}
        events := by
  intro h
  have hpaid := (along_append.1 (h Example.settings Example.blacklistedPayer)).2.2.1 rfl
  rw [dormantKept_step _ rfl] at hpaid
  revert hpaid
  decide

end MultiAcademy.Control
