import MultiAcademy.Control.BookSteps

/-!
# The history of the books

What later books keep of earlier ones, whatever happens in between.  No payment is rewritten, an
invoice only collects and is left alone once it is paid, and a queued row stays in the outbox of a
tenant that keeps its identity.  No step of a machine touches the providers.
-/

namespace MultiAcademy.Control

open MultiAcademy.Lib

/-- The invoice later: as it was, but for what it has collected, which is never less, and for a
status that is not the first again, nor another than paid. -/
structure Collects (inv inv' : SaasInvoice) : Prop where
  same : inv' = { inv with
    amountPaidMinor := inv'.amountPaidMinor, status := inv'.status, paidAt := inv'.paidAt }
  more : inv.amountPaidMinor ≤ inv'.amountPaidMinor
  opened : inv'.status = .open → inv' = inv
  settled : inv.status = .paid → inv' = inv

/-- The books later. -/
structure Later (db db' : Db) : Prop where
  payments : db.payments <+: db'.payments
  invoices : ∀ (i : ℕ) inv, db.invoices[i]? = some inv →
    ∃ inv', db'.invoices[i]? = some inv' ∧ Collects inv inv'
  subscriptions : ∀ (s : ℕ) sub, db.subscriptions[s]? = some sub →
    ∃ sub', db'.subscriptions[s]? = some sub' ∧ sub'.tenantId = sub.tenantId

variable {cfg : Settings} {db db' db'' : Db} {inv inv' inv'' : SaasInvoice}

theorem Collects.refl (inv : SaasInvoice) : Collects inv inv :=
  ⟨rfl, le_rfl, fun _ => rfl, fun _ => rfl⟩

theorem Collects.trans (h : Collects inv inv') (h' : Collects inv' inv'') :
    Collects inv inv'' where
  same := h'.same.trans (by rw [h.same])
  more := h.more.trans h'.more
  opened hopen := by
    have hsame := h'.opened hopen
    rw [hsame] at hopen ⊢
    exact h.opened hopen
  settled hpaid := by
    have hsame := h.settled hpaid
    rw [h'.settled (by rw [hsame]; exact hpaid), hsame]

theorem Later.refl (db : Db) : Later db db :=
  ⟨List.prefix_rfl, fun _ inv h => ⟨inv, h, .refl inv⟩, fun _ sub h => ⟨sub, h, rfl⟩⟩

theorem Later.trans (h : Later db db') (h' : Later db' db'') : Later db db'' where
  payments := h.payments.trans h'.payments
  invoices i inv hinv := by
    obtain ⟨inv', hinv', hcollects⟩ := h.invoices i inv hinv
    obtain ⟨inv'', hinv'', hcollects'⟩ := h'.invoices i inv' hinv'
    exact ⟨inv'', hinv'', hcollects.trans hcollects'⟩
  subscriptions s sub hsub := by
    obtain ⟨sub', hsub', ht⟩ := h.subscriptions s sub hsub
    obtain ⟨sub'', hsub'', ht'⟩ := h'.subscriptions s sub' hsub'
    exact ⟨sub'', hsub'', ht'.trans ht⟩

/-- A payment within what is outstanding is collected, and there is none on a paid invoice. -/
theorem InvoiceBalance.collects (h : InvoiceBalance inv) (now : Time) {amount : ℤ}
    (hpos : 0 < amount) (hle : amount ≤ outstanding inv) :
    Collects inv (Control.credited now amount inv) := by
  have hpaid := (h.credited now hpos hle).2
  refine ⟨?_, by omega, ?_, ?_⟩
  · simp only [Control.credited]
    split <;> rfl
  · intro hopen
    simp only [Control.credited] at hopen
    split at hopen <;> cases hopen
  intro hstatus
  cases h with
  | settled _ _ hfull =>
    rw [outstanding, hfull] at hle
    omega
  | owed howing => simp [owing, hstatus] at howing

/-- **The moves keep what the books have recorded.** -/
theorem Move.later (h : Move db db') (hl : Ledger db) : Later db db' := by
  cases h with
  | quiet h =>
    refine ⟨by rw [h.payments], fun i inv hinv => ⟨inv, ?_, .refl inv⟩, fun s sub hsub =>
      h.subs.forth hsub⟩
    rw [h.invoices]
    exact hinv
  | enrol sub =>
    exact { Later.refl db with subscriptions := fun s row hrow =>
      ⟨row, (List.getElem?_append_left (lt_length hrow)).trans hrow, rfl⟩ }
  | promote s sub f hsub hf =>
    refine { Later.refl db with subscriptions := fun r row hrow =>
      ⟨if s = r then f row else row, by simp [List.getElem?_modify, hrow], ?_⟩ }
    split
    · exact hf row
    · rfl
  | issue inv =>
    exact { Later.refl db with invoices := fun i row hrow =>
      ⟨row, (List.getElem?_append_left (lt_length hrow)).trans hrow, .refl row⟩ }
  | age p =>
    refine { Later.refl db with invoices := fun i row hrow =>
      ⟨if p row && row.status = .open then { row with status := .pastDue } else row,
        by simp [Control.age, Table.getElem?_updateWhere, hrow], ?_⟩ }
    split
    · rename_i hp
      rw [Bool.and_eq_true, decide_eq_true_eq] at hp
      refine ⟨rfl, le_rfl, ?_, ?_⟩
      · intro hstatus
        cases hstatus
      intro hpaid
      cases hp.2.symm.trans hpaid
    · exact .refl row
  | credit now payment inv h =>
    refine { Later.refl db with
      payments := List.prefix_append _ _
      invoices := fun i row hrow => ?_ }
    by_cases hi : payment.invoiceId = i
    · subst hi
      obtain rfl : row = inv := Option.some.inj (hrow.symm.trans h.row)
      have hbalance := hl.status row (List.mem_of_getElem? hrow)
      exact ⟨_, by simp [hrow], hbalance.collects now h.positive h.covered⟩
    · exact ⟨row, by simp [hi, hrow], .refl row⟩

theorem Moves.later (h : Moves db db') (hl : Ledger db) : Later db db' := by
  have hboth : Later db db' ∧ Ledger db' := by
    induction h with
    | refl => exact ⟨.refl _, hl⟩
    | tail _ hmove ih => exact ⟨ih.1.trans (hmove.later ih.2), hmove.ledger ih.2⟩
  exact hboth.1

/-! ## Runs -/

/-- What some events do, each of whose steps does it. -/
theorem run_effect {areas : List Area} (hb : Books db) (es : List Event)
    (hstep : ∀ db, Books db → ∀ e ∈ es, Effect areas db (step cfg e db)) :
    Effect areas db (run (step cfg) db es) := by
  induction es generalizing db with
  | nil => exact .refl db
  | cons e es ih =>
    have hrest := fun db hb e' he' => hstep db hb e' (List.mem_cons_of_mem e he')
    exact (hstep db hb e List.mem_cons_self).trans (ih (hb.step cfg e) hrest)

variable (cfg) (es es' : List Event)

theorem books_run : Books (run (step cfg) {} es) := Reach.books ⟨es, rfl⟩

/-- **The books only grow.** -/
theorem books_history :
    Later (run (step cfg) {} es) (run (step cfg) {} (es ++ es')) := by
  have hbooks := books_run cfg es
  rw [run_append]
  exact (run_effect hbooks es' fun _ hb e _ => step_effect hb.wellFormed e).moves.later hbooks.ledger

/-- **What was queued stays queued**, for tenants that stay who they are and have one trial. -/
theorem outbox_history :
    Continues (run (step cfg) {} es) (run (step cfg) {} (es ++ es'))
      ∧ OneTrial (run (step cfg) {} (es ++ es')).trials := by
  refine ⟨?_, Reach.oneTrial ⟨es ++ es', rfl⟩⟩
  rw [run_append]
  exact (run_effect (books_run cfg es) es' fun _ hb e _ => step_effect hb.wellFormed e).toContinues

/-- A step of the worker, or a call of a school server. -/
def Event.byMachine : Event → Bool
  | .stage .. | .advanceDunning .. | .service .. => true
  | .staff .. | .catalogue .. => false

end MultiAcademy.Control
