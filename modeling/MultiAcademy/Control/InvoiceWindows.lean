import MultiAcademy.Control.DealApproval
import MultiAcademy.Lib.CivilDate
import MultiAcademy.Lib.Tally

/-!
# The windows of a subscription's invoices

`generate_due_invoices` in runs: each invoices the periods that have fallen due, up to a
ceiling, and moves `next_invoice_at` past them.  A period that has an invoice under its key
already is passed over.  The keys of a billing cycle are its months or years; those of a
term schedule are days, while two terms may start on one day.
-/

namespace MultiAcademy.Control

open MultiAcademy.Lib

/-! ## Months ahead -/

/-- The civil date some months ahead. -/
theorem ofTime_addMonths (when_ : Time) (months : ℕ) (anchorDay : Option ℕ) :
    ((Civil.ofTime (addMonths when_ months anchorDay)).year
        = (Civil.ofTime when_).year + ((Civil.ofTime when_).month - 1 + months) / 12)
      ∧ (Civil.ofTime (addMonths when_ months anchorDay)).month
        = ((Civil.ofTime when_).month - 1 + months) % 12 + 1 := by
  obtain ⟨hyear, hmonth, hlast, hday, hmicros⟩ := ofTime_bounds when_
  simp only [addMonths]
  rw [Civil.ofTime_toTime]
  · exact ⟨rfl, rfl⟩
  refine ⟨?_, ?_, ?_, ?_⟩
  · dsimp only
    omega
  · dsimp only
    omega
  · dsimp only
    refine ⟨Nat.le_min.2 ⟨?_, daysInMonth_pos _ _⟩, Nat.min_le_right _ _⟩
    split
    · split <;> omega
    · exact hday
  · exact Nat.lt_of_le_of_lt (Nat.div_mul_le_self _ _) hmicros

theorem addMonths_anchor (when_ : Time) (months : ℕ) :
    addMonths when_ months (some (Civil.ofTime when_).day) = addMonths when_ months := by
  simp [addMonths]

/-! ## Keys -/

theorem padded_toList (width n : ℕ) :
    (padded width n).toList
      = List.replicate (width - (toString n).length) '0' ++ Nat.toDigits 10 n := by
  simp [padded]

theorem padded_inj {width n n' : ℕ} (h : padded width n = padded width n') : n = n' := by
  have hvalue : ∀ k, Nat.ofDigitChars 10 (padded width k).toList 0 = k := by
    intro k
    rw [padded_toList, Nat.ofDigitChars_append, Nat.ofDigitChars_replicate_zero, Nat.mul_zero,
      Nat.ofDigitChars_ten_toDigits]
  rw [← hvalue n, h, hvalue n']

theorem dash_notMem_padded (width n : ℕ) : '-' ∉ (padded width n).toList := by
  rw [padded_toList, List.mem_append]
  rintro (hzero | hdigit)
  · have heq := List.eq_of_mem_replicate hzero
    revert heq
    decide
  have hisDigit := Nat.isDigit_of_mem_toDigits (by decide) (by decide) hdigit
  revert hisDigit
  decide

/-- The month of a subscription's key, or its year; keys of a cycle differ in it. -/
def keyStamp (sub : Subscription) (start : Time) : ℕ :=
  let c := Civil.ofTime start
  if normalizeCycle sub.billingCycle = .yearly then c.year else c.year * 12 + c.month

theorem keyStamp_of_key {sub : Subscription} (hcycle : sub.billingSchedule = none)
    {start start' : Time} (h : periodKeyFor sub start = periodKeyFor sub start') :
    keyStamp sub start = keyStamp sub start' := by
  simp only [periodKeyFor, hcycle, Option.isSome_none, Bool.false_eq_true, if_false] at h
  simp only [keyStamp]
  split at h
  · rename_i hyearly
    rw [if_pos hyearly, if_pos hyearly]
    exact padded_inj h
  rename_i hyearly
  rw [if_neg hyearly, if_neg hyearly]
  have hlist := congrArg String.toList h
  have hdash : "-".toList = ['-'] := rfl
  simp only [String.toList_append, hdash, List.append_assoc, List.singleton_append] at hlist
  obtain ⟨hyear, -, hmonth⟩ :=
    (List.append_cons_inj_of_notMem (dash_notMem_padded _ _) (dash_notMem_padded _ _)).1 hlist
  rw [padded_inj (String.toList_inj.1 hyear), padded_inj (String.toList_inj.1 hmonth)]

/-! ## The starts of the periods -/

def nextStart (sub : Subscription) (start : Time) : Option Time :=
  (advanceNextInvoiceAt start sub).nextInvoiceAt

/-- A period's window ends a second before the next one starts. -/
theorem periodBounds_nextStart {sub : Subscription} {start next : Time}
    (h : nextStart sub start = some next) :
    (periodBounds sub start).2 + Time.seconds 1 = next := by
  simp only [nextStart, advanceNextInvoiceAt] at h
  simp only [periodBounds]
  cases hschedule : sub.billingSchedule with
  | some dates =>
    rw [hschedule, Option.isSome_some, if_pos rfl] at h
    rw [h]
    exact Int.sub_add_cancel _ _
  | none =>
    have hnone : nextScheduledDate sub start = none := by simp [nextScheduledDate, hschedule]
    rw [hschedule, Option.isSome_none, if_neg Bool.false_ne_true, addMonths_anchor,
      Option.some.injEq] at h
    rw [hnone, ← h]
    exact Int.sub_add_cancel _ _

theorem lt_nextStart {sub : Subscription} {start next : Time}
    (hschedule : sub.billingSchedule.isSome) (h : nextStart sub start = some next) :
    start < next := by
  simp only [nextStart, advanceNextInvoiceAt, hschedule, if_true] at h
  have hlater := List.find?_some h
  exact of_decide_eq_true hlater

/-- The keys of a cycle move on. -/
theorem keyStamp_lt_nextStart {sub : Subscription} {start next : Time}
    (hcycle : sub.billingSchedule = none) (h : nextStart sub start = some next) :
    keyStamp sub start < keyStamp sub next := by
  simp only [nextStart, advanceNextInvoiceAt, hcycle, Option.isSome_none, Bool.false_eq_true,
    if_false, Option.some.injEq] at h
  obtain ⟨-, hmonth, hlast, -⟩ := ofTime_bounds start
  obtain ⟨hyear', hmonth'⟩ := ofTime_addMonths start (cycleMonths sub.billingCycle)
    (some (Civil.ofTime start).day)
  rw [h] at hyear' hmonth'
  simp only [keyStamp]
  cases hkind : normalizeCycle sub.billingCycle with
  | monthly =>
    have hmonths : cycleMonths sub.billingCycle = 1 := by simp [cycleMonths, hkind]
    rw [hmonths] at hyear' hmonth'
    simp only [reduceCtorEq, if_false]
    omega
  | termly =>
    have hmonths : cycleMonths sub.billingCycle = 3 := by simp [cycleMonths, hkind]
    rw [hmonths] at hyear' hmonth'
    simp only [reduceCtorEq, if_false]
    omega
  | yearly =>
    have hmonths : cycleMonths sub.billingCycle = 12 := by simp [cycleMonths, hkind]
    rw [hmonths] at hyear'
    simp only [if_true]
    omega

/-- The period starts that the catch-up loop passes, at most `periods` from the next one,
and the next one after them. -/
def dueStarts (sub : Subscription) (now : Time) : ℕ → Option Time → List Time × Option Time
  | 0, next => ([], next)
  | _ + 1, none => ([], none)
  | periods + 1, some nia =>
    if now < nia then ([], some nia)
    else
      let rest := dueStarts sub now periods (nextStart sub nia)
      (nia :: rest.1, rest.2)

/-- Invoices are generated for the subscription. -/
def billable (sub : Subscription) : Bool :=
  sub.isCurrent && (sub.status = .active || sub.status = .pastDue)
    && (sub.approvalStatus = .active || sub.approvalStatus = .approved)

def runStarts (sub : Subscription) (now : Time) (next : Option Time) : List Time × Option Time :=
  if billable sub then dueStarts sub now maxCatchupPeriods next else ([], next)

/-- The starts that a sequence of runs passes. -/
def startsOver (sub : Subscription) : List Time → Option Time → List Time × Option Time
  | [], next => ([], next)
  | now :: times, next =>
    let first := runStarts sub now next
    let rest := startsOver sub times first.2
    (first.1 ++ rest.1, rest.2)

section Starts
variable {sub : Subscription}

/-- The starts follow one another from `next`, and `last` comes after them. -/
def Follows (sub : Subscription) : Option Time → List Time → Option Time → Prop
  | next, [], last => next = last
  | next, start :: starts, last => next = some start ∧ Follows sub (nextStart sub start) starts last

variable {last : Option Time} {starts : List Time}

theorem Follows.append {next mid : Option Time} {starts' : List Time}
    (h : Follows sub next starts mid) (h' : Follows sub mid starts' last) :
    Follows sub next (starts ++ starts') last := by
  induction starts generalizing next with
  | nil =>
    obtain rfl : next = mid := h
    exact h'
  | cons start starts ih => exact ⟨h.1, ih h.2⟩

theorem dueStarts_follows (now : Time) (periods : ℕ) (next : Option Time) :
    Follows sub next (dueStarts sub now periods next).1 (dueStarts sub now periods next).2 := by
  induction periods generalizing next with
  | zero => rfl
  | succ periods ih =>
    cases next with
    | none => rfl
    | some nia =>
      simp only [dueStarts]
      split
      · rfl
      · exact ⟨rfl, ih _⟩

theorem runStarts_follows (now : Time) (next : Option Time) :
    Follows sub next (runStarts sub now next).1 (runStarts sub now next).2 := by
  rw [runStarts]
  split
  · exact dueStarts_follows now _ next
  · rfl

theorem startsOver_follows (times : List Time) (next : Option Time) :
    Follows sub next (startsOver sub times next).1 (startsOver sub times next).2 := by
  induction times generalizing next with
  | nil => rfl
  | cons now times ih => exact (runStarts_follows now next).append (ih _)

theorem Follows.isChain {next : Option Time}
    (h : Follows sub next starts last) :
    starts.IsChain fun start next => nextStart sub start = some next := by
  induction starts generalizing next with
  | nil => exact List.isChain_nil
  | cons start starts ih =>
    cases starts with
    | nil => exact List.isChain_singleton _
    | cons start' starts => exact List.isChain_cons_cons.2 ⟨h.2.1, ih h.2⟩

theorem Follows.tile {next : Option Time}
    (h : Follows sub next starts last) :
    starts.IsChain fun start next => (periodBounds sub start).2 + Time.seconds 1 = next :=
  h.isChain.imp fun _ _ => periodBounds_nextStart

theorem Follows.keys {next : Option Time}
    (h : Follows sub next starts last) (hcycle : sub.billingSchedule = none) :
    (starts.map (periodKeyFor sub)).Nodup := by
  have hlt : starts.IsChain fun start start' => keyStamp sub start < keyStamp sub start' :=
    h.isChain.imp fun _ _ => keyStamp_lt_nextStart hcycle
  have : IsTrans Time fun start start' => keyStamp sub start < keyStamp sub start' :=
    ⟨fun _ _ _ => Nat.lt_trans⟩
  refine List.pairwise_map.2 ((List.isChain_iff_pairwise.1 hlt).imp fun hlt heq => ?_)
  exact Nat.ne_of_lt hlt (keyStamp_of_key hcycle heq)

/-- Of two starts, the second is later, or has another key. -/
theorem Follows.apart {next : Option Time}
    (h : Follows sub next starts last) :
    starts.Pairwise fun start start' =>
      start < start' ∨ periodKeyFor sub start ≠ periodKeyFor sub start' := by
  cases hschedule : sub.billingSchedule with
  | some dates =>
    have hlt : starts.IsChain (· < ·) :=
      h.isChain.imp fun _ _ => lt_nextStart (by rw [hschedule]; rfl)
    exact (List.isChain_iff_pairwise.1 hlt).imp fun hlt => Or.inl hlt
  | none => exact (List.pairwise_map.1 (h.keys hschedule)).imp fun hne => Or.inr hne

/-- A run that stopped below its ceiling has left nothing due. -/
theorem dueStarts_again {now : Time} {periods : ℕ} {next : Option Time}
    (h : (dueStarts sub now periods next).1.length < periods) (periods' : ℕ) :
    dueStarts sub now periods' (dueStarts sub now periods next).2
      = ([], (dueStarts sub now periods next).2) := by
  induction periods generalizing next with
  | zero => cases h
  | succ periods ih =>
    cases next with
    | none => cases periods' <;> rfl
    | some nia =>
      simp only [dueStarts] at h ⊢
      split
      · rename_i hnot
        cases periods' with
        | zero => rfl
        | succ periods' => simp [dueStarts, hnot]
      rename_i hdue
      rw [if_neg hdue] at h
      exact ih (Nat.lt_of_succ_lt_succ h)

end Starts

/-! ## The windows of the invoices -/

structure InvoiceWindow where
  key : String
  start : Option Time
  end_ : Option Time
  deriving DecidableEq

def SaasInvoice.window (inv : SaasInvoice) : InvoiceWindow :=
  ⟨inv.periodKey, inv.periodStart, inv.periodEnd⟩

/-- The windows of a subscription's invoices, in the order of the table. -/
def windowsOf (db : Db) (subscriptionId : ℕ) : List InvoiceWindow :=
  (db.invoices.filter fun inv => inv.subscriptionId = some subscriptionId).map (·.window)

def periodWindow (sub : Subscription) (start : Time) : InvoiceWindow :=
  ⟨periodKeyFor sub start, some start, some (periodBounds sub start).2⟩

/-- The period is invoiced: an invoice has its key. -/
def sameKey (old new : InvoiceWindow) : Bool := old.key = new.key

/-- What billing does not change of a subscription. -/
structure BilledAlike (sub sub' : Subscription) : Prop where
  schedule : sub'.billingSchedule = sub.billingSchedule
  cycle : sub'.billingCycle = sub.billingCycle
  current : sub'.isCurrent = sub.isCurrent
  status : sub'.status = sub.status
  approval : sub'.approvalStatus = sub.approvalStatus

/-- Where the billing of a subscription stands: its next start, and its windows. -/
structure BillingAt (db : Db) (subscriptionId : ℕ) (sub : Subscription) (next : Option Time)
    (windows : List InvoiceWindow) : Prop where
  row : ∃ sub', db.subscriptions[subscriptionId]? = some sub' ∧ BilledAlike sub sub'
    ∧ sub'.nextInvoiceAt = next
  windows : windowsOf db subscriptionId = windows

section Billing
variable {db : Db} {s : ℕ} {sub sub' : Subscription} {now nia : Time} {next : Option Time}
  {windows : List InvoiceWindow}

theorem BilledAlike.periodKeyFor (h : BilledAlike sub sub') (start : Time) :
    periodKeyFor sub' start = Control.periodKeyFor sub start := by
  simp only [Control.periodKeyFor, h.schedule, h.cycle]

theorem BilledAlike.periodWindow (h : BilledAlike sub sub') (start : Time) :
    periodWindow sub' start = Control.periodWindow sub start := by
  simp only [Control.periodWindow, h.periodKeyFor, periodBounds, nextScheduledDate, h.schedule,
    h.cycle]

theorem BilledAlike.nextStart (h : BilledAlike sub sub') (start : Time) :
    nextStart sub' start = Control.nextStart sub start := by
  simp only [Control.nextStart, advanceNextInvoiceAt, nextScheduledDate, h.schedule, h.cycle]

theorem afterInvoice_billing (db : Db) (now : Time) (h : BilledAlike sub sub')
    (hnext : sub'.nextInvoiceAt = some nia) :
    BilledAlike sub (afterInvoice db now sub')
      ∧ (afterInvoice db now sub').nextInvoiceAt = some nia := by
  simp only [afterInvoice, hnext, reduceCtorEq, if_false]
  split
  · exact ⟨⟨h.schedule, h.cycle, h.current, h.status, h.approval⟩, rfl⟩
  · exact ⟨h, hnext⟩

/-- One invoice adds the window of its period, unless the period is invoiced. -/
theorem createInvoice_billing (h : BillingAt db s sub (some nia) windows) :
    BillingAt (createInvoiceForSubscription now s 14 (some nia) db).2 s sub (some nia)
      (appendNew sameKey windows (periodWindow sub nia)) := by
  obtain ⟨sub', hrow, hsame, hnext⟩ := h.row
  have hinvoiced : invoiced db.invoices s (Control.periodKeyFor sub' nia)
      = windows.any fun old => sameKey old (periodWindow sub nia) := by
    apply Bool.eq_iff_iff.2
    simp only [invoiced, Table.existsRow, ← h.windows, windowsOf, List.any_map, List.any_filter,
      List.any_eq_true, hsame.periodKeyFor, Function.comp_apply, SaasInvoice.window, sameKey,
      Control.periodWindow, Bool.and_eq_true, decide_eq_true_eq]
    exact exists_congr fun _ => and_congr_right fun _ => and_congr_right fun _ =>
      decide_eq_true_iff.symm
  rw [createInvoiceForSubscription_eq hrow, Option.some_or, Option.getD_some, hinvoiced,
    appendNew]
  split
  · exact h
  obtain ⟨hsame', hnext'⟩ := afterInvoice_billing db now hsame hnext
  refine ⟨⟨afterInvoice db now sub', ?_, hsame', hnext'⟩, ?_⟩
  · simp [hrow]
  have hwindow : (newInvoice db now s sub' nia 14).window = periodWindow sub nia := by
    rw [← hsame.periodWindow nia]
    simp only [newInvoice, SaasInvoice.window, Control.periodWindow, periodBounds]
    split <;> rfl
  have hown : (newInvoice db now s sub' nia 14).subscriptionId = some s := rfl
  simp [← h.windows, windowsOf, Table.insert, List.filter_append, hown, hwindow]

theorem advance_billing (h : BillingAt db s sub next windows) :
    BillingAt { db with subscriptions := db.subscriptions.modify s (advanceNextInvoiceAt nia) } s
      sub (nextStart sub nia) windows := by
  obtain ⟨sub', hrow, hsame, -⟩ := h.row
  refine ⟨⟨advanceNextInvoiceAt nia sub', by simp [hrow], ?_, hsame.nextStart nia⟩, h.windows⟩
  exact ⟨hsame.schedule, hsame.cycle, hsame.current, hsame.status, hsame.approval⟩

/-- The catch-up loop invoices the periods it passes. -/
theorem catchUp_billing (periods : ℕ) (created : List ℕ) (h : BillingAt db s sub next windows) :
    BillingAt (catchUp now s periods created db).2 s sub (dueStarts sub now periods next).2
      (((dueStarts sub now periods next).1.map (periodWindow sub)).foldl (appendNew sameKey)
        windows) := by
  induction periods generalizing created db next windows with
  | zero => exact h
  | succ periods ih =>
    obtain ⟨sub', hrow, -, hnext⟩ := h.row
    simp only [catchUp, hrow, Option.bind_some, hnext]
    cases next with
    | none => exact h
    | some nia =>
      simp only [dueStarts]
      split
      · exact h
      apply ih
      apply advance_billing
      exact createInvoice_billing h

theorem BillingAt.modify_other {t : ℕ} (hne : t ≠ s) (f : Subscription → Subscription)
    (h : BillingAt db s sub next windows) :
    BillingAt { db with subscriptions := db.subscriptions.modify t f } s sub next windows := by
  obtain ⟨sub', hrow, hsame, hnext⟩ := h.row
  exact ⟨⟨sub', by simp [hrow, hne], hsame, hnext⟩, h.windows⟩

/-- An invoice of another subscription. -/
theorem createInvoice_other {t : ℕ} (hne : t ≠ s) (start : Option Time)
    (h : BillingAt db s sub next windows) :
    BillingAt (createInvoiceForSubscription now t 14 start db).2 s sub next windows := by
  cases hrow : db.subscriptions[t]? with
  | none =>
    have hsame : createInvoiceForSubscription now t 14 start db = (none, db) := by
      simp [createInvoiceForSubscription, hrow]
    rw [hsame]
    exact h
  | some other =>
    rw [createInvoiceForSubscription_eq hrow]
    split
    · exact h
    have hmodified := h.modify_other hne (afterInvoice db now)
    refine ⟨hmodified.row, ?_⟩
    rw [← h.windows]
    simp [windowsOf, Table.insert, List.filter_append, newInvoice, hne]

/-- The catch-up loop of another subscription. -/
theorem catchUp_other {t : ℕ} (hne : t ≠ s) (periods : ℕ) (created : List ℕ)
    (h : BillingAt db s sub next windows) :
    BillingAt (catchUp now t periods created db).2 s sub next windows := by
  induction periods generalizing created db with
  | zero => exact h
  | succ periods ih =>
    simp only [catchUp]
    split
    · exact h
    rename_i nia _
    split
    · exact h
    · exact ih _ ((createInvoice_other hne _ h).modify_other hne _)

/-! ## Runs -/

def billCandidate (now : Time) (acc : List ℕ × Db) (t : ℕ) : List ℕ × Db :=
  match acc.2.subscriptions[t]? with
  | none => acc
  | some sub =>
    if sub.approvalStatus = .active ∨ sub.approvalStatus = .approved then
      catchUp now t maxCatchupPeriods acc.1 acc.2
    else acc

theorem generateDueInvoices_eq (now : Time) (db : Db) :
    generateDueInvoices now db
      = (db.subscriptions.select (isDue now)).foldl (billCandidate now) ([], db) := rfl

/-- The other candidates leave a subscription alone. -/
theorem billCandidates_other (now : Time) (candidates : List ℕ) (hs : s ∉ candidates)
    (created : List ℕ) (h : BillingAt db s sub next windows) :
    BillingAt (candidates.foldl (billCandidate now) (created, db)).2 s sub next windows := by
  induction candidates generalizing created db with
  | nil => exact h
  | cons t candidates ih =>
    have hne : t ≠ s := fun heq => hs (heq ▸ List.mem_cons_self)
    have hrest : s ∉ candidates := fun hmem => hs (List.mem_cons_of_mem _ hmem)
    have hfirst : BillingAt (billCandidate now (created, db) t).2 s sub next windows := by
      simp only [billCandidate]
      split
      · exact h
      split
      · exact catchUp_other hne _ _ h
      · exact h
    exact ih hrest _ hfirst

/-- A run passes no start of a subscription that is not due. -/
theorem runStarts_of_not_due (hdue : isDue now sub = false) :
    runStarts sub now sub.nextInvoiceAt = ([], sub.nextInvoiceAt) := by
  rw [runStarts]
  split
  · rename_i hbill
    cases hnext : sub.nextInvoiceAt with
    | none => rfl
    | some nia =>
      have hlater : now < nia := by
        simp only [billable, Bool.and_eq_true] at hbill
        simp only [isDue, hbill.1.1, hbill.1.2, hnext, Bool.true_and, Option.any_some,
          decide_eq_false_iff_not] at hdue
        exact Int.not_le.1 hdue
      simp [dueStarts, maxCatchupPeriods, hlater]
  · rfl

theorem BilledAlike.runStarts (h : BilledAlike sub sub') (now : Time) (next : Option Time) :
    runStarts sub' now next = Control.runStarts sub now next := by
  have hbillable : billable sub' = billable sub := by
    simp only [billable, h.current, h.status, h.approval]
  have hdue : ∀ periods next, dueStarts sub' now periods next = dueStarts sub now periods next := by
    intro periods
    induction periods with
    | zero => exact fun _ => rfl
    | succ periods ih =>
      intro next
      cases next with
      | none => rfl
      | some nia => simp only [dueStarts, h.nextStart, ih]
  simp only [Control.runStarts, hbillable, hdue]

/-- The part of a run for the subscription itself. -/
theorem billCandidate_billing (now : Time) (created : List ℕ)
    (h : BillingAt db s sub next windows) (hdue : sub.isCurrent = true)
    (hstatus : (sub.status = .active || sub.status = .pastDue) = true) :
    BillingAt (billCandidate now (created, db) s).2 s sub (runStarts sub now next).2
      (((runStarts sub now next).1.map (periodWindow sub)).foldl (appendNew sameKey)
        windows) := by
  obtain ⟨sub', hrow, hsame, hnext⟩ := h.row
  simp only [billCandidate, hrow, hsame.approval]
  split
  · rename_i happroved
    have hbillable : billable sub = true := by simpa [billable, hdue, hstatus] using happroved
    rw [runStarts, if_pos hbillable]
    exact catchUp_billing maxCatchupPeriods created h
  rename_i happroved
  have hbillable : ¬ billable sub = true := by simpa [billable, hdue, hstatus] using happroved
  rw [runStarts, if_neg hbillable]
  exact h

/-- What one run does to a subscription: invoice the periods it passes, when it is billable
and due. -/
theorem generateDueInvoices_billing (now : Time) (h : BillingAt db s sub next windows) :
    BillingAt (generateDueInvoices now db).2 s sub (runStarts sub now next).2
      (((runStarts sub now next).1.map (periodWindow sub)).foldl (appendNew sameKey)
        windows) := by
  obtain ⟨sub', hrow, hsame, rfl⟩ := h.row
  rw [generateDueInvoices_eq]
  by_cases hmem : s ∈ db.subscriptions.select (isDue now)
  · obtain ⟨before, after, hsplit⟩ := List.append_of_mem hmem
    have hnodup := Table.nodup_select db.subscriptions (isDue now)
    rw [hsplit, List.nodup_middle, List.nodup_cons, List.mem_append, not_or] at hnodup
    obtain ⟨⟨hbefore, hafter⟩, -⟩ := hnodup
    obtain ⟨row, hrow', hdue⟩ := Table.mem_select.1 hmem
    obtain rfl : row = sub' := Option.some.inj (hrow'.symm.trans hrow)
    simp only [isDue, Bool.and_eq_true, hsame.current, hsame.status] at hdue
    rw [hsplit, List.foldl_append, List.foldl_cons]
    apply billCandidates_other now after hafter
    exact billCandidate_billing now _ (billCandidates_other now before hbefore [] h) hdue.1.1
      hdue.1.2
  have hnot : isDue now sub' = false := by
    apply Bool.eq_false_iff.2
    intro hdue
    exact hmem (Table.mem_select.2 ⟨sub', hrow, hdue⟩)
  rw [← hsame.runStarts, runStarts_of_not_due hnot]
  exact billCandidates_other now _ hmem [] h

end Billing

/-! ## Sequences of runs -/

/-- `generate_due_invoices` at each of the times. -/
def billingRuns (times : List Time) (db : Db) : Db :=
  times.foldl (fun db now => (generateDueInvoices now db).2) db

def duePeriods (sub : Subscription) (times : List Time) : List Time :=
  (startsOver sub times sub.nextInvoiceAt).1

/-- The second window starts a second after the first one ends. -/
def Adjoins (w w' : InvoiceWindow) : Prop := w'.start = w.end_.map (· + Time.seconds 1)

/-- The invoices of a subscription tile its due periods, over runs at some times. -/
structure Tiled (db : Db) (s : ℕ) (sub : Subscription) (times : List Time) : Prop where
  /-- What the runs produce is for due periods, in order, and no two have the same key. -/
  produced : ∃ added, windowsOf (billingRuns times db) s = windowsOf db s ++ added
    ∧ added.Sublist ((duePeriods sub times).map (periodWindow sub))
    ∧ added.Pairwise fun w w' => w.key ≠ w'.key
  /-- One invoice starts with each due period, and it is for its window. -/
  once : ∀ start ∈ duePeriods sub times,
    (windowsOf (billingRuns times db) s).filter (fun w => w.start = some start)
      = [periodWindow sub start]
  /-- Their windows leave no gap and do not overlap. -/
  adjoin : ((duePeriods sub times).map (periodWindow sub)).IsChain Adjoins
  /-- After a run below its ceiling, another one at the same time produces nothing. -/
  again : ∀ earlier now, times = earlier ++ [now] →
    (runStarts sub now (startsOver sub earlier sub.nextInvoiceAt).2).1.length < maxCatchupPeriods →
    windowsOf (generateDueInvoices now (billingRuns times db)).2 s
      = windowsOf (billingRuns times db) s

/-- An invoice of the subscription, or a due period before it, has the key of the period. -/
def keyTaken (sub : Subscription) (windows : List InvoiceWindow) (starts : List Time)
    (start : Time) : Bool :=
  (windows.any fun w => sameKey w (periodWindow sub start))
    || starts.any fun other =>
      other < start && decide (periodKeyFor sub other = periodKeyFor sub start)

section Runs
variable {db : Db} {s : ℕ} {sub : Subscription} {next : Option Time}
  {windows : List InvoiceWindow}

theorem billingAt_row (hrow : db.subscriptions[s]? = some sub) :
    BillingAt db s sub sub.nextInvoiceAt (windowsOf db s) :=
  ⟨⟨sub, hrow, ⟨rfl, rfl, rfl, rfl, rfl⟩, rfl⟩, rfl⟩

theorem billingRuns_billing (times : List Time) (h : BillingAt db s sub next windows) :
    BillingAt (billingRuns times db) s sub (startsOver sub times next).2
      (((startsOver sub times next).1.map (periodWindow sub)).foldl (appendNew sameKey)
        windows) := by
  induction times generalizing db next windows with
  | nil => exact h
  | cons now times ih =>
    simp only [startsOver, List.map_append, List.foldl_append]
    exact ih (generateDueInvoices_billing now h)

theorem startsOver_concat (times : List Time) (now : Time) (next : Option Time) :
    (startsOver sub (times ++ [now]) next).2
      = (runStarts sub now (startsOver sub times next).2).2 := by
  induction times generalizing next with
  | nil => rfl
  | cons first times ih => exact ih _

theorem runStarts_again {now : Time}
    (h : (runStarts sub now next).1.length < maxCatchupPeriods) :
    (runStarts sub now (runStarts sub now next).2).1 = [] := by
  simp only [runStarts] at h ⊢
  by_cases hbillable : billable sub = true
  · simp only [if_pos hbillable] at h ⊢
    rw [dueStarts_again h]
  · rw [if_neg hbillable]

/-- All but one of the properties hold over any runs. -/
theorem tiled_iff_once (hrow : db.subscriptions[s]? = some sub) (times : List Time) :
    Tiled db s sub times ↔ ∀ start ∈ duePeriods sub times,
      (windowsOf (billingRuns times db) s).filter (fun w => w.start = some start)
        = [periodWindow sub start] := by
  have hruns := billingRuns_billing times (billingAt_row hrow)
  refine ⟨fun h => h.once, fun honce => ⟨?_, honce, ?_, ?_⟩⟩
  · obtain ⟨added, heq, hsub, -, hdistinct⟩ := foldl_appendNew sameKey
      ((duePeriods sub times).map (periodWindow sub)) (windowsOf db s)
    refine ⟨added, hruns.windows.trans heq, hsub, hdistinct.imp fun hne => ?_⟩
    exact of_decide_eq_false hne
  · rw [List.isChain_map]
    refine (startsOver_follows times sub.nextInvoiceAt).tile.imp fun start next heq => ?_
    simp only [Adjoins, periodWindow, Option.map_some, heq]
  rintro earlier now rfl hbelow
  have hnext : (startsOver sub (earlier ++ [now]) sub.nextInvoiceAt).2 = _ :=
    startsOver_concat earlier now sub.nextInvoiceAt
  rw [hnext] at hruns
  have hagain := generateDueInvoices_billing now hruns
  rw [hagain.windows, runStarts_again hbelow, hruns.windows]
  rfl

theorem sameKey_trans (old mid new : InvoiceWindow) (h : sameKey old mid = true)
    (h' : sameKey mid new = true) : sameKey old new = true :=
  decide_eq_true ((of_decide_eq_true h).trans (of_decide_eq_true h'))

/-- The key of a due period is taken when an invoice before it has it. -/
theorem keyTaken_split {before after : List Time} {start : Time}
    (hbefore : ∀ other ∈ before,
      other < start ∨ periodKeyFor sub other ≠ periodKeyFor sub start)
    (hafter : ∀ other ∈ after,
      start < other ∨ periodKeyFor sub start ≠ periodKeyFor sub other) :
    keyTaken sub windows (before ++ start :: after) start
      = (windows ++ before.map (periodWindow sub)).any
        fun w => sameKey w (periodWindow sub start) := by
  apply Bool.eq_iff_iff.2
  simp only [keyTaken, List.any_append, List.any_map, Bool.or_eq_true]
  apply or_congr_right
  simp only [List.any_eq_true, Bool.and_eq_true, decide_eq_true_eq, Function.comp_apply, sameKey,
    periodWindow]
  constructor
  · rintro (⟨other, hpast, -, hkey⟩ | ⟨other, hnow, hlt, hkey⟩)
    · exact ⟨other, hpast, decide_eq_true hkey⟩
    rcases List.mem_cons.1 hnow with rfl | hlater
    · exact absurd hlt (Int.lt_irrefl _)
    rcases hafter other hlater with hgt | hne
    · exact absurd hlt (Int.not_lt.2 (Int.le_of_lt hgt))
    · exact absurd hkey.symm hne
  rintro ⟨other, hother, hsame⟩
  have hkey : periodKeyFor sub other = periodKeyFor sub start := of_decide_eq_true hsame
  have hlt : other < start := (hbefore other hother).resolve_right (not_not.2 hkey)
  exact Or.inl ⟨other, hother, hlt, hkey⟩

/-- The invoices that start with a due period, after the runs. -/
theorem windows_of_due (hrow : db.subscriptions[s]? = some sub) (times : List Time)
    {start : Time} (hdue : start ∈ duePeriods sub times) :
    (windowsOf (billingRuns times db) s).filter (fun w => w.start = some start)
      = if keyTaken sub (windowsOf db s) (duePeriods sub times) start = true then
          (windowsOf db s).filter fun w => w.start = some start
        else (windowsOf db s).filter (fun w => w.start = some start)
          ++ [periodWindow sub start] := by
  have hruns : windowsOf (billingRuns times db) s
      = ((duePeriods sub times).map (periodWindow sub)).foldl (appendNew sameKey)
        (windowsOf db s) :=
    (billingRuns_billing times (billingAt_row hrow)).windows
  have hapart : (duePeriods sub times).Pairwise _ :=
    (startsOver_follows times sub.nextInvoiceAt).apart
  rw [hruns]
  obtain ⟨before, after, hsplit⟩ := List.append_of_mem hdue
  rw [hsplit, List.pairwise_append, List.pairwise_cons] at hapart
  obtain ⟨-, ⟨hafter, -⟩, hbefore⟩ := hapart
  have hbefore' : ∀ other ∈ before,
      other < start ∨ periodKeyFor sub other ≠ periodKeyFor sub start :=
    fun other hother => hbefore other hother start List.mem_cons_self
  have hothers : ∀ others : List Time, (∀ other ∈ others, other ≠ start) →
      ∀ w ∈ others.map (periodWindow sub), decide (w.start = some start) = false := by
    intro others hne w hw
    obtain ⟨other, hother, rfl⟩ := List.mem_map.1 hw
    exact decide_eq_false fun heq => hne other hother (Option.some.inj heq)
  rw [hsplit, keyTaken_split hbefore' hafter, List.map_append, List.map_cons,
    filter_foldl_appendNew_split sameKey_trans (decide_eq_true rfl)
      (hothers before ?_) (hothers after ?_)]
  · rintro other hother rfl
    rcases hbefore' other hother with hlt | hne
    · exact Int.lt_irrefl _ hlt
    · exact hne rfl
  rintro other hother rfl
  rcases hafter other hother with hlt | hne
  · exact Int.lt_irrefl _ hlt
  · exact hne rfl

end Runs

/-- **When the invoices of a subscription tile it**: when, for every period that falls due,
an earlier invoice starts with it, for its window, if its key is taken already, and none
does otherwise. -/
theorem invoices_tile_iff (db : Db) (s : ℕ) (sub : Subscription) (times : List Time)
    (hrow : db.subscriptions[s]? = some sub) :
    Tiled db s sub times ↔ ∀ start ∈ duePeriods sub times,
      (windowsOf db s).filter (fun w => w.start = some start)
        = if keyTaken sub (windowsOf db s) (duePeriods sub times) start = true then
            [periodWindow sub start]
          else [] := by
  rw [tiled_iff_once hrow times]
  apply forall₂_congr
  intro start hdue
  rw [windows_of_due hrow times hdue]
  split
  · rfl
  · exact List.append_left_eq_self

namespace Example

def termDeal (starts : List Time) : List Event :=
  [.staff (day 0) negotiator (.createTenant
      { externalId := "s", slug := "s", name := "School", planKey := none }),
   .staff (day 0) negotiator (.createDeal
      { tenantId := 0, dealName := "Deal", billingCycle := "termly", priceMinor := 500000
        terms := { termStartDates := some starts, termCount := starts.length } }),
   .staff (day 0) negotiator (.approveDeal 0)]

/-- The control plane with the deal. -/
def withTerms (starts : List Time) : Db :=
  run (step settings) {} (termDeal starts)

/-- Three terms a hundred days apart. -/
def spacedTerms : List Time := [day 10, day 110, day 210]

/-- Three terms, of which two start on one day. -/
def crowdedTerms : List Time := [day 10, day 10 + Time.hours 6, day 210]

end Example

/-- The deal with three terms is tiled by late and repeated runs. -/
theorem invoices_tile_iff_spaced :
    ∃ sub, (Example.withTerms Example.spacedTerms).subscriptions[0]? = some sub
      ∧ Tiled (Example.withTerms Example.spacedTerms) 0 sub
        [Example.day 1, Example.day 120, Example.day 120, Example.day 300] := by
  have hrow : ∃ sub, (Example.withTerms Example.spacedTerms).subscriptions[0]? = some sub
      ∧ ∀ start ∈ duePeriods sub [Example.day 1, Example.day 120, Example.day 120, Example.day 300],
        (windowsOf (Example.withTerms Example.spacedTerms) 0).filter
            (fun w => w.start = some start)
          = if keyTaken sub (windowsOf (Example.withTerms Example.spacedTerms) 0)
              (duePeriods sub [Example.day 1, Example.day 120, Example.day 120, Example.day 300])
              start = true then [periodWindow sub start] else [] := by
    refine ⟨_, rfl, ?_⟩
    decide
  obtain ⟨sub, hsub, hclear⟩ := hrow
  exact ⟨sub, hsub, (invoices_tile_iff _ 0 sub _ hsub).2 hclear⟩

/-- Not every subscription is tiled by its invoices: of two terms that start on one day, the
second has no invoice. -/
theorem not_invoices_tile :
    ¬ ∀ (cfg : Settings) (db : Db), Reach cfg db → ∀ (s : ℕ) (sub : Subscription),
      db.subscriptions[s]? = some sub → ∀ times : List Time, times.Pairwise (· ≤ ·) →
        Tiled db s sub times := by
  intro h
  have hrow : ∃ sub, (Example.withTerms Example.crowdedTerms).subscriptions[0]? = some sub
      ∧ ∃ start ∈ duePeriods sub [Example.day 300],
        (windowsOf (billingRuns [Example.day 300] (Example.withTerms Example.crowdedTerms))
          0).filter (fun w => w.start = some start) = [] := by
    refine ⟨_, rfl, Example.day 10 + Time.hours 6, ?_, ?_⟩
    · decide
    · decide
  obtain ⟨sub, hsub, start, hdue, hnone⟩ := hrow
  have hreach : Reach Example.settings (Example.withTerms Example.crowdedTerms) := ⟨_, rfl⟩
  have honce := (h Example.settings _ hreach 0 sub hsub [Example.day 300]
    (List.pairwise_singleton _ _)).once start hdue
  rw [hnone] at honce
  cases honce

end MultiAcademy.Control
