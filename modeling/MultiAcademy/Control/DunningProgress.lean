import MultiAcademy.Control.StageEffects
import MultiAcademy.Lib.Progress

/-!
# How far dunning goes

Passes of `run_dunning_pass`, one after another, while nothing is paid.  A pass scans the
invoices that are open or past due and advances the subscription behind an overdue one.
An invoice that was paid in part is neither, so dunning goes on only if another invoice of
its subscription is scanned.
-/

namespace MultiAcademy.Control

open MultiAcademy.Lib

variable {cfg : Settings} {now : Time} {graceDays : ℤ} {s : ℕ}

@[simp] theorem DunningStep.orNone_none : DunningStep.orNone .none = .none := rfl
@[simp] theorem DunningStep.orNone_pastDue : DunningStep.orNone .pastDue = .pastDue := rfl
@[simp] theorem DunningStep.orNone_grace : DunningStep.orNone .grace = .grace := rfl
@[simp] theorem DunningStep.orNone_suspended : DunningStep.orNone .suspended = .suspended := rfl

/-! ## One pass -/

/-- The row `advance_dunning` leaves of its subscription. -/
def advancedRow (now : Time) (graceDays : ℤ) (sub : Subscription) : Subscription :=
  if sub.dunningStep.orNone = .none ∨ sub.status = .active then
    { sub with
      status := .pastDue
      dunningStep := .pastDue
      pastDueAt := some now
      graceUntil := some (now + Time.days graceDays) }
  else if sub.dunningStep.orNone = .pastDue then
    { sub with
      dunningStep := .grace
      graceUntil := sub.graceUntil.or (some (now + Time.days graceDays)) }
  else { sub with dunningStep := .suspended, status := .pastDue }

@[simp] theorem advancedRow_tenantId (sub : Subscription) :
    (advancedRow now graceDays sub).tenantId = sub.tenantId := by
  simp only [advancedRow]
  split
  · rfl
  · split <;> rfl

@[simp] theorem advancedRow_isCurrent (sub : Subscription) :
    (advancedRow now graceDays sub).isCurrent = sub.isCurrent := by
  simp only [advancedRow]
  split
  · rfl
  · split <;> rfl

def hasTenant (db : Db) (sub : Subscription) : Bool := (db.tenants[sub.tenantId]?).isSome

variable {sub : Subscription} {db : Db} (acc : DunningAcc)

theorem advanceDunning_subscription {sub : Subscription}
    (hsub : db.subscriptions[s]? = some sub) :
    (advanceDunning cfg now graceDays s db).2.subscriptions[s]?
      = some (if hasTenant db sub then advancedRow now graceDays sub else sub) := by
  simp only [advanceDunning]
  cases htenant : db.tenants[sub.tenantId]? with
  | none => simp [hsub, htenant, hasTenant]
  | some tenant =>
    simp only [hsub, htenant, hasTenant, Option.isSome_some, if_true, advancedRow]
    by_cases hfirst : sub.dunningStep.orNone = .none ∨ sub.status = .active
    · rw [if_pos hfirst, if_pos hfirst]
      simp [enterPastDue, hsub]
    rw [if_neg hfirst, if_neg hfirst]
    by_cases hpast : sub.dunningStep.orNone = .pastDue
    · rw [if_pos hpast, if_pos hpast]
      simp [enterGrace, hsub]
    rw [if_neg hpast, if_neg hpast]
    simp [enterSuspended, hsub]

theorem advanceDunning_hasTenant (db : Db) (k : ℕ) (sub : Subscription) :
    hasTenant (advanceDunning cfg now graceDays k db).2 sub = hasTenant db sub := by
  simp only [hasTenant]
  rw [advanceDunning_tenant]
  split
  · rw [Option.isSome_map]
  · rfl

/-- What dunning reads of an invoice. -/
def scanKey (inv : SaasInvoice) : Bool × Option Time × Option ℕ :=
  (dunningCandidate inv, inv.dueAt, inv.subscriptionId)

theorem advanceDunning_scanKey (k : ℕ) (db : Db) (i : ℕ) :
    ((advanceDunning cfg now graceDays k db).2.invoices[i]?).map scanKey
      = (db.invoices[i]?).map scanKey := by
  rcases advanceDunning_cases cfg now graceDays k db with
    ⟨h, -⟩ | ⟨sub, hsub, ⟨-, h | h⟩ | ⟨-, h⟩⟩ <;> rw [h]
  · simp only [enterPastDue, Table.getElem?_updateWhere, Option.map_map]
    congr 1
    funext inv
    by_cases hopen : inv.subscriptionId = some k ∧ inv.status = .open
    · simp [scanKey, dunningCandidate, hopen]
    · simp [hopen]
  · rfl
  · rfl

/-- The pass advances the subscription once it has found an overdue invoice of it. -/
def advances (now : Time) (db : Db) (sub : Subscription) : Bool :=
  sub.isCurrent && dunnable now sub && hasTenant db sub

/-- The pass finds an overdue invoice of the subscription. -/
def scans (now : Time) (s : ℕ) (db : Db) : Bool :=
  db.invoices.existsRow fun inv =>
    dunningCandidate inv && overdue now inv && inv.subscriptionId = some s

def metRow (s : ℕ) (acc : DunningAcc) : Option (Bool × Subscription) :=
  (acc.db.subscriptions[s]?).map fun sub => (decide (s ∈ acc.seen), sub)

/-- The first meeting advances the row. -/
def meet (now : Time) (graceDays : ℤ) (db : Db) (row : Bool × Subscription) :
    Bool × Subscription :=
  if row.1 then row
  else (true, if advances now db row.2 then advancedRow now graceDays row.2 else row.2)

/-- Invoice `k` makes the pass meet the subscription. -/
def meets (now : Time) (s : ℕ) (acc : DunningAcc) (k : ℕ) : Prop :=
  (∃ inv, acc.db.invoices[k]? = some inv ∧ overdue now inv = true
    ∧ inv.subscriptionId = some s)
  ∧ (acc.db.subscriptions[s]?).any (·.isCurrent) = true

/-- What the pass knows of the database as it goes. -/
structure Scanned (db : Db) (acc : DunningAcc) : Prop where
  tenants : ∀ sub, hasTenant acc.db sub = hasTenant db sub
  invoices : ∀ i : ℕ, (acc.db.invoices[i]?).map scanKey = (db.invoices[i]?).map scanKey

theorem dunInvoice_scanned (k : ℕ) (h : Scanned db acc) :
    Scanned db (dunInvoice cfg now graceDays acc k) := by
  rcases dunInvoice_cases cfg now 0 graceDays acc k with
    ⟨heq, -⟩ | ⟨inv, s', sub, -, -, -, -, -, heq⟩
  · rw [heq]
    exact h
  rw [heq, dunSubscription]
  split
  · exact h
  split
  · exact ⟨fun sub => (advanceDunning_hasTenant acc.db s' sub).trans (h.tenants sub),
      fun i => (advanceDunning_scanKey s' acc.db i).trans (h.invoices i)⟩
  · exact ⟨h.tenants, h.invoices⟩

theorem dunSubscription_metRow {db : Db} {sub : Subscription}
    (hsub : acc.db.subscriptions[s]? = some sub) (hcurrent : sub.isCurrent = true)
    (h : Scanned db acc) :
    metRow s (dunSubscription cfg now graceDays acc s sub)
      = some (true, if advances now db sub then advancedRow now graceDays sub else sub) := by
  simp only [dunSubscription]
  rw [if_neg (by simp [hcurrent])]
  by_cases hdun : dunnable now sub = true
  · rw [if_pos hdun]
    simp [metRow, advanceDunning_subscription hsub, advances, hcurrent, hdun, h.tenants]
  rw [if_neg hdun]
  simp [metRow, hsub, advances, hdun]

/-- An invoice of the subscription makes the pass meet it. -/
theorem dunInvoice_of_meets (k : ℕ) (h : Scanned db acc)
    (hmeets : meets now s acc k) :
    metRow s (dunInvoice cfg now graceDays acc k)
      = (metRow s acc).map (meet now graceDays db) := by
  obtain ⟨⟨inv, hinv, hover, hs⟩, hany⟩ := hmeets
  obtain ⟨sub, hsub, hcurrent⟩ := (Option.any_eq_true _ _).1 hany
  by_cases hseen : s ∈ acc.seen
  · have hsame : dunInvoice cfg now graceDays acc k = acc := by
      simp [dunInvoice, hinv, hover, hs, hseen]
    rw [hsame]
    simp [metRow, hsub, hseen, meet]
  have hmet : dunInvoice cfg now graceDays acc k
      = dunSubscription cfg now graceDays acc s sub := by
    simp [dunInvoice, hinv, hover, hs, hseen, hsub]
  rw [hmet, dunSubscription_metRow acc hsub hcurrent h]
  simp [metRow, hsub, hseen, meet]

/-- No other invoice does anything to it. -/
theorem dunInvoice_of_not_meets (k : ℕ) (hmeets : ¬ meets now s acc k) :
    metRow s (dunInvoice cfg now graceDays acc k) = metRow s acc := by
  rcases dunInvoice_cases cfg now 0 graceDays acc k with
    ⟨heq, -⟩ | ⟨inv, s', sub, hinv, hover, hs', -, hsub, heq⟩
  · rw [heq]
  rw [heq, dunSubscription]
  by_cases hcurrent : sub.isCurrent = true
  · have hne : s ≠ s' := by
      rintro rfl
      exact hmeets ⟨⟨inv, hinv, hover, hs'⟩, by simp [hsub, hcurrent]⟩
    rw [if_neg (by simp [hcurrent])]
    split
    · simp [metRow, (advanceDunning_frame cfg now graceDays s' acc.db).1 s hne, hne]
    · simp [metRow, hne]
  · rw [if_pos (by simpa using hcurrent)]

theorem meets_congr {acc acc' : DunningAcc} (h : Scanned db acc)
    (h' : Scanned db acc') (hrow : metRow s acc' = metRow s acc) (k : ℕ) :
    meets now s acc' k ↔ meets now s acc k := by
  have hsub : acc'.db.subscriptions[s]? = acc.db.subscriptions[s]? := by
    have hsnd := congrArg (Option.map Prod.snd) hrow
    simpa [metRow] using hsnd
  have hkey : (acc'.db.invoices[k]?).map scanKey = (acc.db.invoices[k]?).map scanKey :=
    (h'.invoices k).trans (h.invoices k).symm
  have hread : ∀ a : DunningAcc, (∃ inv, a.db.invoices[k]? = some inv ∧ overdue now inv = true
      ∧ inv.subscriptionId = some s)
      ↔ ∃ key, (a.db.invoices[k]?).map scanKey = some key
        ∧ key.2.1.any (fun due => due < now) = true ∧ key.2.2 = some s := by
    intro a
    constructor
    · rintro ⟨inv, hinv, hover, hs⟩
      exact ⟨scanKey inv, by rw [hinv]; rfl, hover, hs⟩
    rintro ⟨key, hmap, hover, hs⟩
    obtain ⟨inv, hinv, rfl⟩ := Option.map_eq_some_iff.1 hmap
    exact ⟨inv, hinv, hover, hs⟩
  rw [meets, meets, hsub, hread acc', hread acc, hkey]

theorem meet_idem (db : Db) (row : Bool × Subscription) :
    meet now graceDays db (meet now graceDays db row) = meet now graceDays db row := by
  simp only [meet]
  by_cases h : row.1 = true <;> simp [h]

/-- Some invoice that the pass scans makes it meet the subscription. -/
theorem exists_meets_iff (db : Db) :
    (∃ k ∈ db.invoices.select dunningCandidate, meets now s ⟨[], [], db⟩ k)
      ↔ scans now s db = true ∧ (db.subscriptions[s]?).any (·.isCurrent) = true := by
  constructor
  · rintro ⟨k, hk, ⟨inv, hinv, hover, hs⟩, hany⟩
    obtain ⟨inv', hinv', hcand⟩ := Table.mem_select.1 hk
    rw [hinv] at hinv'
    cases hinv'
    exact ⟨Table.existsRow_iff.2 ⟨k, inv, hinv, by simp [hcand, hover, hs]⟩, hany⟩
  rintro ⟨hscans, hany⟩
  obtain ⟨k, inv, hinv, hscan⟩ := Table.existsRow_iff.1 hscans
  simp only [Bool.and_eq_true, decide_eq_true_eq] at hscan
  obtain ⟨⟨hcand, hover⟩, hs⟩ := hscan
  exact ⟨k, Table.mem_select.2 ⟨inv, hinv, hcand⟩, ⟨inv, hinv, hover, hs⟩, hany⟩

/-- **What a pass does to a subscription.** -/
theorem runDunningPass_subscription (cfg : Settings) (now : Time) (graceDays : ℤ) (s : ℕ)
    (db : Db) :
    (runDunningPass cfg now graceDays db).2.subscriptions[s]?
      = (db.subscriptions[s]?).map fun sub =>
        if scans now s db && advances now db sub then advancedRow now graceDays sub else sub := by
  have hstart : Scanned db ⟨[], [], db⟩ := ⟨fun _ => rfl, fun _ => rfl⟩
  have hpass := row_foldl_of_hit (dunInvoice cfg now graceDays) (metRow s) (meets now s)
    (meet_idem db) dunInvoice_scanned dunInvoice_of_meets
    (fun acc k _ hk => dunInvoice_of_not_meets acc k hk)
    (fun acc k k' h hk => meets_congr h (dunInvoice_scanned acc k h)
      (dunInvoice_of_not_meets acc k hk) k')
    (db.invoices.select dunningCandidate) hstart
  have hend : ∀ acc : DunningAcc, acc.db.subscriptions[s]? = (metRow s acc).map Prod.snd := by
    intro acc
    simp [metRow]
  rw [exists_meets_iff] at hpass
  rw [runDunningPass, hend]
  cases hsub : db.subscriptions[s]? with
  | none =>
    rw [hpass.2 (by simp [hsub])]
    simp [metRow, hsub]
  | some sub =>
    by_cases hgo : scans now s db = true ∧ sub.isCurrent = true
    · rw [hpass.1 (by simpa [hsub] using hgo)]
      simp [metRow, hsub, meet, hgo.1]
    have hstay : ¬ (scans now s db && advances now db sub) = true := by
      simp only [Bool.and_eq_true, advances]
      exact fun h => hgo ⟨h.1, h.2.1.1⟩
    rw [hpass.2 (by simpa [hsub] using hgo), Option.map_some, if_neg hstay]
    simp [metRow, hsub]

theorem runDunningPass_scanned (cfg : Settings) (now : Time) (graceDays : ℤ) (db : Db) :
    (∀ sub, hasTenant (runDunningPass cfg now graceDays db).2 sub = hasTenant db sub)
      ∧ ∀ i : ℕ, ((runDunningPass cfg now graceDays db).2.invoices[i]?).map scanKey
        = (db.invoices[i]?).map scanKey := by
  have h : Scanned db ((db.invoices.select dunningCandidate).foldl
      (dunInvoice cfg now graceDays) ⟨[], [], db⟩) :=
    foldl_invariant (fun acc k h => dunInvoice_scanned acc k h) _
      ⟨fun _ => rfl, fun _ => rfl⟩
  exact ⟨h.tenants, h.invoices⟩

/-! ## Passes without end -/

/-- A pass, with the clock and the grace period it reads. -/
def dunningPass (cfg : Settings) (e : Time × ℤ) (db : Db) : Db :=
  (runDunningPass cfg e.1 e.2 db).2

/-- How far the subscription still has to go. -/
def dunningRank (sub : Subscription) : ℕ :=
  if sub.dunningStep.orNone = .none ∨ sub.status = .active then 3
  else if sub.dunningStep.orNone = .pastDue then 2
  else if sub.dunningStep = .grace then 1
  else 0

def knownStep (sub : Subscription) : Bool :=
  sub.dunningStep = .none || sub.dunningStep = .pastDue || sub.dunningStep = .grace
    || sub.status = .active

/-- An invoice of the subscription will be scanned, once it is overdue. -/
def chased (s : ℕ) (db : Db) : Bool :=
  db.invoices.existsRow fun inv =>
    dunningCandidate inv && inv.dueAt.isSome && inv.subscriptionId = some s

def goesOn (s : ℕ) (db : Db) (sub : Subscription) : Bool :=
  sub.isCurrent && hasTenant db sub && chased s db

/-- The subscription of the invoice is at the last stage, or dunning of it goes on. -/
def pursued (db : Db) (inv : SaasInvoice) : Bool :=
  inv.subscriptionId.any fun s => (db.subscriptions[s]?).any fun sub =>
    sub.dunningStep = .suspended || (knownStep sub && goesOn s db sub)

def dunningStage (db : Db) (inv : SaasInvoice) : Option DunningStep :=
  (inv.subscriptionId.bind fun s => db.subscriptions[s]?).map (·.dunningStep)

/-- An advanced subscription is nearer to the last stage. -/
theorem dunningRank_advancedRow (h : dunnable now sub = true) :
    dunningRank (advancedRow now graceDays sub) < dunningRank sub := by
  simp only [advancedRow]
  by_cases hfirst : sub.dunningStep.orNone = .none ∨ sub.status = .active
  · rw [if_pos hfirst]
    simp [dunningRank, hfirst]
  rw [if_neg hfirst]
  rw [not_or] at hfirst
  by_cases hpast : sub.dunningStep.orNone = .pastDue
  · rw [if_pos hpast]
    simp [dunningRank, hfirst.2, hpast]
  -- past its warnings, so it is in its grace step
  have hgrace : sub.dunningStep = .grace := by
    simp only [dunnable, Bool.and_eq_true, Bool.or_eq_true, decide_eq_true_eq] at h
    obtain ⟨((hstep | hstep) | hstep) | hactive, -⟩ := h
    · exact absurd (by rw [hstep]; rfl) hfirst.1
    · exact absurd (by rw [hstep]; rfl) hpast
    · exact hstep
    · exact absurd hactive hfirst.2
  rw [if_neg hpast]
  simp [dunningRank, hfirst.2, hgrace]

theorem knownStep_of_dunnable (h : dunnable now sub = true) :
    knownStep sub = true := by
  rw [dunnable, Bool.and_eq_true] at h
  exact h.1

theorem dunnable_of_rank (hknown : knownStep sub = true)
    (hgrace : ∀ gu, sub.graceUntil = some gu → gu ≤ now) : dunnable now sub = true := by
  rw [dunnable, Bool.and_eq_true]
  refine ⟨hknown, ?_⟩
  cases hgu : sub.graceUntil with
  | none => simp
  | some gu => simp [hgrace gu hgu]

/-- At the end of a known step stands the last stage. -/
theorem suspended_of_rank
    (hknown : knownStep sub = true ∨ sub.dunningStep = .suspended) (hrank : dunningRank sub = 0) :
    sub.dunningStep = .suspended := by
  rcases hknown with hknown | h
  · simp only [knownStep, Bool.or_eq_true, decide_eq_true_eq] at hknown
    by_cases hactive : sub.status = .active
    · simp [dunningRank, hactive] at hrank
    obtain ((hstep | hstep) | hstep) | h := hknown
    · simp [dunningRank, hstep] at hrank
    · simp [dunningRank, hstep, hactive] at hrank
    · simp [dunningRank, hstep, hactive] at hrank
    · exact absurd h hactive
  · exact h

/-- What no pass changes. -/
structure SameScan (db db' : Db) : Prop where
  tenants : ∀ sub, hasTenant db' sub = hasTenant db sub
  invoices : ∀ i : ℕ, (db'.invoices[i]?).map scanKey = (db.invoices[i]?).map scanKey

theorem SameScan.pass {db db' : Db} (h : SameScan db db') (e : Time × ℤ) :
    SameScan db (dunningPass cfg e db') := by
  obtain ⟨htenants, hinvoices⟩ := runDunningPass_scanned cfg e.1 e.2 db'
  exact ⟨fun sub => (htenants sub).trans (h.tenants sub),
    fun i => (hinvoices i).trans (h.invoices i)⟩

theorem sameScan_states (cfg : Settings) (events : ℕ → Time × ℤ) (db : Db) (n : ℕ) :
    SameScan db (states (dunningPass cfg) events db n) :=
  states_invariant (I := SameScan db) (fun _ e h => h.pass e) events
    ⟨fun _ => rfl, fun _ => rfl⟩ n

/-- From its due date on, the invoice is scanned in every later pass. -/
theorem scans_of_chased (h : chased s db = true) :
    ∃ due : Time, ∀ db', SameScan db db' → ∀ now, due < now → scans now s db' = true := by
  obtain ⟨i, inv, hinv, hread⟩ := Table.existsRow_iff.1 h
  simp only [Bool.and_eq_true, decide_eq_true_eq] at hread
  obtain ⟨⟨hcand, hdue⟩, hs⟩ := hread
  obtain ⟨due, hdue⟩ := Option.isSome_iff_exists.1 hdue
  refine ⟨due, fun db' hsame now hlater => ?_⟩
  have hkey := hsame.invoices i
  rw [hinv, Option.map_some, Option.map_eq_some_iff] at hkey
  obtain ⟨inv', hinv', hkey⟩ := hkey
  simp only [scanKey, Prod.mk.injEq] at hkey
  obtain ⟨hcand', hdue', hs'⟩ := hkey
  refine Table.existsRow_iff.2 ⟨i, inv', hinv', ?_⟩
  simp [hcand', hcand, overdue, hdue', hdue, hlater, hs', hs]

theorem chased_of_scans {db db' : Db} (hsame : SameScan db db') (h : scans now s db' = true) :
    chased s db = true := by
  obtain ⟨i, inv', hinv', hread⟩ := Table.existsRow_iff.1 h
  simp only [Bool.and_eq_true, decide_eq_true_eq] at hread
  obtain ⟨⟨hcand, hover⟩, hs⟩ := hread
  obtain ⟨due, hdue, -⟩ := (Option.any_eq_true _ _).1 hover
  have hkey := hsame.invoices i
  rw [hinv', Option.map_some, eq_comm, Option.map_eq_some_iff] at hkey
  obtain ⟨inv, hinv, hkey⟩ := hkey
  simp only [scanKey, Prod.mk.injEq] at hkey
  obtain ⟨hcand', hdue', hs'⟩ := hkey
  refine Table.existsRow_iff.2 ⟨i, inv, hinv, ?_⟩
  simp [hcand', hcand, hdue', hdue, hs', hs]

/-- Dunning that does not go on leaves the subscription as it is. -/
theorem subscription_of_not_goesOn (cfg : Settings) {db : Db} {sub : Subscription}
    (hsub : db.subscriptions[s]? = some sub)
    (h : (knownStep sub && goesOn s db sub) = false) (events : ℕ → Time × ℤ) :
    ∀ n, (states (dunningPass cfg) events db n).subscriptions[s]? = some sub := by
  intro n
  induction n with
  | zero => exact hsub
  | succ n ih =>
    have hsame := sameScan_states cfg events db n
    rw [states, dunningPass, runDunningPass_subscription, ih, Option.map_some, if_neg]
    intro hgo
    simp only [Bool.and_eq_true, advances, hsame.tenants] at hgo
    obtain ⟨hscans, ⟨hcurrent, hdun⟩, htenant⟩ := hgo
    simp [knownStep_of_dunnable hdun, goesOn, hcurrent, htenant, chased_of_scans hsame hscans]
      at h

/-- Dunning of the subscription goes on, or it is over. -/
def Going (s : ℕ) (db : Db) : Prop :=
  ∃ sub, db.subscriptions[s]? = some sub
    ∧ (knownStep sub = true ∨ sub.dunningStep = .suspended) ∧ goesOn s db sub = true

theorem knownStep_advancedRow (sub : Subscription) :
    knownStep (advancedRow now graceDays sub) = true
      ∨ (advancedRow now graceDays sub).dunningStep = .suspended := by
  simp only [advancedRow]
  split
  · exact Or.inl (by simp [knownStep])
  split
  · exact Or.inl (by simp [knownStep])
  · exact Or.inr rfl

theorem Going.pass (h : Going s db) (e : Time × ℤ) :
    Going s (dunningPass cfg e db) := by
  obtain ⟨sub, hsub, hknown, hgo⟩ := h
  have hsame : SameScan db (dunningPass cfg e db) :=
    SameScan.pass ⟨fun _ => rfl, fun _ => rfl⟩ e
  simp only [goesOn, Bool.and_eq_true] at hgo
  obtain ⟨⟨hcurrent, htenant⟩, hchased⟩ := hgo
  have hchased' : chased s (dunningPass cfg e db) = true := by
    obtain ⟨due, hscans⟩ := scans_of_chased hchased
    exact chased_of_scans ⟨fun _ => rfl, fun _ => rfl⟩
      (hscans _ hsame (due + 1) (Int.lt_succ due))
  have hgo : ∀ sub', sub'.isCurrent = sub.isCurrent → sub'.tenantId = sub.tenantId →
      goesOn s (dunningPass cfg e db) sub' = true := by
    intro sub' hcurrent' htenant'
    have hthere : hasTenant (dunningPass cfg e db) sub' = true := by
      rw [hsame.tenants, hasTenant, htenant']
      exact htenant
    simp [goesOn, hcurrent', hcurrent, hthere, hchased']
  have hrow := runDunningPass_subscription cfg e.1 e.2 s db
  rw [hsub, Option.map_some] at hrow
  split at hrow
  · exact ⟨_, hrow, knownStep_advancedRow sub,
      hgo _ (advancedRow_isCurrent sub) (advancedRow_tenantId sub)⟩
  · exact ⟨_, hrow, hknown, hgo _ rfl rfl⟩

/-- **Dunning that goes on reaches its last stage**, when time passes. -/
theorem suspended_of_going (h : Going s db) (events : ℕ → Time × ℤ)
    (hlater : ∀ n T, ∃ m, n ≤ m ∧ T < (events m).1) :
    ∃ n, ∀ m, n ≤ m →
      ((states (dunningPass cfg) events db m).subscriptions[s]?).map (·.dunningStep)
        = some .suspended := by
  have hgoing : ∀ n, Going s (states (dunningPass cfg) events db n) :=
    states_invariant (fun _ e h => h.pass e) events h
  have hnext : ∀ n, (states (dunningPass cfg) events db (n + 1)).subscriptions[s]?
      = ((states (dunningPass cfg) events db n).subscriptions[s]?).map fun sub =>
        if scans (events n).1 s (states (dunningPass cfg) events db n)
            && advances (events n).1 (states (dunningPass cfg) events db n) sub
        then advancedRow (events n).1 (events n).2 sub else sub :=
    fun n => runDunningPass_subscription cfg _ _ s _
  obtain ⟨n, hzero⟩ := eventually_rank_zero
    (fun n => (states (dunningPass cfg) events db n).subscriptions[s]?)
    (fun row => row.elim 0 dunningRank) (by
      intro n
      obtain ⟨sub, hsub, -⟩ := hgoing n
      simp only [hnext n, hsub, Option.map_some, Option.elim_some]
      split
      · rename_i hgo
        simp only [Bool.and_eq_true, advances] at hgo
        exact Or.inr (dunningRank_advancedRow hgo.2.1.2)
      · exact Or.inl rfl) (by
      intro n hpos
      obtain ⟨sub, hsub, hknown, hgo⟩ := hgoing n
      simp only [hsub, Option.elim_some] at hpos
      simp only [goesOn, Bool.and_eq_true] at hgo
      obtain ⟨⟨hcurrent, htenant⟩, hchased⟩ := hgo
      obtain ⟨due, hscans⟩ := scans_of_chased hchased
      obtain ⟨m, hnm, hm⟩ := hlater n (max due (sub.graceUntil.getD 0))
      refine ⟨m, hnm, fun hsame => ?_⟩
      have hsub' : (states (dunningPass cfg) events db m).subscriptions[s]? = some sub :=
        hsame.trans hsub
      have hfixed : SameScan (states (dunningPass cfg) events db n)
          (states (dunningPass cfg) events db m) := by
        have hn := sameScan_states cfg events db n
        have hm := sameScan_states cfg events db m
        exact ⟨fun sub => (hm.tenants sub).trans (hn.tenants sub).symm,
          fun i => (hm.invoices i).trans (hn.invoices i).symm⟩
      have hdun : dunnable (events m).1 sub = true := by
        refine dunnable_of_rank ?_ fun gu hgu => ?_
        · rcases hknown with hknown | hsusp
          · exact hknown
          by_contra hnot
          simp only [knownStep, hsusp, Bool.not_eq_true, Bool.or_eq_false_iff,
            decide_eq_false_iff_not] at hnot
          simp [dunningRank, hsusp, hnot.2] at hpos
        rw [hgu, Option.getD_some] at hm
        exact le_of_lt (lt_of_le_of_lt (le_max_right _ _) hm)
      have hadvances : advances (events m).1 (states (dunningPass cfg) events db m) sub
          = true := by
        simp [advances, hcurrent, hdun, hfixed.tenants, htenant]
      have hscan := hscans _ hfixed (events m).1 (lt_of_le_of_lt (le_max_left _ _) hm)
      simp only [hnext m, hsub', Option.map_some, hscan, hadvances, Bool.and_self, if_true,
        Option.elim_some]
      exact dunningRank_advancedRow hdun)
  refine ⟨n, fun m hnm => ?_⟩
  obtain ⟨sub, hsub, hknown, -⟩ := hgoing m
  have hrank := hzero m hnm
  simp only [hsub, Option.elim_some] at hrank
  rw [hsub, Option.map_some, suspended_of_rank hknown hrank]

/-! ## Invoices that were paid in part -/

/-- A partial payment takes the invoice out of the scan. -/
theorem not_dunningCandidate_of_partial {db db' : Db} {i : ℕ} {inv : SaasInvoice} {amount : ℤ}
    (hinv : db.invoices[i]? = some inv) ( hpartial : inv.amountPaidMinor + amount < inv.amountMinor)
    (h : applyPaymentToInvoice cfg now i amount db = some db') :
    (db'.invoices[i]?).any dunningCandidate = false := by
  simp only [applyPaymentToInvoice] at h
  split at h
  · cases h
  simp only [hinv] at h
  rw [if_neg (by omega)] at h
  cases h
  simp [hinv, dunningCandidate]

/-- **Dunning reaches its last stage exactly when it goes on**: another invoice of the
subscription is open or past due.  An invoice that was paid in part is not scanned. -/
theorem dunning_ends_iff (cfg : Settings) (db : Db) (i : ℕ) (inv : SaasInvoice)
    (events : ℕ → Time × ℤ) (hinv : db.invoices[i]? = some inv)
    (hmono : Monotone fun n => (events n).1) (hpasses : ∀ T, ∃ n, T < (events n).1) :
    ((∃ n, ∀ m, n ≤ m →
        dunningStage (states (dunningPass cfg) events db m) inv = some .suspended)
      ↔ pursued db inv = true)
    ∧ ∀ now amount db', applyPaymentToInvoice cfg now i amount db = some db' →
        inv.amountPaidMinor + amount < inv.amountMinor →
        (db'.invoices[i]?).any dunningCandidate = false := by
  refine ⟨?_, fun now amount db' h hpartial => not_dunningCandidate_of_partial hinv hpartial h⟩
  have hlater : ∀ n T, ∃ m, n ≤ m ∧ T < (events m).1 := by
    intro n T
    obtain ⟨k, hk⟩ := hpasses T
    exact ⟨max n k, le_max_left n k, lt_of_lt_of_le hk (hmono (le_max_right n k))⟩
  simp only [dunningStage, pursued]
  cases hs : inv.subscriptionId with
  | none =>
    simp only [Option.bind_none, Option.map_none, Option.any_none]
    exact ⟨fun ⟨n, hn⟩ => absurd (hn n le_rfl) (by simp), fun h => absurd h (by simp)⟩
  | some s =>
    simp only [Option.bind_some, Option.any_some]
    cases hsub : db.subscriptions[s]? with
    | none =>
      have hnone : ∀ n, (states (dunningPass cfg) events db n).subscriptions[s]? = none := by
        intro n
        induction n with
        | zero => exact hsub
        | succ n ih => rw [states, dunningPass, runDunningPass_subscription, ih]; rfl
      simp only [hnone, Option.map_none, Option.any_none]
      exact ⟨fun ⟨n, hn⟩ => absurd (hn n le_rfl) (by simp), fun h => absurd h (by simp)⟩
    | some sub =>
      simp only [Option.any_some]
      by_cases hgo : (knownStep sub && goesOn s db sub) = true
      · rw [hgo, Bool.or_true, iff_true_right rfl]
        rw [Bool.and_eq_true] at hgo
        exact suspended_of_going ⟨sub, hsub, Or.inl hgo.1, hgo.2⟩ events hlater
      rw [Bool.not_eq_true] at hgo
      have hrow := subscription_of_not_goesOn cfg hsub hgo events
      simp only [hrow, Option.map_some, hgo, Bool.or_false, decide_eq_true_eq,
        Option.some.injEq]
      exact ⟨fun ⟨n, hn⟩ => hn n le_rfl, fun h => ⟨0, fun _ _ => h⟩⟩

/-- A pass each day, from day 16. -/
def Example.dailyPasses (n : ℕ) : Time × ℤ := (day (16 + n), 7)

theorem Example.monotone_dailyPasses : Monotone fun n => (dailyPasses n).1 := by
  intro n m hnm
  change (737000 + (16 + (n : ℤ))) * 86400000000 ≤ (737000 + (16 + (m : ℤ))) * 86400000000
  omega

theorem Example.exists_dailyPass (T : ℤ) : ∃ n, T < (dailyPasses n).1 := by
  refine ⟨T.toNat, ?_⟩
  change T < (737000 + (16 + (T.toNat : ℤ))) * 86400000000
  omega

/-- The example school pays nothing, so dunning of its first invoice comes to its end. -/
theorem dunning_ends_iff_example : ∃ inv,
    (run (step Example.settings) {} Example.opened).invoices[0]? = some inv
    ∧ ∃ n, ∀ m, n ≤ m →
      dunningStage (states (dunningPass Example.settings) Example.dailyPasses
        (run (step Example.settings) {} Example.opened) m) inv = some .suspended := by
  have hsome : ((run (step Example.settings) {} Example.opened).invoices[0]?).any
      (pursued (run (step Example.settings) {} Example.opened)) = true := by decide
  obtain ⟨inv, hinv, hpursued⟩ := (Option.any_eq_true _ _).1 hsome
  exact ⟨inv, hinv, (dunning_ends_iff Example.settings _ 0 inv Example.dailyPasses hinv
    Example.monotone_dailyPasses Example.exists_dailyPass).1.2 hpursued⟩

/-- The school pays a part of its first invoice on day 15, one day late. -/
def Example.partlyPaid : List Event :=
  opened ++ [.staff (day 15) operator (.payInvoice 0 { amountMinor := 1000 })]

/-- Dunning may stop while money is owed: after a partial payment no pass scans the
invoice, and its subscription stays as it is. -/
theorem not_dunning_ends :
    ¬ ∀ (cfg : Settings) (db : Db) (i : ℕ) (inv : SaasInvoice) (events : ℕ → Time × ℤ),
      Reach cfg db → db.invoices[i]? = some inv → overdue (events 0).1 inv = true →
      inv.amountPaidMinor < inv.amountMinor → (Monotone fun n => (events n).1) →
      (∀ T, ∃ n, T < (events n).1) →
      ∃ n, ∀ m, n ≤ m →
        dunningStage (states (dunningPass cfg) events db m) inv = some .suspended := by
  intro h
  have hstart : ((run (step Example.settings) {} Example.partlyPaid).invoices[0]?).any
      (fun inv => overdue (Example.dailyPasses 0).1 inv
        && inv.amountPaidMinor < inv.amountMinor && inv.subscriptionId = some 0) = true := by
    decide
  obtain ⟨inv, hinv, hread⟩ := (Option.any_eq_true _ _).1 hstart
  simp only [Bool.and_eq_true, decide_eq_true_eq] at hread
  obtain ⟨⟨hover, howed⟩, hs⟩ := hread
  obtain ⟨n, hn⟩ := h Example.settings _ 0 inv Example.dailyPasses ⟨Example.partlyPaid, rfl⟩ hinv
    hover howed Example.monotone_dailyPasses Example.exists_dailyPass
  have hrow : ((run (step Example.settings) {} Example.partlyPaid).subscriptions[0]?).any
      (fun sub => sub.dunningStep = .none
        && !goesOn 0 (run (step Example.settings) {} Example.partlyPaid) sub) = true := by
    decide
  obtain ⟨sub, hsub, hread⟩ := (Option.any_eq_true _ _).1 hrow
  simp only [Bool.and_eq_true, decide_eq_true_eq, Bool.not_eq_true'] at hread
  have hstays := subscription_of_not_goesOn Example.settings hsub
    (by rw [hread.2, Bool.and_false]) Example.dailyPasses n
  have hend := hn n le_rfl
  rw [dunningStage, hs, Option.bind_some, hstays, Option.map_some, hread.1] at hend
  cases hend

end MultiAcademy.Control
