import MultiAcademy.Control.InvoiceWindows

/-!
# What a run of the invoices reports

`generate_due_invoices` with the session it works in and what goes wrong on the way.  Each
subscription is one transaction: it is committed at its end, and rolled back where something is
raised.  The list of the created invoices is no part of the transaction.
-/

namespace MultiAcademy.Control

open MultiAcademy.Lib

/-! ## A run in a session -/

/-- Where something is raised, for one subscription. -/
inductive BillingStage
  | lock | create (round : ℕ) | advance (round : ℕ) | commit
  deriving DecidableEq

/-- The two `except` branches. -/
inductive BillingFailure
  | integrityError | exception
  deriving DecidableEq

/-- What goes wrong in a run. -/
structure BillingFaults where
  /-- Another transaction holds the row, which `skip_locked` passes over. -/
  skipLocked : ℕ → Bool := fun _ => false
  raises : ℕ → BillingStage → Option BillingFailure := fun _ _ => none

/-- The database, and what the session has made of it since the last commit. -/
structure BillingSession where
  committed : Db
  working : Db

namespace BillingSession

def commit (session : BillingSession) : BillingSession :=
  { session with committed := session.working }

def rollback (session : BillingSession) : BillingSession :=
  { session with working := session.committed }

/-- A session with nothing to commit. -/
def clean (db : Db) : BillingSession := ⟨db, db⟩

@[simp] theorem rollback_clean (db : Db) : (clean db).rollback = clean db := rfl
@[simp] theorem working_clean (db : Db) : (clean db).working = db := rfl

end BillingSession

def created? (result : Option ℕ × Db) : List SaasInvoice :=
  (result.1.bind (result.2.invoices[·]?)).toList

/-- The catch-up loop: the invoices that are created, and the rows, unless something is raised. -/
def catchUpWith (raises : BillingStage → Option BillingFailure) (now : Time) (s : ℕ) :
    ℕ → ℕ → List SaasInvoice → Db → List SaasInvoice × Except BillingFailure Db
  | _, 0, created, db => (created, .ok db)
  | round, periods + 1, created, db =>
    match (db.subscriptions[s]?).bind (·.nextInvoiceAt) with
    | none => (created, .ok db)
    | some nia =>
      if now < nia then (created, .ok db)
      else
        match raises (.create round) with
        | some failure => (created, .error failure)
        | none =>
          let result := createInvoiceForSubscription now s 14 (some nia) db
          let created := created ++ created? result
          match raises (.advance round) with
          | some failure => (created, .error failure)
          | none =>
            catchUpWith raises now s (round + 1) periods created
              { result.2 with
                subscriptions :=
                  result.2.subscriptions.modify s (advanceNextInvoiceAt nia) }

/-- The part of a run for one candidate. -/
def billWith (faults : BillingFaults) (now : Time) (acc : List SaasInvoice × BillingSession)
    (s : ℕ) : List SaasInvoice × BillingSession :=
  match faults.raises s .lock with
  | some _ => (acc.1, acc.2.rollback)
  | none =>
    match (if faults.skipLocked s then none else acc.2.working.subscriptions[s]?) with
    | none => acc
    | some sub =>
      if sub.approvalStatus = .active ∨ sub.approvalStatus = .approved then
        match catchUpWith (faults.raises s) now s 0 maxCatchupPeriods acc.1 acc.2.working with
        | (created, .error _) => (created, acc.2.rollback)
        | (created, .ok db) =>
          match faults.raises s .commit with
          | some _ => (created, acc.2.rollback)
          | none => (created, { acc.2 with working := db }.commit)
      else acc

/-- A run over some candidates. -/
def billAllWith (faults : BillingFaults) (now : Time) (candidates : List ℕ) (db : Db) :
    List SaasInvoice × BillingSession :=
  candidates.foldl (billWith faults now) ([], .clean db)

/-- `generate_due_invoices`: the list it returns, and the database after it. -/
def generateDueWith (faults : BillingFaults) (now : Time) (db : Db) : List SaasInvoice × Db :=
  let result := billAllWith faults now (db.subscriptions.select (isDue now)) db
  (result.1, result.2.committed)

/-! ## Without faults -/

theorem catchUpWith_ok (now : Time) (s round periods : ℕ) (created : List SaasInvoice)
    (ids : List ℕ) (db : Db) :
    (catchUpWith (fun _ => none) now s round periods created db).2
      = .ok (catchUp now s periods ids db).2 := by
  induction periods generalizing round created ids db with
  | zero => rfl
  | succ periods ih =>
    simp only [catchUpWith, catchUp]
    cases (db.subscriptions[s]?).bind (·.nextInvoiceAt) with
    | none => rfl
    | some nia =>
      dsimp only
      split
      · rfl
      · exact ih _ _ _ _

/-- A run in which nothing goes wrong commits the rows of `generateDueInvoices`. -/
theorem generateDueWith_ok (now : Time) (db : Db) :
    (generateDueWith {} now db).2 = (generateDueInvoices now db).2 := by
  have hfold : ∀ (candidates : List ℕ) (created : List SaasInvoice) (ids : List ℕ) (db : Db),
      (candidates.foldl (billWith {} now) (created, .clean db)).2
        = .clean (candidates.foldl (billCandidate now) (ids, db)).2 := by
    intro candidates
    induction candidates with
    | nil => exact fun _ _ _ => rfl
    | cons s candidates ih =>
      intro created ids db
      rw [List.foldl_cons, List.foldl_cons]
      simp only [billWith, billCandidate, BillingSession.working_clean, Bool.false_eq_true,
        if_false]
      cases db.subscriptions[s]? with
      | none => exact ih _ _ _
      | some sub =>
        dsimp only
        split
        · have hok := catchUpWith_ok now s 0 maxCatchupPeriods created ids db
          generalize catchUpWith (fun _ => none) now s 0 maxCatchupPeriods created db = result
            at hok ⊢
          obtain ⟨created', loop⟩ := result
          obtain rfl : loop = _ := hok
          exact ih _ _ _
        · exact ih _ _ _
  rw [generateDueWith, billAllWith, generateDueInvoices_eq]
  dsimp only
  rw [hfold _ _ [] db]
  rfl

/-! ## Where a subscription stops -/

/-- The invoices' rounds that are through before the catch-up loop stops, of `n` rounds. -/
def stopsAt (raises : BillingStage → Option BillingFailure) : ℕ → ℕ → Option ℕ
  | _, 0 => none
  | round, n + 1 =>
    if (raises (.create round)).isSome then some 0
    else if (raises (.advance round)).isSome then some 1
    else (stopsAt raises (round + 1) n).map (· + 1)

def dueOf (sub : Subscription) (now : Time) : List Time :=
  (dueStarts sub now maxCatchupPeriods sub.nextInvoiceAt).1

/-- The rounds that are through before the subscription fails, if it does: at its lock, in a round
or at its commit. -/
def failsAfter (faults : BillingFaults) (now : Time) (s : ℕ) (sub : Subscription) : Option ℕ :=
  if (faults.raises s .lock).isSome then some 0
  else if faults.skipLocked s then none
  else if sub.approvalStatus = .active ∨ sub.approvalStatus = .approved then
    (stopsAt (faults.raises s) 0 (dueOf sub now).length).or
      (if (faults.raises s .commit).isSome then some (dueOf sub now).length else none)
  else none

def windowsAfter (sub : Subscription) (windows : List InvoiceWindow) (starts : List Time) :
    List InvoiceWindow :=
  (starts.map (periodWindow sub)).foldl (appendNew sameKey) windows

section Loop
variable {db : Db} {s : ℕ} {sub : Subscription} {now nia : Time} {next : Option Time}
  {windows : List InvoiceWindow}

/-- A round adds the invoice that it reports. -/
theorem createInvoice_adds (h : BillingAt db s sub (some nia) windows) :
    (createInvoiceForSubscription now s 14 (some nia) db).2.invoices
        = db.invoices ++ created? (createInvoiceForSubscription now s 14 (some nia) db)
      ∧ windows ++ (created? (createInvoiceForSubscription now s 14 (some nia) db)).map (·.window)
        = windowsAfter sub windows [nia] := by
  have hbilled : BillingAt (createInvoiceForSubscription now s 14 (some nia) db).2 s sub (some nia)
      (appendNew sameKey windows (periodWindow sub nia)) := createInvoice_billing h
  have hafter := hbilled.windows
  obtain ⟨sub', hrow, -, -⟩ := h.row
  rw [createInvoiceForSubscription_eq hrow] at hafter ⊢
  split at hafter
  · rename_i hinvoiced
    have hsame : windows = appendNew sameKey windows (periodWindow sub nia) :=
      h.windows.symm.trans hafter
    rw [if_pos hinvoiced]
    simp only [created?, Option.bind_none, Option.toList_none, List.append_nil, List.map_nil]
    exact ⟨trivial, hsame⟩
  rename_i hnew
  rw [if_neg hnew]
  have hown : (newInvoice db now s sub' (((some nia).or sub'.nextInvoiceAt).getD now)
      14).subscriptionId = some s := rfl
  simp only [windowsOf, Table.insert, List.filter_append, List.filter_cons, hown, List.map_append,
    List.filter_nil, decide_true, if_true, List.map_cons, List.map_nil] at hafter
  simp only [created?, Table.insert, Table.nextId, Option.bind_some, List.getElem?_concat_length,
    Option.toList_some, List.map_cons, List.map_nil, true_and]
  have hold : (db.invoices.filter fun inv => inv.subscriptionId = some s).map (·.window)
      = windows := h.windows
  rw [hold] at hafter
  exact hafter

theorem round_billing (now : Time) (h : BillingAt db s sub (some nia) windows) :
    BillingAt { (createInvoiceForSubscription now s 14 (some nia) db).2 with
        subscriptions := (createInvoiceForSubscription now s 14 (some nia)
          db).2.subscriptions.modify s (advanceNextInvoiceAt nia) } s sub (nextStart sub nia)
      (appendNew sameKey windows (periodWindow sub nia)) :=
  advance_billing (createInvoice_billing h)

/-- **What the loop reports is what it has created**, also where it stops. -/
theorem catchUpWith_spec (raises : BillingStage → Option BillingFailure) (now : Time)
    (round periods : ℕ) (created : List SaasInvoice) (ids : List ℕ)
    (h : BillingAt db s sub next windows) :
    ∃ news, (catchUpWith raises now s round periods created db).1 = created ++ news
      ∧ match stopsAt raises round (dueStarts sub now periods next).1.length with
        | some m =>
          (∃ failure, (catchUpWith raises now s round periods created db).2 = .error failure)
            ∧ windows ++ news.map (·.window)
              = windowsAfter sub windows ((dueStarts sub now periods next).1.take m)
        | none =>
          (catchUpWith raises now s round periods created db).2
              = .ok (catchUp now s periods ids db).2
            ∧ (catchUp now s periods ids db).2.invoices = db.invoices ++ news
            ∧ windows ++ news.map (·.window)
              = windowsAfter sub windows (dueStarts sub now periods next).1 := by
  induction periods generalizing round created ids db next windows with
  | zero => exact ⟨[], by simp [catchUpWith, catchUp, dueStarts, stopsAt, windowsAfter]⟩
  | succ periods ih =>
    obtain ⟨sub', hrow, -, hnext⟩ := h.row
    simp only [catchUpWith, catchUp, hrow, Option.bind_some, hnext]
    cases next with
    | none => exact ⟨[], by simp [dueStarts, stopsAt, windowsAfter]⟩
    | some nia =>
      dsimp only [dueStarts]
      by_cases hlater : now < nia
      · simp only [if_pos hlater]
        exact ⟨[], by simp [stopsAt, windowsAfter]⟩
      simp only [if_neg hlater, List.length_cons, stopsAt]
      cases hcreate : raises (.create round) with
      | some failure => exact ⟨[], by simp [windowsAfter]⟩
      | none =>
        obtain ⟨hadds, hwindows⟩ :
            (createInvoiceForSubscription now s 14 (some nia) db).2.invoices
                = db.invoices
                  ++ created? (createInvoiceForSubscription now s 14 (some nia) db)
              ∧ windows ++ (created?
                  (createInvoiceForSubscription now s 14 (some nia) db)).map (·.window)
                = windowsAfter sub windows [nia] := createInvoice_adds h
        cases hadvance : raises (.advance round) with
        | some failure =>
          refine ⟨_, rfl, ?_⟩
          simpa using hwindows
        | none =>
          obtain ⟨news, hlist, hspec⟩ := ih (round + 1)
            (created ++ created? (createInvoiceForSubscription now s 14 (some nia) db))
            (ids ++ (createInvoiceForSubscription now s 14 (some nia) db).1.toList)
            (round_billing now h)
          refine ⟨_ ++ news, by rw [← List.append_assoc]; exact hlist, ?_⟩
          have hfirst : windows ++ (created?
              (createInvoiceForSubscription now s 14 (some nia) db)).map (·.window)
                = appendNew sameKey windows (periodWindow sub nia) := hwindows
          rw [List.map_append, ← List.append_assoc, hfirst]
          cases hstops : stopsAt raises (round + 1)
              (dueStarts sub now periods (nextStart sub nia)).1.length with
          | some m =>
            rw [hstops] at hspec
            exact hspec
          | none =>
            rw [hstops] at hspec
            refine ⟨hspec.1, ?_, hspec.2.2⟩
            rw [← List.append_assoc, ← hadds]
            exact hspec.2.1

end Loop

/-! ## What a run reports and commits -/

/-- The subscription fails in a run, at its lock, in a round or at its commit. -/
def Fails (faults : BillingFaults) (now : Time) (db : Db) (s : ℕ) : Prop :=
  ∃ sub, db.subscriptions[s]? = some sub ∧ (failsAfter faults now s sub).isSome = true

/-- **A run reports what it has committed**, and a subscription that fails is as one that is not
there to the others. -/
structure CommitsReported (faults : BillingFaults) (now : Time) (db : Db) : Prop where
  reported : (generateDueWith faults now db).2.invoices
    = db.invoices ++ (generateDueWith faults now db).1
  alone : ∀ s, Fails faults now db s → (generateDueWith faults now db).2
    = (billAllWith faults now ((db.subscriptions.select (isDue now)).filter (· ≠ s))
        db).2.committed

/-- A subscription that fails has created no invoice before: the periods it passed were invoiced
already. -/
def CreatesNoneFailing (faults : BillingFaults) (now : Time) (db : Db) (s : ℕ) : Prop :=
  ∀ sub, db.subscriptions[s]? = some sub → ∀ m, failsAfter faults now s sub = some m →
    ∀ start ∈ (dueOf sub now).take m,
      (windowsOf db s).any (fun old => sameKey old (periodWindow sub start)) = true

section Run
variable {db : Db} {s : ℕ} {sub : Subscription} {now : Time} {windows : List InvoiceWindow}
  {faults : BillingFaults}

/-- **A subscription's part**: where it fails, its report is lost; otherwise it is committed. -/
theorem billWith_spec (faults : BillingFaults) (now : Time) (created : List SaasInvoice)
    (h : BillingAt db s sub sub.nextInvoiceAt windows) :
    ∃ news db', billWith faults now (created, .clean db) s = (created ++ news, .clean db')
      ∧ (∀ t sub' next windows', t ≠ s → BillingAt db t sub' next windows' →
          BillingAt db' t sub' next windows')
      ∧ match failsAfter faults now s sub with
        | some m => db' = db
            ∧ windows ++ news.map (·.window) = windowsAfter sub windows ((dueOf sub now).take m)
        | none => db'.invoices = db.invoices ++ news := by
  obtain ⟨row, hrow, hsame, -⟩ := h.row
  simp only [billWith, failsAfter, BillingSession.working_clean, BillingSession.rollback_clean]
  cases hlock : faults.raises s .lock with
  | some failure =>
    refine ⟨[], db, by rw [List.append_nil], fun _ _ _ _ _ hother => hother, ?_⟩
    simp [windowsAfter]
  | none =>
    simp only [Option.isSome_none, Bool.false_eq_true, if_false]
    by_cases hskip : faults.skipLocked s = true
    · simp only [if_pos hskip]
      exact ⟨[], db, by simp, fun _ _ _ _ _ hother => hother, by simp⟩
    simp only [if_neg hskip, hrow, hsame.approval]
    by_cases happroved : sub.approvalStatus = .active ∨ sub.approvalStatus = .approved
    · simp only [if_pos happroved]
      obtain ⟨news, hlist, hspec⟩ :=
        catchUpWith_spec (faults.raises s) now 0 maxCatchupPeriods created [] h
      generalize catchUpWith (faults.raises s) now s 0 maxCatchupPeriods created db = result
        at hlist hspec ⊢
      obtain ⟨list, loop⟩ := result
      obtain rfl : list = created ++ news := hlist
      rw [← dueOf] at hspec
      cases hstops : stopsAt (faults.raises s) 0 (dueOf sub now).length with
      | some m =>
        simp only [hstops] at hspec
        obtain ⟨⟨failure, rfl⟩, hwindows⟩ := hspec
        exact ⟨news, db, rfl, fun _ _ _ _ _ hother => hother, rfl, hwindows⟩
      | none =>
        simp only [hstops] at hspec
        obtain ⟨rfl, hinvoices, hwindows⟩ := hspec
        cases hcommit : faults.raises s .commit with
        | some failure =>
          refine ⟨news, db, rfl, fun _ _ _ _ _ hother => hother, rfl, ?_⟩
          rw [hwindows, List.take_length]
        | none =>
          refine ⟨news, _, rfl, ?_, hinvoices⟩
          intro t sub' next windows' hne hother
          exact catchUp_other (Ne.symm hne) _ _ hother
    simp only [if_neg happroved]
    exact ⟨[], db, by simp, fun _ _ _ _ _ hother => hother, by simp⟩

theorem news_eq_nil_iff {news : List SaasInvoice} {m : ℕ}
    (h : windows ++ news.map (·.window) = windowsAfter sub windows ((dueOf sub now).take m)) :
    news = [] ↔ ∀ start ∈ (dueOf sub now).take m,
      windows.any (fun old => sameKey old (periodWindow sub start)) = true := by
  have hself : news = [] ↔ windowsAfter sub windows ((dueOf sub now).take m) = windows := by
    rw [← h, List.append_right_eq_self, List.map_eq_nil_iff]
  rw [hself, windowsAfter, foldl_appendNew_eq_self]
  exact List.forall_mem_map

/-- What the candidates of a run report, and what is committed of it. -/
theorem billAllWith_spec (faults : BillingFaults) (now : Time) {first : Db} (candidates : List ℕ)
    (hnodup : candidates.Nodup) (created : List SaasInvoice)
    (h : ∀ s ∈ candidates, ∃ sub, first.subscriptions[s]? = some sub
      ∧ BillingAt db s sub sub.nextInvoiceAt (windowsOf first s)) :
    ∃ news kept db', candidates.foldl (billWith faults now) (created, .clean db)
        = (created ++ news, .clean db')
      ∧ (∀ t sub' next windows', t ∉ candidates → BillingAt db t sub' next windows' →
          BillingAt db' t sub' next windows')
      ∧ db'.invoices = db.invoices ++ kept ∧ kept.Sublist news
      ∧ (kept = news ↔ ∀ s ∈ candidates, CreatesNoneFailing faults now first s) := by
  induction candidates generalizing created db with
  | nil => exact ⟨[], [], db, by simp, fun _ _ _ _ _ hother => hother, by simp⟩
  | cons s candidates ih =>
    obtain ⟨hnew, hnodup⟩ := List.nodup_cons.1 hnodup
    obtain ⟨sub, hrow, hat⟩ := h s List.mem_cons_self
    obtain ⟨news, db', hbill, hothers, hspec⟩ := billWith_spec faults now created hat
    have hlater : ∀ t ∈ candidates, ∃ sub, first.subscriptions[t]? = some sub
        ∧ BillingAt db' t sub sub.nextInvoiceAt (windowsOf first t) := by
      intro t ht
      obtain ⟨sub', hrow', hat'⟩ := h t (List.mem_cons_of_mem s ht)
      exact ⟨sub', hrow', hothers t _ _ _ (fun heq => hnew (heq ▸ ht)) hat'⟩
    obtain ⟨rest, kept, db'', hrest, hkeeps, hinvoices, hsub, hiff⟩ :=
      ih hnodup (created ++ news) hlater
    have hkeep : ∀ t sub' next windows', t ∉ s :: candidates →
        BillingAt db t sub' next windows' → BillingAt db'' t sub' next windows' := by
      intro t sub' next windows' ht hother
      rw [List.mem_cons, not_or] at ht
      exact hkeeps t _ _ _ ht.2 (hothers t _ _ _ ht.1 hother)
    rw [List.foldl_cons, hbill, hrest, List.append_assoc, List.forall_mem_cons]
    cases hfails : failsAfter faults now s sub with
    | none =>
      rw [hfails] at hspec
      have hnone : CreatesNoneFailing faults now first s := by
        intro sub' hrow' m hm
        obtain rfl := Option.some.inj (hrow.symm.trans hrow')
        exact absurd (hfails.symm.trans hm) (by simp)
      refine ⟨news ++ rest, news ++ kept, db'', rfl, hkeep, ?_, hsub.append_left news, ?_⟩
      · rw [hinvoices, hspec, List.append_assoc]
      rw [List.append_right_inj, hiff]
      exact (and_iff_right hnone).symm
    | some m =>
      rw [hfails] at hspec
      obtain ⟨rfl, hwindows⟩ := hspec
      have hlost : news = [] ↔ CreatesNoneFailing faults now first s := by
        rw [news_eq_nil_iff hwindows]
        constructor
        · intro h sub' hrow' m' hm'
          obtain rfl := Option.some.inj (hrow.symm.trans hrow')
          obtain rfl := Option.some.inj (hfails.symm.trans hm')
          exact h
        · exact fun h => h sub hrow m hfails
      refine ⟨news ++ rest, kept, db'', rfl, hkeep, hinvoices,
        hsub.trans (List.sublist_append_right news rest), ?_⟩
      rw [← hlost, ← hiff]
      constructor
      · intro heq
        have hlength := hsub.length_le
        rw [heq, List.length_append] at hlength
        have hnil : news = [] := List.eq_nil_of_length_eq_zero (by omega)
        exact ⟨hnil, by rw [heq, hnil, List.nil_append]⟩
      rintro ⟨hnil, heq⟩
      rw [hnil, List.nil_append, heq]

theorem catchUpWith_created (raises : BillingStage → Option BillingFailure) (now : Time) (s : ℕ)
    (round periods : ℕ) (created created' : List SaasInvoice) (db : Db) :
    (catchUpWith raises now s round periods created db).2
      = (catchUpWith raises now s round periods created' db).2 := by
  induction periods generalizing round created created' db with
  | zero => rfl
  | succ periods ih =>
    simp only [catchUpWith]
    split
    · rfl
    split
    · rfl
    split
    · rfl
    split
    · rfl
    · exact ih _ _ _ _

/-- The list has no part in what is done. -/
theorem billWith_created (created created' : List SaasInvoice) (session : BillingSession) :
    (billWith faults now (created, session) s).2
      = (billWith faults now (created', session) s).2 := by
  have hloop := catchUpWith_created (faults.raises s) now s 0 maxCatchupPeriods created created'
    session.working
  simp only [billWith]
  split
  · rfl
  split
  · rfl
  split
  · generalize catchUpWith (faults.raises s) now s 0 maxCatchupPeriods created session.working
      = result at hloop ⊢
    generalize catchUpWith (faults.raises s) now s 0 maxCatchupPeriods created' session.working
      = result' at hloop ⊢
    obtain ⟨list, loop⟩ := result
    obtain ⟨list', loop'⟩ := result'
    obtain rfl : loop = loop' := hloop
    cases loop with
    | error failure => rfl
    | ok db =>
      dsimp only
      split <;> rfl
  · rfl

theorem billAllWith_created (candidates : List ℕ) (created created' : List SaasInvoice)
    (session : BillingSession) :
    (candidates.foldl (billWith faults now) (created, session)).2
      = (candidates.foldl (billWith faults now) (created', session)).2 := by
  induction candidates generalizing created created' session with
  | nil => rfl
  | cons s candidates ih =>
    have hfirst : (billWith faults now (created, session) s).2 = _ :=
      billWith_created created created' session
    have hpair : billWith faults now (created, session) s
        = ((billWith faults now (created, session) s).1,
          (billWith faults now (created', session) s).2) := Prod.ext rfl hfirst
    rw [List.foldl_cons, List.foldl_cons, hpair]
    exact ih _ _ _

theorem billingAt_candidate (h : s ∈ db.subscriptions.select (isDue now)) :
    ∃ sub, db.subscriptions[s]? = some sub
      ∧ BillingAt db s sub sub.nextInvoiceAt (windowsOf db s) := by
  obtain ⟨sub, hrow, -⟩ := Table.mem_select.1 h
  exact ⟨sub, hrow, billingAt_row hrow⟩

/-- **A subscription that fails leaves no trace** in the database. -/
theorem billAllWith_alone {candidates : List ℕ} (hnodup : candidates.Nodup)
    (h : ∀ t ∈ candidates, t ∈ db.subscriptions.select (isDue now))
    (hfails : Fails faults now db s) :
    (billAllWith faults now candidates db).2
      = (billAllWith faults now (candidates.filter (· ≠ s)) db).2 := by
  by_cases hmem : s ∈ candidates
  · obtain ⟨before, after, rfl⟩ := List.append_of_mem hmem
    rw [List.nodup_middle, List.nodup_cons, List.mem_append, not_or] at hnodup
    obtain ⟨⟨hbefore, hafter⟩, hrest⟩ := hnodup
    have hfilter : (before ++ s :: after).filter (· ≠ s) = before ++ after := by
      rw [List.filter_append, List.filter_cons_of_neg (by simp), List.filter_eq_self.2,
        List.filter_eq_self.2]
      · exact fun t ht => decide_eq_true fun heq => hafter (heq ▸ ht)
      · exact fun t ht => decide_eq_true fun heq => hbefore (heq ▸ ht)
    obtain ⟨news, kept, db', hfold, hothers, -⟩ := billAllWith_spec faults now before
      (List.nodup_append.1 hrest).1 [] fun t ht =>
        billingAt_candidate (h t (List.mem_append_left _ ht))
    obtain ⟨sub, hrow, hsome⟩ := hfails
    obtain ⟨m, hm⟩ := Option.isSome_iff_exists.1 hsome
    obtain ⟨lost, db'', hbill, -, hspec⟩ := billWith_spec faults now ([] ++ news)
      (hothers s _ _ _ hbefore (billingAt_row hrow))
    rw [hm] at hspec
    obtain ⟨rfl, -⟩ := hspec
    rw [hfilter, billAllWith, billAllWith, List.foldl_append, List.foldl_append, List.foldl_cons,
      hfold, hbill]
    exact billAllWith_created _ _ _ _
  have hall : ∀ t ∈ candidates, decide (t ≠ s) = true :=
    fun t ht => decide_eq_true fun heq => hmem (heq ▸ ht)
  rw [List.filter_eq_self.2 hall]

end Run

/-- **A run reports what it has committed exactly when no subscription fails after it has created
an invoice.** -/
theorem commits_reported_iff (faults : BillingFaults) (now : Time) (db : Db) :
    CommitsReported faults now db
      ↔ ∀ s ∈ db.subscriptions.select (isDue now), CreatesNoneFailing faults now db s := by
  have hnodup := Table.nodup_select db.subscriptions (isDue now)
  obtain ⟨news, kept, db', hfold, -, hinvoices, -, hiff⟩ := billAllWith_spec faults now
    (db.subscriptions.select (isDue now)) hnodup [] fun s hs => billingAt_candidate hs
  have hresult : generateDueWith faults now db = (news, db') := by
    rw [generateDueWith, billAllWith, hfold]
    rfl
  rw [← hiff]
  constructor
  · intro h
    have hreported := h.reported
    rw [hresult] at hreported
    exact List.append_cancel_left (hinvoices.symm.trans hreported)
  intro heq
  refine ⟨?_, ?_⟩
  · rw [hresult, hinvoices, heq]
  intro s hfails
  rw [generateDueWith]
  dsimp only
  rw [billAllWith_alone hnodup (fun t ht => ht) hfails]

namespace Example

/-- Another replica has invoiced the second period that is due. -/
def replicaFirst : BillingFaults :=
  { raises := fun s stage =>
      if s = 0 ∧ stage = .create 1 then some .integrityError else none }

end Example

/-- The first of two periods is reported, and rolled back with the second. -/
theorem not_commits_reported :
    ¬ ∀ (cfg : Settings) (db : Db), Reach cfg db → ∀ (faults : BillingFaults) (now : Time),
      CommitsReported faults now db := by
  intro h
  have hreach : Reach Example.settings (run (step Example.settings) {} Example.opened) := ⟨_, rfl⟩
  have hreported := (h Example.settings _ hreach Example.replicaFirst (Example.day 70)).reported
  have hlost : (generateDueWith Example.replicaFirst (Example.day 70)
        (run (step Example.settings) {} Example.opened)).2.invoices.length
      ≠ ((run (step Example.settings) {} Example.opened).invoices
        ++ (generateDueWith Example.replicaFirst (Example.day 70)
          (run (step Example.settings) {} Example.opened)).1).length := by
    decide
  exact hlost (congrArg List.length hreported)

end MultiAcademy.Control
