import MultiAcademy.Control.Schema
import MultiAcademy.Lib.Run

/-!
# The delivery of the outbox

`services/outbox_worker.py`: a pass posts every row that is due to the school server and
stamps it by the answer.  A failure is retried after a delay that doubles, up to an hour; after
eight failures, or one answer that no retry can change, the row is dead-lettered.  The second
case sets the attempts to eight as well, so they count the failures only of a row without it;
and in development without a webhook a row is published as it is enqueued.
-/

namespace MultiAcademy.Control

open MultiAcademy.Lib

/-! ## One delivery -/

/-- What comes back from a post to the webhook. -/
inductive Answer
  | transport (error : String)
  | http (status : ℕ) (text : String)

/-- A post, with the clock readings that its log entry and its row are stamped with. -/
structure Delivery where
  answer : Answer
  loggedAt : Time
  stampedAt : Time

def maxAttempts : ℕ := 8
def backoffBaseSeconds : ℕ := 30
def backoffCapSeconds : ℕ := 3600

def backoffSeconds (attempts : ℕ) : ℕ :=
  min backoffCapSeconds (backoffBaseSeconds * 2 ^ (attempts - 1))

/-- `_append_delivery_log`: the last twenty entries are kept. -/
def appendDeliveryLog (now : Time) (ok : Bool) (channel message : String) (event : OutboxEvent) :
    OutboxEvent :=
  let log := event.deliveryLog ++ [{ loggedAt := now, ok, channel, message }]
  { event with deliveryLog := log.drop (log.length - 20) }

def markFailed (d : Delivery) (message : String) (event : OutboxEvent) : OutboxEvent :=
  let event := { event with attempts := event.attempts + 1, lastError := truncate 1000 message }
  let event := appendDeliveryLog d.loggedAt false "webhook" message event
  if maxAttempts ≤ event.attempts then
    { event with deliveryStatus := "dead_letter", nextAttemptAt := none }
  else
    { event with
      deliveryStatus := "pending"
      nextAttemptAt := some (d.stampedAt + Time.seconds (backoffSeconds event.attempts)) }

def markDelivered (d : Delivery) (message : String) (event : OutboxEvent) : OutboxEvent :=
  appendDeliveryLog d.loggedAt true "webhook" message
    { event with
      published := true
      publishedAt := some d.stampedAt
      deliveryStatus := "delivered"
      nextAttemptAt := none
      lastError := "" }

/-- The statuses that retrying will not change. -/
def rejectedStatuses : List ℕ := [400, 401, 403, 422]

def rejectedMessage (status : ℕ) (text : String) : String :=
  let text := truncate 200 text
  s!"HTTP {status}: {text}"

/-- What a pass makes of the answer to one row. -/
def deliver (d : Delivery) (event : OutboxEvent) : OutboxEvent :=
  match d.answer with
  | .transport error => markFailed d s!"transport: {error}" event
  | .http status text =>
    if status < 300 then markDelivered d s!"HTTP {status}" event
    else if status ∈ rejectedStatuses then
      { markFailed d (rejectedMessage status text) event with
        attempts := maxAttempts
        deliveryStatus := "dead_letter"
        nextAttemptAt := none }
    else markFailed d (rejectedMessage status text) event

/-! ## A pass -/

/-- Neither published nor dead-lettered. -/
def undelivered (event : OutboxEvent) : Bool :=
  !event.published && event.deliveryStatus ≠ "dead_letter"

/-- The rows that `process_outbox_batch` selects. -/
def due (now : Time) (event : OutboxEvent) : Bool :=
  undelivered event && event.nextAttemptAt.all fun at' => at' ≤ now

/-- What `process_outbox_batch` returns, and has written and posted. -/
structure Batch where
  processed : ℕ := 0
  published : ℕ := 0
  failed : ℕ := 0
  pending : ℕ := 0
  webhookConfigured : Bool
  sent : List (ℕ × Delivery) := []
  db : Db

def Answer.succeeded : Answer → Bool
  | .transport _ => false
  | .http status _ => status < 300

def deliverRow (answers : ℕ → Delivery) (batch : Batch) (id : ℕ) : Batch :=
  let d := answers id
  { batch with
    processed := batch.processed + 1
    published := if d.answer.succeeded then batch.published + 1 else batch.published
    failed := if d.answer.succeeded then batch.failed else batch.failed + 1
    sent := batch.sent ++ [(id, d)]
    db := { batch.db with outbox := batch.db.outbox.modify id (deliver d) } }

/-- The ids of the rows that a pass takes. -/
def batchRows (now : Time) (limit : ℕ) (outbox : Table OutboxEvent) : List ℕ :=
  (outbox.select (due now)).take limit

def processOutboxBatch (cfg : Settings) (now : Time) (limit : ℕ) (answers : ℕ → Delivery)
    (db : Db) : Batch :=
  let rows := batchRows now limit db.outbox
  let webhookConfigured : Bool := strip cfg.nestConfigWebhookUrl ≠ ""
  if rows = [] then { webhookConfigured, db }
  else if webhookConfigured = false then { webhookConfigured, pending := rows.length, db }
  else rows.foldl (deliverRow answers) { webhookConfigured, db }

/-! ## Runs -/

inductive OutboxOp
  | enqueue (cfg : Settings) (now : Time) (eventType aggregateType aggregateId : String)
      (payload : List (String × Json))
  | pass (cfg : Settings) (now : Time) (limit : ℕ) (answers : ℕ → Delivery)

structure OutboxRun where
  db : Db := {}
  /-- Every delivery of a row, in order. -/
  sent : List (ℕ × Delivery) := []
  /-- The rows that were enqueued in development without a webhook. -/
  stubbed : List ℕ := []

def OutboxRun.deliveries (s : OutboxRun) (i : ℕ) : List Delivery :=
  s.sent.filterMap fun (j, d) => if j = i then some d else none

/-- One enqueue, or one round of `outbox_worker_loop`, which commits a batch that processed
some row. -/
def outboxStep (op : OutboxOp) (s : OutboxRun) : OutboxRun :=
  match op with
  | .enqueue cfg now eventType aggregateType aggregateId payload =>
    { s with
      db := enqueueOutbox cfg now eventType aggregateType aggregateId payload s.db
      stubbed :=
        if autoPublishDefault cfg then s.stubbed ++ [s.db.outbox.nextId] else s.stubbed }
  | .pass cfg now limit answers =>
    let batch := processOutboxBatch cfg now limit answers s.db
    { s with
      db := if batch.processed ≠ 0 then batch.db else s.db
      sent := s.sent ++ batch.sent }

/-- The answer is a rejection that no retry changes. -/
def Answer.permanent : Answer → Bool
  | .transport _ => false
  | .http status _ => status ∈ rejectedStatuses

def failures (ds : List Delivery) : ℕ := ds.countP fun d => !d.answer.succeeded

/-- A permanent rejection is among the deliveries. -/
def rejected (ds : List Delivery) : Bool := ds.any fun d => d.answer.permanent

/-- The columns of a row with these deliveries: it is published iff one succeeded or it was
stamped when it was enqueued, the attempts are the failures unless a permanent rejection has
set them to eight, and it is dead-lettered after that or eight failures.  Until then it waits
after each failure for the delay of its attempts. -/
structure Accounted (stubbed : Prop) (ds : List Delivery) (row : OutboxEvent) : Prop where
  published : row.published = true ↔ stubbed ∨ ∃ d ∈ ds, d.answer.succeeded = true
  attempts : row.attempts = if rejected ds then maxAttempts else failures ds
  bounded : row.attempts ≤ maxAttempts
  deadLetter : row.deliveryStatus = "dead_letter" ↔
    rejected ds = true ∨ failures ds = maxAttempts
  waits : undelivered row = true → ∀ d ∈ ds.getLast?,
    row.nextAttemptAt = some (d.stampedAt + Time.seconds (backoffSeconds row.attempts))

/-- What a row carries stays the same. -/
def SameMessage (row row' : OutboxEvent) : Prop :=
  row'.eventType = row.eventType ∧ row'.aggregateType = row.aggregateType
    ∧ row'.aggregateId = row.aggregateId ∧ row'.payload = row.payload

/-! ## The delay -/

theorem backoffSeconds_mono : Monotone backoffSeconds := by
  intro n m hnm
  have hpow : 2 ^ (n - 1) ≤ 2 ^ (m - 1) := Nat.pow_le_pow_right (by omega) (by omega)
  exact min_le_min le_rfl (Nat.mul_le_mul_left _ hpow)

theorem backoffSeconds_le (attempts : ℕ) : backoffSeconds attempts ≤ 3600 :=
  Nat.min_le_left _ _

/-! ## One row, one delivery -/

@[simp] theorem failures_append (ds : List Delivery) (d : Delivery) :
    failures (ds ++ [d]) = failures ds + if d.answer.succeeded then 0 else 1 := by
  simp only [failures]
  cases h : d.answer.succeeded <;> simp [h]

@[simp] theorem rejected_append (ds : List Delivery) (d : Delivery) :
    rejected (ds ++ [d]) = (rejected ds || d.answer.permanent) := by
  simp [rejected]

section MarkFailed
variable (d : Delivery) (message : String) (row : OutboxEvent)

@[simp] theorem markFailed_attempts : (markFailed d message row).attempts = row.attempts + 1 := by
  simp only [markFailed]
  split <;> rfl

@[simp] theorem markFailed_published : (markFailed d message row).published = row.published := by
  simp only [markFailed]
  split <;> rfl

@[simp] theorem markFailed_deliveryStatus : (markFailed d message row).deliveryStatus
    = if maxAttempts ≤ row.attempts + 1 then "dead_letter" else "pending" := by
  simp only [markFailed]
  split
  · rename_i h
    exact (if_pos h).symm
  rename_i h
  exact (if_neg h).symm

theorem markFailed_nextAttemptAt (h : (markFailed d message row).deliveryStatus ≠ "dead_letter") :
    (markFailed d message row).nextAttemptAt
      = some (d.stampedAt + Time.seconds (backoffSeconds (row.attempts + 1))) := by
  rw [markFailed_deliveryStatus] at h
  have hlt : ¬ maxAttempts ≤ row.attempts + 1 := fun hle => h (if_pos hle)
  simp only [markFailed]
  exact congrArg OutboxEvent.nextAttemptAt (if_neg hlt)

theorem sameMessage_markFailed : SameMessage row (markFailed d message row) := by
  simp only [markFailed]
  split <;> exact ⟨rfl, rfl, rfl, rfl⟩

end MarkFailed

theorem sameMessage_deliver (d : Delivery) (row : OutboxEvent) :
    SameMessage row (deliver d row) := by
  simp only [deliver]
  split
  · exact sameMessage_markFailed _ _ _
  split
  · exact ⟨rfl, rfl, rfl, rfl⟩
  split
  · exact sameMessage_markFailed d (rejectedMessage _ _) row
  · exact sameMessage_markFailed _ _ _

variable {stubbed : Prop} {ds : List Delivery} {row : OutboxEvent} {d : Delivery}

/-- A row that is neither published nor dead-lettered has met only failures so far, fewer than
eight. -/
theorem Accounted.of_undelivered (h : Accounted stubbed ds row) (hrow : undelivered row = true) :
    (¬ stubbed ∧ ∀ d ∈ ds, d.answer.succeeded = false) ∧ rejected ds = false
      ∧ row.attempts = failures ds ∧ failures ds < maxAttempts := by
  simp only [undelivered, Bool.and_eq_true, Bool.not_eq_true', decide_eq_true_eq] at hrow
  obtain ⟨hpublished, hdead⟩ := hrow
  have hnot : ¬ (stubbed ∨ ∃ d ∈ ds, d.answer.succeeded = true) := by
    rw [← h.published, hpublished]
    simp
  have hopen : ¬ (rejected ds = true ∨ failures ds = maxAttempts) := by
    rw [← h.deadLetter]
    exact hdead
  obtain ⟨hrejected, hfew⟩ := not_or.1 hopen
  have hattempts : row.attempts = failures ds := by
    rw [h.attempts, if_neg hrejected]
  refine ⟨⟨fun hs => hnot (Or.inl hs), fun d hd => ?_⟩, by simpa using hrejected, hattempts, ?_⟩
  · by_contra hs
    exact hnot (Or.inr ⟨d, hd, by simpa using hs⟩)
  have hle := h.bounded
  omega

/-- A delivery that fails, whether or not it may be retried. -/
theorem Accounted.failed {row' : OutboxEvent} (h : Accounted stubbed ds row)
    (hrow : undelivered row = true) (hfails : d.answer.succeeded = false)
    (hpublished : row'.published = row.published)
    (hattempts : row'.attempts = if d.answer.permanent then maxAttempts else row.attempts + 1)
    (hdead : row'.deliveryStatus = "dead_letter"
      ↔ d.answer.permanent = true ∨ maxAttempts ≤ row.attempts + 1)
    (hwaits : row'.deliveryStatus ≠ "dead_letter" →
      row'.nextAttemptAt = some (d.stampedAt + Time.seconds (backoffSeconds row'.attempts))) :
    Accounted stubbed (ds ++ [d]) row' := by
  obtain ⟨-, hrejected, hcount, hfew⟩ := h.of_undelivered hrow
  constructor
  · rw [hpublished, h.published]
    simp [or_and_right, exists_or, hfails]
  · rw [hattempts, hcount]
    simp [hrejected, hfails]
  · rw [hattempts, hcount]
    split <;> omega
  · rw [hdead, hcount]
    simp only [rejected_append, hrejected, Bool.false_or, failures_append, hfails]
    refine or_congr_right ?_
    simp only [Bool.false_eq_true, if_false]
    omega
  intro hopen d' hd'
  simp only [undelivered, Bool.and_eq_true, decide_eq_true_eq] at hopen
  have hlast : d = d' := by simpa using hd'
  rw [← hlast]
  exact hwaits hopen.2

/-- A delivery that succeeds. -/
theorem Accounted.delivered (h : Accounted stubbed ds row) (hrow : undelivered row = true)
    (hsucceeds : d.answer.succeeded = true) (hretry : d.answer.permanent = false)
    (message : String) : Accounted stubbed (ds ++ [d]) (markDelivered d message row) := by
  obtain ⟨-, hrejected, hcount, hfew⟩ := h.of_undelivered hrow
  constructor
  · exact iff_of_true rfl (Or.inr ⟨d, by simp, hsucceeds⟩)
  · show row.attempts = _
    simp [hcount, hrejected, hretry, hsucceeds]
  · exact h.bounded
  · refine iff_of_false (show "delivered" ≠ "dead_letter" by decide) ?_
    simp only [rejected_append, hrejected, hretry, failures_append, hsucceeds, if_true]
    simp only [Bool.or_self, Bool.false_eq_true, false_or]
    omega
  intro hopen
  cases hopen

/-- **One delivery** of a row that is neither published nor dead-lettered. -/
theorem Accounted.deliver (h : Accounted stubbed ds row) (hrow : undelivered row = true) :
    Accounted stubbed (ds ++ [d]) (deliver d row) := by
  simp only [Control.deliver]
  split
  · rename_i error hanswer
    have hfails : d.answer.succeeded = false := by rw [hanswer]; rfl
    have hretry : d.answer.permanent = false := by rw [hanswer]; rfl
    exact h.failed hrow hfails (by simp) (by simp [hretry]) (by simp [hretry])
      fun hopen => by rw [markFailed_nextAttemptAt d _ row hopen, markFailed_attempts]
  rename_i status text hanswer
  have hsucceeded : d.answer.succeeded = decide (status < 300) := by rw [hanswer]; rfl
  have hpermanent : d.answer.permanent = decide (status ∈ rejectedStatuses) := by
    rw [hanswer]; rfl
  split
  · rename_i hstatus
    have hretry : status ∉ rejectedStatuses := by
      intro hmem
      simp only [rejectedStatuses, List.mem_cons, List.not_mem_nil, or_false] at hmem
      omega
    exact h.delivered hrow (by simp [hsucceeded, hstatus]) (by simp [hpermanent, hretry]) _
  rename_i hstatus
  have hfails : d.answer.succeeded = false := by simp [hsucceeded, hstatus]
  split
  · rename_i hmem
    exact h.failed hrow hfails (by simp) (by simp [hpermanent, hmem])
      (iff_of_true rfl (Or.inl (by simp [hpermanent, hmem]))) fun hopen => absurd rfl hopen
  rename_i hmem
  exact h.failed hrow hfails (by simp) (by simp [hpermanent, hmem])
    (by simp [hpermanent, hmem])
    fun hopen => by rw [markFailed_nextAttemptAt d _ row hopen, markFailed_attempts]

/-- A row that was enqueued just now. -/
theorem accounted_outboxRow (cfg : Settings) (now : Time) (e a i : String)
    (payload : List (String × Json)) :
    Accounted (autoPublishDefault cfg = true) [] (outboxRow cfg now e a i payload) := by
  constructor
  · simp [outboxRow]
  · rfl
  · exact Nat.zero_le _
  · refine iff_of_false ?_ (by decide)
    simp only [outboxRow]
    split <;> decide
  intro _ d hd
  cases hd

/-! ## A pass -/

section Pass
variable {cfg : Settings} {now : Time} {limit : ℕ} {answers : ℕ → Delivery}

def postedRows (cfg : Settings) (now : Time) (limit : ℕ) (db : Db) : List ℕ :=
  if strip cfg.nestConfigWebhookUrl = "" then [] else batchRows now limit db.outbox

theorem foldl_deliverRow (answers : ℕ → Delivery) (ids : List ℕ) (hids : ids.Nodup)
    (batch : Batch) :
    (∀ i : ℕ, (ids.foldl (deliverRow answers) batch).db.outbox[i]?
        = if i ∈ ids then (batch.db.outbox[i]?).map (deliver (answers i))
          else batch.db.outbox[i]?)
      ∧ (ids.foldl (deliverRow answers) batch).sent
        = batch.sent ++ ids.map (fun i => (i, answers i))
      ∧ (ids.foldl (deliverRow answers) batch).processed = batch.processed + ids.length := by
  induction ids generalizing batch with
  | nil => simp
  | cons k ids ih =>
    obtain ⟨hk, hids⟩ := List.nodup_cons.1 hids
    obtain ⟨hrows, hsent, hprocessed⟩ := ih hids (deliverRow answers batch k)
    rw [List.foldl_cons]
    refine ⟨fun i => ?_, ?_, ?_⟩
    · rw [hrows]
      by_cases hi : k = i
      · subst hi
        simp [deliverRow, hk]
      · simp [deliverRow, hi, Ne.symm hi]
    · rw [hsent]
      simp [deliverRow]
    rw [hprocessed, List.length_cons]
    simp only [deliverRow]
    omega

theorem nodup_postedRows (db : Db) : (postedRows cfg now limit db).Nodup := by
  simp only [postedRows]
  split
  · exact List.nodup_nil
  · exact (Table.nodup_select _ _).sublist (List.take_sublist _ _)

/-- **A pass** posts each of its rows once and stamps it by the answer. -/
theorem outboxStep_pass (s : OutboxRun) :
    (∀ i : ℕ, (outboxStep (.pass cfg now limit answers) s).db.outbox[i]?
        = if i ∈ postedRows cfg now limit s.db then (s.db.outbox[i]?).map (deliver (answers i))
          else s.db.outbox[i]?)
      ∧ (outboxStep (.pass cfg now limit answers) s).sent
        = s.sent ++ (postedRows cfg now limit s.db).map (fun i => (i, answers i)) := by
  have hids : (batchRows now limit s.db.outbox).Nodup :=
    (Table.nodup_select _ _).sublist (List.take_sublist _ _)
  simp only [outboxStep, postedRows, processOutboxBatch]
  by_cases hrows : batchRows now limit s.db.outbox = []
  · simp [hrows]
  by_cases hurl : strip cfg.nestConfigWebhookUrl = ""
  · simp [hrows, hurl]
  obtain ⟨houtbox, hsent, hprocessed⟩ := foldl_deliverRow answers _ hids
    { webhookConfigured := true, db := s.db }
  have hsome : (batchRows now limit s.db.outbox).length ≠ 0 := by
    simpa using hrows
  simp only [hrows, hurl, if_false, ne_eq, not_false_eq_true, decide_true, Bool.true_eq_false,
    hsent, hprocessed, Nat.zero_add, hsome, if_true, List.nil_append]
  exact ⟨houtbox, trivial⟩

theorem undelivered_of_posted {db : Db} {i : ℕ} {row : OutboxEvent}
    (h : i ∈ postedRows cfg now limit db) (hrow : db.outbox[i]? = some row) :
    undelivered row = true := by
  simp only [postedRows] at h
  split at h
  · cases h
  obtain ⟨row', hrow', hdue⟩ := Table.mem_select.1 (List.mem_of_mem_take h)
  rw [hrow, Option.some.injEq] at hrow'
  subst hrow'
  rw [due, Bool.and_eq_true] at hdue
  exact hdue.1

theorem filterMap_posted {ids : List ℕ} (hids : ids.Nodup) (i : ℕ) :
    (ids.map fun j => (j, answers j)).filterMap (fun (j, d) => if j = i then some d else none)
      = if i ∈ ids then [answers i] else [] := by
  induction ids with
  | nil => simp
  | cons k ids ih =>
    obtain ⟨hk, hids⟩ := List.nodup_cons.1 hids
    rw [List.map_cons, List.filterMap_cons]
    by_cases hki : k = i
    · subst hki
      simp [ih hids, hk]
    · simp [ih hids, hki, Ne.symm hki]

end Pass

/-! ## One step, one row -/

inductive RowStep (s s' : OutboxRun) (i : ℕ) (row : OutboxEvent) : Prop
  | kept (hrow : s'.db.outbox[i]? = some row) (hsent : s'.deliveries i = s.deliveries i) :
      RowStep s s' i row
  | posted (d : Delivery) (hopen : undelivered row = true)
      (hrow : s'.db.outbox[i]? = some (deliver d row))
      (hsent : s'.deliveries i = s.deliveries i ++ [d]) : RowStep s s' i row

theorem deliveries_pass {cfg : Settings} {now : Time} {limit : ℕ} {answers : ℕ → Delivery}
    (s : OutboxRun) (i : ℕ) :
    (outboxStep (.pass cfg now limit answers) s).deliveries i
      = s.deliveries i ++ if i ∈ postedRows cfg now limit s.db then [answers i] else [] := by
  rw [OutboxRun.deliveries, (outboxStep_pass s).2, List.filterMap_append,
    filterMap_posted (nodup_postedRows s.db), OutboxRun.deliveries]

variable {s : OutboxRun} {i : ℕ}

/-- A row is left alone, or posted once when it is neither published nor dead-lettered. -/
theorem outboxStep_row (op : OutboxOp) {row : OutboxEvent}
    (hrow : s.db.outbox[i]? = some row) : RowStep s (outboxStep op s) i row := by
  cases op with
  | enqueue cfg now e a id payload =>
    refine .kept ?_ rfl
    show (s.db.outbox.insert _)[i]? = some row
    have hold : i ≠ s.db.outbox.nextId := Nat.ne_of_lt (List.getElem?_eq_some_iff.1 hrow).1
    rw [Table.getElem?_insert, if_neg hold, hrow]
  | pass cfg now limit answers =>
    by_cases hposted : i ∈ postedRows cfg now limit s.db
    · refine .posted (answers i) (undelivered_of_posted hposted hrow) ?_ ?_
      · rw [(outboxStep_pass s).1, if_pos hposted, hrow, Option.map_some]
      · rw [deliveries_pass, if_pos hposted]
    refine .kept ?_ ?_
    · rw [(outboxStep_pass s).1, if_neg hposted, hrow]
    · rw [deliveries_pass, if_neg hposted, List.append_nil]

theorem stubbed_step (op : OutboxOp) (hrow : i ≠ s.db.outbox.nextId) :
    i ∈ (outboxStep op s).stubbed ↔ i ∈ s.stubbed := by
  cases op with
  | enqueue cfg now e a id payload =>
    simp only [outboxStep]
    split <;> simp [hrow]
  | pass cfg now limit answers => exact Iff.rfl

/-- What a step does where there is no row: nothing, or a row is enqueued. -/
inductive FreshStep (s s' : OutboxRun) (i : ℕ) : Prop
  | none (hrow : s'.db.outbox[i]? = none) (hstubbed : i ∉ s'.stubbed) : FreshStep s s' i
  | enqueued (cfg : Settings) (now : Time) (e a id : String) (payload : List (String × Json))
      (hrow : s'.db.outbox[i]? = some (outboxRow cfg now e a id payload))
      (hstubbed : i ∈ s'.stubbed ↔ autoPublishDefault cfg = true) : FreshStep s s' i

theorem outboxStep_fresh (op : OutboxOp) (hrow : s.db.outbox[i]? = none)
    (hstubbed : i ∉ s.stubbed) :
    FreshStep s (outboxStep op s) i ∧ (outboxStep op s).deliveries i = s.deliveries i := by
  cases op with
  | enqueue cfg now e a id payload =>
    refine ⟨?_, rfl⟩
    have hget : (outboxStep (.enqueue cfg now e a id payload) s).db.outbox[i]?
        = if i = s.db.outbox.nextId then some (outboxRow cfg now e a id payload) else none := by
      rw [← hrow]
      exact Table.getElem?_insert _ _ _
    by_cases hi : i = s.db.outbox.nextId
    · refine .enqueued cfg now e a id payload (by rw [hget, if_pos hi]) ?_
      simp only [outboxStep]
      split <;> simp_all
    · exact .none (by rw [hget, if_neg hi]) fun h => hstubbed ((stubbed_step _ hi).1 h)
  | pass cfg now limit answers =>
    have hnot : i ∉ postedRows cfg now limit s.db := by
      intro h
      simp only [postedRows] at h
      split at h
      · cases h
      obtain ⟨row, hrow', -⟩ := Table.mem_select.1 (List.mem_of_mem_take h)
      rw [hrow] at hrow'
      cases hrow'
    refine ⟨.none ?_ hstubbed, ?_⟩
    · rw [(outboxStep_pass s).1, if_neg hnot, hrow]
    · rw [deliveries_pass, if_neg hnot, List.append_nil]

/-! ## Runs -/

structure RowSound (i : ℕ) (s : OutboxRun) : Prop where
  row : ∀ row, s.db.outbox[i]? = some row → Accounted (i ∈ s.stubbed) (s.deliveries i) row
  fresh : s.db.outbox[i]? = none → s.deliveries i = [] ∧ i ∉ s.stubbed

theorem RowSound.step (op : OutboxOp) (h : RowSound i s) :
    RowSound i (outboxStep op s) := by
  cases hrow : s.db.outbox[i]? with
  | none =>
    obtain ⟨hdeliveries, hstubbed⟩ := h.fresh hrow
    obtain ⟨hfresh, hsame⟩ := outboxStep_fresh op hrow hstubbed
    rw [hdeliveries] at hsame
    cases hfresh with
    | none hnone hstubbed' =>
      refine ⟨fun row hrow' => ?_, fun _ => ⟨hsame, hstubbed'⟩⟩
      rw [hnone] at hrow'
      cases hrow'
    | enqueued cfg now e a id payload hnew hstubbed' =>
      refine ⟨fun row hrow' => ?_, fun hnone => ?_⟩
      · rw [hnew, Option.some.injEq] at hrow'
        rw [← hrow', hsame, hstubbed']
        exact accounted_outboxRow cfg now e a id payload
      rw [hnew] at hnone
      cases hnone
  | some row =>
    have hold : i ≠ s.db.outbox.nextId := Nat.ne_of_lt (List.getElem?_eq_some_iff.1 hrow).1
    have hstubbed := stubbed_step op hold
    have haccounted := h.row row hrow
    cases outboxStep_row op hrow with
    | kept hrow' hsent =>
      refine ⟨fun row' h' => ?_, fun hnone => ?_⟩
      · rw [hrow', Option.some.injEq] at h'
        rw [← h', hsent, hstubbed]
        exact haccounted
      rw [hrow'] at hnone
      cases hnone
    | posted d hopen hrow' hsent =>
      refine ⟨fun row' h' => ?_, fun hnone => ?_⟩
      · rw [hrow', Option.some.injEq] at h'
        rw [← h', hsent, hstubbed]
        exact haccounted.deliver hopen
      rw [hrow'] at hnone
      cases hnone

/-- A row stays, with its message; and once it is published or dead-lettered nothing changes
about it, and it is not posted again. -/
structure Survives (i : ℕ) (row : OutboxEvent) (s s' : OutboxRun) (row' : OutboxEvent) : Prop where
  found : s'.db.outbox[i]? = some row'
  message : SameMessage row row'
  settled : undelivered row = false → row' = row ∧ s'.deliveries i = s.deliveries i

theorem exists_survives {row : OutboxEvent}
    (hrow : s.db.outbox[i]? = some row) (ops : List OutboxOp) :
    ∃ row', Survives i row s (run outboxStep s ops) row' := by
  refine run_invariant (I := fun s' => ∃ row', Survives i row s s' row') ?_
    ⟨row, hrow, ⟨rfl, rfl, rfl, rfl⟩, fun _ => ⟨rfl, rfl⟩⟩ ops
  rintro s' op ⟨row', hfound, hmessage, hsettled⟩
  cases outboxStep_row op hfound with
  | kept hrow' hsent =>
    refine ⟨row', hrow', hmessage, fun hdone => ?_⟩
    rw [hsent]
    exact hsettled hdone
  | posted d hopen hrow' hsent =>
    obtain ⟨h1, h2, h3, h4⟩ := sameMessage_deliver d row'
    obtain ⟨h1', h2', h3', h4'⟩ := hmessage
    refine ⟨deliver d row', hrow', ⟨h1.trans h1', h2.trans h2', h3.trans h3', h4.trans h4'⟩, ?_⟩
    intro hdone
    rw [(hsettled hdone).1, hdone] at hopen
    cases hopen

/-- **The outbox, over every run.**  Each row is accounted for by its deliveries; it stays for
good with its message, and is left alone once published or dead-lettered; and the delay after a
failure grows with the attempts, up to an hour. -/
theorem outbox_delivery_runs (ops more : List OutboxOp) :
    (∀ (i : ℕ) (row : OutboxEvent), (run outboxStep {} ops).db.outbox[i]? = some row →
      Accounted (i ∈ (run outboxStep {} ops).stubbed) ((run outboxStep {} ops).deliveries i) row
        ∧ ∃ row', Survives i row (run outboxStep {} ops) (run outboxStep {} (ops ++ more)) row')
      ∧ Monotone backoffSeconds ∧ ∀ attempts, backoffSeconds attempts ≤ 3600 := by
  refine ⟨fun i row hrow => ⟨?_, ?_⟩, backoffSeconds_mono, backoffSeconds_le⟩
  · have hstart : RowSound i {} := ⟨fun _ h => (nomatch h), fun _ => ⟨rfl, List.not_mem_nil⟩⟩
    exact (run_invariant (fun s op h => h.step op) hstart ops).row row hrow
  rw [run_append]
  exact exists_survives hrow more

/-! ## Two rows that their deliveries alone do not explain -/

/-- One event, which the school server rejects with 400. -/
def Example.rejection : List OutboxOp :=
  let cfg := { Settings.default "production" with nestConfigWebhookUrl := "http://school" }
  [.enqueue cfg 0 "config.invalidate" "tenant" "s" [],
   .pass cfg 0 50 fun _ => { answer := .http 400 "bad request", loggedAt := 0, stampedAt := 0 }]

/-- One event, in development without a webhook. -/
def Example.stub : List OutboxOp :=
  [.enqueue (Settings.default "development") 0 "config.invalidate" "tenant" "s" []]

/-- A row may be published without a delivery, and the attempts need not be the failures: a
rejection counts for eight. -/
theorem not_by_deliveries_alone :
    (¬ ∀ (ops : List OutboxOp) (i : ℕ) (row : OutboxEvent),
      (run outboxStep {} ops).db.outbox[i]? = some row →
        (row.published = true
          ↔ ∃ d ∈ (run outboxStep {} ops).deliveries i, d.answer.succeeded = true))
    ∧ ¬ ∀ (ops : List OutboxOp) (i : ℕ) (row : OutboxEvent),
      (run outboxStep {} ops).db.outbox[i]? = some row →
        row.attempts = failures ((run outboxStep {} ops).deliveries i) := by
  constructor
  · intro h
    have hsome : ((run outboxStep {} Example.stub).db.outbox[0]?).any (·.published) = true := by
      decide
    obtain ⟨row, hrow, hpublished⟩ := (Option.any_eq_true _ _).1 hsome
    obtain ⟨d, hd, -⟩ := (h Example.stub 0 row hrow).1 hpublished
    cases hd
  intro h
  have hsome : ((run outboxStep {} Example.rejection).db.outbox[0]?).any
      (fun row => row.attempts ≠ failures ((run outboxStep {} Example.rejection).deliveries 0))
        = true := by
    decide
  obtain ⟨row, hrow, hattempts⟩ := (Option.any_eq_true _ _).1 hsome
  exact of_decide_eq_true hattempts (h Example.rejection 0 row hrow)

end MultiAcademy.Control
