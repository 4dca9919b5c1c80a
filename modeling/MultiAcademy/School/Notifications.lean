import MultiAcademy.Control.OutboxWorker
import MultiAcademy.School.ControlWebhook

/-!
# Notifications, delivered by several workers

Any number of workers drain the outbox.  Each selects the rows that are due, posts them one by
one and commits its stamps at the end; a worker that crashes leaves no stamp behind, and an
answer may get lost after the webhook has done its work.  `deliverTrialNotification` does it
again for every post of the same event: it is given the event's id and looks at no record of
ids.
-/

namespace MultiAcademy.School

open MultiAcademy.Lib
open MultiAcademy.Control (Json OutboxEvent Delivery Settings batchRows maxAttempts
  outboxRow publicId strip undelivered)

/-! ## The webhook -/

/-- What the webhook does for the user of a notification. -/
inductive Effect
  | notification (tenantId userId title message : String)
  | push (tenantId userId title message eventId : String)
  | email (tenantId address subject text : String)
  deriving DecidableEq

/-- `String(a || b || text)`. -/
def textOr (a b : Option Json) (text : String) : String :=
  ((jsOr a b).filter truthy).elim text jsText

/-- `deliverTrialNotification`; `findUser` looks a user up by the tenant and the address. -/
def deliverTrialNotification (findUser : String → String → Option String) (id : ℕ)
    (event : OutboxEvent) : List Effect :=
  let read := fun key key' text =>
    textOr (event.payload.lookup key) (event.payload.lookup key') text
  let tenantId := read "tenantId" "tenant_id" ""
  let email := read "adminEmail" "admin_email" ""
  let title := textOr (event.payload.lookup "title") none "School account update"
  let message := textOr (event.payload.lookup "message") none ""
  if tenantId = "" ∨ message = "" then []
  else
    let user := if email = "" then none else findUser tenantId email
    (match user with
      | some userId =>
        [.notification tenantId userId title message,
         .push tenantId userId title message (toString (publicId id))]
      | none => [])
    ++ if email = "" then [] else [.email tenantId email title message]

/-- The events that the webhook passes on to a user. -/
def isNotification (event : OutboxEvent) : Bool :=
  event.eventType = "trial.notification" || event.eventType = "billing.notification"

/-- What the user sees of one post of an event. -/
def webhookEffects (findUser : String → String → Option String) (id : ℕ) (event : OutboxEvent) :
    List Effect :=
  if isNotification event then deliverTrialNotification findUser id event else []

/-! ## The workers -/

/-- A batch in the hands of a worker: the rows still to post, as it selected them, and the rows
it has posted, with the stamps it has not committed yet. -/
structure WorkerBatch where
  todo : List (ℕ × OutboxEvent)
  posted : List (ℕ × OutboxEvent × OutboxEvent) := []

def WorkerBatch.ids (b : WorkerBatch) : List ℕ := b.posted.map (·.1) ++ b.todo.map (·.1)

/-- A stamped row as it is written back: a column that was not changed is left out of the
update. -/
def writeBack (before after current : OutboxEvent) : OutboxEvent :=
  { current with
    published := if after.published = before.published then current.published else after.published
    publishedAt :=
      if after.publishedAt = before.publishedAt then current.publishedAt else after.publishedAt
    attempts := if after.attempts = before.attempts then current.attempts else after.attempts
    nextAttemptAt :=
      if after.nextAttemptAt = before.nextAttemptAt then current.nextAttemptAt
      else after.nextAttemptAt
    lastError := if after.lastError = before.lastError then current.lastError else after.lastError
    deliveryStatus :=
      if after.deliveryStatus = before.deliveryStatus then current.deliveryStatus
      else after.deliveryStatus
    deliveryLog :=
      if after.deliveryLog = before.deliveryLog then current.deliveryLog else after.deliveryLog }

variable (outbox : Table OutboxEvent)

def writeRow (entry : ℕ × OutboxEvent × OutboxEvent) :
    Table OutboxEvent :=
  outbox.modify entry.1 (writeBack entry.2.1 entry.2.2)

def loadRows (ids : List ℕ) : List (ℕ × OutboxEvent) :=
  ids.filterMap fun i => (outbox[i]?).map fun row => (i, row)

structure NotifyState where
  outbox : Table OutboxEvent := []
  /-- The batches of the workers that are not idle. -/
  workers : ℕ → Option WorkerBatch := fun _ => none
  /-- The events whose effects took place, in order. -/
  applied : List ℕ := []

inductive NotifyOp
  | enqueue (cfg : Settings) (now : Time) (eventType aggregateType aggregateId : String)
      (payload : List (String × Json))
  | select (worker : ℕ) (cfg : Settings) (now : Time) (limit : ℕ)
  /-- A worker posts its next row.  The request is handled, or never reaches the handler, and
  the worker sees some answer. -/
  | post (worker : ℕ) (handled : Bool) (findUser : String → String → Option String)
      (d : Delivery)
  | commit (worker : ℕ)
  | crash (worker : ℕ)

def notifyStep (op : NotifyOp) (s : NotifyState) : NotifyState :=
  match op with
  | .enqueue cfg now eventType aggregateType aggregateId payload =>
    { s with
      outbox := s.outbox.insert (outboxRow cfg now eventType aggregateType aggregateId payload) }
  | .select w cfg now limit =>
    if s.workers w = none ∧ strip cfg.nestConfigWebhookUrl ≠ "" then
      { s with
        workers := Function.update s.workers w
          (some { todo := loadRows s.outbox (batchRows now limit s.outbox) }) }
    else s
  | .post w handled findUser d =>
    match s.workers w with
    | some { todo := (id, row) :: todo, posted } =>
      { s with
        workers := Function.update s.workers w
          (some { todo, posted := posted ++ [(id, row, Control.deliver d row)] })
        applied :=
          if handled = true ∧ webhookEffects findUser id row ≠ [] then s.applied ++ [id]
          else s.applied }
    | _ => s
  | .commit w =>
    match s.workers w with
    | some { todo := [], posted } =>
      { s with
        outbox := posted.foldl writeRow s.outbox
        workers := Function.update s.workers w none }
    | _ => s
  | .crash w => { s with workers := Function.update s.workers w none }

/-- The answer publishes the row or dead-letters it. -/
def settlesRow (d : Delivery) (row : OutboxEvent) : Prop :=
  d.answer.succeeded = true ∨ d.answer.permanent = true ∨ maxAttempts ≤ row.attempts + 1

/-- No notification is selected while another worker holds it; a post whose effects take place
is answered so that the row is published or dead-lettered; and no worker crashes that has
posted a row whose effects took place. -/
def Orderly (s : NotifyState) (op : NotifyOp) : Prop :=
  match op with
  | .select w _ now limit => ∀ i ∈ batchRows now limit s.outbox,
      (s.outbox[i]?).any isNotification = true →
      ∀ w' b, w' ≠ w → s.workers w' = some b → i ∉ b.ids
  | .post w handled findUser d => ∀ id row todo posted,
      s.workers w = some { todo := (id, row) :: todo, posted } → handled = true →
      webhookEffects findUser id row ≠ [] → settlesRow d row
  | .crash w => ∀ b, s.workers w = some b → ∀ i ∈ b.posted.map (·.1), i ∉ s.applied
  | _ => True

variable {s : NotifyState} {w : ℕ} {b : WorkerBatch}

/-! ## One row -/

theorem webhookEffects_ne_nil {findUser : String → String → Option String} {id : ℕ}
    {event : OutboxEvent} (h : webhookEffects findUser id event ≠ []) :
    isNotification event = true := by
  by_contra hnot
  exact h (if_neg hnot)

/-- A row that an answer settles is published or dead-lettered. -/
theorem undelivered_deliver {d : Delivery} {row : OutboxEvent} (h : settlesRow d row) :
    undelivered (Control.deliver d row) = false := by
  have hfailed : maxAttempts ≤ row.attempts + 1 → ∀ message,
      undelivered (Control.markFailed d message row) = false := by
    intro hmax message
    simp [undelivered, hmax]
  cases hanswer : d.answer with
  | transport error =>
    have hmax : maxAttempts ≤ row.attempts + 1 := by
      simpa [settlesRow, hanswer, Control.Answer.succeeded, Control.Answer.permanent] using h
    simp only [Control.deliver, hanswer]
    exact hfailed hmax _
  | http status text =>
    simp only [Control.deliver, hanswer]
    split
    · rfl
    rename_i hstatus
    split
    · simp [undelivered]
    rename_i hretry
    refine hfailed ?_ _
    simpa [settlesRow, hanswer, Control.Answer.succeeded, Control.Answer.permanent, hstatus,
      hretry] using h

theorem undelivered_writeBack (before after : OutboxEvent) :
    undelivered (writeBack before after before) = undelivered after := by
  have hkeep : ∀ {α : Type} [DecidableEq α] (a b : α), (if a = b then b else a) = a := by
    intro α _ a b
    split <;> simp_all
  simp only [undelivered, writeBack, hkeep]

theorem foldl_writeRow_of_notMem {posted : List (ℕ × OutboxEvent × OutboxEvent)} {i : ℕ}
    (hi : i ∉ posted.map (·.1)) (outbox : Table OutboxEvent) :
    (posted.foldl writeRow outbox)[i]? = outbox[i]? := by
  induction posted generalizing outbox with
  | nil => rfl
  | cons e posted ih =>
    rw [List.map_cons, List.mem_cons, not_or] at hi
    rw [List.foldl_cons, ih hi.2, writeRow]
    simp [Ne.symm hi.1]

theorem foldl_writeRow_of_mem {posted : List (ℕ × OutboxEvent × OutboxEvent)}
    (hnodup : (posted.map (·.1)).Nodup) {e : ℕ × OutboxEvent × OutboxEvent} (he : e ∈ posted)
    (outbox : Table OutboxEvent) :
    (posted.foldl writeRow outbox)[e.1]? = (outbox[e.1]?).map (writeBack e.2.1 e.2.2) := by
  induction posted generalizing outbox with
  | nil => cases he
  | cons e' posted ih =>
    obtain ⟨hnew, hnodup⟩ := List.nodup_cons.1 hnodup
    rw [List.foldl_cons]
    rcases List.mem_cons.1 he with rfl | he
    · rw [foldl_writeRow_of_notMem hnew, writeRow]
      simp
    have hne : e'.1 ≠ e.1 := by
      intro h
      rw [List.mem_map] at hnew
      exact hnew ⟨e, he, h.symm⟩
    rw [ih hnodup he, writeRow]
    simp [hne]

/-! ## The invariant -/

/-- The row is still what the worker selected, as far as notifications go. -/
def AsSelected (i : ℕ) (selected : OutboxEvent) : Prop :=
  ∃ row, outbox[i]? = some row ∧ row.eventType = selected.eventType
    ∧ (isNotification row = true → row = selected)

/-- The workers hold their notifications apart, as they selected them; the effects of those
still to post have not taken place; and where they have, the row is, or is about to be,
published or dead-lettered. -/
structure Once (s : NotifyState) : Prop where
  distinct : ∀ w b, s.workers w = some b → b.ids.Nodup
  todo : ∀ w b, s.workers w = some b → ∀ e ∈ b.todo,
    AsSelected s.outbox e.1 e.2 ∧ (isNotification e.2 = true → e.1 ∉ s.applied)
  posted : ∀ w b, s.workers w = some b → ∀ e ∈ b.posted,
    AsSelected s.outbox e.1 e.2.1 ∧ (e.1 ∈ s.applied → undelivered e.2.2 = false)
  apart : ∀ w w' b b', w ≠ w' → s.workers w = some b → s.workers w' = some b' →
    ∀ i ∈ b.ids, (s.outbox[i]?).any isNotification = true → i ∉ b'.ids
  recorded : ∀ i ∈ s.applied, ∃ row, s.outbox[i]? = some row ∧ isNotification row = true
    ∧ (undelivered row = false ∨ ∃ w b, s.workers w = some b ∧ i ∈ b.posted.map (·.1))
  once : s.applied.Nodup

theorem once_enqueue (h : Once s) (row : OutboxEvent) :
    Once { s with outbox := s.outbox.insert row } := by
  have hold : ∀ {i : ℕ} {r : OutboxEvent}, s.outbox[i]? = some r →
      (s.outbox.insert row)[i]? = some r := by
    intro i r hr
    have hlt : i ≠ s.outbox.nextId := Nat.ne_of_lt (List.getElem?_eq_some_iff.1 hr).1
    rw [Table.getElem?_insert, if_neg hlt, hr]
  have hselected : ∀ {i : ℕ} {r : OutboxEvent}, AsSelected s.outbox i r →
      AsSelected (s.outbox.insert row) i r := by
    rintro i r ⟨r', hr', htype, hsame⟩
    exact ⟨r', hold hr', htype, hsame⟩
  have hheld : ∀ {w b}, s.workers w = some b → ∀ i ∈ b.ids, ∃ r, s.outbox[i]? = some r := by
    intro w b hb i hi
    rcases List.mem_append.1 hi with hi | hi
    · obtain ⟨e, he, rfl⟩ := List.mem_map.1 hi
      obtain ⟨⟨r, hr, -⟩, -⟩ := h.posted w b hb e he
      exact ⟨r, hr⟩
    obtain ⟨e, he, rfl⟩ := List.mem_map.1 hi
    obtain ⟨⟨r, hr, -⟩, -⟩ := h.todo w b hb e he
    exact ⟨r, hr⟩
  refine ⟨h.distinct, fun w b hb e he => ?_, fun w b hb e he => ?_, ?_, fun i hi => ?_, h.once⟩
  · exact (h.todo w b hb e he).imp_left hselected
  · exact (h.posted w b hb e he).imp_left hselected
  · intro w w' b b' hne hb hb' i hi hnotice
    obtain ⟨r, hr⟩ := hheld hb i hi
    refine h.apart w w' b b' hne hb hb' i hi ?_
    rw [hr]
    rw [show ({ s with outbox := s.outbox.insert row } : NotifyState).outbox[i]? = some r from
      hold hr] at hnotice
    exact hnotice
  obtain ⟨r, hr, hrest⟩ := h.recorded i hi
  exact ⟨r, hold hr, hrest⟩

theorem mem_loadRows {outbox : Table OutboxEvent} {ids : List ℕ} {e : ℕ × OutboxEvent} :
    e ∈ loadRows outbox ids ↔ e.1 ∈ ids ∧ outbox[e.1]? = some e.2 := by
  simp only [loadRows, List.mem_filterMap, Option.map_eq_some_iff]
  constructor
  · rintro ⟨i, hi, row, hrow, rfl⟩
    exact ⟨hi, hrow⟩
  rintro ⟨hi, hrow⟩
  exact ⟨e.1, hi, e.2, hrow, rfl⟩

theorem ids_loadRows {outbox : Table OutboxEvent} {ids : List ℕ} :
    ((loadRows outbox ids).map (·.1)).Sublist ids := by
  induction ids with
  | nil => simp [loadRows]
  | cons i ids ih =>
    simp only [loadRows, List.filterMap_cons]
    cases outbox[i]? with
    | none => exact ih.cons _
    | some row => exact ih.cons_cons _

theorem selected_of_mem_batchRows {now : Time} {limit i : ℕ} {outbox : Table OutboxEvent}
    (h : i ∈ batchRows now limit outbox) :
    ∃ row, outbox[i]? = some row ∧ undelivered row = true := by
  obtain ⟨row, hrow, hdue⟩ := Table.mem_select.1 (List.mem_of_mem_take h)
  rw [Control.due, Bool.and_eq_true] at hdue
  exact ⟨row, hrow, hdue.1⟩

theorem update_cases {workers : ℕ → Option WorkerBatch} {w w' : ℕ} {b : Option WorkerBatch}
    {b' : WorkerBatch} (h : Function.update workers w b w' = some b') :
    (w' = w ∧ b = some b') ∨ (w' ≠ w ∧ workers w' = some b') := by
  rcases eq_or_ne w' w with rfl | hw
  · rw [Function.update_self] at h
    exact Or.inl ⟨rfl, h⟩
  rw [Function.update_of_ne hw] at h
  exact Or.inr ⟨hw, h⟩

/-- A worker's batch changes and effects take place: the new batch keeps apart from the
others, and no effect of a row that another one holds is new. -/
theorem Once.update (h : Once s) {b : WorkerBatch} {applied : List ℕ} (hdistinct : b.ids.Nodup)
    (htodo : ∀ e ∈ b.todo,
      AsSelected s.outbox e.1 e.2 ∧ (isNotification e.2 = true → e.1 ∉ applied))
    (hposted : ∀ e ∈ b.posted,
      AsSelected s.outbox e.1 e.2.1 ∧ (e.1 ∈ applied → undelivered e.2.2 = false))
    (hapart : ∀ w' b', w' ≠ w → s.workers w' = some b' → ∀ i ∈ b.ids,
      (s.outbox[i]?).any isNotification = true → i ∉ b'.ids)
    (hgrow : ∀ w' b', w' ≠ w → s.workers w' = some b' → ∀ i ∈ b'.ids,
      i ∈ applied → i ∈ s.applied)
    (hrecorded : ∀ i ∈ applied, ∃ row, s.outbox[i]? = some row ∧ isNotification row = true
      ∧ (undelivered row = false ∨ ∃ w' b', Function.update s.workers w (some b) w' = some b'
        ∧ i ∈ b'.posted.map (·.1)))
    (honce : applied.Nodup) :
    Once { s with workers := Function.update s.workers w (some b), applied } := by
  refine ⟨?_, ?_, ?_, ?_, hrecorded, honce⟩
  · intro w' b' hb'
    rcases update_cases hb' with ⟨-, hnew⟩ | ⟨-, hb'⟩
    · cases hnew
      exact hdistinct
    · exact h.distinct w' b' hb'
  · intro w' b' hb' e he
    rcases update_cases hb' with ⟨-, hnew⟩ | ⟨hw, hb'⟩
    · cases hnew
      exact htodo e he
    obtain ⟨hselected, hnot⟩ := h.todo w' b' hb' e he
    have hheld : e.1 ∈ b'.ids := List.mem_append_right _ (List.mem_map_of_mem he)
    exact ⟨hselected, fun hnotice hi => hnot hnotice (hgrow w' b' hw hb' e.1 hheld hi)⟩
  · intro w' b' hb' e he
    rcases update_cases hb' with ⟨-, hnew⟩ | ⟨hw, hb'⟩
    · cases hnew
      exact hposted e he
    obtain ⟨hselected, hdone⟩ := h.posted w' b' hb' e he
    have hheld : e.1 ∈ b'.ids := List.mem_append_left _ (List.mem_map_of_mem he)
    exact ⟨hselected, fun hi => hdone (hgrow w' b' hw hb' e.1 hheld hi)⟩
  intro w' w'' b' b'' hne hb' hb'' i hi hnotice
  rcases update_cases hb' with ⟨hw', hnew⟩ | ⟨hw', hb'⟩
  · cases hnew
    rcases update_cases hb'' with ⟨hw'', -⟩ | ⟨hw'', hb''⟩
    · exact absurd (hw'.trans hw''.symm) hne
    · exact hapart w'' b'' hw'' hb'' i hi hnotice
  rcases update_cases hb'' with ⟨-, hnew⟩ | ⟨-, hb''⟩
  · cases hnew
    exact fun hmem => hapart w' b' hw' hb' i hmem hnotice hi
  · exact h.apart w' w'' b' b'' hne hb' hb'' i hi hnotice

/-- An idle worker selects a batch. -/
theorem once_select (h : Once s) {now : Time} {limit : ℕ} (hidle : s.workers w = none)
    (horder : ∀ i ∈ batchRows now limit s.outbox, (s.outbox[i]?).any isNotification = true →
      ∀ w' b, w' ≠ w → s.workers w' = some b → i ∉ b.ids) :
    Once { s with
      workers := Function.update s.workers w
        (some { todo := loadRows s.outbox (batchRows now limit s.outbox) }) } := by
  have hnodup : (batchRows now limit s.outbox).Nodup :=
    (Table.nodup_select _ _).sublist (List.take_sublist _ _)
  have hbusy : ∀ {w' b}, s.workers w' = some b → w' ≠ w := by
    rintro w' b hb rfl
    rw [hidle] at hb
    cases hb
  have hdistinct : (WorkerBatch.ids
      { todo := loadRows s.outbox (batchRows now limit s.outbox) }).Nodup :=
    hnodup.sublist ids_loadRows
  apply h.update hdistinct
  · intro e he
    obtain ⟨hmem, hrow⟩ := mem_loadRows.1 he
    refine ⟨⟨e.2, hrow, rfl, fun _ => rfl⟩, fun hnotice happlied => ?_⟩
    -- an effect that took place is recorded in the row, or in a batch that this one avoids
    obtain ⟨row, hrow', -, hdone | ⟨w'', b, hb, hposted⟩⟩ := h.recorded _ happlied
    · obtain ⟨row', hrow'', hopen⟩ := selected_of_mem_batchRows hmem
      rw [hrow', Option.some.injEq] at hrow''
      rw [← hrow'', hdone] at hopen
      cases hopen
    exact horder e.1 hmem (by simp [hrow, hnotice]) w'' b (hbusy hb) hb
      (List.mem_append_left _ hposted)
  · intro e he
    cases he
  · intro w' b hw hb i hi hnotice
    exact horder i (ids_loadRows.subset hi) hnotice w' b hw hb
  · exact fun _ _ _ _ _ _ hi => hi
  · intro i hi
    obtain ⟨row, hrow, hnotice, hdone⟩ := h.recorded i hi
    refine ⟨row, hrow, hnotice, hdone.imp_right ?_⟩
    rintro ⟨w', b, hb, hposted⟩
    exact ⟨w', b, (Function.update_of_ne (hbusy hb) _ _).trans hb, hposted⟩
  · exact h.once

/-- A worker posts a row. -/
theorem once_post (h : Once s) {id : ℕ} {row : OutboxEvent} {todo : List (ℕ × OutboxEvent)}
    {posted : List (ℕ × OutboxEvent × OutboxEvent)} {d : Delivery} {takesPlace : Prop}
    [Decidable takesPlace] (hb : s.workers w = some { todo := (id, row) :: todo, posted })
    (hnotice : takesPlace → isNotification row = true) (hsettles : takesPlace → settlesRow d row) :
    Once { s with
      workers := Function.update s.workers w
        (some { todo, posted := posted ++ [(id, row, Control.deliver d row)] })
      applied := if takesPlace then s.applied ++ [id] else s.applied } := by
  have hdistinct : (posted.map (·.1) ++ id :: todo.map (·.1)).Nodup := h.distinct w _ hb
  have hold : id ∈ WorkerBatch.ids { todo := (id, row) :: todo, posted } := by
    simp [WorkerBatch.ids]
  have hids : WorkerBatch.ids
        { todo, posted := posted ++ [(id, row, Control.deliver d row)] }
      = WorkerBatch.ids { todo := (id, row) :: todo, posted } := by
    simp [WorkerBatch.ids]
  obtain ⟨⟨row', hrow, htype, hsame⟩, hfresh⟩ := h.todo w _ hb (id, row) List.mem_cons_self
  have hkind : isNotification row' = isNotification row := by
    simp [isNotification, htype]
  have hunapplied : id ∉ s.applied := by
    intro happlied
    obtain ⟨r, hr, hnotice', -⟩ := h.recorded id happlied
    rw [hrow, Option.some.injEq] at hr
    exact hfresh (by rw [← hkind, hr, hnotice']) happlied
  have happlied : ∀ {i}, i ∈ (if takesPlace then s.applied ++ [id] else s.applied) →
      i ∈ s.applied ∨ takesPlace ∧ i = id := by
    intro i hi
    split at hi
    · rename_i htakes
      simpa [htakes] using hi
    · exact Or.inl hi
  refine h.update ?_ ?_ ?_ ?_ ?_ ?_ ?_
  · rw [hids]
    exact hdistinct
  · intro e he
    obtain ⟨hselected, hnot⟩ := h.todo w _ hb e (List.mem_cons_of_mem _ he)
    refine ⟨hselected, fun hnotice' hi => ?_⟩
    rcases happlied hi with hi | ⟨-, hi⟩
    · exact hnot hnotice' hi
    have hnew := (List.nodup_cons.1 (List.nodup_append.1 hdistinct).2.1).1
    exact hnew (hi ▸ List.mem_map_of_mem he)
  · intro e he
    rcases List.mem_append.1 he with he | he
    · obtain ⟨hselected, hdone⟩ := h.posted w _ hb e he
      refine ⟨hselected, fun hi => ?_⟩
      rcases happlied hi with hi | ⟨-, hi⟩
      · exact hdone hi
      have hne := (List.nodup_append.1 hdistinct).2.2 e.1 (List.mem_map_of_mem he) id
        List.mem_cons_self
      exact absurd hi hne
    obtain rfl := List.mem_singleton.1 he
    refine ⟨⟨row', hrow, htype, hsame⟩, fun hi => ?_⟩
    rcases happlied hi with hi | ⟨htakes, -⟩
    · exact absurd hi hunapplied
    · exact undelivered_deliver (hsettles htakes)
  · intro w' b' hw hb' i hi
    exact h.apart w w' _ b' hw.symm hb hb' i (hids ▸ hi)
  · intro w' b' hw hb' i hheld hi
    rcases happlied hi with hi | ⟨htakes, rfl⟩
    · exact hi
    -- where the effects of this post take place, no other worker holds the row
    have hnew : (s.outbox[i]?).any isNotification = true := by
      simp [hrow, hkind, hnotice htakes]
    exact absurd hheld (h.apart w w' _ b' hw.symm hb hb' i hold hnew)
  · intro i hi
    rcases happlied hi with hi | ⟨htakes, rfl⟩
    · obtain ⟨r, hr, hnotice', hdone⟩ := h.recorded i hi
      refine ⟨r, hr, hnotice', hdone.imp_right ?_⟩
      rintro ⟨w', b', hb', hposted⟩
      rcases eq_or_ne w' w with rfl | hw
      · rw [hb] at hb'
        cases hb'
        refine ⟨w', _, Function.update_self _ _ _, ?_⟩
        rw [List.map_append]
        exact List.mem_append_left _ hposted
      · exact ⟨w', b', (Function.update_of_ne hw _ _).trans hb', hposted⟩
    refine ⟨row', hrow, by rw [hkind, hnotice htakes], Or.inr ?_⟩
    refine ⟨w, _, Function.update_self _ _ _, ?_⟩
    simp
  split
  · exact List.nodup_append.2 ⟨h.once, List.nodup_singleton _, fun a ha b hb => by
      rw [List.mem_singleton.1 hb]
      exact fun heq => hunapplied (heq ▸ ha)⟩
  · exact h.once

/-- Writing back rewrites no event's type. -/
theorem eventType_foldl_writeRow (posted : List (ℕ × OutboxEvent × OutboxEvent)) (i : ℕ)
    (outbox : Table OutboxEvent) :
    ((posted.foldl writeRow outbox)[i]?).map (·.eventType) = (outbox[i]?).map (·.eventType) := by
  induction posted generalizing outbox with
  | nil => rfl
  | cons e posted ih =>
    rw [List.foldl_cons, ih, writeRow, List.getElem?_modify]
    cases outbox[i]? with
    | none => rfl
    | some row => by_cases hi : e.1 = i <;> simp [hi, writeBack]

/-- A worker commits its batch. -/
theorem once_commit (h : Once s) {posted : List (ℕ × OutboxEvent × OutboxEvent)}
    (hb : s.workers w = some { todo := [], posted }) :
    Once { s with
      outbox := posted.foldl writeRow s.outbox
      workers := Function.update s.workers w none } := by
  have hdistinct : (posted.map (·.1)).Nodup := by
    simpa [WorkerBatch.ids] using h.distinct w _ hb
  have hother : ∀ {w' b}, Function.update s.workers w none w' = some b →
      w' ≠ w ∧ s.workers w' = some b := by
    intro w' b hb'
    rcases update_cases hb' with ⟨-, hnew⟩ | hb'
    · cases hnew
    · exact hb'
  have hkind : ∀ i : ℕ, ((posted.foldl writeRow s.outbox)[i]?).any isNotification
      = (s.outbox[i]?).any isNotification := by
    intro i
    have htype := eventType_foldl_writeRow posted i s.outbox
    cases hnew : (posted.foldl writeRow s.outbox)[i]? <;> cases hold : s.outbox[i]? <;>
      simp_all [isNotification]
  -- a notification that another worker holds is not rewritten
  have hkept : ∀ {w' b}, w' ≠ w → s.workers w' = some b → ∀ {i : ℕ}, i ∈ b.ids →
      (s.outbox[i]?).any isNotification = true →
      (posted.foldl writeRow s.outbox)[i]? = s.outbox[i]? := by
    intro w' b hw hb' i hi hnotice
    refine foldl_writeRow_of_notMem (fun hmem => ?_) s.outbox
    exact h.apart w' w b _ hw hb' hb i hi hnotice (List.mem_append_left _ hmem)
  have hselected : ∀ {w' b}, w' ≠ w → s.workers w' = some b → ∀ {i r}, i ∈ b.ids →
      AsSelected s.outbox i r → AsSelected (posted.foldl writeRow s.outbox) i r := by
    rintro w' b hw hb' i r hi ⟨old, hold, htype, hsame⟩
    have hnewType := eventType_foldl_writeRow posted i s.outbox
    rw [hold, Option.map_some, Option.map_eq_some_iff] at hnewType
    obtain ⟨new, hnew, hnewType⟩ := hnewType
    refine ⟨new, hnew, hnewType.trans htype, fun hnotice => ?_⟩
    have hnotice' : isNotification old = true := by
      rw [isNotification, ← hnewType]
      exact hnotice
    have hsameRow := hkept hw hb' hi (by simp [hold, hnotice'])
    rw [hnew, hold, Option.some.injEq] at hsameRow
    rw [hsameRow, hsame hnotice']
  constructor
  · intro w' b hb'
    exact h.distinct w' b (hother hb').2
  · intro w' b hb' e he
    obtain ⟨hw, hb'⟩ := hother hb'
    exact (h.todo w' b hb' e he).imp_left
      (hselected hw hb' (List.mem_append_right _ (List.mem_map_of_mem he)))
  · intro w' b hb' e he
    obtain ⟨hw, hb'⟩ := hother hb'
    exact (h.posted w' b hb' e he).imp_left
      (hselected hw hb' (List.mem_append_left _ (List.mem_map_of_mem he)))
  · intro w' w'' b b' hne hb' hb'' i hi hnotice
    rw [hkind] at hnotice
    exact h.apart w' w'' b b' hne (hother hb').2 (hother hb'').2 i hi hnotice
  · intro i hi
    obtain ⟨row, hrow, hnotice, hdone⟩ := h.recorded i hi
    by_cases hmem : i ∈ posted.map (·.1)
    · -- the effects of this row are recorded now
      obtain ⟨e, he, rfl⟩ := List.mem_map.1 hmem
      obtain ⟨⟨row', hrow', -, hsame⟩, hsettled⟩ := h.posted w _ hb e he
      rw [hrow, Option.some.injEq] at hrow'
      have hbefore : row = e.2.1 := by
        rw [hrow']
        exact hsame (hrow' ▸ hnotice)
      refine ⟨writeBack e.2.1 e.2.2 row, ?_, ?_, Or.inl ?_⟩
      · show (posted.foldl writeRow s.outbox)[e.1]? = _
        rw [foldl_writeRow_of_mem hdistinct he, hrow, Option.map_some]
      · exact hnotice
      rw [hbefore, undelivered_writeBack]
      exact hsettled hi
    refine ⟨row, ?_, hnotice, hdone.imp_right ?_⟩
    · show (posted.foldl writeRow s.outbox)[i]? = _
      rw [foldl_writeRow_of_notMem hmem, hrow]
    rintro ⟨w', b, hb', hposted⟩
    have hw : w' ≠ w := by
      rintro rfl
      rw [hb] at hb'
      cases hb'
      exact hmem hposted
    exact ⟨w', b, (Function.update_of_ne hw _ _).trans hb', hposted⟩
  · exact h.once

/-- A worker crashes, and nothing of its batch took place. -/
theorem once_crash (h : Once s)
    (hnothing : ∀ b, s.workers w = some b → ∀ i ∈ b.posted.map (·.1), i ∉ s.applied) :
    Once { s with workers := Function.update s.workers w none } := by
  have hold : ∀ {w' b}, Function.update s.workers w none w' = some b → s.workers w' = some b := by
    intro w' b hb
    rcases update_cases hb with ⟨-, hnew⟩ | ⟨-, hb⟩
    · cases hnew
    · exact hb
  refine ⟨fun w' b hb => h.distinct w' b (hold hb), fun w' b hb => h.todo w' b (hold hb),
    fun w' b hb => h.posted w' b (hold hb),
    fun w' w'' b b' hne hb hb' => h.apart w' w'' b b' hne (hold hb) (hold hb'), ?_, h.once⟩
  intro i hi
  obtain ⟨row, hrow, hnotice, hdone⟩ := h.recorded i hi
  refine ⟨row, hrow, hnotice, hdone.imp_right ?_⟩
  rintro ⟨w', b, hb, hposted⟩
  have hw : w' ≠ w := by
    rintro rfl
    exact hnothing b hb i hposted hi
  exact ⟨w', b, (Function.update_of_ne hw _ _).trans hb, hposted⟩

theorem once_step {op : NotifyOp} (h : Once s) (horder : Orderly s op) :
    Once (notifyStep op s) := by
  cases op with
  | enqueue cfg now e a id payload => exact once_enqueue h _
  | select w cfg now limit =>
    unfold notifyStep
    dsimp only
    split
    · rename_i hidle
      exact once_select h hidle.1 horder
    · exact h
  | post w handled findUser d =>
    unfold notifyStep
    dsimp only
    split
    · rename_i id row todo posted hb
      exact once_post h hb (fun htakes => webhookEffects_ne_nil htakes.2)
        fun htakes => horder id row todo posted hb htakes.1 htakes.2
    · exact h
  | commit w =>
    unfold notifyStep
    dsimp only
    split
    · rename_i posted hb
      exact once_commit h hb
    · exact h
  | crash w => exact once_crash h horder

/-- **At most once.**  In every run of orderly steps the effects of an event take place at most
once, in every state it reaches. -/
theorem notifications_once (ops pre : List NotifyOp) (h : Along notifyStep Orderly {} ops)
    (hpre : pre <+: ops) : (run notifyStep {} pre).applied.Nodup := by
  have hstart : Once {} :=
    ⟨fun _ _ hb => (nomatch hb), fun _ _ hb => (nomatch hb), fun _ _ hb => (nomatch hb),
      fun _ _ _ _ _ hb => (nomatch hb), fun _ hi => (nomatch hi), List.nodup_nil⟩
  exact (along_invariant_throughout (fun s op hs hop => once_step hs hop) hstart h hpre).once

/-! ## A reminder that is sent twice -/

namespace Example

def control : Settings :=
  { Settings.default "production" with nestConfigWebhookUrl := "http://school" }

/-- A worker takes the row of a reminder and posts it; the webhook handles it and says so. -/
def reminder : List NotifyOp :=
  [.enqueue control 0 "trial.notification" "tenant" "s"
      [("tenantId", "s"), ("adminEmail", "head@example.edu"), ("message", "Seven days left")],
   .select 0 control 0 50,
   .post 0 true (fun _ _ => none) { answer := .http 200 "", loggedAt := 0, stampedAt := 0 }]

end Example

theorem notifications_once_example :
    (run notifyStep {} (Example.reminder ++ [.commit 0])).applied.Nodup := by
  refine notifications_once (Example.reminder ++ [.commit 0]) _ ?_ (List.prefix_refl _)
  refine ⟨trivial, ?_, ?_, trivial, trivial⟩
  · intro i _ _ w' b _ hb
    cases hb
  intro id row todo posted _ _ _
  exact Or.inl rfl

/-- After a crash before the commit, the next pass sends the reminder again. -/
theorem not_notifications_once :
    ¬ ∀ ops : List NotifyOp, (run notifyStep {} ops).applied.Nodup := by
  intro h
  have htwice := h (Example.reminder ++ [.crash 0] ++ Example.reminder.drop 1)
  exact absurd htwice (by decide)

end MultiAcademy.School
