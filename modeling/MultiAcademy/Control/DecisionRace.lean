import MultiAcademy.Control.System
import MultiAcademy.Lib.Locked

/-!
# Concurrent decisions on dual-control requests

Calls of `decide`, each in its own transaction at READ COMMITTED: a call takes the lock of
its request's row (`with_for_update`) before it reads it, and keeps it until it commits or
rolls back.  The clock is read with the checks; the commit may come later.
-/

namespace MultiAcademy.Control

open MultiAcademy.Lib

/-- A call of `decide`. -/
structure DecideCall where
  staff : StaffContext
  requestId : ℕ
  body : DualControlDecide

inductive DecisionAnswer
  | notFound
  | refused (code : ℕ) (detail : String)
  | expired | rejected | executed
  deriving DecidableEq

def DecisionAnswer.reply : DecisionAnswer → Reply
  | .notFound => .error 404 "Request not found"
  | .refused code detail => .error code detail
  | .expired => .error 410 "Request expired"
  | .rejected | .executed => .ok

/-- Writes are committed; an error rolls back. -/
def Verdict.act : Verdict → Locked.Act Db DecisionAnswer
  | .refused code detail => .abort (.refused code detail)
  | .expired writes => .commit writes .expired
  | .rejected writes => .commit writes .rejected
  | .approved writes => .commit writes .executed

/-- The calls of `decide`, each on the row of its request. -/
def decideProtocol (cfg : Settings) (calls : ℕ → DecideCall) :
    Locked.Protocol ℕ ℕ Time DualControlRequest Db DecisionAnswer where
  key k := (calls k).requestId
  read requestId db := db.dualRequests[requestId]?
  missing := .notFound
  act k now req db :=
    (verdict cfg now (calls k).staff (calls k).requestId (calls k).body req db).act

/-- The state after a schedule of the calls, from a committed database. -/
def decisions (cfg : Settings) (calls : ℕ → DecideCall) (db : Db) (es : List (ℕ × Time)) :
    Locked.State ℕ ℕ Time DualControlRequest Db DecisionAnswer :=
  run (decideProtocol cfg calls).step (.start db) es

def executions (calls : ℕ → DecideCall)
    (s : Locked.State ℕ ℕ Time DualControlRequest Db DecisionAnswer) (requestId : ℕ) :
    List (Locked.Commit ℕ Time DualControlRequest DecisionAnswer) :=
  s.log.filter fun entry => (calls entry.call).requestId = requestId ∧ entry.answer = .executed

variable {cfg : Settings} {now : Time}

/-! ## A call alone -/

/-- The three steps of a call that nothing interrupts. -/
theorem decide_solo (cfg : Settings) (call : DecideCall) (now : Time) (db : Db) :
    ∃ answer, (decisions cfg (fun _ => call) db [(0, now), (0, now), (0, now)]).phase 0
        = .answered answer
      ∧ decideRequest cfg now call.staff call.requestId call.body db
        = ⟨(decisions cfg (fun _ => call) db [(0, now), (0, now), (0, now)]).db,
            answer.reply⟩ := by
  unfold decideRequest
  cases hreq : db.dualRequests[call.requestId]? with
  | none =>
    refine ⟨.notFound, ?_, ?_⟩ <;>
      simp [decisions, Locked.Protocol.step, Locked.State.start, decideProtocol, hreq, raise,
        DecisionAnswer.reply]
  | some req =>
    cases hverdict : verdict cfg now call.staff call.requestId call.body req db with
    | refused code detail =>
      refine ⟨.refused code detail, ?_, ?_⟩ <;>
        simp [decisions, Locked.Protocol.step, Locked.State.start, decideProtocol, hreq,
          hverdict, Verdict.act, raise, DecisionAnswer.reply]
    | expired writes =>
      refine ⟨.expired, ?_, ?_⟩ <;>
        simp [decisions, Locked.Protocol.step, Locked.State.start, decideProtocol, hreq,
          hverdict, Verdict.act, DecisionAnswer.reply]
    | rejected writes =>
      refine ⟨.rejected, ?_, ?_⟩ <;>
        simp [decisions, Locked.Protocol.step, Locked.State.start, decideProtocol, hreq,
          hverdict, Verdict.act, commit, DecisionAnswer.reply]
    | approved writes =>
      refine ⟨.executed, ?_, ?_⟩ <;>
        simp [decisions, Locked.Protocol.step, Locked.State.start, decideProtocol, hreq,
          hverdict, Verdict.act, commit, DecisionAnswer.reply]

/-! ## What a decision writes to the requests -/

/-- The writes change the row of one request, which they settle when it is `req`. -/
structure Settles (requestId : ℕ) (req : DualControlRequest) (writes : Writes) : Prop where
  frame : ∀ db i, i ≠ requestId → (writes db).dualRequests[i]? = db.dualRequests[i]?
  settled : ∀ db, db.dualRequests[requestId]? = some req →
    ∃ row, (writes db).dualRequests[requestId]? = some row ∧ row.status ≠ .pending

variable {writes : Writes} {req : DualControlRequest}

theorem Settles.modify {requestId : ℕ}
    (f : DualControlRequest → DualControlRequest) (hf : (f req).status ≠ .pending)
    (hwrites : ∀ db, (writes db).dualRequests = db.dualRequests.modify requestId f) :
    Settles requestId req writes := by
  refine ⟨?_, ?_⟩
  · intro db i hi
    rw [hwrites, List.getElem?_modify_ne f _ hi.symm]
  intro db hreq
  refine ⟨f req, ?_, hf⟩
  rw [hwrites, List.getElem?_modify_eq, hreq]
  rfl

/-- An action writes no request. -/
theorem effect_dualRequests {db : Db}
    (h : effect cfg now req db = .ok writes) (committed : Db) :
    (writes committed).dualRequests = committed.dualRequests := by
  cases effect_spec h with
  | offboard t tenant =>
    unfold scheduleOffboardJob
    cases activeJobOf db t with
    | some jobId => rfl
    | none => rfl
  | _ => rfl

theorem settles_approve {staff : StaffContext} {requestId : ℕ} {reason : String} {db : Db}
    (h : approve cfg now staff requestId reason req db = .ok writes) :
    Settles requestId req writes := by
  obtain ⟨done, heffect, rfl⟩ := approve_eq_ok h
  refine .modify (fun row =>
    { decided now staff reason .approved row with
      status := .executed, executedAt := some now }) (by simp) ?_
  intro committed
  simp only [bumpFrom, enqueueOutbox_dualRequests, effect_dualRequests heffect]
  rw [List.modify_modify_eq]
  rfl

/-- A decision that commits is on a pending request, which it settles; an execution has
checked the time and the operator. -/
theorem VerdictSpec.settles {call : DecideCall} {db : Db} {v : Verdict} {answer : DecisionAnswer}
    (h : VerdictSpec cfg now call.staff call.requestId call.body req db v)
    (hact : v.act = .commit writes answer) :
    req.status = .pending ∧ Settles call.requestId req writes
      ∧ (answer = .executed → lapsed now req = false ∧ req.requestedById ≠ call.staff.id) := by
  cases h with
  | refused code detail => cases hact
  | expired hlapsed =>
    cases hact
    refine ⟨?_, .modify (expireIfNeeded now) ?_ fun _ => rfl, fun hne => by cases hne⟩
    · simp only [lapsed, Bool.and_eq_true, decide_eq_true_eq] at hlapsed
      exact hlapsed.1
    · simp [expireIfNeeded, hlapsed]
  | rejected hpending hreject =>
    cases hact
    refine ⟨hpending, .modify (decided now call.staff call.body.reason .rejected) ?_
      fun _ => rfl, fun hne => by cases hne⟩
    simp [decided]
  | approved writes hlapsed hpending hother hyes happrove =>
    cases hact
    exact ⟨hpending, settles_approve happrove, fun _ => ⟨hlapsed, hother⟩⟩

theorem decideProtocol_settles {calls : ℕ → DecideCall} {k : ℕ} {db : Db} {answer : DecisionAnswer}
    (hact : (decideProtocol cfg calls).act k now req db = .commit writes answer) :
    req.status = .pending ∧ Settles (calls k).requestId req writes
      ∧ (answer = .executed → lapsed now req = false ∧ req.requestedById ≠ (calls k).staff.id) :=
  (verdict_spec cfg now (calls k).staff (calls k).requestId (calls k).body req db).settles hact

theorem Verdict.act_ne_refused (v : Verdict) (writes : Writes) (code : ℕ) (detail : String) :
    v.act ≠ .commit writes (.refused code detail) := by
  cases v <;> simp [Verdict.act]

theorem decideProtocol_lawful (cfg : Settings) (calls : ℕ → DecideCall) :
    (decideProtocol cfg calls).Lawful fun req => req.status = .pending := by
  refine ⟨?_, ?_, ?_⟩
  · intro k now req db writes answer hact
    exact (decideProtocol_settles hact).1
  · intro k now req db writes answer hact db' hreq row hrow
    obtain ⟨row', hrow', hsettled⟩ := (decideProtocol_settles hact).2.1.settled db' hreq
    have heq : row' = row := Option.some.inj (hrow'.symm.trans hrow)
    exact heq ▸ hsettled
  intro k now req db writes answer hact db' requestId hne
  exact (decideProtocol_settles hact).2.1.frame db' requestId hne

/-! ## Every schedule -/

/-- The checks of a call pass on the row it holds, and `_execute` raises. -/
structure ExecuteRaises (cfg : Settings) (now : Time) (call : DecideCall)
    (req : DualControlRequest) (db : Db) (code : ℕ) (detail : String) : Prop where
  notLapsed : lapsed now req = false
  pending : req.status = .pending
  reason : strip call.body.reason ≠ ""
  other : req.requestedById ≠ call.staff.id
  approves : call.body.approve = true
  raises : execute cfg now call.requestId (decided now call.staff call.body.reason .approved req)
    db = .error (code, detail)

theorem ExecuteRaises.verdict {call : DecideCall} {db : Db} {code : ℕ}
    {detail : String} (h : ExecuteRaises cfg now call req db code detail) :
    verdict cfg now call.staff call.requestId call.body req db = .refused code detail := by
  have hraises : approve cfg now call.staff call.requestId call.body.reason req db
      = .error (code, detail) := by
    rw [approve, h.raises]
    rfl
  simp only [Control.verdict, h.notLapsed, h.pending, h.reason, h.other, h.approves, hraises,
    ne_eq, not_true_eq_false, Bool.false_eq_true, Bool.not_true, if_false]

section Decisions
variable (cfg : Settings) (calls : ℕ → DecideCall) (db : Db)

theorem executions_le_one (es : List (ℕ × Time)) (requestId : ℕ) :
    (executions calls (decisions cfg calls db es) requestId).length ≤ 1 := by
  obtain ⟨-, horderly⟩ := Locked.Protocol.orderly_run (decideProtocol_lawful cfg calls) db es
  refine horderly.length_le_one (k := requestId) ?_
  intro entry hentry
  rw [decide_eq_true_eq] at hentry
  exact hentry.1

/-- What is executed was pending, in time, and is decided by another operator. -/
theorem executions_checked (es : List (ℕ × Time)) (requestId : ℕ) :
    ∀ x ∈ executions calls (decisions cfg calls db es) requestId,
      db.dualRequests[requestId]? = some x.row ∧ x.row.requestedById ≠ (calls x.call).staff.id
        ∧ x.row.status = .pending ∧ lapsed x.time x.row = false := by
  obtain ⟨-, horderly⟩ := Locked.Protocol.orderly_run (decideProtocol_lawful cfg calls) db es
  intro x hx
  obtain ⟨hmem, hx⟩ := List.mem_filter.1 hx
  rw [decide_eq_true_eq] at hx
  obtain ⟨rfl, hexecuted⟩ := hx
  obtain ⟨hrow, writes, db', hact⟩ := horderly.made x hmem
  obtain ⟨hpending, -, hchecked⟩ := decideProtocol_settles hact
  obtain ⟨hlapsed, hother⟩ := hchecked hexecuted
  exact ⟨hrow, hother, hpending, hlapsed⟩

/-- Once a request is settled it is not executed any more. -/
theorem executions_of_settled (pre post : List (ℕ × Time)) {requestId : ℕ}
    {row : DualControlRequest}
    (hrow : (decisions cfg calls db pre).db.dualRequests[requestId]? = some row)
    (hsettled : row.status ≠ .pending) :
    executions calls (decisions cfg calls db (pre ++ post)) requestId
      = executions calls (decisions cfg calls db pre) requestId := by
  obtain ⟨more, hlog, hmore⟩ := Locked.Protocol.not_logged_of_closed
    (decideProtocol_lawful cfg calls) db pre post hrow hsettled
  have hnone : more.filter (fun entry =>
      (calls entry.call).requestId = requestId ∧ entry.answer = .executed) = [] := by
    rw [List.filter_eq_nil_iff]
    intro entry hmem hentry
    rw [decide_eq_true_eq] at hentry
    exact hmore entry hmem hentry.1
  rw [executions, decisions, hlog, List.filter_append, hnone, List.append_nil]
  rfl

/-- A call that is refused in the end has written nothing at any of its steps. -/
theorem db_of_refused (pre post : List (ℕ × Time)) (k : ℕ) (now : Time) {code : ℕ}
    {detail : String}
    (hanswered : (decisions cfg calls db (pre ++ (k, now) :: post)).phase k
      = .answered (.refused code detail)) :
    (decisions cfg calls db (pre ++ [(k, now)])).db = (decisions cfg calls db pre).db := by
  have hlawful := decideProtocol_lawful cfg calls
  obtain ⟨-, horderly⟩ := Locked.Protocol.orderly_run hlawful db (pre ++ (k, now) :: post)
  have hnot : ∀ entry ∈ (decisions cfg calls db (pre ++ (k, now) :: post)).log,
      entry.call ≠ k := by
    rintro entry hmem rfl
    have hanswer := (horderly.answered entry hmem).symm.trans hanswered
    obtain ⟨-, writes, db', hact⟩ := horderly.made entry hmem
    rw [Locked.Phase.answered.inj hanswer] at hact
    exact Verdict.act_ne_refused _ _ _ _ hact
  rw [decisions, run_append]
  exact Locked.Protocol.db_step_of_not_logged hlawful db pre post (k, now) hnot

/-- A call whose execution raises is refused, and the request stays as it was. -/
theorem refused_of_raises (pre : List (ℕ × Time)) (k : ℕ) (now : Time)
    {req : DualControlRequest} {code : ℕ} {detail : String}
    (hholding : (decisions cfg calls db pre).phase k = .holding req)
    (hraises : ExecuteRaises cfg now (calls k) req (decisions cfg calls db pre).db code detail) :
    (decisions cfg calls db (pre ++ [(k, now)])).phase k = .answered (.refused code detail)
      ∧ (decisions cfg calls db (pre ++ [(k, now)])).db = (decisions cfg calls db pre).db
      ∧ (decisions cfg calls db pre).db.dualRequests[(calls k).requestId]? = some req
      ∧ db.dualRequests[(calls k).requestId]? = some req := by
  obtain ⟨hheld, horderly⟩ := Locked.Protocol.orderly_run (decideProtocol_lawful cfg calls) db pre
  have hrow : (decisions cfg calls db pre).db.dualRequests[(calls k).requestId]? = some req :=
    (hheld.lock k req (congrArg Locked.Phase.row? hholding)).2
  have hact : (decideProtocol cfg calls).act k now req (decisions cfg calls db pre).db
      = .abort (.refused code detail) := congrArg Verdict.act hraises.verdict
  have hstep : decisions cfg calls db (pre ++ [(k, now)])
      = { decisions cfg calls db pre with
          holder := Function.update (decisions cfg calls db pre).holder (calls k).requestId none
          phase := Function.update (decisions cfg calls db pre).phase k
            (.answered (.refused code detail)) } := by
    rw [decisions, run_append, run_cons, run_nil, ← decisions]
    simp only [Locked.Protocol.step, hholding, hact]
    rfl
  rw [hstep]
  exact ⟨Function.update_self k _ _, rfl, hrow,
    (horderly.start_of_open hrow hraises.pending).1⟩

end Decisions

/-- **Dual control is honoured in every schedule** of decisions: a request is executed at
most once, by somebody else than its requester, while it was pending and had not run out;
once it is settled it is not executed any more; a call that answers an error has written
nothing; and when `_execute` raises, the request is as it was from the start. -/
theorem decisions_honoured (cfg : Settings) (calls : ℕ → DecideCall) (db : Db)
    (es : List (ℕ × Time)) :
    (∀ requestId, (executions calls (decisions cfg calls db es) requestId).length ≤ 1)
    ∧ (∀ requestId, ∀ x ∈ executions calls (decisions cfg calls db es) requestId,
      db.dualRequests[requestId]? = some x.row ∧ x.row.requestedById ≠ (calls x.call).staff.id
        ∧ x.row.status = .pending ∧ lapsed x.time x.row = false)
    ∧ (∀ pre post requestId row, es = pre ++ post →
      (decisions cfg calls db pre).db.dualRequests[requestId]? = some row → row.status ≠ .pending →
        executions calls (decisions cfg calls db es) requestId
          = executions calls (decisions cfg calls db pre) requestId)
    ∧ (∀ pre k now post code detail, es = pre ++ (k, now) :: post →
      (decisions cfg calls db es).phase k = .answered (.refused code detail) →
        (decisions cfg calls db (pre ++ [(k, now)])).db = (decisions cfg calls db pre).db)
    ∧ ∀ pre k now post req code detail, es = pre ++ (k, now) :: post →
      (decisions cfg calls db pre).phase k = .holding req →
      ExecuteRaises cfg now (calls k) req (decisions cfg calls db pre).db code detail →
        (decisions cfg calls db (pre ++ [(k, now)])).phase k = .answered (.refused code detail)
        ∧ (decisions cfg calls db (pre ++ [(k, now)])).db = (decisions cfg calls db pre).db
        ∧ (decisions cfg calls db pre).db.dualRequests[(calls k).requestId]? = some req
        ∧ db.dualRequests[(calls k).requestId]? = some req := by
  refine ⟨executions_le_one cfg calls db es, executions_checked cfg calls db es, ?_, ?_, ?_⟩
  · rintro pre post requestId row rfl hrow hsettled
    exact executions_of_settled cfg calls db pre post hrow hsettled
  · rintro pre k now post code detail rfl hanswered
    exact db_of_refused cfg calls db pre post k now hanswered
  intro pre k now post req code detail _ hholding hraises
  exact refused_of_raises cfg calls db pre k now hholding hraises

/-- Where every risky action needs a second operator. -/
def Example.production : Settings := Settings.default "production"

/-- The example school, after an operator asked to blacklist it. -/
def Example.requested : Db :=
  run (step production) {}
    (opened ++ [.staff (day 1) operator (.blacklistTenant 0 { reason := "fraud" })])

/-- Two colleagues approve the request, interleaved; the second waits for the lock. -/
def Example.approvals : ℕ → DecideCall := fun k =>
  { staff := { operator with id := if k = 0 then "2" else "3" }, requestId := 0
    body := { approve := true, reason := "confirmed" } }

def Example.bothApprove : List (ℕ × Time) :=
  [(0, day 1), (1, day 1), (0, day 1), (1, day 1), (0, day 1), (1, day 1), (1, day 1)]

/-- The first colleague's approval is the one execution of the request. -/
theorem decisions_honoured_example :
    ∃ x, executions Example.approvals
        (decisions Example.production Example.approvals Example.requested Example.bothApprove) 0
          = [x]
      ∧ x.call = 0 ∧ x.row.requestedById ≠ "2" := by
  obtain ⟨honce, hchecked, -⟩ := decisions_honoured Example.production Example.approvals
    Example.requested Example.bothApprove
  have hlength : 0 < (executions Example.approvals (decisions Example.production
      Example.approvals Example.requested Example.bothApprove) 0).length := by
    decide
  obtain ⟨x, hx⟩ := List.length_eq_one_iff.1 (Nat.le_antisymm (honce 0) hlength)
  have hcall : x.call = 0 := by
    have hcalls : (executions Example.approvals (decisions Example.production Example.approvals
        Example.requested Example.bothApprove) 0).map (·.call) = [0] := by
      decide
    rw [hx] at hcalls
    exact List.singleton_inj.1 hcalls
  obtain ⟨-, hother, -⟩ := hchecked 0 x (by rw [hx]; exact List.mem_singleton_self x)
  rw [hcall] at hother
  exact ⟨x, hx, hcall, hother⟩

end MultiAcademy.Control
