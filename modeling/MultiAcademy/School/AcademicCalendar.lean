import MultiAcademy.Lib.Keyed
import MultiAcademy.Lib.Run

/-!
# Sessions and terms

The academic calendar of a school: `academic.service.ts` creates, updates and deletes sessions
and terms, and makes one of each the current one.  Each operation clears the other flags of its
own table; only `setCurrentTerm` looks at the other table, to keep the session of the current
term current.
-/

namespace MultiAcademy.School

open MultiAcademy.Lib

/-! ## The tables -/

/-- A row of `academic_sessions`. -/
structure SessionRow where
  id : String
  name : String
  startDate : Option String
  endDate : Option String
  isCurrent : Bool

/-- A row of `academic_terms`. -/
structure TermRow where
  id : String
  sessionId : String
  name : String
  code : String
  startDate : Option String
  endDate : Option String
  isCurrent : Bool

structure AcademicCalendar where
  sessions : Keyed SessionRow.id := .empty
  terms : Keyed TermRow.id := .empty

/-! ## The requests -/

/-- `CreateSessionDto`. -/
structure CreateSession where
  name : String
  startDate : Option String := none
  endDate : Option String := none
  isCurrent : Option Bool := none

/-- `UpdateSessionDto`; of a date and of the flag, `some none` is an explicit null. -/
structure UpdateSession where
  name : Option String := none
  startDate : Option (Option String) := none
  endDate : Option (Option String) := none
  isCurrent : Option (Option Bool) := none

/-- `CreateTermDto`. -/
structure CreateTerm where
  sessionId : String
  name : String
  code : String
  startDate : Option String := none
  endDate : Option String := none
  isCurrent : Option Bool := none

/-- `UpdateTermDto`, which takes no empty session id. -/
structure UpdateTerm where
  sessionId : Option String := none
  name : Option String := none
  code : Option String := none
  startDate : Option (Option String) := none
  endDate : Option (Option String) := none
  isCurrent : Option (Option Bool) := none
  sessionId_ne : sessionId ≠ some "" := by decide

/-- `text || null`. -/
def orNull (text : Option String) : Option String := text.filter fun s => s ≠ ""

/-- `!!flag`. -/
def isTrue (flag : Option Bool) : Bool := flag = some true

/-! ## The operations

Each answers the id, or the message of its exception, with the calendar as it left it. -/

abbrev CalendarAnswer := Except String String × AcademicCalendar

/-- `UPDATE academic_sessions SET is_current = ?` for some rows. -/
def flagSessions (p : SessionRow → Bool) (isCurrent : Bool) (c : AcademicCalendar) :
    AcademicCalendar :=
  { c with sessions := c.sessions.updateWhere p (fun row => { row with isCurrent }) fun _ => rfl }

/-- `UPDATE academic_terms SET is_current = ?` for some rows. -/
def flagTerms (p : TermRow → Bool) (isCurrent : Bool) (c : AcademicCalendar) :
    AcademicCalendar :=
  { c with terms := c.terms.updateWhere p (fun row => { row with isCurrent }) fun _ => rfl }

def insertSession (row : SessionRow) (c : AcademicCalendar) : CalendarAnswer :=
  match c.sessions.insert? row with
  | none => (.error "duplicate key", c)
  | some sessions => (.ok row.id, { c with sessions })

def insertTerm (row : TermRow) (c : AcademicCalendar) : CalendarAnswer :=
  match c.terms.insert? row with
  | none => (.error "duplicate key", c)
  | some terms => (.ok row.id, { c with terms })

/-- `createSession`; `id` is the random token. -/
def createSession (id : String) (body : CreateSession) (c : AcademicCalendar) : CalendarAnswer :=
  let isCurrent := isTrue body.isCurrent
  let c := if isCurrent then flagSessions (fun _ => true) false c else c
  insertSession
    { id, name := body.name, startDate := orNull body.startDate, endDate := orNull body.endDate
      isCurrent } c

/-- The session's flag once the request is merged into the row. -/
def UpdateSession.current (body : UpdateSession) (existing : SessionRow) : Bool :=
  body.isCurrent.elim existing.isCurrent isTrue

def updateSession (id : String) (body : UpdateSession) (c : AcademicCalendar) : CalendarAnswer :=
  match c.sessions.find? id with
  | none => (.error "Session not found", c)
  | some existing =>
    let isCurrent := body.current existing
    let c := if isCurrent then flagSessions (fun row => row.id ≠ id) false c else c
    (.ok id,
      { c with
        sessions := c.sessions.updateWhere (fun row => row.id = id)
          (fun row =>
            { row with
              name := body.name.getD existing.name
              startDate := orNull (body.startDate.getD existing.startDate)
              endDate := orNull (body.endDate.getD existing.endDate)
              isCurrent }) fun _ => rfl })

def deleteSession (id : String) (c : AcademicCalendar) : CalendarAnswer :=
  match c.sessions.find? id with
  | none => (.error "Session not found", c)
  | some _ =>
    (.ok id,
      { terms := c.terms.deleteWhere fun row => row.sessionId = id
        sessions := c.sessions.deleteWhere fun row => row.id = id })

def setCurrentSession (id : String) (c : AcademicCalendar) : CalendarAnswer :=
  match c.sessions.find? id with
  | none => (.error "Session not found", c)
  | some _ =>
    (.ok id, flagSessions (fun row => row.id = id) true (flagSessions (fun _ => true) false c))

/-- `createTerm`; `id` is the random token. -/
def createTerm (id : String) (body : CreateTerm) (c : AcademicCalendar) : CalendarAnswer :=
  match c.sessions.find? body.sessionId with
  | none => (.error "Session not found", c)
  | some _ =>
    let isCurrent := isTrue body.isCurrent
    let c := if isCurrent then flagTerms (fun _ => true) false c else c
    insertTerm
      { id, sessionId := body.sessionId, name := body.name, code := body.code
        startDate := orNull body.startDate, endDate := orNull body.endDate, isCurrent } c

/-- The term's session once the request is merged into the row. -/
def UpdateTerm.session (body : UpdateTerm) (existing : TermRow) : String :=
  body.sessionId.getD existing.sessionId

/-- The term's flag once the request is merged into the row. -/
def UpdateTerm.current (body : UpdateTerm) (existing : TermRow) : Bool :=
  body.isCurrent.elim existing.isCurrent isTrue

def updateTerm (id : String) (body : UpdateTerm) (c : AcademicCalendar) : CalendarAnswer :=
  match c.terms.find? id with
  | none => (.error "Term not found", c)
  | some existing =>
    if (body.sessionId.any fun sessionId => (c.sessions.find? sessionId).isNone) then
      (.error "Session not found", c)
    else
      let isCurrent := body.current existing
      let c := if isCurrent then flagTerms (fun row => row.id ≠ id) false c else c
      (.ok id,
        { c with
          terms := c.terms.updateWhere (fun row => row.id = id)
            (fun row =>
              { row with
                sessionId := body.session existing
                name := body.name.getD existing.name
                code := body.code.getD existing.code
                startDate := orNull (body.startDate.getD existing.startDate)
                endDate := orNull (body.endDate.getD existing.endDate)
                isCurrent }) fun _ => rfl })

def deleteTerm (id : String) (c : AcademicCalendar) : CalendarAnswer :=
  match c.terms.find? id with
  | none => (.error "Term not found", c)
  | some _ => (.ok id, { c with terms := c.terms.deleteWhere fun row => row.id = id })

/-- `setCurrentTerm`, which keeps the session in sync. -/
def setCurrentTerm (id : String) (c : AcademicCalendar) : CalendarAnswer :=
  match c.terms.find? id with
  | none => (.error "Term not found", c)
  | some term =>
    let c := flagTerms (fun row => row.id = id) true (flagTerms (fun _ => true) false c)
    (.ok id,
      flagSessions (fun row => row.id = term.sessionId) true
        (flagSessions (fun _ => true) false c))

inductive CalendarOp
  | createSession (id : String) (body : CreateSession)
  | updateSession (id : String) (body : UpdateSession)
  | deleteSession (id : String)
  | setCurrentSession (id : String)
  | createTerm (id : String) (body : CreateTerm)
  | updateTerm (id : String) (body : UpdateTerm)
  | deleteTerm (id : String)
  | setCurrentTerm (id : String)

def CalendarOp.apply : CalendarOp → AcademicCalendar → CalendarAnswer
  | .createSession id body => School.createSession id body
  | .updateSession id body => School.updateSession id body
  | .deleteSession id => School.deleteSession id
  | .setCurrentSession id => School.setCurrentSession id
  | .createTerm id body => School.createTerm id body
  | .updateTerm id body => School.updateTerm id body
  | .deleteTerm id => School.deleteTerm id
  | .setCurrentTerm id => School.setCurrentTerm id

/-- One operation. -/
def calendarStep (op : CalendarOp) (c : AcademicCalendar) : AcademicCalendar := (op.apply c).2

/-! ## What is current -/

def CurrentSession (c : AcademicCalendar) (id : String) : Prop :=
  ∃ row ∈ c.sessions.rows, row.id = id ∧ row.isCurrent = true

def CurrentTerm (c : AcademicCalendar) (id sessionId : String) : Prop :=
  ∃ row ∈ c.terms.rows, (row.id = id ∧ row.sessionId = sessionId) ∧ row.isCurrent = true

/-- At most one session is current, at most one term is, and its session is the current one. -/
structure Consistent (c : AcademicCalendar) : Prop where
  session : ∀ i j, CurrentSession c i → CurrentSession c j → i = j
  term : ∀ i j σ ρ, CurrentTerm c i σ → CurrentTerm c j ρ → i = j
  inStep : ∀ i σ, CurrentTerm c i σ → CurrentSession c σ

/-- Every term is of a session there is. -/
def Owned (c : AcademicCalendar) : Prop :=
  ∀ row ∈ c.terms.rows, ∃ session ∈ c.sessions.rows, session.id = row.sessionId

def currentTermSessions (c : AcademicCalendar) : List String :=
  (c.terms.rows.filter (·.isCurrent)).map (·.sessionId)

def isCurrentSession (c : AcademicCalendar) (id : String) : Bool :=
  c.sessions.rows.any fun row => row.id = id && row.isCurrent

/-- The operation leaves the current term in the current session: a session is made current,
or stops being it, only with its term, and a current term goes to the current session. -/
def staysInStep (c : AcademicCalendar) : CalendarOp → Bool
  | .createSession _ body => !isTrue body.isCurrent || (currentTermSessions c).isEmpty
  | .updateSession id body =>
    (c.sessions.find? id).all fun existing =>
      (currentTermSessions c).all fun σ => decide (σ = id) == body.current existing
  | .setCurrentSession id =>
    (c.sessions.find? id).isNone || (currentTermSessions c).all fun σ => σ = id
  | .createTerm id body =>
    !isTrue body.isCurrent || (c.sessions.find? body.sessionId).isNone
      || (c.terms.find? id).isSome || isCurrentSession c body.sessionId
  | .updateTerm id body =>
    (c.terms.find? id).all fun existing =>
      (body.sessionId.any fun sessionId => (c.sessions.find? sessionId).isNone)
        || !body.current existing || isCurrentSession c (body.session existing)
  | .deleteSession _ | .deleteTerm _ | .setCurrentTerm _ => true

variable {c : AcademicCalendar} {id : String}

/-! ## What each statement makes current -/

/-- The current session and the current term after an operation. -/
structure Leaves (c : AcademicCalendar) (session : String → Prop)
    (term : String → String → Prop) : Prop where
  session : ∀ i, CurrentSession c i ↔ session i
  term : ∀ i σ, CurrentTerm c i σ ↔ term i σ

theorem mem_currentTermSessions {σ : String} :
    σ ∈ currentTermSessions c ↔ ∃ i, CurrentTerm c i σ := by
  simp only [currentTermSessions, List.mem_map, List.mem_filter, CurrentTerm]
  constructor
  · rintro ⟨row, ⟨hrow, hcurrent⟩, hσ⟩
    exact ⟨row.id, row, hrow, ⟨rfl, hσ⟩, hcurrent⟩
  · rintro ⟨i, row, hrow, ⟨-, hσ⟩, hcurrent⟩
    exact ⟨row, ⟨hrow, hcurrent⟩, hσ⟩

theorem isCurrentSession_iff {σ : String} :
    isCurrentSession c σ = true ↔ CurrentSession c σ := by
  simp [isCurrentSession, CurrentSession]

theorem not_currentSession_clear (i : String) :
    ¬ CurrentSession (flagSessions (fun _ => true) false c) i :=
  Keyed.not_exists_flagged (by intro _; rfl) (by intro _; rfl)

theorem not_currentTerm_clear (i σ : String) :
    ¬ CurrentTerm (flagTerms (fun _ => true) false c) i σ :=
  Keyed.not_exists_flagged (by intro _; rfl) (by intro _; rfl)

theorem find?_flagSessions (p : SessionRow → Bool) (value : Bool) :
    (flagSessions p value c).sessions.find? id = none ↔ c.sessions.find? id = none :=
  Keyed.find?_updateWhere_eq_none (by intro _; rfl)

theorem find?_flagTerms (p : TermRow → Bool) (value : Bool) :
    (flagTerms p value c).terms.find? id = none ↔ c.terms.find? id = none :=
  Keyed.find?_updateWhere_eq_none (by intro _; rfl)

theorem leaves_insertSession (row : SessionRow) (c : AcademicCalendar) :
    Leaves (insertSession row c).2
      (fun i => CurrentSession c i
        ∨ (c.sessions.find? row.id = none ∧ row.id = i ∧ row.isCurrent = true))
      (CurrentTerm c) := by
  simp only [insertSession]
  cases hinsert : c.sessions.insert? row with
  | none =>
    refine ⟨fun i => ?_, fun _ _ => Iff.rfl⟩
    simp [Keyed.insert?_eq_none hinsert]
  | some sessions =>
    refine ⟨fun i => ?_, fun _ _ => Iff.rfl⟩
    rw [(Keyed.insert?_eq_some hinsert).1, eq_self, true_and]
    exact Keyed.exists_flagged_insert hinsert

theorem leaves_insertTerm (row : TermRow) (c : AcademicCalendar) :
    Leaves (insertTerm row c).2 (CurrentSession c)
      (fun i σ => CurrentTerm c i σ
        ∨ (c.terms.find? row.id = none ∧ (row.id = i ∧ row.sessionId = σ)
          ∧ row.isCurrent = true)) := by
  simp only [insertTerm]
  cases hinsert : c.terms.insert? row with
  | none =>
    refine ⟨fun _ => Iff.rfl, fun i σ => ?_⟩
    simp [Keyed.insert?_eq_none hinsert]
  | some terms =>
    refine ⟨fun _ => Iff.rfl, fun i σ => ?_⟩
    rw [(Keyed.insert?_eq_some hinsert).1, eq_self, true_and]
    exact Keyed.exists_flagged_insert hinsert

theorem leaves_createSession (id : String) (body : CreateSession) (c : AcademicCalendar) :
    Leaves (createSession id body c).2
      (fun i => if isTrue body.isCurrent then (c.sessions.find? id = none ∧ id = i)
        else CurrentSession c i) (CurrentTerm c) := by
  unfold createSession
  dsimp only
  cases hcurrent : isTrue body.isCurrent with
  | false =>
    obtain ⟨hsession, hterm⟩ := leaves_insertSession
      { id, name := body.name, startDate := orNull body.startDate
        endDate := orNull body.endDate, isCurrent := false } c
    exact ⟨fun i => (hsession i).trans (by simp), hterm⟩
  | true =>
    obtain ⟨hsession, hterm⟩ := leaves_insertSession
      { id, name := body.name, startDate := orNull body.startDate
        endDate := orNull body.endDate, isCurrent := true }
      (flagSessions (fun _ => true) false c)
    refine ⟨fun i => (hsession i).trans ?_, hterm⟩
    simp [not_currentSession_clear, find?_flagSessions]

variable {existing : SessionRow}

theorem leaves_createTerm (id : String) {body : CreateTerm}
    (h : c.sessions.find? body.sessionId = some existing) :
    Leaves (createTerm id body c).2 (CurrentSession c)
      (fun i σ => if isTrue body.isCurrent then
          (c.terms.find? id = none ∧ id = i ∧ body.sessionId = σ)
        else CurrentTerm c i σ) := by
  simp only [createTerm]
  rw [h]
  dsimp only
  cases hcurrent : isTrue body.isCurrent with
  | false =>
    obtain ⟨hsession, hterm⟩ := leaves_insertTerm
      { id, sessionId := body.sessionId, name := body.name, code := body.code
        startDate := orNull body.startDate, endDate := orNull body.endDate
        isCurrent := false } c
    exact ⟨hsession, fun i σ => (hterm i σ).trans (by simp)⟩
  | true =>
    obtain ⟨hsession, hterm⟩ := leaves_insertTerm
      { id, sessionId := body.sessionId, name := body.name, code := body.code
        startDate := orNull body.startDate, endDate := orNull body.endDate
        isCurrent := true } (flagTerms (fun _ => true) false c)
    refine ⟨hsession, fun i σ => (hterm i σ).trans ?_⟩
    simp [not_currentTerm_clear, find?_flagTerms]

theorem leaves_updateSession (body : UpdateSession)
    (h : c.sessions.find? id = some existing) :
    Leaves (updateSession id body c).2
      (fun i => if body.current existing then id = i else i ≠ id ∧ CurrentSession c i)
      (CurrentTerm c) := by
  obtain ⟨hrow, hid⟩ := Keyed.find?_eq_some.1 h
  rw [updateSession, h]
  dsimp only
  cases hcurrent : body.current existing with
  | false =>
    refine ⟨fun i => ?_, fun i σ => Iff.rfl⟩
    simp only [CurrentSession, Bool.false_eq_true, if_false]
    refine (Keyed.exists_flagged_cleared (by intro _; rfl) (by intro _; rfl)).trans ?_
    exact Keyed.exists_and_iff fun row hi => by rw [hi]
  | true =>
    refine ⟨fun i => ?_, fun i σ => Iff.rfl⟩
    refine (Keyed.exists_flagged_single (by simp) hrow hid (by intro _; rfl)
      (by intro _; rfl) (by intro _; rfl) (by intro _; rfl)).trans ?_
    simp [hid]

theorem leaves_setCurrentSession
    (h : c.sessions.find? id = some existing) :
    Leaves (setCurrentSession id c).2 (fun i => id = i) (CurrentTerm c) := by
  obtain ⟨hrow, hid⟩ := Keyed.find?_eq_some.1 h
  rw [setCurrentSession, h]
  refine ⟨fun i => ?_, fun i σ => Iff.rfl⟩
  refine (Keyed.exists_flagged_single (by simp) hrow hid (by intro _; rfl)
    (by intro _; rfl) (by intro _; rfl) (by intro _; rfl)).trans ?_
  simp [hid]

theorem leaves_deleteSession (h : c.sessions.find? id = some existing) :
    Leaves (deleteSession id c).2 (fun i => i ≠ id ∧ CurrentSession c i)
      (fun i σ => σ ≠ id ∧ CurrentTerm c i σ) := by
  rw [deleteSession, h]
  refine ⟨fun i => ?_, fun i σ => ?_⟩
  · simp only [CurrentSession, Keyed.exists_deleteWhere, decide_eq_false_iff_not]
    exact Keyed.exists_and_iff fun row hi => by rw [hi]
  · simp only [CurrentTerm, Keyed.exists_deleteWhere, decide_eq_false_iff_not]
    exact Keyed.exists_and_iff fun row hi => by rw [hi.2]

theorem leaves_updateTerm {existing : TermRow} {body : UpdateTerm}
    (h : c.terms.find? id = some existing)
    (hsession : (body.sessionId.any fun sessionId => (c.sessions.find? sessionId).isNone) = false) :
    Leaves (updateTerm id body c).2 (CurrentSession c)
      (fun i σ => if body.current existing then id = i ∧ body.session existing = σ
        else i ≠ id ∧ CurrentTerm c i σ) := by
  obtain ⟨hrow, hid⟩ := Keyed.find?_eq_some.1 h
  rw [updateTerm, h]
  dsimp only
  rw [hsession]
  cases hcurrent : body.current existing with
  | false =>
    refine ⟨fun i => Iff.rfl, fun i σ => ?_⟩
    simp only [CurrentTerm, Bool.false_eq_true, if_false]
    refine (Keyed.exists_flagged_cleared (by intro _; rfl) (by intro _; rfl)).trans ?_
    exact Keyed.exists_and_iff fun row hi => by rw [hi.1]
  | true =>
    refine ⟨fun i => Iff.rfl, fun i σ => ?_⟩
    refine (Keyed.exists_flagged_single (by simp) hrow hid (by intro _; rfl)
      (by intro _; rfl) (by intro _; rfl) (by intro _; rfl)).trans ?_
    simp [hid]

theorem leaves_deleteTerm {existing : TermRow} (h : c.terms.find? id = some existing) :
    Leaves (deleteTerm id c).2 (CurrentSession c) (fun i σ => i ≠ id ∧ CurrentTerm c i σ) := by
  rw [deleteTerm, h]
  refine ⟨fun i => Iff.rfl, fun i σ => ?_⟩
  simp only [CurrentTerm, Keyed.exists_deleteWhere, decide_eq_false_iff_not]
  exact Keyed.exists_and_iff fun row hi => by rw [hi.1]

theorem leaves_setCurrentTerm {existing : TermRow} {session : SessionRow}
    (h : c.terms.find? id = some existing)
    (hsession : c.sessions.find? existing.sessionId = some session) :
    Leaves (setCurrentTerm id c).2 (fun i => existing.sessionId = i)
      (fun i σ => id = i ∧ existing.sessionId = σ) := by
  obtain ⟨hrow, hid⟩ := Keyed.find?_eq_some.1 h
  obtain ⟨hrow', hid'⟩ := Keyed.find?_eq_some.1 hsession
  rw [setCurrentTerm, h]
  refine ⟨fun i => ?_, fun i σ => ?_⟩
  · refine (Keyed.exists_flagged_single (by simp) hrow' hid' (by intro _; rfl)
      (by intro _; rfl) (by intro _; rfl) (by intro _; rfl)).trans ?_
    simp [hid']
  refine (Keyed.exists_flagged_single (by simp) hrow hid (by intro _; rfl)
    (by intro _; rfl) (by intro _; rfl) (by intro _; rfl)).trans ?_
  simp [hid]

/-! ## Terms keep a session -/

/-- The sessions keep their ids, and every term is of a session that one had, or that there was. -/
theorem owned_of {c' : AcademicCalendar} (h : Owned c)
    (hsession : ∀ s ∈ c.sessions.rows, ∃ s' ∈ c'.sessions.rows, s'.id = s.id)
    (hterm : ∀ row ∈ c'.terms.rows, (∃ r ∈ c.terms.rows, r.sessionId = row.sessionId)
      ∨ ∃ s ∈ c.sessions.rows, s.id = row.sessionId) : Owned c' := by
  intro row hrow
  have hbefore : ∃ s ∈ c.sessions.rows, s.id = row.sessionId := by
    rcases hterm row hrow with ⟨r, hr, hσ⟩ | hs
    · rw [← hσ]
      exact h r hr
    · exact hs
  obtain ⟨s, hs, hid⟩ := hbefore
  obtain ⟨s', hs', hid'⟩ := hsession s hs
  exact ⟨s', hs', hid'.trans hid⟩

theorem owned_updateSessions (h : Owned c) {p : SessionRow → Bool} {f : SessionRow → SessionRow}
    (hf : ∀ row, (f row).id = row.id) :
    Owned { c with sessions := c.sessions.updateWhere p f hf } :=
  owned_of h (fun _ hs => Keyed.exists_key_updateWhere hf hs) fun row hrow =>
    Or.inl ⟨row, hrow, rfl⟩

theorem owned_updateTerms (h : Owned c) {p : TermRow → Bool} {f : TermRow → TermRow}
    (hf : ∀ row, (f row).id = row.id)
    (hsession : ∀ row ∈ c.terms.rows, p row = true →
      ∃ s ∈ c.sessions.rows, s.id = (f row).sessionId) :
    Owned { c with terms := c.terms.updateWhere p f hf } := by
  refine owned_of h (fun s hs => ⟨s, hs, rfl⟩) fun row hrow => ?_
  obtain ⟨r, hr, hrow⟩ := (Keyed.mem_updateWhere hf).1 hrow
  split at hrow
  · rename_i hp
    exact Or.inr (hrow ▸ hsession r hr hp)
  · exact Or.inl ⟨r, hr, hrow ▸ rfl⟩

theorem owned_flagTerms (h : Owned c) (p : TermRow → Bool) (value : Bool) :
    Owned (flagTerms p value c) :=
  owned_updateTerms h (by intro _; rfl) fun row hrow _ => h row hrow

theorem owned_insertSession (h : Owned c) (row : SessionRow) : Owned (insertSession row c).2 := by
  simp only [insertSession]
  cases hinsert : c.sessions.insert? row with
  | none => exact h
  | some sessions =>
    refine owned_of h (fun s hs => ⟨s, ?_, rfl⟩) fun r hr => Or.inl ⟨r, hr, rfl⟩
    exact ((Keyed.insert?_eq_some hinsert).2 s).2 (Or.inl hs)

theorem owned_insertTerm (h : Owned c) {row : TermRow} {session : SessionRow}
    (hsession : session ∈ c.sessions.rows) (hid : session.id = row.sessionId) :
    Owned (insertTerm row c).2 := by
  simp only [insertTerm]
  cases hinsert : c.terms.insert? row with
  | none => exact h
  | some terms =>
    refine owned_of h (fun s hs => ⟨s, hs, rfl⟩) fun r hr => ?_
    rcases ((Keyed.insert?_eq_some hinsert).2 r).1 hr with hr | rfl
    · exact Or.inl ⟨r, hr, rfl⟩
    · exact Or.inr ⟨session, hsession, hid⟩

theorem owned_step (op : CalendarOp) (h : Owned c) : Owned (calendarStep op c) := by
  cases op with
  | createSession id body =>
    show Owned (createSession id body c).2
    unfold createSession
    dsimp only
    split
    · exact owned_insertSession (owned_updateSessions h (by intro _; rfl)) _
    · exact owned_insertSession h _
  | updateSession id body =>
    show Owned (updateSession id body c).2
    simp only [updateSession]
    split
    · exact h
    dsimp only
    split
    · exact owned_updateSessions (owned_updateSessions h (by intro _; rfl)) (by intro _; rfl)
    · exact owned_updateSessions h (by intro _; rfl)
  | deleteSession id =>
    show Owned (deleteSession id c).2
    simp only [deleteSession]
    split
    · exact h
    intro row hrow
    obtain ⟨hrow, hne⟩ := Keyed.mem_deleteWhere.1 hrow
    obtain ⟨s, hs, hid⟩ := h row hrow
    refine ⟨s, Keyed.mem_deleteWhere.2 ⟨hs, ?_⟩, hid⟩
    rw [hid]
    exact hne
  | setCurrentSession id =>
    show Owned (setCurrentSession id c).2
    simp only [setCurrentSession]
    split
    · exact h
    · exact owned_updateSessions (owned_updateSessions h (by intro _; rfl)) (by intro _; rfl)
  | createTerm id body =>
    show Owned (createTerm id body c).2
    unfold createTerm
    split
    · exact h
    rename_i session hsession
    obtain ⟨hmem, hid⟩ := Keyed.find?_eq_some.1 hsession
    dsimp only
    split
    · exact owned_insertTerm (owned_flagTerms h _ _) hmem hid
    · exact owned_insertTerm h hmem hid
  | updateTerm id body =>
    show Owned (updateTerm id body c).2
    simp only [updateTerm]
    split
    · exact h
    rename_i existing hexisting
    split
    · exact h
    rename_i hfound
    -- the session of the term after the update: the one that was looked up, or its own
    have hsession : ∃ s ∈ c.sessions.rows, s.id = body.session existing := by
      simp only [UpdateTerm.session]
      cases hbody : body.sessionId with
      | none => exact h existing (Keyed.find?_eq_some.1 hexisting).1
      | some σ =>
        cases hσ : c.sessions.find? σ with
        | none => simp [hbody, hσ] at hfound
        | some s => exact ⟨s, Keyed.find?_eq_some.1 hσ⟩
    dsimp only
    split
    · exact owned_updateTerms (owned_flagTerms h _ _) (by intro _; rfl)
        fun _ _ _ => hsession
    · exact owned_updateTerms h (by intro _; rfl) fun _ _ _ => hsession
  | deleteTerm id =>
    show Owned (deleteTerm id c).2
    simp only [deleteTerm]
    split
    · exact h
    · refine owned_of h (fun s hs => ⟨s, hs, rfl⟩) fun row hrow => Or.inl ⟨row, ?_, rfl⟩
      exact (Keyed.mem_deleteWhere.1 hrow).1
  | setCurrentTerm id =>
    show Owned (setCurrentTerm id c).2
    simp only [setCurrentTerm]
    split
    · exact h
    · exact owned_updateSessions (owned_updateSessions
        (owned_flagTerms (owned_flagTerms h _ _) _ _) (by intro _; rfl)) (by intro _; rfl)

/-! ## One operation -/

theorem Leaves.consistent_iff {session : String → Prop} {term : String → String → Prop}
    (h : Leaves c session term) :
    Consistent c ↔ (∀ i j, session i → session j → i = j)
      ∧ (∀ i j σ ρ, term i σ → term j ρ → i = j) ∧ ∀ i σ, term i σ → session σ := by
  constructor
  · rintro ⟨hsession, hterm, hstep⟩
    simp only [h.session, h.term] at hsession hterm hstep
    exact ⟨hsession, hterm, hstep⟩
  rintro ⟨hsession, hterm, hstep⟩
  constructor
  · simpa only [h.session] using hsession
  · simpa only [h.term] using hterm
  · simpa only [h.session, h.term] using hstep

theorem all_currentTermSessions {p : String → Bool} :
    (currentTermSessions c).all p = true ↔ ∀ i σ, CurrentTerm c i σ → p σ = true := by
  rw [List.all_eq_true]
  constructor
  · intro h i σ hterm
    exact h σ (mem_currentTermSessions.2 ⟨i, hterm⟩)
  intro h σ hσ
  obtain ⟨i, hterm⟩ := mem_currentTermSessions.1 hσ
  exact h i σ hterm

theorem isEmpty_currentTermSessions :
    (currentTermSessions c).isEmpty = true ↔ ∀ i σ, ¬ CurrentTerm c i σ := by
  rw [List.isEmpty_iff, List.eq_nil_iff_forall_not_mem]
  constructor
  · intro h i σ hterm
    exact h σ (mem_currentTermSessions.2 ⟨i, hterm⟩)
  intro h σ hσ
  obtain ⟨i, hterm⟩ := mem_currentTermSessions.1 hσ
  exact h i σ hterm

theorem CurrentSession.find? (h : CurrentSession c id) : c.sessions.find? id ≠ none := by
  obtain ⟨row, hrow, hid, -⟩ := h
  intro hnone
  exact Keyed.find?_eq_none.1 hnone row hrow hid

theorem consistent_createSession (body : CreateSession) (h : Consistent c) :
    Consistent (createSession id body c).2
      ↔ staysInStep c (.createSession id body) = true := by
  refine (leaves_createSession id body c).consistent_iff.trans ?_
  cases hcurrent : isTrue body.isCurrent with
  | false =>
    simp only [staysInStep, hcurrent, Bool.false_eq_true, if_false, Bool.not_false,
      Bool.true_or, iff_true]
    exact ⟨h.session, h.term, h.inStep⟩
  | true =>
    simp only [staysInStep, hcurrent, if_true, Bool.not_true, Bool.false_or,
      isEmpty_currentTermSessions]
    constructor
    · rintro ⟨-, -, hstep⟩ i σ hterm
      -- the term's session has a row, and the id of the new one is free
      obtain ⟨hfree, rfl⟩ := hstep i σ hterm
      exact (h.inStep i _ hterm).find? hfree
    intro hnone
    refine ⟨fun i j hi hj => hi.2.symm.trans hj.2, h.term, fun i σ hterm => ?_⟩
    exact absurd hterm (hnone i σ)

theorem consistent_updateSession (body : UpdateSession) (h : Consistent c) :
    Consistent (updateSession id body c).2
      ↔ staysInStep c (.updateSession id body) = true := by
  cases hfind : c.sessions.find? id with
  | none => simp [updateSession, staysInStep, hfind, h]
  | some existing =>
    refine (leaves_updateSession body hfind).consistent_iff.trans ?_
    simp only [staysInStep, hfind, Option.all_some, all_currentTermSessions]
    cases body.current existing with
    | false =>
      simp only [Bool.false_eq_true, if_false, beq_false, Bool.not_eq_true',
        decide_eq_false_iff_not]
      constructor
      · rintro ⟨-, -, hstep⟩ i σ hterm
        exact (hstep i σ hterm).1
      intro hne
      refine ⟨fun i j hi hj => h.session i j hi.2 hj.2, h.term, fun i σ hterm => ?_⟩
      exact ⟨hne i σ hterm, h.inStep i σ hterm⟩
    | true =>
      simp only [if_true, beq_true, decide_eq_true_eq]
      constructor
      · rintro ⟨-, -, hstep⟩ i σ hterm
        exact (hstep i σ hterm).symm
      intro heq
      refine ⟨fun i j hi hj => hi.symm.trans hj, h.term, fun i σ hterm => ?_⟩
      exact (heq i σ hterm).symm

theorem consistent_deleteSession (h : Consistent c) : Consistent (deleteSession id c).2 := by
  cases hfind : c.sessions.find? id with
  | none => simp [deleteSession, hfind, h]
  | some existing =>
    refine (leaves_deleteSession hfind).consistent_iff.2 ⟨?_, ?_, ?_⟩
    · intro i j hi hj
      exact h.session i j hi.2 hj.2
    · intro i j σ ρ hi hj
      exact h.term i j σ ρ hi.2 hj.2
    -- a term that stays is of a session that stays
    intro i σ hterm
    exact ⟨hterm.1, h.inStep i σ hterm.2⟩

theorem consistent_setCurrentSession (h : Consistent c) :
    Consistent (setCurrentSession id c).2 ↔ staysInStep c (.setCurrentSession id) = true := by
  cases hfind : c.sessions.find? id with
  | none => simp [setCurrentSession, staysInStep, hfind, h]
  | some existing =>
    refine (leaves_setCurrentSession hfind).consistent_iff.trans ?_
    simp only [staysInStep, hfind, Option.isNone_some, Bool.false_or, all_currentTermSessions,
      decide_eq_true_eq]
    constructor
    · rintro ⟨-, -, hstep⟩ i σ hterm
      exact (hstep i σ hterm).symm
    intro heq
    refine ⟨fun i j hi hj => hi.symm.trans hj, h.term, fun i σ hterm => ?_⟩
    exact (heq i σ hterm).symm

theorem consistent_createTerm (body : CreateTerm) (h : Consistent c) :
    Consistent (createTerm id body c).2 ↔ staysInStep c (.createTerm id body) = true := by
  cases hfind : c.sessions.find? body.sessionId with
  | none => simp [createTerm, staysInStep, hfind, h]
  | some existing =>
    refine (leaves_createTerm id hfind).consistent_iff.trans ?_
    simp only [staysInStep, hfind, Option.isNone_some, Bool.or_false]
    cases isTrue body.isCurrent with
    | false =>
      simp only [Bool.false_eq_true, if_false, Bool.not_false, Bool.true_or, iff_true]
      exact ⟨h.session, h.term, h.inStep⟩
    | true =>
      simp only [if_true, Bool.not_true, Bool.false_or, Bool.or_eq_true,
        Option.isSome_iff_ne_none, isCurrentSession_iff]
      constructor
      · rintro ⟨-, -, hstep⟩
        by_cases hfree : c.terms.find? id = none
        · exact Or.inr (hstep id body.sessionId ⟨hfree, rfl, rfl⟩)
        · exact Or.inl hfree
      intro hused
      refine ⟨h.session, fun i j σ ρ hi hj => hi.2.1.symm.trans hj.2.1, ?_⟩
      rintro i σ ⟨hfree, -, rfl⟩
      exact hused.resolve_left fun hused => hused hfree

theorem consistent_updateTerm (body : UpdateTerm) (h : Consistent c) :
    Consistent (updateTerm id body c).2 ↔ staysInStep c (.updateTerm id body) = true := by
  cases hfind : c.terms.find? id with
  | none => simp [updateTerm, staysInStep, hfind, h]
  | some existing =>
    cases hsession : body.sessionId.any fun sessionId => (c.sessions.find? sessionId).isNone with
    | true => simp [updateTerm, staysInStep, hfind, hsession, h]
    | false =>
      refine (leaves_updateTerm hfind hsession).consistent_iff.trans ?_
      simp only [staysInStep, hfind, Option.all_some, hsession, Bool.false_or]
      cases body.current existing with
      | false =>
        simp only [Bool.false_eq_true, if_false, Bool.not_false, Bool.true_or, iff_true]
        refine ⟨h.session, fun i j σ ρ hi hj => h.term i j σ ρ hi.2 hj.2, ?_⟩
        intro i σ hterm
        exact h.inStep i σ hterm.2
      | true =>
        simp only [if_true, Bool.not_true, Bool.false_or, isCurrentSession_iff]
        constructor
        · rintro ⟨-, -, hstep⟩
          exact hstep id _ ⟨rfl, rfl⟩
        intro hcurrent
        refine ⟨h.session, fun i j σ ρ hi hj => hi.1.symm.trans hj.1, ?_⟩
        rintro i σ ⟨-, rfl⟩
        exact hcurrent

theorem consistent_deleteTerm (h : Consistent c) : Consistent (deleteTerm id c).2 := by
  cases hfind : c.terms.find? id with
  | none => simp [deleteTerm, hfind, h]
  | some existing =>
    refine (leaves_deleteTerm hfind).consistent_iff.2 ⟨h.session, ?_, ?_⟩
    · intro i j σ ρ hi hj
      exact h.term i j σ ρ hi.2 hj.2
    · intro i σ hterm
      exact h.inStep i σ hterm.2

theorem consistent_setCurrentTerm (h : Consistent c) (howned : Owned c) :
    Consistent (setCurrentTerm id c).2 := by
  cases hfind : c.terms.find? id with
  | none => simp [setCurrentTerm, hfind, h]
  | some existing =>
    obtain ⟨session, hsession⟩ := howned existing (Keyed.find?_eq_some.1 hfind).1
    refine (leaves_setCurrentTerm hfind (Keyed.find?_eq_some.2 hsession)).consistent_iff.2
      ⟨?_, ?_, ?_⟩
    · intro i j hi hj
      exact hi.symm.trans hj
    · intro i j σ ρ hi hj
      exact hi.1.symm.trans hj.1
    · intro i σ hterm
      exact hterm.2

/-- An operation keeps the calendar consistent iff it stays in step. -/
theorem consistent_step_iff (op : CalendarOp) (h : Consistent c) (howned : Owned c) :
    Consistent (calendarStep op c) ↔ staysInStep c op = true := by
  cases op with
  | createSession id body => exact consistent_createSession body h
  | updateSession id body => exact consistent_updateSession body h
  | deleteSession id => exact iff_of_true (consistent_deleteSession h) rfl
  | setCurrentSession id => exact consistent_setCurrentSession h
  | createTerm id body => exact consistent_createTerm body h
  | updateTerm id body => exact consistent_updateTerm body h
  | deleteTerm id => exact iff_of_true (consistent_deleteTerm h) rfl
  | setCurrentTerm id => exact iff_of_true (consistent_setCurrentTerm h howned) rfl

/-- **The calendar.**  In a run of the operations, from a calendar that is consistent and whose
terms have their sessions, every calendar is consistent iff every operation stays in step. -/
theorem calendar_consistent_iff (c : AcademicCalendar) (hc : Consistent c) (howned : Owned c)
    (ops : List CalendarOp) :
    (∀ pre, pre <+: ops → Consistent (run calendarStep c pre))
      ↔ Along calendarStep (fun c op => staysInStep c op = true) c ops := by
  refine (along_iff_throughout_with (J := Owned) (D := fun _ _ => True)
    (fun c op _ _ ho => owned_step op ho) (fun c op _ hI ho => consistent_step_iff op hI ho)
    (along_of_forall fun _ _ => trivial) hc howned).symm

namespace Example

/-- A current session with a current term. -/
def firstTerm : List CalendarOp :=
  [.createSession "sess_a" { name := "2024/2025", isCurrent := some true },
   .createTerm "term_a" { sessionId := "sess_a", name := "First Term", code := "first"
                          isCurrent := some true }]

end Example

theorem calendar_consistent_iff_example :
    Consistent (run calendarStep {} (Example.firstTerm ++ [.setCurrentTerm "term_a"])) := by
  refine (calendar_consistent_iff {} ?_ ?_ _).2 ?_ _ (List.prefix_refl _)
  · constructor <;> simp [CurrentSession, CurrentTerm]
  · intro row hrow
    cases hrow
  · decide

/-- Once the next session is made the current one, the current term is not of it. -/
theorem not_calendar_consistent :
    ¬ ∀ ops : List CalendarOp, Consistent (run calendarStep {} ops) := by
  intro h
  have hops := h (Example.firstTerm ++
    [.createSession "sess_b" { name := "2025/2026" }, .setCurrentSession "sess_b"])
  obtain ⟨i, hterm⟩ := mem_currentTermSessions.1
    (show "sess_a" ∈ currentTermSessions (run calendarStep {} (Example.firstTerm ++
      [.createSession "sess_b" { name := "2025/2026" }, .setCurrentSession "sess_b"])) by
      decide)
  exact absurd (isCurrentSession_iff.2 (hops.inStep i _ hterm)) (by decide)

end MultiAcademy.School
