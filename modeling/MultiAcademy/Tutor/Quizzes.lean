import MultiAcademy.Control.Schema
import MultiAcademy.Lib.Answers
import MultiAcademy.Lib.Keyed
import MultiAcademy.Lib.Run

/-!
# The tutor's quizzes

`agents/tutor_graph.py` explains a topic, and puts a question when the model's output holds one;
`grade_quiz` compares an answer with the question that the session keeps, and
`services/mastery.py` counts the attempt.  The session keeps its question after it was answered,
and through turns that put none, and nothing asks whether it was answered.
-/

namespace MultiAcademy.Tutor

open MultiAcademy.Lib MultiAcademy.Control

/-! ## What the model writes -/

/-- What `json.loads` gives. -/
inductive Json
  | none
  | bool (value : Bool)
  | number (value : ℚ)
  | text (value : String)
  | list (values : List Json)
  | dict (fields : List (String × Json))

abbrev JsonDict := List (String × Json)

namespace Json

/-- The value counts as true. -/
def truthy : Json → Bool
  | .none => false
  | .bool value => value
  | .number value => value ≠ 0
  | .text value => value ≠ ""
  | .list values => !values.isEmpty
  | .dict fields => !fields.isEmpty

def isNone : Json → Bool
  | .none => true
  | _ => false

def get (key : String) (fields : JsonDict) : Json := (fields.lookup key).getD .none

/-- `fields[key] = value`. -/
def set (key : String) (value : Json) (fields : JsonDict) : JsonDict :=
  if fields.any fun field => field.1 = key then
    fields.map fun field => if field.1 = key then (key, value) else field
  else fields ++ [(key, value)]

def asText : Json → Option String
  | .text value => some value
  | _ => Option.none

end Json

/-- `_parse_quiz`, of the dictionary between the first and the last brace, if that is one. -/
def parseQuiz (loaded : Option JsonDict) : Option JsonDict := do
  let parsed ← loaded
  if (Json.get "question" parsed).truthy && (Json.get "options" parsed).truthy then
    let renamed := (Json.get "correctValue" parsed).isNone
      && !(Json.get "correct_value" parsed).isNone
    let parsed := if renamed then Json.set "correctValue" (Json.get "correct_value" parsed) parsed
      else parsed
    if (Json.get "correctValue" parsed).truthy then some parsed else none
  else none

structure TutorQuizOption where
  label : String
  value : String
  deriving DecidableEq

structure TutorQuiz where
  question : String
  options : List TutorQuizOption
  correctValue : String
  deriving DecidableEq

def validateOption : Json → Option TutorQuizOption
  | .dict fields => do
    let label ← (Json.get "label" fields).asText
    let value ← (Json.get "value" fields).asText
    return { label, value }
  | _ => none

/-- `TutorQuiz.model_validate`. -/
def validateQuiz (fields : JsonDict) : Option TutorQuiz := do
  let question ← (Json.get "question" fields).asText
  let options ← match Json.get "options" fields with
    | .list values => values.mapM validateOption
    | _ => none
  let correctValue ← (Json.get "correctValue" fields).asText
  return { question, options, correctValue }

/-! ## Tables -/

/-- `RequestContext`. -/
structure TutorContext where
  tenantId : String
  actorId : String
  deriving DecidableEq

inductive SessionState
  | explain | quiz | feedback
  deriving DecidableEq

/-- A row of `ai_tutor_sessions`. -/
structure TutorSession where
  tenantId : String
  studentId : String
  subjectId : Option String
  topic : String
  state : SessionState := .explain
  quizJson : Option JsonDict := none

/-- A row of `ai_topic_mastery`, without the percentage. -/
structure TopicMastery where
  tenantId : String
  studentId : String
  subjectId : Option String
  topicKey : String
  attemptCount : ℕ
  correctCount : ℕ
  deriving DecidableEq

/-- What `record_quiz_result` looks for a row by. -/
def TopicMastery.key (row : TopicMastery) : String × String × String :=
  (row.tenantId, row.studentId, row.topicKey)

/-- The tables, and a log of the quizzes that were presented and the answers that were counted, by
session, the newest first. -/
structure TutorStores where
  sessions : Table TutorSession := []
  mastery : Keyed TopicMastery.key := .empty
  log : List (LogEntry ℕ JsonDict) := []

/-- How the server strips and lowers texts. -/
structure TextRules where
  strip : String → String := Control.strip
  lower : String → String := Control.lower

/-! ## A turn -/

/-- `TutorChatRequest`. -/
structure TutorChat where
  message : String
  sessionId : Option ℕ := none
  subjectId : Option String := none
  topic : Option String := none

/-- What the model writes in a turn: the explanation, and what `json.loads` makes of the quiz. -/
structure ModelTurn where
  explain : String
  quiz : Option JsonDict

/-- `TutorChatResponse`, without the sources and the provider. -/
structure TutorReply where
  sessionId : ℕ
  content : String
  state : SessionState
  quiz : Option TutorQuiz := none
  deriving DecidableEq

def ownSession (ctx : TutorContext) (id : ℕ) (d : TutorStores) : Option TutorSession :=
  d.sessions[id]?.filter fun session =>
    session.tenantId = ctx.tenantId && session.studentId = ctx.actorId

/-- `value or default`. -/
def orDefault (value default : String) : String := if value = "" then default else value

/-- The row that `_get_or_create_session` inserts. -/
def newSession (rules : TextRules) (ctx : TutorContext) (payload : TutorChat) : TutorSession :=
  { tenantId := ctx.tenantId
    studentId := ctx.actorId
    subjectId := payload.subjectId
    topic := orDefault
      (rules.strip (orDefault (payload.topic.getD "") (truncate 120 payload.message)))
      "General revision" }

def getOrCreateSession (rules : TextRules) (ctx : TutorContext) (payload : TutorChat)
    (d : TutorStores) : TutorStores × ℕ :=
  match payload.sessionId.filter fun id => (ownSession ctx id d).isSome with
  | some id => (d, id)
  | none => ({ d with sessions := d.sessions.insert (newSession rules ctx payload) },
      d.sessions.nextId)

/-- A turn without a quiz keeps the one that the session has. -/
def explainOnly (id : ℕ) (d : TutorStores) : TutorStores :=
  { d with sessions := d.sessions.modify id fun session => { session with state := .explain } }

def presentQuiz (id : ℕ) (quiz : JsonDict) (d : TutorStores) : TutorStores :=
  { d with
    sessions := d.sessions.modify id fun session =>
      { session with quizJson := some quiz, state := .quiz }
    log := .asked id quiz :: d.log }

/-- `run_turn`: a turn that fails leaves nothing. -/
def runTurn (rules : TextRules) (ctx : TutorContext) (payload : TutorChat)
    (turn : Option ModelTurn) (d : TutorStores) : TutorStores × Except String TutorReply :=
  match turn with
  | none => (d, .error "The turn failed")
  | some turn =>
    let (opened, id) := getOrCreateSession rules ctx payload d
    match parseQuiz turn.quiz with
    | none =>
      (explainOnly id opened,
        .ok { sessionId := id, content := turn.explain, state := .explain })
    | some quiz =>
      match validateQuiz quiz with
      | none => (d, .error "The quiz is not valid")
      | some model =>
        (presentQuiz id quiz opened,
          .ok
            { sessionId := id, content := turn.explain, state := .quiz
              quiz := some model })

/-! ## An answer -/

def topicKey (rules : TextRules) (topic : String) (subjectId : Option String) : String :=
  let base := rules.lower (rules.strip topic)
  match subjectId.filter (· ≠ "") with
  | some subjectId => subjectId ++ ":" ++ base
  | none => base

def recordQuizResult (rules : TextRules) (session : TutorSession) (tenantId : String)
    (correct : Bool) (mastery : Keyed TopicMastery.key) : Keyed TopicMastery.key :=
  let key := topicKey rules session.topic session.subjectId
  let one := if correct then 1 else 0
  match mastery.find? (tenantId, session.studentId, key) with
  | none =>
    mastery.put
      { tenantId, studentId := session.studentId, subjectId := session.subjectId, topicKey := key
        attemptCount := 1, correctCount := one }
  | some row =>
    mastery.put
      { row with attemptCount := row.attemptCount + 1, correctCount := row.correctCount + one }

/-- Where a call of `grade_quiz` fails: not at all, before the result is recorded, or after it,
which `record_quiz_result` commits by itself. -/
inductive GradeFault
  | none | beforeRecord | afterRecord
  deriving DecidableEq

def storedQuiz (ctx : TutorContext) (sessionId : ℕ) (d : TutorStores) :
    Option (TutorSession × JsonDict) := do
  let session ← ownSession ctx sessionId d
  let quiz ← session.quizJson.filter fun quiz => !quiz.isEmpty
  return (session, quiz)

/-- `str(quiz.get("correctValue", "")).strip().lower()`; a quiz that was stored has a text. -/
def correctValue (rules : TextRules) (quiz : JsonDict) : String :=
  rules.lower (rules.strip ((Json.get "correctValue" quiz).asText.getD ""))

def feedback (isCorrect : Bool) (correct : String) : String :=
  if isCorrect then "Great work — you got it right!"
  else "Not quite. The correct answer was " ++ correct.toUpper
    ++ ". Review the explanation and try another question."

def recordAnswer (rules : TextRules) (ctx : TutorContext) (sessionId : ℕ) (session : TutorSession)
    (quiz : JsonDict) (isCorrect : Bool) (d : TutorStores) : TutorStores :=
  { d with
    mastery := recordQuizResult rules session ctx.tenantId isCorrect d.mastery
    log := .answered sessionId quiz :: d.log }

def giveFeedback (sessionId : ℕ) (d : TutorStores) : TutorStores :=
  { d with
    sessions := d.sessions.modify sessionId fun session => { session with state := .feedback } }

def gradeQuiz (rules : TextRules) (ctx : TutorContext) (sessionId : ℕ) (answer : String)
    (fault : GradeFault) (d : TutorStores) : TutorStores × Except String TutorReply :=
  match storedQuiz ctx sessionId d with
  | none => (d, .error "Tutor session or quiz not found")
  | some (session, quiz) =>
    let correct := correctValue rules quiz
    let isCorrect : Bool := rules.lower (rules.strip answer) = correct
    match fault with
    | .beforeRecord => (d, .error "The result was not recorded")
    | .afterRecord =>
      (recordAnswer rules ctx sessionId session quiz isCorrect d,
        .error "The feedback was not saved")
    | .none =>
      (giveFeedback sessionId (recordAnswer rules ctx sessionId session quiz isCorrect d),
        .ok { sessionId, content := feedback isCorrect correct, state := .feedback })

/-! ## Runs -/

inductive TutorEvent
  | runTurn (ctx : TutorContext) (payload : TutorChat) (turn : Option ModelTurn)
  | gradeQuiz (ctx : TutorContext) (sessionId : ℕ) (answer : String) (fault : GradeFault)

/-- One call. -/
def tutorStep (rules : TextRules) : TutorEvent → TutorStores → TutorStores
  | .runTurn ctx payload turn, d => (runTurn rules ctx payload turn d).1
  | .gradeQuiz ctx sessionId answer fault, d => (gradeQuiz rules ctx sessionId answer fault d).1

/-- The topic that the attempts of a session count for. -/
def TutorSession.masteryKey (rules : TextRules) (session : TutorSession) :
    String × String × String :=
  (session.tenantId, session.studentId, topicKey rules session.topic session.subjectId)

def attempts (key : String × String × String) (d : TutorStores) : ℕ :=
  ((d.mastery.find? key).map (·.attemptCount)).getD 0

/-- The answers that were counted in the sessions of a topic. -/
def answersOn (rules : TextRules) (key : String × String × String) (d : TutorStores) : ℕ :=
  d.log.countP fun e =>
    !e.isAsked && (d.sessions[e.key]?).any fun session => session.masteryKey rules = key

/-- **A quiz counts once.**  An answer is to the quiz that its session presented last, and no other
answer is; a session has at most as many attempts as quizzes; and the attempts of a topic are those
of its sessions. -/
structure CountsOnce (rules : TextRules) (d : TutorStores) : Prop where
  newest : Paired d.log
  attempts : ∀ id, answeredCount id d.log ≤ askedCount id d.log
  recorded : ∀ key, Tutor.attempts key d = answersOn rules key d

/-- An answer is counted only while the newest entry of its session is a quiz. -/
def AnswersNew (d : TutorStores) : TutorEvent → Prop
  | .gradeQuiz ctx sessionId _ fault =>
    (storedQuiz ctx sessionId d).isSome = true → fault ≠ .beforeRecord →
      (latest? sessionId d.log).any LogEntry.isAsked = true
  | .runTurn _ _ _ => True

instance (d : TutorStores) (e : TutorEvent) : Decidable (AnswersNew d e) := by
  cases e <;> (dsimp only [AnswersNew]; infer_instance)

/-! ## What the tables keep -/

section Kept
variable {rules : TextRules} {d : TutorStores} {id : ℕ} {session : TutorSession} {quiz : JsonDict}

/-- A session has the quiz that it presented last, the log is about sessions that are there, and
the attempts of a topic are those of its sessions. -/
structure Kept (rules : TextRules) (d : TutorStores) : Prop where
  stored : ∀ id session, d.sessions[id]? = some session → session.quizJson = lastAsked id d.log
  known : ∀ e ∈ d.log, e.key < d.sessions.length
  recorded : ∀ key, attempts key d = answersOn rules key d

theorem kept_empty : Kept rules {} where
  stored := by
    intro id session h
    simp at h
  known := by
    intro e h
    cases h
  recorded := fun _ => rfl

theorem lastAsked_eq_none {log : List (LogEntry ℕ JsonDict)} (h : ∀ e ∈ log, e.key ≠ id) :
    lastAsked id log = none := by
  rw [lastAsked, List.find?_eq_none.2, Option.map_none]
  intro e he
  simp [h e he]

/-- The sessions of a topic are the same as far as the log is about them. -/
theorem answersOn_congr {sessions : Table TutorSession}
    (h : ∀ e ∈ d.log, (sessions[e.key]?).map (·.masteryKey rules)
      = (d.sessions[e.key]?).map (·.masteryKey rules)) (key : String × String × String) :
    answersOn rules key { d with sessions } = answersOn rules key d := by
  refine List.countP_congr fun e he => ?_
  have hany : ∀ session : Option TutorSession,
      (session.any fun session => session.masteryKey rules = key)
        = (session.map (·.masteryKey rules)).any fun k => k = key := by
    intro session
    cases session with
    | none => rfl
    | some session => rfl
  rw [hany, h e he, ← hany]

/-- An update of sessions that keeps their topics. -/
theorem masteryKey_modify {f : TutorSession → TutorSession}
    (htopic : ∀ session, (f session).masteryKey rules = session.masteryKey rules)
    (sessions : Table TutorSession) (id i : ℕ) :
    ((sessions.modify id f)[i]?).map (·.masteryKey rules)
      = (sessions[i]?).map (·.masteryKey rules) := by
  rw [List.getElem?_modify]
  cases sessions[i]? with
  | none => rfl
  | some session =>
    by_cases hi : id = i
    · simp [hi, htopic]
    · simp [hi]

theorem Kept.insert (h : Kept rules d) (hquiz : session.quizJson = none) :
    Kept rules { d with sessions := d.sessions.insert session } where
  stored := by
    intro id row hrow
    rw [Table.getElem?_insert] at hrow
    split at hrow
    · rename_i hid
      cases hrow
      rw [hquiz, lastAsked_eq_none]
      intro e he
      have hknown := h.known e he
      rw [hid, Table.nextId]
      omega
    · exact h.stored id row hrow
  known := by
    intro e he
    have hknown := h.known e he
    simp only [Table.insert, List.length_append, List.length_singleton]
    omega
  recorded := by
    intro key
    refine (h.recorded key).trans (answersOn_congr ?_ key).symm
    intro e he
    have hknown := h.known e he
    rw [Table.getElem?_insert, if_neg (by rw [Table.nextId]; omega)]

/-- A session that keeps its topic and its quiz. -/
theorem Kept.modify (h : Kept rules d) {f : TutorSession → TutorSession}
    (hquiz : ∀ session, (f session).quizJson = session.quizJson)
    (htopic : ∀ session, (f session).masteryKey rules = session.masteryKey rules) :
    Kept rules { d with sessions := d.sessions.modify id f } where
  stored := by
    intro i row hrow
    rw [List.getElem?_modify] at hrow
    obtain ⟨session, hsession, rfl⟩ := Option.map_eq_some_iff.1 hrow
    rw [← h.stored i session hsession]
    split
    · exact hquiz session
    · rfl
  known := by
    intro e he
    rw [List.length_modify]
    exact h.known e he
  recorded := by
    intro key
    exact (h.recorded key).trans
      (answersOn_congr (fun e _ => masteryKey_modify htopic d.sessions id e.key) key).symm

theorem Kept.presentQuiz (h : Kept rules d) (hid : id < d.sessions.length) (quiz : JsonDict) :
    Kept rules (presentQuiz id quiz d) where
  stored := by
    intro i row hrow
    simp only [Tutor.presentQuiz] at hrow ⊢
    rw [List.getElem?_modify] at hrow
    obtain ⟨session, hsession, rfl⟩ := Option.map_eq_some_iff.1 hrow
    rw [lastAsked_cons]
    by_cases hi : id = i
    · simp [hi]
    simp only [LogEntry.isAsked_asked, LogEntry.key_asked, hi, and_false, if_false]
    exact h.stored i session hsession
  known := by
    intro e he
    simp only [Tutor.presentQuiz, List.length_modify]
    rcases List.mem_cons.1 he with rfl | he
    · exact hid
    · exact h.known e he
  recorded := by
    intro key
    have hlog : answersOn rules key (Tutor.presentQuiz id quiz d) = answersOn rules key
        { d with sessions := (Tutor.presentQuiz id quiz d).sessions } := by
      rw [answersOn, answersOn, Tutor.presentQuiz, List.countP_cons_of_neg (by simp)]
    have htopic : ∀ session : TutorSession, ({ session with
        quizJson := some quiz, state := .quiz } : TutorSession).masteryKey rules
          = session.masteryKey rules := fun _ => rfl
    rw [hlog]
    exact (h.recorded key).trans
      (answersOn_congr (fun e _ => masteryKey_modify htopic d.sessions id e.key) key).symm

/-- A result is recorded in the row of the session's topic. -/
theorem recordQuizResult_eq (rules : TextRules) (session : TutorSession) (correct : Bool)
    (d : TutorStores) : ∃ row : TopicMastery,
      recordQuizResult rules session session.tenantId correct d.mastery = d.mastery.put row
        ∧ row.key = session.masteryKey rules
        ∧ row.attemptCount = attempts (session.masteryKey rules) d + 1 := by
  have hattempts : attempts (session.masteryKey rules) d
      = ((d.mastery.find? (session.tenantId, session.studentId,
          topicKey rules session.topic session.subjectId)).map (·.attemptCount)).getD 0 := rfl
  simp only [recordQuizResult, hattempts]
  cases hrow : d.mastery.find? (session.tenantId, session.studentId,
      topicKey rules session.topic session.subjectId) with
  | none => exact ⟨_, rfl, rfl, rfl⟩
  | some row => exact ⟨_, rfl, (Keyed.find?_eq_some.1 hrow).2, rfl⟩

/-- **A recorded result is one attempt more of the session's topic.** -/
theorem attempts_recordAnswer (sessionId : ℕ) (session : TutorSession) (quiz : JsonDict)
    (isCorrect : Bool) {ctx : TutorContext} (hctx : session.tenantId = ctx.tenantId)
    (key : String × String × String) :
    attempts key (recordAnswer rules ctx sessionId session quiz isCorrect d)
      = attempts key d + if session.masteryKey rules = key then 1 else 0 := by
  obtain ⟨row, hput, hkey, hcount⟩ := recordQuizResult_eq rules session isCorrect d
  simp only [attempts, recordAnswer, ← hctx, hput]
  rw [Keyed.find?_put, hkey]
  by_cases heq : session.masteryKey rules = key
  · rw [if_pos heq, if_pos heq, ← heq]
    exact hcount
  · rw [if_neg heq, if_neg heq, Nat.add_zero]

theorem Kept.recordAnswer (h : Kept rules d) {ctx : TutorContext} {sessionId : ℕ}
    (hsession : d.sessions[sessionId]? = some session) (hctx : session.tenantId = ctx.tenantId)
    (quiz : JsonDict) (isCorrect : Bool) :
    Kept rules (recordAnswer rules ctx sessionId session quiz isCorrect d) where
  stored := by
    intro id row hrow
    rw [Tutor.recordAnswer, lastAsked_cons, if_neg (by simp)]
    exact h.stored id row hrow
  known := by
    intro e he
    rcases List.mem_cons.1 he with rfl | he
    · exact (List.getElem?_eq_some_iff.1 hsession).1
    · exact h.known e he
  recorded := by
    intro key
    rw [attempts_recordAnswer sessionId session quiz isCorrect hctx, h.recorded key]
    simp only [answersOn, Tutor.recordAnswer]
    rw [List.countP_cons]
    simp [hsession]

/-- A session that is opened is there. -/
theorem Kept.getOrCreate (h : Kept rules d) (ctx : TutorContext) (payload : TutorChat) :
    Kept rules (getOrCreateSession rules ctx payload d).1
      ∧ (getOrCreateSession rules ctx payload d).2
        < (getOrCreateSession rules ctx payload d).1.sessions.length
      ∧ (getOrCreateSession rules ctx payload d).1.log = d.log := by
  simp only [getOrCreateSession]
  cases hown : payload.sessionId.filter fun id => (ownSession ctx id d).isSome with
  | none =>
    refine ⟨h.insert rfl, ?_, rfl⟩
    simp [Table.insert, Table.nextId]
  | some id =>
    refine ⟨h, ?_, rfl⟩
    obtain ⟨session, hsession⟩ :=
      Option.isSome_iff_exists.1 (Option.filter_eq_some_iff.1 hown).2
    exact (List.getElem?_eq_some_iff.1 (Option.filter_eq_some_iff.1 hsession).1).1

/-- **What a turn does**: it leaves everything, or the log with a new quiz or as it is. -/
theorem runTurn_cases (h : Kept rules d) (ctx : TutorContext) (payload : TutorChat)
    (turn : Option ModelTurn) :
    Kept rules (runTurn rules ctx payload turn d).1
      ∧ ((runTurn rules ctx payload turn d).1.log = d.log
        ∨ ∃ id quiz, (runTurn rules ctx payload turn d).1.log = .asked id quiz :: d.log) := by
  obtain ⟨hopened, hthere, hlog⟩ := h.getOrCreate ctx payload
  cases turn with
  | none => exact ⟨h, Or.inl rfl⟩
  | some turn =>
    cases hparsed : parseQuiz turn.quiz with
    | none =>
      simp only [runTurn, hparsed]
      exact ⟨hopened.modify (fun _ => rfl) (fun _ => rfl), Or.inl hlog⟩
    | some quiz =>
      cases hvalid : validateQuiz quiz with
      | none =>
        simp only [runTurn, hparsed, hvalid]
        exact ⟨h, Or.inl trivial⟩
      | some model =>
        simp only [runTurn, hparsed, hvalid]
        refine ⟨hopened.presentQuiz hthere quiz, Or.inr
          ⟨(getOrCreateSession rules ctx payload d).2, quiz, ?_⟩⟩
        rw [presentQuiz, hlog]

/-- **What an answer does**: it leaves everything, or it is counted for the quiz that the session
presented last. -/
theorem gradeQuiz_cases (h : Kept rules d) (ctx : TutorContext) (sessionId : ℕ) (answer : String)
    (fault : GradeFault) :
    Kept rules (gradeQuiz rules ctx sessionId answer fault d).1
      ∧ (((storedQuiz ctx sessionId d).isSome = true → fault = .beforeRecord)
          ∧ (gradeQuiz rules ctx sessionId answer fault d).1.log = d.log
        ∨ ((storedQuiz ctx sessionId d).isSome = true ∧ fault ≠ .beforeRecord)
          ∧ ∃ quiz, lastAsked sessionId d.log = some quiz
            ∧ (gradeQuiz rules ctx sessionId answer fault d).1.log
              = .answered sessionId quiz :: d.log) := by
  simp only [gradeQuiz]
  cases hstored : storedQuiz ctx sessionId d with
  | none => exact ⟨h, Or.inl ⟨nofun, rfl⟩⟩
  | some found =>
    obtain ⟨session, quiz⟩ := found
    obtain ⟨session', hown, hrest⟩ := Option.bind_eq_some_iff.1 hstored
    obtain ⟨quiz', hquiz, hfound⟩ := Option.bind_eq_some_iff.1 hrest
    obtain ⟨rfl, rfl⟩ : session' = session ∧ quiz' = quiz := by
      simpa [pure] using hfound
    obtain ⟨hsession, hctx⟩ := Option.filter_eq_some_iff.1 hown
    rw [Bool.and_eq_true, decide_eq_true_eq, decide_eq_true_eq] at hctx
    have hlast : lastAsked sessionId d.log = some quiz' := by
      rw [← h.stored sessionId session' hsession]
      exact (Option.filter_eq_some_iff.1 hquiz).1
    have hrecorded := fun isCorrect => h.recordAnswer hsession hctx.1 quiz' isCorrect
    cases fault with
    | beforeRecord => exact ⟨h, Or.inl ⟨fun _ => rfl, rfl⟩⟩
    | afterRecord =>
      exact ⟨hrecorded _, Or.inr ⟨⟨rfl, nofun⟩, quiz', hlast, rfl⟩⟩
    | none =>
      exact ⟨(hrecorded _).modify (fun _ => rfl) (fun _ => rfl),
        Or.inr ⟨⟨rfl, nofun⟩, quiz', hlast, rfl⟩⟩

theorem Kept.step (h : Kept rules d) (e : TutorEvent) : Kept rules (tutorStep rules e d) := by
  cases e with
  | runTurn ctx payload turn => exact (runTurn_cases h ctx payload turn).1
  | gradeQuiz ctx sessionId answer fault => exact (gradeQuiz_cases h ctx sessionId answer fault).1

/-- **One call** keeps every answer with its quiz exactly when it meets the condition. -/
theorem paired_step (h : Kept rules d) (hpaired : Paired d.log) (e : TutorEvent) :
    Paired (tutorStep rules e d).log ↔ AnswersNew d e := by
  cases e with
  | runTurn ctx payload turn =>
    refine iff_of_true ?_ trivial
    simp only [tutorStep]
    rcases (runTurn_cases h ctx payload turn).2 with hlog | ⟨id, quiz, hlog⟩
    · rw [hlog]
      exact hpaired
    rw [hlog, paired_asked]
    exact hpaired
  | gradeQuiz ctx sessionId answer fault =>
    simp only [tutorStep, AnswersNew]
    rcases (gradeQuiz_cases h ctx sessionId answer fault).2 with
      ⟨hnone, hlog⟩ | ⟨⟨hstored, hfault⟩, quiz, hlast, hlog⟩
    · rw [hlog]
      exact iff_of_true hpaired fun hstored hfault => absurd (hnone hstored) hfault
    rw [hlog, paired_answered, and_iff_right hpaired, latest?_of_lastAsked hlast]
    exact ⟨fun hlatest _ _ => hlatest, fun hnew => hnew hstored hfault⟩

theorem Kept.countsOnce_iff (h : Kept rules d) : CountsOnce rules d ↔ Paired d.log :=
  ⟨fun hcounts => hcounts.newest, fun hpaired =>
    ⟨hpaired, fun id => (hpaired.answered_lt id).1, h.recorded⟩⟩

end Kept

/-- **A tutor quiz counts once**, throughout a run of turns and answers in any sessions, exactly
when no answer is counted in a session whose newest quiz was answered before. -/
theorem tutor_quiz_once_iff (rules : TextRules) (es : List TutorEvent) :
    (∀ pre, pre <+: es → CountsOnce rules (run (tutorStep rules) {} pre))
      ↔ Along (tutorStep rules) AnswersNew {} es := by
  have hkept : ∀ pre, Kept rules (run (tutorStep rules) {} pre) :=
    run_invariant (fun _ e h => h.step e) kept_empty
  have hpaired : Along (tutorStep rules) AnswersNew {} es
      ↔ ∀ pre, pre <+: es → Paired (run (tutorStep rules) {} pre).log :=
    along_iff_throughout_with (I := fun d : TutorStores => Paired d.log) (J := Kept rules)
      (D := fun _ _ => True) (fun _ e _ _ h => h.step e)
      (fun _ e _ hpaired h => paired_step h hpaired e) (along_of_forall fun _ _ => trivial)
      paired_nil kept_empty
  rw [hpaired]
  exact forall₂_congr fun pre _ => (hkept pre).countsOnce_iff

/-! ## An answer that is sent twice -/

namespace Example

def pupil : TutorContext := { tenantId := "tnt_1", actorId := "pupil" }

def halves : JsonDict :=
  [ ("question", .text "What is half of 10?"),
    ("options", .list [.dict [("label", .text "A"), ("value", .text "a")]]),
    ("correctValue", .text "a") ]

def firstTurn : TutorEvent :=
  .runTurn pupil { message := "Explain halves" } (some { explain := "...", quiz := some halves })

def sent : TutorEvent := .gradeQuiz pupil 0 "A" .none

end Example

/-- The pupil's answer is sent twice, and is two attempts at one quiz. -/
theorem not_tutor_quiz_once :
    ¬ ∀ pre, pre <+: [Example.firstTurn, Example.sent, Example.sent] →
      CountsOnce {} (run (tutorStep {}) {} pre) := by
  intro h
  have hcount := (h _ (List.prefix_refl _)).attempts 0
  revert hcount
  decide

end MultiAcademy.Tutor
