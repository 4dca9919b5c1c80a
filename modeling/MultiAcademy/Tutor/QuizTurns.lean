import MultiAcademy.Tutor.Quizzes

/-!
# What the model writes for a quiz, and the turn it is written in

`_parse_quiz` and `run_turn` of `agents/tutor_graph.py` once more, from the text that the model
returns for the quiz prompt.  What is no JSON is no quiz; but JSON that looks like a quiz is
put into the session before `TutorQuiz` validates it, and an exception rolls back the turn,
messages included.  Nothing compares the correct value with the options.

`json.loads` is a parameter, as the nesting and the integers it gives up on are the
interpreter's, and so is what the column `quiz_json` takes.
-/

namespace MultiAcademy.Tutor

open MultiAcademy.Lib MultiAcademy.Control

/-! ## The text between the braces -/

/-- `re.search(r"\{[\s\S]*\}", text)`: from the first opening brace to the last closing one. -/
def braced (text : List Char) : Option (List Char) :=
  let opened := text.dropWhile fun c => c ≠ '{'
  let closed := opened.rdropWhile fun c => c ≠ '}'
  if closed = [] then none else some closed

/-- What `json.loads` does with a text in braces.  Past the limits of the interpreter it raises
something else than a `JSONDecodeError`. -/
inductive Loaded
  | dict (fields : JsonDict)
  | decodeError
  | raised

/-- `_parse_quiz`. -/
def parseQuizContent (loads : String → Loaded) (rules : TextRules) (content : String) :
    Except String (Option JsonDict) :=
  match braced (rules.strip content).toList with
  | none => .ok none
  | some text =>
    match loads (String.ofList text) with
    | .dict fields => .ok (parseQuiz (some fields))
    | .decodeError => .ok none
    | .raised => .error "json.loads raised"

/-! ## A turn and its messages -/

/-- A row of `ai_tutor_messages`. -/
structure TutorMessage where
  sessionId : ℕ
  tenantId : String
  role : String
  content : String
  messageType : String := "chat"
  deriving DecidableEq

structure TurnStores where
  stores : TutorStores := {}
  messages : List TutorMessage := []

/-- The row that `_save_message` adds. -/
def newMessage (sessionId : ℕ) (ctx : TutorContext) (role content : String) : TutorMessage :=
  { sessionId, tenantId := ctx.tenantId, role, content := truncate 8000 content }

def turnMessages (sessionId : ℕ) (ctx : TutorContext) (message explain : String) :
    List TutorMessage :=
  [newMessage sessionId ctx "user" message, newMessage sessionId ctx "assistant" explain]

section Turn
-- `json.loads`, and what the column of the quiz takes
variable (loads : String → Loaded) (takes : JsonDict → Bool)

/-- `run_turn`, of the texts that the model returns for the explanation and for the quiz. -/
def runQuizTurn (rules : TextRules) (ctx : TutorContext) (payload : TutorChat)
    (explain content : String) (d : TurnStores) : TurnStores × Except String TutorReply :=
  let (opened, id) := getOrCreateSession rules ctx payload d.stores
  let explain := rules.strip explain
  let messages := d.messages ++ turnMessages id ctx payload.message explain
  match parseQuizContent loads rules content with
  | .error error => (d, .error error)
  | .ok none =>
    (⟨explainOnly id opened, messages⟩,
      .ok { sessionId := id, content := explain, state := .explain })
  | .ok (some quiz) =>
    match validateQuiz quiz with
    | none => (d, .error "The quiz is not valid")
    | some model =>
      if takes quiz then
        (⟨presentQuiz id quiz opened, messages⟩,
          .ok { sessionId := id, content := explain, state := .quiz, quiz := some model })
      else (d, .error "The quiz is not stored")

/-- The turn as the calls of the session see it. -/
def modelTurn (rules : TextRules) (explain content : String) : Option ModelTurn :=
  match braced (rules.strip content).toList with
  | none => some ⟨rules.strip explain, none⟩
  | some text =>
    match loads (String.ofList text) with
    | .dict fields =>
      if (parseQuiz (some fields)).all takes then some ⟨rules.strip explain, some fields⟩
      else none
    | .decodeError => some ⟨rules.strip explain, none⟩
    | .raised => none

/-- **A turn is kept**: it completes and saves both messages; a quiz that it attaches has its
correct value among the options, and a turn that attaches none leaves the session's own. -/
structure TurnKept (rules : TextRules) (ctx : TutorContext) (payload : TutorChat)
    (explain : String) (d : TurnStores) (result : TurnStores × Except String TutorReply) :
    Prop where
  completes : ∃ reply, result.2 = .ok reply
  messages : result.1.messages = d.messages ++ turnMessages
    (getOrCreateSession rules ctx payload d.stores).2 ctx payload.message (rules.strip explain)
  quiz : ∀ reply model, result.2 = .ok reply → reply.quiz = some model →
    model.correctValue ∈ model.options.map TutorQuizOption.value
      ∧ ∃ quiz, validateQuiz quiz = some model ∧ result.1.stores
        = presentQuiz (getOrCreateSession rules ctx payload d.stores).2 quiz
          (getOrCreateSession rules ctx payload d.stores).1
  without : ∀ reply, result.2 = .ok reply → reply.quiz = none → result.1.stores
    = explainOnly (getOrCreateSession rules ctx payload d.stores).2
      (getOrCreateSession rules ctx payload d.stores).1

/-! ## Output that looks like a quiz -/

/-- The correct value, under either of its names. -/
def quizAnswer (fields : JsonDict) : Json :=
  if (Json.get "correctValue" fields).isNone then Json.get "correct_value" fields
  else Json.get "correctValue" fields

/-- A question, options and a correct value are there. -/
def LooksLikeQuiz (fields : JsonDict) : Prop :=
  (Json.get "question" fields).truthy = true ∧ (Json.get "options" fields).truthy = true
    ∧ (quizAnswer fields).truthy = true

/-- The dictionary that is kept: the correct value is under the name that is validated. -/
def keptQuiz (fields : JsonDict) : JsonDict :=
  if (Json.get "correctValue" fields).isNone && !(Json.get "correct_value" fields).isNone then
    Json.set "correctValue" (Json.get "correct_value" fields) fields
  else fields

/-- A dictionary with the two texts of an option. -/
def IsOption (value : Json) (option : TutorQuizOption) : Prop :=
  ∃ fields, value = .dict fields ∧ Json.get "label" fields = .text option.label
    ∧ Json.get "value" fields = .text option.value

/-- The dictionary is this quiz, whose correct value is one of its options. -/
structure IsQuiz (fields : JsonDict) (model : TutorQuiz) : Prop where
  question : Json.get "question" fields = .text model.question
  options : ∃ values, Json.get "options" fields = .list values
    ∧ List.Forall₂ IsOption values model.options
  answer : quizAnswer fields = .text model.correctValue
  among : model.correctValue ∈ model.options.map TutorQuizOption.value

/-- **The output fits**: what is between its braces, if anything, is read without an exception
other than a `JSONDecodeError`, and what looks like a quiz is one that the column takes. -/
def OutputFits (rules : TextRules) (content : String) : Prop :=
  ∀ text, braced (rules.strip content).toList = some text →
    match loads (String.ofList text) with
    | .dict fields =>
      LooksLikeQuiz fields → (∃ model, IsQuiz fields model) ∧ takes (keptQuiz fields) = true
    | .decodeError => True
    | .raised => False

variable {loads takes} {rules : TextRules} {ctx : TutorContext} {payload : TutorChat}
  {explain content : String} {d : TurnStores} {fields quiz : JsonDict} {model : TutorQuiz}

/-! ## The parser -/

/-! ## Dictionaries -/

theorem lookup_cons_eq (key other : String) (value : Json) (fields : JsonDict) :
    List.lookup other ((key, value) :: fields)
      = if other = key then some value else fields.lookup other := by
  by_cases hkey : other = key
  · simp [hkey]
  · simp [List.lookup, hkey, beq_false_of_ne hkey]

theorem lookup_updated (key other : String) (value : Json) (fields : JsonDict) :
    (fields.map fun field => if field.1 = key then (key, value) else field).lookup other
      = if other = key then (fields.lookup key).map fun _ => value else fields.lookup other := by
  induction fields with
  | nil => simp
  | cons field fields ih =>
    obtain ⟨k, v⟩ := field
    rw [List.map_cons]
    by_cases hk : k = key
    · rw [if_pos hk, lookup_cons_eq, lookup_cons_eq, lookup_cons_eq, ih]
      by_cases hother : other = key <;> simp [hk, hother]
    rw [if_neg hk, lookup_cons_eq, lookup_cons_eq, lookup_cons_eq, ih]
    by_cases hother : other = key
    · simp [hother, Ne.symm hk]
    · simp [hother]

/-- What a key has after one was set. -/
theorem get_set (key other : String) (value : Json) (fields : JsonDict) :
    Json.get other (Json.set key value fields)
      = if other = key then value else Json.get other fields := by
  simp only [Json.get, Json.set]
  split
  · rename_i hthere
    obtain ⟨field, hfield, hkey⟩ := List.any_eq_true.1 hthere
    obtain ⟨v, hv⟩ : ∃ v, fields.lookup key = some v := by
      rw [← Option.isSome_iff_exists, List.lookup_isSome_iff]
      exact ⟨field, hfield, by simpa using (of_decide_eq_true hkey).symm⟩
    rw [lookup_updated, hv]
    by_cases hother : other = key <;> simp [hother]
  rename_i hnew
  have hnone : fields.lookup key = none := by
    rw [List.lookup_eq_none_iff]
    intro field hfield
    simp only [List.any_eq_true, decide_eq_true_eq, not_exists, not_and] at hnew
    simpa using Ne.symm (hnew field hfield)
  rw [List.lookup_append, lookup_cons_eq, List.lookup_nil]
  by_cases hother : other = key
  · simp [hother, hnone]
  · simp [hother]

/-- The kept dictionary has the correct value under the name that is validated, and is the same
otherwise. -/
theorem get_keptQuiz (key : String) (fields : JsonDict) :
    Json.get key (keptQuiz fields)
      = if key = "correctValue" then quizAnswer fields else Json.get key fields := by
  rw [keptQuiz, quizAnswer]
  by_cases hkey : key = "correctValue"
  · rw [if_pos hkey, hkey]
    cases hcamel : Json.get "correctValue" fields with
    | none =>
      cases hsnake : Json.get "correct_value" fields <;>
        simp [Json.isNone, hcamel, get_set]
    | _ => simp [Json.isNone, hcamel]
  rw [if_neg hkey]
  split
  · rw [get_set, if_neg hkey]
  · rfl

/-- **What `_parse_quiz` keeps** is what looks like a quiz. -/
theorem parseQuiz_eq_some :
    parseQuiz (some fields) = some quiz ↔ LooksLikeQuiz fields ∧ keptQuiz fields = quiz := by
  have hparse : parseQuiz (some fields)
      = if ((Json.get "question" fields).truthy && (Json.get "options" fields).truthy) = true then
          if (Json.get "correctValue" (keptQuiz fields)).truthy = true then some (keptQuiz fields)
          else none
        else none := rfl
  rw [hparse, get_keptQuiz, if_pos rfl, LooksLikeQuiz]
  cases (Json.get "question" fields).truthy <;> cases (Json.get "options" fields).truthy <;>
    cases (quizAnswer fields).truthy <;> simp

theorem mapM_eq_some_iff {α β : Type} {f : α → Option β} {xs : List α} {ys : List β} :
    xs.mapM f = some ys ↔ List.Forall₂ (fun x y => f x = some y) xs ys := by
  induction xs generalizing ys with
  | nil => simp [eq_comm]
  | cons x xs ih =>
    rw [List.mapM_cons, List.forall₂_cons_left_iff]
    simp only [← ih]
    cases hx : f x <;> cases hxs : xs.mapM f <;> simp [eq_comm]

theorem asText_eq_some {value : Json} {text : String} :
    value.asText = some text ↔ value = .text text := by
  cases value <;> simp [Json.asText]

theorem validateOption_eq_some {value : Json} {option : TutorQuizOption} :
    validateOption value = some option ↔ IsOption value option := by
  cases value with
  | dict fields =>
    obtain ⟨label, text⟩ := option
    simp [validateOption, IsOption, Option.bind_eq_some_iff, asText_eq_some, and_comm]
  | _ => simp [validateOption, IsOption]

def validateOptions : Json → Option (List TutorQuizOption)
  | .list values => values.mapM validateOption
  | _ => none

theorem validateOptions_eq_some {value : Json} {options : List TutorQuizOption} :
    validateOptions value = some options
      ↔ ∃ values, value = .list values ∧ List.Forall₂ IsOption values options := by
  cases value with
  | list values => simp [validateOptions, mapM_eq_some_iff, validateOption_eq_some]
  | _ => simp [validateOptions]

theorem validateQuiz_eq (quiz : JsonDict) :
    validateQuiz quiz = ((Json.get "question" quiz).asText).bind fun question =>
      (validateOptions (Json.get "options" quiz)).bind fun options =>
        ((Json.get "correctValue" quiz).asText).map fun answer =>
          { question, options, correctValue := answer } := by
  rw [validateQuiz]
  cases Json.get "options" quiz with
  | list values =>
    cases (Json.get "correctValue" quiz).asText <;> rfl
  | _ => rfl

/-- **What `TutorQuiz` validates**, of the dictionary that is kept. -/
theorem validateQuiz_eq_some :
    validateQuiz (keptQuiz fields) = some model
      ↔ Json.get "question" fields = .text model.question
        ∧ (∃ values, Json.get "options" fields = .list values
          ∧ List.Forall₂ IsOption values model.options)
        ∧ quizAnswer fields = .text model.correctValue := by
  obtain ⟨question, options, answer⟩ := model
  have hquestion : Json.get "question" (keptQuiz fields) = Json.get "question" fields := by
    rw [get_keptQuiz, if_neg (by decide)]
  have hoptions : Json.get "options" (keptQuiz fields) = Json.get "options" fields := by
    rw [get_keptQuiz, if_neg (by decide)]
  have hanswer : Json.get "correctValue" (keptQuiz fields) = quizAnswer fields := by
    rw [get_keptQuiz, if_pos rfl]
  rw [validateQuiz_eq, hquestion, hoptions, hanswer]
  simp [Option.bind_eq_some_iff, asText_eq_some, validateOptions_eq_some]

/-! ## The turn -/

theorem parseQuiz_eq_none (h : ¬ LooksLikeQuiz fields) : parseQuiz (some fields) = none := by
  rw [Option.eq_none_iff_forall_ne_some]
  intro quiz hquiz
  exact h (parseQuiz_eq_some.1 hquiz).1

theorem turnKept_of_none (h : parseQuizContent loads rules content = .ok none) :
    TurnKept rules ctx payload explain d
      (runQuizTurn loads takes rules ctx payload explain content d) := by
  simp only [runQuizTurn, h]
  refine ⟨⟨_, rfl⟩, rfl, ?_, fun _ _ _ => rfl⟩
  intro reply model hreply hquiz
  cases hreply
  cases hquiz

theorem not_turnKept_of_error {error : String}
    (h : parseQuizContent loads rules content = .error error) :
    ¬ TurnKept rules ctx payload explain d
      (runQuizTurn loads takes rules ctx payload explain content d) := by
  rintro ⟨⟨reply, hreply⟩, -, -, -⟩
  simp only [runQuizTurn, h] at hreply
  cases hreply

/-- **A turn whose output is parsed to a quiz** is kept exactly when it is one. -/
theorem turnKept_iff_of_parsed
    (h : parseQuizContent loads rules content = .ok (some (keptQuiz fields))) :
    TurnKept rules ctx payload explain d
        (runQuizTurn loads takes rules ctx payload explain content d)
      ↔ (∃ model, IsQuiz fields model) ∧ takes (keptQuiz fields) = true := by
  simp only [runQuizTurn, h]
  cases hvalid : validateQuiz (keptQuiz fields) with
  | none =>
    refine iff_of_false ?_ ?_
    · rintro ⟨⟨reply, hreply⟩, -, -, -⟩
      cases hreply
    rintro ⟨⟨model, hmodel⟩, -⟩
    have hsome := validateQuiz_eq_some.2 ⟨hmodel.question, hmodel.options, hmodel.answer⟩
    rw [hvalid] at hsome
    cases hsome
  | some model =>
    have hmodel := validateQuiz_eq_some.1 hvalid
    by_cases htakes : takes (keptQuiz fields) = true
    · simp only [htakes, if_true, and_true]
      constructor
      · intro hkept
        have hamong := (hkept.quiz _ model rfl rfl).1
        exact ⟨model, hmodel.1, hmodel.2.1, hmodel.2.2, hamong⟩
      rintro ⟨model', hmodel'⟩
      have hsame := validateQuiz_eq_some.2 ⟨hmodel'.question, hmodel'.options, hmodel'.answer⟩
      obtain rfl := Option.some.inj (hvalid.symm.trans hsame)
      refine ⟨⟨_, rfl⟩, rfl, ?_, ?_⟩
      · intro reply shown hreply hquiz
        cases hreply
        cases hquiz
        exact ⟨hmodel'.among, _, hvalid, rfl⟩
      intro reply hreply hquiz
      cases hreply
      cases hquiz
    refine iff_of_false ?_ fun h => htakes h.2
    simp only [if_neg htakes]
    rintro ⟨⟨reply, hreply⟩, -, -, -⟩
    cases hreply

end Turn

/-- **When the model's output does not break a tutor turn**: for every text that the model returns
for the quiz prompt, exactly when it fits. -/
theorem turn_kept_iff (loads : String → Loaded) (takes : JsonDict → Bool) (rules : TextRules)
    (ctx : TutorContext) (payload : TutorChat) (explain content : String) (d : TurnStores) :
    TurnKept rules ctx payload explain d
        (runQuizTurn loads takes rules ctx payload explain content d)
      ↔ OutputFits loads takes rules content := by
  rw [OutputFits]
  cases hbraced : braced (rules.strip content).toList with
  | none =>
    refine iff_of_true (turnKept_of_none ?_) (by simp)
    rw [parseQuizContent, hbraced]
  | some text =>
    simp only [Option.some.injEq, forall_eq']
    cases hloaded : loads (String.ofList text) with
    | decodeError =>
      refine iff_of_true (turnKept_of_none ?_) trivial
      simp only [parseQuizContent, hbraced, hloaded]
    | raised =>
      have herror : parseQuizContent loads rules content = .error "json.loads raised" := by
        simp only [parseQuizContent, hbraced, hloaded]
      exact iff_of_false (not_turnKept_of_error herror) id
    | dict fields =>
      have hcontent : parseQuizContent loads rules content = .ok (parseQuiz (some fields)) := by
        simp only [parseQuizContent, hbraced, hloaded]
      by_cases hlooks : LooksLikeQuiz fields
      · rw [parseQuiz_eq_some.2 ⟨hlooks, rfl⟩] at hcontent
        rw [turnKept_iff_of_parsed hcontent]
        exact ⟨fun h _ => h, fun h => h hlooks⟩
      rw [parseQuiz_eq_none hlooks] at hcontent
      exact iff_of_true (turnKept_of_none hcontent) fun h => absurd h hlooks

/-! ## Options without labels -/

namespace Example

def plainOptions : JsonDict :=
  [("question", .text "What is half of 10?"), ("options", .list [.text "5", .text "2"]),
    ("correctValue", .text "5")]

/-- The same, as the model writes it. -/
def plainOutput : String :=
  "\x7b\"question\": \"What is half of 10?\", \"options\": [\"5\", \"2\"], \"correctValue\": \"5\"\x7d"

/-- What `json.loads` makes of that text. -/
def plainLoads (text : String) : Loaded :=
  if text = plainOutput then .dict plainOptions else .decodeError

end Example

/-- Options without labels undo the turn. -/
theorem not_turn_kept :
    ¬ ∀ (loads : String → Loaded) (takes : JsonDict → Bool) (rules : TextRules)
      (ctx : TutorContext) (payload : TutorChat) (explain content : String) (d : TurnStores),
      TurnKept rules ctx payload explain d
        (runQuizTurn loads takes rules ctx payload explain content d) := by
  intro h
  obtain ⟨reply, hreply⟩ := (h Example.plainLoads (fun _ => true) {} Example.pupil
    { message := "Explain halves" } "Half of 10 is 5." Example.plainOutput {}).completes
  have hlost : (runQuizTurn Example.plainLoads (fun _ => true) {} Example.pupil
      { message := "Explain halves" } "Half of 10 is 5." Example.plainOutput
        {}).2.toOption.isNone = true := by
    decide
  rw [hreply] at hlost
  cases hlost

end MultiAcademy.Tutor
