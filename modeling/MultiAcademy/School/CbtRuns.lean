import MultiAcademy.School.CbtAttempts

/-!
# CBT is fair

Over every run of `CbtAttempts`: what the statements of starts and submissions keep, and from it
that a run whose steps keep to `CbtStepOk` is fair.
-/

namespace MultiAcademy.School

open MultiAcademy.Lib

/-! ## The bookkeeping -/

/-- Attempts are on exams that there are. -/
def CbtKnown (d : CbtStores) : Prop :=
  ∀ row ∈ d.attempts.rows, (d.exams row.examId).isSome = true

/-- What a request has read is there. -/
def CbtCall.Ok (d : CbtStores) : CbtCall → Prop
  | .admitted _ examId | .absent _ examId => (d.exams examId).isSome = true
  | .attemptRead read _ => ∃ row ∈ d.attempts.rows, row.id = read.id
  | .accepted attemptId _ | .written attemptId _ | .scored attemptId _ _ _
  | .unscored attemptId _ => ∃ row ∈ d.attempts.rows, row.id = attemptId
  | .scoring attemptId examId _ _ =>
    ∃ row ∈ d.attempts.rows, row.id = attemptId ∧ row.examId = examId
  | _ => True

/-- Exams stay with their questions, and attempts on their exams. -/
structure CbtStays (d d' : CbtStores) : Prop where
  exams : ∀ id exam, d.exams id = some exam → ∃ exam', d'.exams id = some exam'
    ∧ exam'.questions = exam.questions ∧ exam'.durationMinutes = exam.durationMinutes
  rows : ∀ row ∈ d.attempts.rows, ∃ row' ∈ d'.attempts.rows,
    row'.id = row.id ∧ row'.examId = row.examId

section Steps
variable {d d' : CbtStores} {call call' : CbtCall} {s : CbtState} {token : String} {i : ℕ}

theorem CbtStays.refl (d : CbtStores) : CbtStays d d :=
  ⟨fun _ exam hexam => ⟨exam, hexam, rfl, rfl⟩, fun row hrow => ⟨row, hrow, rfl, rfl⟩⟩

variable {attemptId id : String} {p : CbtAttempt → Bool} {answers : CbtAnswers}
  {f : CbtAttempt → CbtAttempt}

theorem CbtStays.isSome (h : CbtStays d d') (hexam : (d.exams id).isSome = true) :
    (d'.exams id).isSome = true := by
  obtain ⟨exam, hexam⟩ := Option.isSome_iff_exists.1 hexam
  obtain ⟨exam', hexam', -⟩ := h.exams id exam hexam
  exact Option.isSome_iff_exists.2 ⟨exam', hexam'⟩

theorem CbtCall.Ok.mono (h : call.Ok d) (hstays : CbtStays d d') : call.Ok d' := by
  have hthere : ∀ id, (∃ row ∈ d.attempts.rows, row.id = id) →
      ∃ row ∈ d'.attempts.rows, row.id = id := by
    intro id hold
    obtain ⟨row, hrow, rfl⟩ := hold
    obtain ⟨row', hrow', hid, -⟩ := hstays.rows row hrow
    exact ⟨row', hrow', hid⟩
  cases call with
  | admitted studentId examId => exact hstays.isSome h
  | absent studentId examId => exact hstays.isSome h
  | attemptRead row answers => exact hthere _ h
  | accepted attemptId answers => exact hthere _ h
  | written attemptId answers => exact hthere _ h
  | scored attemptId answers score maxScore => exact hthere _ h
  | unscored attemptId answers => exact hthere _ h
  | scoring attemptId examId answers stored =>
    obtain ⟨row, hrow, rfl, rfl⟩ := h
    obtain ⟨row', hrow', hid, hexam⟩ := hstays.rows row hrow
    exact ⟨row', hrow', hid, hexam⟩
  | asked | started | refused | failed => trivial

theorem admitStudent_ok (studentId examId : String) : (admitStudent studentId examId d).Ok d := by
  simp only [admitStudent]
  split
  · trivial
  split
  · trivial
  rename_i exam hexam
  split
  · trivial
  split
  · trivial
  split
  · trivial
  · exact Option.isSome_iff_exists.2 ⟨exam, hexam⟩

theorem readAttempt_ok (studentId attemptId : String) (answers : CbtAnswers) :
    (readAttempt studentId attemptId answers d).Ok d := by
  simp only [readAttempt]
  split
  · trivial
  split
  · trivial
  rename_i row hrow
  split
  · trivial
  split
  · trivial
  · exact ⟨row, (Keyed.find?_eq_some.1 hrow).1, rfl⟩

/-- The attempt is inserted, or its token is in use. -/
theorem insertAttempt_cases (token studentId examId : String) (d : CbtStores) :
    (∃ attempts, d.attempts.insert? { id := token, examId, studentId, startedAt := d.now }
        = some attempts
      ∧ insertAttempt token studentId examId d = (.started token, { d with attempts }))
      ∨ insertAttempt token studentId examId d = (.failed, d) := by
  simp only [insertAttempt]
  split
  · rename_i attempts hattempts
    exact Or.inl ⟨attempts, hattempts, rfl⟩
  · exact Or.inr rfl

/-- The score is written, or its points do not fit. -/
theorem writeScore_cases (attemptId examId : String) (answers stored : CbtAnswers)
    (d : CbtStores) :
    writeScore attemptId examId answers stored d = (.unscored attemptId answers, d)
      ∨ ∃ score maxScore : ℕ, score = ((d.exams examId).map fun exam => exam.scoreOf stored).getD 0
        ∧ maxScore = ((d.exams examId).map CbtExam.maxScoreOf).getD 0
        ∧ writeScore attemptId examId answers stored d
          = (.scored attemptId answers score maxScore, { d with
            attempts := d.attempts.updateWhere (fun row => row.id = attemptId)
              (fun row => { row with submitted := true, score, maxScore }) fun _ => rfl }) := by
  simp only [writeScore]
  split
  · exact Or.inr ⟨_, _, rfl, rfl, rfl⟩
  · exact Or.inl rfl

theorem CbtStays.of_update {p : CbtAttempt → Bool}
    (hf : ∀ row, (f row).id = row.id) (hexam : ∀ row, (f row).examId = row.examId) :
    CbtStays d { d with attempts := d.attempts.updateWhere p f hf } := by
  refine ⟨fun _ exam hexam => ⟨exam, hexam, rfl, rfl⟩, fun row hrow => ?_⟩
  refine ⟨_, List.mem_map_of_mem hrow, ?_⟩
  split
  · exact ⟨hf row, hexam row⟩
  · exact ⟨rfl, rfl⟩

theorem CbtKnown.of_update (hd : CbtKnown d) {p : CbtAttempt → Bool}
    (hf : ∀ row, (f row).id = row.id) (hexam : ∀ row, (f row).examId = row.examId) :
    CbtKnown { d with attempts := d.attempts.updateWhere p f hf } := by
  intro row' hrow'
  obtain ⟨row, hrow, rfl⟩ := List.mem_map.1 hrow'
  split
  · rw [hexam]
    exact hd row hrow
  · exact hd row hrow

theorem cbtStep_ok (token : String) (hd : CbtKnown d) (h : call.Ok d) :
    CbtKnown (cbtStep token call d).2 ∧ CbtStays d (cbtStep token call d).2
      ∧ (cbtStep token call d).1.Ok (cbtStep token call d).2 := by
  cases call with
  | asked request =>
    cases request with
    | start studentId examId => exact ⟨hd, .refl d, admitStudent_ok studentId examId⟩
    | submit studentId attemptId answers =>
      exact ⟨hd, .refl d, readAttempt_ok studentId attemptId answers⟩
  | admitted studentId examId =>
    refine ⟨hd, .refl d, ?_⟩
    simp only [cbtStep, findAttempt]
    split
    · trivial
    · exact h
  | absent studentId examId =>
    simp only [cbtStep]
    rcases insertAttempt_cases token studentId examId d with ⟨attempts, hinsert, hnext⟩ | hnext
    · have hrows := (Keyed.insert?_eq_some hinsert).2
      rw [hnext]
      refine ⟨?_, ⟨fun _ exam hexam => ⟨exam, hexam, rfl, rfl⟩, fun row hrow => ?_⟩, trivial⟩
      · intro row hrow
        rcases (hrows row).1 hrow with hold | rfl
        · exact hd row hold
        · exact h
      · exact ⟨row, (hrows row).2 (Or.inl hrow), rfl, rfl⟩
    rw [hnext]
    exact ⟨hd, .refl d, trivial⟩
  | attemptRead row answers =>
    refine ⟨hd, .refl d, ?_⟩
    simp only [cbtStep, checkTime]
    split
    · trivial
    · exact h
  | accepted attemptId answers =>
    have hstays : CbtStays d (writeAnswers attemptId answers d) := .of_update _ fun _ => rfl
    have hwritten : (CbtCall.written attemptId answers).Ok d := h
    exact ⟨hd.of_update _ fun _ => rfl, hstays, hwritten.mono hstays⟩
  | written attemptId answers =>
    refine ⟨hd, .refl d, ?_⟩
    simp only [cbtStep, readAnswers]
    split
    · exact h
    rename_i row hrow
    exact ⟨row, (Keyed.find?_eq_some.1 hrow).1, (Keyed.find?_eq_some.1 hrow).2, rfl⟩
  | scoring attemptId examId answers stored =>
    obtain ⟨row, hrow, hid, -⟩ := h
    simp only [cbtStep]
    rcases writeScore_cases attemptId examId answers stored d with
      hnext | ⟨score, maxScore, -, -, hnext⟩
    · rw [hnext]
      exact ⟨hd, .refl d, row, hrow, hid⟩
    rw [hnext]
    refine ⟨hd.of_update _ fun _ => rfl, .of_update _ fun _ => rfl, _,
      List.mem_map_of_mem hrow, ?_⟩
    split <;> exact hid
  | started | scored | refused | failed | unscored => exact ⟨hd, .refl d, h⟩

theorem CbtChange.stays (change : CbtChange) (d : CbtStores) : CbtStays d (change.apply d) := by
  cases change with
  | createExam id exam =>
    simp only [CbtChange.apply]
    split
    · exact .refl d
    rename_i hnew
    refine ⟨fun examId old hold => ⟨old, ?_, rfl, rfl⟩, fun row hrow => ⟨row, hrow, rfl, rfl⟩⟩
    dsimp only
    rw [if_neg]
    · exact hold
    rintro rfl
    rw [hold] at hnew
    exact hnew rfl
  | publishExam id =>
    refine ⟨fun examId exam hexam => ?_, fun row hrow => ⟨row, hrow, rfl, rfl⟩⟩
    simp only [CbtChange.apply]
    split
    · exact ⟨{ exam with published := true }, by rw [hexam]; rfl, rfl, rfl⟩
    · exact ⟨exam, hexam, rfl, rfl⟩
  | setRoles roles => exact ⟨(CbtStays.refl d).exams, (CbtStays.refl d).rows⟩
  | setEnrolled enrolled => exact ⟨(CbtStays.refl d).exams, (CbtStays.refl d).rows⟩
  | setEnabled enabled => exact ⟨(CbtStays.refl d).exams, (CbtStays.refl d).rows⟩
  | pass milliseconds => exact ⟨(CbtStays.refl d).exams, (CbtStays.refl d).rows⟩

theorem CbtChange.attempts (change : CbtChange) (d : CbtStores) :
    (change.apply d).attempts = d.attempts := by
  cases change with
  | createExam id exam =>
    simp only [CbtChange.apply]
    split <;> rfl
  | publishExam | setRoles | setEnrolled | setEnabled | pass => rfl

/-- The bookkeeping is kept by every step. -/
theorem cbt_ok_step (e : CbtEvent) (hd : CbtKnown s.shared)
    (hcalls : ∀ call ∈ s.calls, call.Ok s.shared) :
    CbtKnown (cbtService.step e s).shared
      ∧ ∀ call ∈ (cbtService.step e s).calls, call.Ok (cbtService.step e s).shared := by
  refine Service.invariant_step (W := CbtKnown) (Q := fun d call => call.Ok d) ?_ ?_ ?_ ?_ ?_
    hd hcalls
  · exact fun request d _ => trivial
  · exact fun token call d hd hcall => (cbtStep_ok token hd hcall).1
  · exact fun token call d hd hcall => (cbtStep_ok token hd hcall).2.2
  · exact fun token call d hd hcall call' hcall' => hcall'.mono (cbtStep_ok token hd hcall).2.1
  intro change d hd
  refine ⟨?_, fun call hcall => hcall.mono (change.stays d)⟩
  intro row hrow
  have hold : row ∈ d.attempts.rows := change.attempts d ▸ hrow
  exact (change.stays d).isSome (hd row hold)

/-! ## Who has written answers -/

theorem wrote_next (h : call.wrote id answers) :
    (cbtStep token call d).1.wrote id answers := by
  cases call with
  | written attemptId given =>
    simp only [cbtStep, readAnswers]
    split <;> exact h
  | scoring attemptId examId given stored =>
    simp only [cbtStep, writeScore]
    split <;> exact h
  | scored attemptId given score maxScore => exact h
  | unscored attemptId given => exact h
  | asked | admitted | absent | started | attemptRead | accepted | refused | failed => cases h

theorem wrote_of_next
    (h : (cbtStep token call d).1.wrote id answers) :
    call.wrote id answers ∨ call = .accepted id answers := by
  cases call with
  | asked request =>
    cases request with
    | start studentId examId =>
      simp only [cbtStep, admitStudent] at h
      split at h
      · cases h
      split at h
      · cases h
      split at h
      · cases h
      split at h
      · cases h
      · split at h <;> cases h
    | submit studentId attemptId given =>
      simp only [cbtStep, readAttempt] at h
      split at h
      · cases h
      split at h
      · cases h
      split at h
      · cases h
      · split at h <;> cases h
  | admitted studentId examId =>
    simp only [cbtStep, findAttempt] at h
    split at h <;> cases h
  | absent studentId examId =>
    simp only [cbtStep, insertAttempt] at h
    split at h <;> cases h
  | attemptRead row given =>
    simp only [cbtStep, checkTime] at h
    split at h <;> cases h
  | accepted attemptId given =>
    obtain ⟨rfl, rfl⟩ := h
    exact Or.inr rfl
  | written attemptId given =>
    simp only [cbtStep, readAnswers] at h
    split at h <;> exact Or.inl h
  | scoring attemptId examId given stored =>
    simp only [cbtStep, writeScore] at h
    split at h <;> exact Or.inl h
  | scored attemptId given score maxScore => exact Or.inl h
  | unscored attemptId given => exact Or.inl h
  | started | refused | failed => cases h

theorem wrote_step (e : CbtEvent)
    (h : ∃ call ∈ s.calls, call.wrote id answers) :
    ∃ call ∈ (cbtService.step e s).calls, call.wrote id answers :=
  Service.exists_call_step (fun _ _ _ hwrote => wrote_next hwrote) h

/-- Answers are written by the statement that writes them. -/
theorem wrote_of_step {e : CbtEvent}
    (h : ∃ call ∈ (cbtService.step e s).calls, call.wrote id answers) :
    (∃ call ∈ s.calls, call.wrote id answers)
      ∨ ∃ i token, e = .advance i token ∧ s.calls[i]? = some (.accepted id answers) := by
  obtain ⟨call, hcall, hwrote⟩ := h
  cases e with
  | call request =>
    rcases List.mem_append.1 hcall with hold | hnew
    · exact Or.inl ⟨call, hold, hwrote⟩
    rw [List.mem_singleton.1 hnew] at hwrote
    cases hwrote
  | other change => exact Or.inl ⟨call, hcall, hwrote⟩
  | advance i token =>
    cases hi : s.calls[i]? with
    | none =>
      rw [Service.step_advance_none hi] at hcall
      exact Or.inl ⟨call, hcall, hwrote⟩
    | some moved =>
      rcases Service.mem_calls_advance hi hcall with hold | rfl
      · exact Or.inl ⟨call, hold, hwrote⟩
      rcases wrote_of_next hwrote with hbefore | rfl
      · exact Or.inl ⟨moved, List.mem_of_getElem? hi, hbefore⟩
      · exact Or.inr ⟨i, token, rfl, hi⟩

/-- A request that wrote answers is of an attempt that there is. -/
theorem CbtCall.Ok.of_wrote (h : call.Ok d)
    (hwrote : call.wrote id answers) : ∃ row ∈ d.attempts.rows, row.id = id := by
  cases call with
  | written attemptId given =>
    obtain ⟨rfl, rfl⟩ := hwrote
    exact h
  | scoring attemptId examId given stored =>
    obtain ⟨rfl, rfl⟩ := hwrote
    obtain ⟨row, hrow, hid, -⟩ := h
    exact ⟨row, hrow, hid⟩
  | scored attemptId given score maxScore =>
    obtain ⟨rfl, rfl⟩ := hwrote
    exact h
  | unscored attemptId given =>
    obtain ⟨rfl, rfl⟩ := hwrote
    exact h
  | asked | admitted | absent | started | attemptRead | accepted | refused | failed => cases hwrote

/-! ## What the steps keep besides -/

/-- The attempt is in time, on its exam as it stands. -/
def InTime (d : CbtStores) (row : CbtAttempt) : Prop :=
  ∀ exam, d.exams row.examId = some exam → d.now ≤ row.startedAt + exam.milliseconds

/-- There is a submitted attempt of the student on the exam. -/
def Done (d : CbtStores) (studentId examId : String) : Prop :=
  ∃ row ∈ d.attempts.rows, row.isOf studentId examId = true ∧ row.submitted = true

/-- One attempt at a time, submitted ones scored, the others in time unless there is a submitted
one, points that fit, and answers that a submission has written. -/
structure CbtSound (s : CbtState) : Prop where
  single : ∀ studentId examId,
    s.shared.attempts.rows.countP (CbtAttempt.inProgress studentId examId) ≤ 1
  scored : ∀ row ∈ s.shared.attempts.rows, row.submitted = true → Scored s row
  inTime : ∀ row ∈ s.shared.attempts.rows, row.submitted = false →
    Done s.shared row.studentId row.examId ∨ InTime s.shared row
  fits : ∀ id exam, s.shared.exams id = some exam → exam.maxScoreOf ≤ 2147483647
  origin : ∀ row ∈ s.shared.attempts.rows,
    (∃ call ∈ s.calls, ∃ answers, call.wrote row.id answers) →
      ∃ call ∈ s.calls, call.wrote row.id row.answers

theorem CbtExam.scoreOf_le (exam : CbtExam) (answers : CbtAnswers) :
    exam.scoreOf answers ≤ exam.maxScoreOf :=
  List.Sublist.sum_le_sum (List.filter_sublist.map _) fun _ _ => Nat.zero_le _

theorem scoreOf_congr {exam exam' : CbtExam} (h : exam'.questions = exam.questions) :
    exam'.scoreOf = exam.scoreOf ∧ exam'.maxScoreOf = exam.maxScoreOf := by
  constructor
  · funext answers
    rw [CbtExam.scoreOf, CbtExam.scoreOf, h]
  · rw [CbtExam.maxScoreOf, CbtExam.maxScoreOf, h]

/-- An attempt that was scored stays so. -/
theorem Scored.step {row : CbtAttempt} (e : CbtEvent) (h : Scored s row)
    (hstays : CbtStays s.shared (cbtService.step e s).shared) :
    Scored (cbtService.step e s) row := by
  obtain ⟨exam, hexam, hscore, hmax⟩ := h.points
  obtain ⟨exam', hexam', hquestions, -⟩ := hstays.exams _ exam hexam
  obtain ⟨hscoreOf, hmaxOf⟩ := scoreOf_congr hquestions
  refine ⟨⟨exam', hexam', ?_, ?_⟩, h.range, wrote_step e h.accepted⟩
  · rw [hscoreOf]
    exact hscore
  rw [hmaxOf]
  exact hmax

/-- An exam takes its time, whether it is published or not. -/
theorem InTime.step {row : CbtAttempt} (h : InTime d row)
    (hknown : (d.exams row.examId).isSome = true) (hstays : CbtStays d d')
    (hnow : d'.now = d.now) : InTime d' row := by
  intro exam' hexam'
  obtain ⟨exam, hexam⟩ := Option.isSome_iff_exists.1 hknown
  obtain ⟨exam'', hexam'', -, hduration⟩ := hstays.exams _ exam hexam
  cases hexam'.symm.trans hexam''
  have hin := h exam hexam
  rw [hnow, CbtExam.milliseconds, hduration]
  exact hin

/-! ## One step -/

/-- A step that leaves the attempts as they are. -/
theorem CbtSound.of_attempts (h : CbtSound s) (hd : CbtKnown s.shared) (e : CbtEvent)
    (hattempts : (cbtService.step e s).shared.attempts = s.shared.attempts)
    (hstays : CbtStays s.shared (cbtService.step e s).shared)
    (hnow : (cbtService.step e s).shared.now = s.shared.now)
    (hfits : ∀ id exam, (cbtService.step e s).shared.exams id = some exam →
      exam.maxScoreOf ≤ 2147483647)
    (hnone : ∀ i token, e = .advance i token → ∀ id answers,
      s.calls[i]? ≠ some (.accepted id answers)) :
    CbtSound (cbtService.step e s) := by
  refine ⟨?_, ?_, ?_, hfits, ?_⟩
  · rw [hattempts]
    exact h.single
  · rw [hattempts]
    exact fun row hrow hsubmitted => (h.scored row hrow hsubmitted).step e hstays
  · intro row hrow hopen
    rw [hattempts] at hrow
    rcases h.inTime row hrow hopen with hdone | hin
    · obtain ⟨done, hmem, hof, hsubmitted⟩ := hdone
      exact Or.inl ⟨done, by rw [hattempts]; exact hmem, hof, hsubmitted⟩
    · exact Or.inr (hin.step (hd row hrow) hstays hnow)
  intro row hrow hwrote
  rw [hattempts] at hrow
  obtain ⟨call, hcall, answers, hwrote⟩ := hwrote
  rcases wrote_of_step ⟨call, hcall, hwrote⟩ with hold | ⟨i, token, he, haccepted⟩
  · obtain ⟨call, hcall, hwrote⟩ := hold
    exact wrote_step e (h.origin row hrow ⟨call, hcall, answers, hwrote⟩)
  · exact absurd haccepted (hnone i token he row.id answers)

/-- A statement that changes nothing but where its request is. -/
theorem CbtSound.idle (h : CbtSound s) (hd : CbtKnown s.shared) (hcall : s.calls[i]? = some call)
    (hsame : (cbtStep token call s.shared).2 = s.shared)
    (hnone : ∀ id answers, call ≠ .accepted id answers) :
    CbtSound (cbtService.step (.advance i token) s) := by
  have hshared : (cbtService.step (.advance i token) s).shared = s.shared := by
    rw [Service.step_advance hcall]
    exact hsame
  refine h.of_attempts hd _ (by rw [hshared]) (by rw [hshared]; exact .refl _) (by rw [hshared])
    (by rw [hshared]; exact h.fits) ?_
  intro j token' he id answers
  cases he
  rw [hcall]
  exact fun heq => hnone id answers (Option.some.inj heq)

/-- An attempt is inserted when there is none in progress. -/
theorem CbtSound.insert (h : CbtSound s) (hd : CbtKnown s.shared)
    (hcalls : ∀ call ∈ s.calls, call.Ok s.shared) {studentId examId : String}
    (hcall : s.calls[i]? = some (.absent studentId examId))
    (hok : CbtStepOk s (.advance i token)) : CbtSound (cbtService.step (.advance i token) s) := by
  have hnone := hok _ hcall
  rcases insertAttempt_cases token studentId examId s.shared with ⟨attempts, hinsert, hnext⟩ | hnext
  · have hshared : (cbtService.step (.advance i token) s).shared = { s.shared with attempts } := by
      rw [Service.step_advance hcall]
      exact congrArg Prod.snd hnext
    have hstays : CbtStays s.shared { s.shared with attempts } :=
      ⟨fun _ exam hexam => ⟨exam, hexam, rfl, rfl⟩, fun row hrow =>
        ⟨row, ((Keyed.insert?_eq_some hinsert).2 row).2 (Or.inl hrow), rfl, rfl⟩⟩
    have hrows := (Keyed.insert?_eq_some hinsert).2
    refine ⟨?_, ?_, ?_, ?_, ?_⟩
    · rw [hshared]
      intro studentId' examId'
      dsimp only
      rw [Keyed.rows_insert? hinsert, List.countP_append, List.countP_singleton]
      split
      · rename_i hof
        simp only [CbtAttempt.inProgress, CbtAttempt.isOf, Bool.not_false, Bool.and_true,
          Bool.and_eq_true, decide_eq_true_eq] at hof
        obtain ⟨rfl, rfl⟩ := hof
        have hzero : s.shared.attempts.rows.countP (CbtAttempt.inProgress studentId examId)
            = 0 := by
          rw [List.countP_eq_zero]
          intro row hrow hprogress
          rw [CbtAttempt.inProgress, Bool.and_eq_true] at hprogress
          have hsubmitted := hnone row hrow hprogress.1
          rw [hsubmitted] at hprogress
          cases hprogress.2
        omega
      · exact h.single studentId' examId'
    · intro row hrow hsubmitted
      rw [hshared] at hrow
      rcases (hrows row).1 hrow with hold | rfl
      · exact (h.scored row hold hsubmitted).step _ (by rw [hshared]; exact hstays)
      · cases hsubmitted
    · rw [hshared]
      intro row hrow hopen
      rcases (hrows row).1 hrow with hold | rfl
      · rcases h.inTime row hold hopen with hdone | hin
        · obtain ⟨done, hmem, hof, hdone⟩ := hdone
          exact Or.inl ⟨done, (hrows done).2 (Or.inl hmem), hof, hdone⟩
        · exact Or.inr hin
      refine Or.inr fun exam _ => ?_
      simp only [CbtExam.milliseconds]
      split <;> omega
    · rw [hshared]
      exact h.fits
    intro row hrow hwrote
    rw [hshared] at hrow
    obtain ⟨call, hmem, answers, hwrote⟩ := hwrote
    rcases wrote_of_step ⟨call, hmem, hwrote⟩ with hold | ⟨j, token', he, haccepted⟩
    · obtain ⟨call, hmem, hwrote⟩ := hold
      rcases (hrows row).1 hrow with hold | rfl
      · exact wrote_step _ (h.origin row hold ⟨call, hmem, answers, hwrote⟩)
      -- nothing was written to an attempt that is new
      obtain ⟨old, hold, hid⟩ := (hcalls call hmem).of_wrote hwrote
      exact absurd hid (Keyed.find?_eq_none.1 (Keyed.insert?_eq_some hinsert).1 old hold)
    cases he
    rw [hcall] at haccepted
    cases haccepted
  · exact h.idle hd hcall (congrArg Prod.snd hnext) fun _ _ => nofun

/-- An update that keeps whose the attempts are, and which are submitted, keeps them in time. -/
theorem inTime_update
    (hf : ∀ row, (f row).id = row.id)
    (hkept : ∀ row, (f row).studentId = row.studentId ∧ (f row).examId = row.examId
      ∧ (f row).startedAt = row.startedAt)
    (hgrows : ∀ row, row.submitted = true → (f row).submitted = true)
    (h : ∀ row ∈ d.attempts.rows, row.submitted = false →
      Done d row.studentId row.examId ∨ InTime d row) :
    ∀ row ∈ (d.attempts.updateWhere p f hf).rows, row.submitted = false →
      Done { d with attempts := d.attempts.updateWhere p f hf } row.studentId row.examId
        ∨ InTime { d with attempts := d.attempts.updateWhere p f hf } row := by
  have hfields : ∀ row : CbtAttempt, ∀ updated, updated = (if p row = true then f row else row) →
      (row.submitted = true → updated.submitted = true) ∧ updated.studentId = row.studentId
        ∧ updated.examId = row.examId ∧ updated.startedAt = row.startedAt := by
    intro row updated heq
    rw [heq]
    split
    · exact ⟨hgrows row, hkept row⟩
    · exact ⟨id, rfl, rfl, rfl⟩
  intro row' hrow' hopen
  obtain ⟨row, hrow, hupdated⟩ := List.mem_map.1 hrow'
  obtain ⟨hsubmitted, hstudent, hexam, hstarted⟩ := hfields row row' hupdated.symm
  have hopenRow : row.submitted = false := by
    cases hcases : row.submitted with
    | false => rfl
    | true => exact (hopen.symm.trans (hsubmitted hcases)).symm
  rw [hstudent, hexam]
  rcases h row hrow hopenRow with hdone | hin
  · obtain ⟨done, hmem, hof, hdone⟩ := hdone
    obtain ⟨hsubmitted', hstudent', hexam', -⟩ := hfields done _ rfl
    refine Or.inl ⟨_, List.mem_map_of_mem hmem, ?_, hsubmitted' hdone⟩
    rw [CbtAttempt.isOf, hstudent', hexam']
    exact hof
  refine Or.inr fun exam hexamRow => ?_
  rw [hexam] at hexamRow
  rw [hstarted]
  exact hin exam hexamRow

/-- Answers are written to an attempt that is not submitted, or has them: the submitted attempts
stay. -/
theorem writeAnswers_frozen
    (hfrozen : ∀ row ∈ d.attempts.rows, row.id = attemptId →
      row.submitted = false ∨ row.answers = answers) {row : CbtAttempt}
    (hrow : row ∈ d.attempts.rows) (hsubmitted : row.submitted = true) :
    (if decide (row.id = attemptId) = true then { row with answers } else row) = row := by
  split
  · rename_i hid
    rcases hfrozen row hrow (of_decide_eq_true hid) with hopen | hsame
    · rw [hopen] at hsubmitted
      cases hsubmitted
    · rw [← hsame]
  · rfl

/-- A statement that updates one attempt: left to show is that its score is right, and that its
answers were written. -/
theorem CbtSound.of_update (h : CbtSound s) {hf : ∀ row, (f row).id = row.id}
    (hcall : s.calls[i]? = some call)
    (hnext : (cbtStep token call s.shared).2 = { s.shared with
      attempts := s.shared.attempts.updateWhere (fun row => row.id = attemptId) f hf })
    (hkept : ∀ row, (f row).studentId = row.studentId ∧ (f row).examId = row.examId
      ∧ (f row).startedAt = row.startedAt)
    (hgrows : ∀ row, row.submitted = true → (f row).submitted = true)
    (hwriter : ∀ id answers, call = .accepted id answers → id = attemptId)
    (hscored : CbtStays s.shared (cbtService.step (.advance i token) s).shared →
      ∀ row ∈ s.shared.attempts.rows, row.id = attemptId → (f row).submitted = true →
        Scored (cbtService.step (.advance i token) s) (f row))
    (horigin : ∀ row ∈ s.shared.attempts.rows, row.id = attemptId →
      ∃ call ∈ (cbtService.step (.advance i token) s).calls, call.wrote row.id (f row).answers) :
    CbtSound (cbtService.step (.advance i token) s) := by
  have hshared : (cbtService.step (.advance i token) s).shared = { s.shared with
      attempts := s.shared.attempts.updateWhere (fun row => row.id = attemptId) f hf } := by
    rw [Service.step_advance hcall]
    exact hnext
  have hstays : CbtStays s.shared (cbtService.step (.advance i token) s).shared := by
    rw [hshared]
    exact .of_update hf fun row => (hkept row).2.1
  refine ⟨?_, ?_, ?_, ?_, ?_⟩
  · rw [hshared]
    intro studentId examId
    refine le_trans ?_ (h.single studentId examId)
    rw [Keyed.updateWhere, List.countP_map]
    refine List.countP_mono_left fun row _ hprogress => ?_
    simp only [Function.comp_apply] at hprogress
    split at hprogress
    · obtain ⟨hstudent, hexam, -⟩ := hkept row
      simp only [CbtAttempt.inProgress, CbtAttempt.isOf, hstudent, hexam, Bool.and_eq_true,
        Bool.not_eq_true'] at hprogress ⊢
      refine ⟨hprogress.1, Bool.eq_false_iff.2 fun hsubmitted => ?_⟩
      exact Bool.eq_false_iff.1 hprogress.2 (hgrows row hsubmitted)
    · exact hprogress
  · intro row' hrow' hsubmitted
    rw [hshared] at hrow'
    obtain ⟨row, hrow, rfl⟩ := List.mem_map.1 hrow'
    by_cases hid : decide (row.id = attemptId) = true
    · rw [if_pos hid] at hsubmitted ⊢
      exact hscored hstays row hrow (of_decide_eq_true hid) hsubmitted
    rw [if_neg hid] at hsubmitted ⊢
    exact (h.scored row hrow hsubmitted).step _ hstays
  · rw [hshared]
    exact inTime_update hf hkept hgrows h.inTime
  · rw [hshared]
    exact h.fits
  intro row' hrow' hwrote
  rw [hshared] at hrow'
  obtain ⟨row, hrow, rfl⟩ := List.mem_map.1 hrow'
  by_cases hid : decide (row.id = attemptId) = true
  · rw [if_pos hid, hf]
    exact horigin row hrow (of_decide_eq_true hid)
  rw [if_neg hid] at hwrote ⊢
  obtain ⟨moved, hmem, given, hwrote⟩ := hwrote
  rcases wrote_of_step ⟨moved, hmem, hwrote⟩ with hold | ⟨j, token', he, haccepted⟩
  · obtain ⟨moved, hmem, hwrote⟩ := hold
    exact wrote_step _ (h.origin row hrow ⟨moved, hmem, given, hwrote⟩)
  cases he
  rw [hcall] at haccepted
  exact absurd (decide_eq_true (hwriter _ _ (Option.some.inj haccepted))) hid

theorem CbtSound.write (h : CbtSound s) (hcall : s.calls[i]? = some (.accepted attemptId answers))
    (hok : CbtStepOk s (.advance i token)) : CbtSound (cbtService.step (.advance i token) s) := by
  have hfrozen := hok _ hcall
  refine h.of_update (f := fun row => { row with answers }) hcall rfl (fun _ => ⟨rfl, rfl, rfl⟩)
    (fun _ hsubmitted => hsubmitted) ?_ ?_ ?_
  · rintro id given heq
    cases heq
    rfl
  · intro hstays row hrow hid hsubmitted
    have hsame := writeAnswers_frozen hfrozen hrow hsubmitted
    rw [if_pos (decide_eq_true hid)] at hsame
    rw [hsame]
    exact (h.scored row hrow hsubmitted).step _ hstays
  · exact fun row _ hid => ⟨_, Service.mem_calls_moved (x := token) hcall, hid.symm, rfl⟩

/-- The score is of the stored answers: a submitted attempt has it already. -/
theorem writeScore_frozen {examId : String} {stored : CbtAnswers} {score maxScore : ℕ}
    (hscore : score = ((s.shared.exams examId).map fun exam => exam.scoreOf stored).getD 0)
    (hmax : maxScore = ((s.shared.exams examId).map CbtExam.maxScoreOf).getD 0)
    (hstored : ∀ row ∈ s.shared.attempts.rows, row.id = attemptId → row.answers = stored)
    (hof : ∃ row ∈ s.shared.attempts.rows, row.id = attemptId ∧ row.examId = examId)
    (h : CbtSound s) {row : CbtAttempt} (hrow : row ∈ s.shared.attempts.rows)
    (hsubmitted : row.submitted = true) :
    (if decide (row.id = attemptId) = true then
      { row with submitted := true, score := score, maxScore := maxScore } else row) = row := by
  split
  · rename_i hid
    obtain ⟨exam, hexam, hrowScore, hrowMax⟩ := (h.scored row hrow hsubmitted).points
    obtain ⟨known, hknown, hknownId, rfl⟩ := hof
    obtain rfl : known = row :=
      Keyed.eq_of_key hknown hrow (hknownId.trans (of_decide_eq_true hid).symm)
    rw [hexam, Option.map_some, Option.getD_some] at hscore hmax
    rw [hscore, hmax, ← hstored known hrow hknownId, ← hrowScore, ← hrowMax, ← hsubmitted]
  · rfl

theorem CbtSound.score (h : CbtSound s) (hd : CbtKnown s.shared)
    (hcalls : ∀ call ∈ s.calls, call.Ok s.shared) {examId : String}
    {stored : CbtAnswers}
    (hcall : s.calls[i]? = some (.scoring attemptId examId answers stored))
    (hok : CbtStepOk s (.advance i token)) : CbtSound (cbtService.step (.advance i token) s) := by
  have hstored := hok _ hcall
  have hof := hcalls _ (List.mem_of_getElem? hcall)
  rcases writeScore_cases attemptId examId answers stored s.shared with
    hnext | ⟨score, maxScore, hscore, hmax, hnext⟩
  · exact h.idle hd hcall (congrArg Prod.snd hnext) fun _ _ => nofun
  have hwrote : ∀ row ∈ s.shared.attempts.rows, row.id = attemptId →
      ∃ call ∈ (cbtService.step (.advance i token) s).calls, call.wrote row.id row.answers := by
    rintro row hrow rfl
    exact wrote_step _ (h.origin row hrow
      ⟨_, List.mem_of_getElem? hcall, answers, rfl, rfl⟩)
  refine h.of_update (f := fun row => { row with submitted := true, score, maxScore }) hcall
    (congrArg Prod.snd hnext) (fun _ => ⟨rfl, rfl, rfl⟩) (fun _ _ => rfl) (fun _ _ => nofun) ?_
    hwrote
  intro hstays row hrow hid _
  obtain ⟨known, hknown, hknownId, hexamId⟩ := hof
  obtain rfl : known = row := Keyed.eq_of_key hknown hrow (hknownId.trans hid.symm)
  obtain ⟨exam, hexam⟩ := Option.isSome_iff_exists.1 (hd known hrow)
  obtain ⟨exam', hexam', hquestions, -⟩ := hstays.exams _ exam hexam
  obtain ⟨hscoreOf, hmaxOf⟩ := scoreOf_congr hquestions
  rw [← hexamId, hexam, Option.map_some, Option.getD_some] at hscore hmax
  refine ⟨⟨exam', hexam', ?_, ?_⟩, ?_, hwrote known hrow hid⟩
  · rw [hscoreOf, hscore, ← hstored known hrow hknownId]
  · rw [hmaxOf, hmax]
  simp only [hscore, hmax]
  exact exam.scoreOf_le stored

/-- **A step that keeps to the conditions keeps CBT sound.** -/
theorem cbtSound_step (e : CbtEvent) (h : CbtSound s) (hd : CbtKnown s.shared)
    (hcalls : ∀ call ∈ s.calls, call.Ok s.shared) (hok : CbtStepOk s e) :
    CbtSound (cbtService.step e s) := by
  cases e with
  | call request =>
    exact h.of_attempts hd _ rfl (.refl _) rfl h.fits fun _ _ => nofun
  | other change =>
    have hattempts : (cbtService.step (.other change) s).shared.attempts = s.shared.attempts :=
      change.attempts s.shared
    have hstays := change.stays s.shared
    cases change with
    | createExam id exam =>
      have hexams : ∀ examId exam',
          (CbtChange.apply s.shared (.createExam id exam)).exams examId = some exam' →
          exam' = exam ∨ s.shared.exams examId = some exam' := by
        intro examId exam' hexam'
        simp only [CbtChange.apply] at hexam'
        split at hexam'
        · exact Or.inr hexam'
        dsimp only at hexam'
        split at hexam'
        · exact Or.inl (Option.some.inj hexam').symm
        · exact Or.inr hexam'
      have hnow : (CbtChange.apply s.shared (.createExam id exam)).now = s.shared.now := by
        simp only [CbtChange.apply]
        split <;> rfl
      refine h.of_attempts hd _ hattempts hstays hnow ?_ fun _ _ => nofun
      intro examId exam' hexam'
      rcases hexams examId exam' hexam' with rfl | hold
      · exact hok
      · exact h.fits examId exam' hold
    | publishExam id =>
      refine h.of_attempts hd _ hattempts hstays rfl ?_ fun _ _ => nofun
      intro examId exam' hexam'
      simp only [Service.step_other, cbtService, CbtChange.apply] at hexam'
      split at hexam'
      · obtain ⟨exam, hexam, rfl⟩ := Option.map_eq_some_iff.1 hexam'
        exact h.fits examId exam hexam
      · exact h.fits examId exam' hexam'
    | setRoles roles => exact h.of_attempts hd _ hattempts hstays rfl h.fits fun _ _ => nofun
    | setEnrolled enrolled =>
      exact h.of_attempts hd _ hattempts hstays rfl h.fits fun _ _ => nofun
    | setEnabled enabled => exact h.of_attempts hd _ hattempts hstays rfl h.fits fun _ _ => nofun
    | pass milliseconds =>
      exact ⟨h.single, fun row hrow hsubmitted => (h.scored row hrow hsubmitted).step _ hstays,
        hok, h.fits, h.origin⟩
  | advance i token =>
    cases hcall : s.calls[i]? with
    | none =>
      rw [Service.step_advance_none hcall]
      exact h
    | some call =>
      cases call with
      | asked request => cases request <;> exact h.idle hd hcall rfl fun _ _ => nofun
      | absent studentId examId => exact h.insert hd hcalls hcall hok
      | accepted attemptId answers => exact h.write hcall hok
      | scoring attemptId examId answers stored => exact h.score hd hcalls hcall hok
      | admitted | started | attemptRead | written | scored | refused | failed | unscored =>
        exact h.idle hd hcall rfl fun _ _ => nofun

/-- A step that keeps to the conditions leaves the submitted attempts as they are. -/
theorem freezes_of_ok {e : CbtEvent} (h : CbtSound s) (hcalls : ∀ call ∈ s.calls, call.Ok s.shared)
    (hok : CbtStepOk s e) : Freezes s e := by
  intro row hrow hsubmitted
  cases e with
  | call request => exact hrow
  | other change =>
    have hattempts : (cbtService.step (.other change) s).shared.attempts = s.shared.attempts :=
      change.attempts s.shared
    rw [hattempts]
    exact hrow
  | advance i token =>
    cases hcall : s.calls[i]? with
    | none =>
      rw [Service.step_advance_none hcall]
      exact hrow
    | some call =>
      have hshared : (cbtService.step (.advance i token) s).shared
          = (cbtStep token call s.shared).2 := by
        rw [Service.step_advance hcall]
        rfl
      rw [hshared]
      cases call with
      | asked request => cases request <;> exact hrow
      | absent studentId examId =>
        simp only [cbtStep]
        rcases insertAttempt_cases token studentId examId s.shared with
          ⟨attempts, hinsert, hnext⟩ | hnext
        · rw [hnext]
          exact ((Keyed.insert?_eq_some hinsert).2 row).2 (Or.inl hrow)
        rw [hnext]
        exact hrow
      | accepted attemptId answers =>
        have hframe := writeAnswers_frozen (hok _ hcall) hrow hsubmitted
        exact List.mem_map.2 ⟨row, hrow, hframe⟩
      | scoring attemptId examId answers stored =>
        simp only [cbtStep]
        rcases writeScore_cases attemptId examId answers stored s.shared with
          hnext | ⟨score, maxScore, hscore, hmax, hnext⟩
        · rw [hnext]
          exact hrow
        rw [hnext]
        have hframe := writeScore_frozen hscore hmax (hok _ hcall)
          (hcalls _ (List.mem_of_getElem? hcall)) h hrow hsubmitted
        exact List.mem_map.2 ⟨row, hrow, hframe⟩
      | admitted | started | attemptRead | written | scored | refused | failed | unscored =>
        exact hrow

end Steps

/-! ## An attempt that can be submitted -/

section Alone
variable {d : CbtStores} {studentId examId : String} {exam : CbtExam} {row : CbtAttempt}

/-- What it takes that a student may take an exam. -/
theorem admitStudent_eq (h : admitStudent studentId examId d = .admitted studentId examId) :
    d.enabled = true ∧ ∃ exam, d.exams examId = some exam := by
  simp only [admitStudent] at h
  split at h
  · cases h
  rename_i henabled
  split at h
  · cases h
  rename_i exam hexam
  exact ⟨Bool.not_eq_false _ ▸ henabled, exam, hexam⟩

/-- An attempt in time takes a submission on its own. -/
theorem submit_alone (row : CbtAttempt) (token : String) (henabled : d.enabled = true)
    (hexam : d.exams row.examId = some exam) (hfits : exam.maxScoreOf ≤ 2147483647)
    (hrow : d.attempts.find? row.id = some row) (hopen : row.submitted = false)
    (hin : d.now ≤ row.startedAt + exam.milliseconds) (answers : CbtAnswers) :
    ∃ score maxScore d', alone [token, token, token, token, token]
        (.submit row.studentId row.id answers) d = (.scored row.id answers score maxScore, d') := by
  have hread : readAttempt row.studentId row.id answers d = .attemptRead row answers := by
    simp [readAttempt, henabled, hrow, hopen]
  have htime : checkTime row answers d = .accepted row.id answers := by
    simp only [checkTime, hexam, Option.map_some, Option.getD_some]
    rw [if_neg (by omega)]
  have hwritten : (writeAnswers row.id answers d).attempts.find? row.id
      = some { row with answers } := by
    rw [writeAnswers, Keyed.find?_updateWhere, hrow, Option.map_some, if_pos (by simp)]
  have hscore := exam.scoreOf_le answers
  have hfit : fitsInt (exam.scoreOf answers) = true ∧ fitsInt exam.maxScoreOf = true := by
    simp only [fitsInt, Bool.and_eq_true, decide_eq_true_eq]
    omega
  refine ⟨exam.scoreOf answers, exam.maxScoreOf, ?_⟩
  have hexamWritten : (writeAnswers row.id answers d).exams row.examId = some exam := hexam
  simp only [alone, List.foldl_cons, List.foldl_nil, cbtStep, hread, htime, readAnswers, hwritten,
    writeScore, hexamWritten, Option.map_some, Option.getD_some, hfit.1, hfit.2, Bool.and_self,
    if_true]
  exact ⟨_, rfl⟩

/-- There are tokens that are not in use. -/
theorem exists_token (d : CbtStores) : ∃ token, ∀ row ∈ d.attempts.rows, row.id ≠ token := by
  have hinfinite : Infinite String := by
    refine Infinite.of_injective (fun letters : List Char => String.ofList letters) ?_
    intro letters letters' heq
    have hletters := congrArg String.toList heq
    simpa using hletters
  obtain ⟨token, htoken⟩ := Infinite.exists_notMem_finset
    (d.attempts.rows.map CbtAttempt.id).toFinset
  refine ⟨token, fun row hrow hid => htoken ?_⟩
  rw [List.mem_toFinset]
  exact List.mem_map.2 ⟨row, hrow, hid⟩

theorem start_alone (token : String)
    (hmay : admitStudent studentId examId d = .admitted studentId examId) :
    alone [token, token, token] (.start studentId examId) d
      = cbtStep token (findAttempt studentId examId d) d := by
  simp only [alone, List.foldl_cons, List.foldl_nil, cbtStep, hmay]

theorem canSubmit_of_sound {s : CbtState} (h : CbtSound s)
    (hmay : admitStudent studentId examId s.shared = .admitted studentId examId)
    (hnone : ¬ Done s.shared studentId examId) : CanSubmit studentId examId s.shared := by
  obtain ⟨henabled, exam, hexam⟩ := admitStudent_eq hmay
  have hfits := h.fits examId exam hexam
  cases hfind : s.shared.attempts.rows.find? (CbtAttempt.inProgress studentId examId) with
  | some row =>
    -- the attempt in progress is in time
    have hrow := List.mem_of_find?_eq_some hfind
    have hprogress := List.find?_some hfind
    simp only [CbtAttempt.inProgress, CbtAttempt.isOf, Bool.and_eq_true, decide_eq_true_eq,
      Bool.not_eq_true'] at hprogress
    obtain ⟨⟨rfl, rfl⟩, hopen⟩ := hprogress
    have hin := (h.inTime row hrow hopen).resolve_left hnone exam hexam
    have hfound : s.shared.attempts.find? row.id = some row :=
      Keyed.find?_eq_some.2 ⟨hrow, rfl⟩
    refine ⟨"", row.id, s.shared, ?_, submit_alone row "" henabled hexam hfits hfound hopen hin⟩
    rw [start_alone "" hmay, findAttempt, hfind]
    rfl
  | none =>
    -- a new attempt is inserted
    obtain ⟨token, htoken⟩ := exists_token s.shared
    have hnew : s.shared.attempts.find? token = none := Keyed.find?_eq_none.2 htoken
    cases hinsert : s.shared.attempts.insert?
        { id := token, examId, studentId, startedAt := s.shared.now } with
    | none => exact absurd hnew (Keyed.insert?_eq_none hinsert)
    | some attempts =>
      have hfound : attempts.find? token
          = some { id := token, examId, studentId, startedAt := s.shared.now } := by
        rw [Keyed.find?_insert? hinsert, if_pos rfl]
      have hin : s.shared.now ≤ s.shared.now + exam.milliseconds := by
        rw [CbtExam.milliseconds]
        split <;> omega
      refine ⟨token, token, { s.shared with attempts }, ?_,
        submit_alone (d := { s.shared with attempts })
          { id := token, examId, studentId, startedAt := s.shared.now } token henabled hexam
          hfits hfound rfl hin⟩
      rw [start_alone token hmay, findAttempt, hfind]
      simp only [cbtStep, insertAttempt, hinsert]

end Alone

theorem CbtSound.fair {s : CbtState} (h : CbtSound s) : CbtFair s where
  single := h.single
  scored := h.scored
  startable := by
    intro studentId examId hmay
    by_cases hdone : Done s.shared studentId examId
    · exact Or.inl hdone
    · exact Or.inr (canSubmit_of_sound h hmay hdone)

/-! ## Runs -/

/-- A school without exams. -/
def cbtStart (roles : String → List String) (enrolled : String → String → Bool) (enabled : Bool)
    (now : ℤ) : CbtState :=
  { shared := { roles, enrolled, enabled, now } }

theorem CbtStays.trans {d d' d'' : CbtStores} (h : CbtStays d d') (h' : CbtStays d' d'') :
    CbtStays d d'' := by
  refine ⟨fun id exam hexam => ?_, fun row hrow => ?_⟩
  · obtain ⟨exam', hexam', hquestions, hduration⟩ := h.exams id exam hexam
    obtain ⟨exam'', hexam'', hquestions', hduration'⟩ := h'.exams id exam' hexam'
    exact ⟨exam'', hexam'', hquestions'.trans hquestions, hduration'.trans hduration⟩
  obtain ⟨row', hrow', hid, hexam⟩ := h.rows row hrow
  obtain ⟨row'', hrow'', hid', hexam'⟩ := h'.rows row' hrow'
  exact ⟨row'', hrow'', hid'.trans hid, hexam'.trans hexam⟩

theorem cbtStays_step {s : CbtState} (e : CbtEvent) (hd : CbtKnown s.shared)
    (hcalls : ∀ call ∈ s.calls, call.Ok s.shared) :
    CbtStays s.shared (cbtService.step e s).shared := by
  cases e with
  | call request => exact .refl _
  | other change => exact change.stays _
  | advance i token =>
    cases hcall : s.calls[i]? with
    | none =>
      rw [Service.step_advance_none hcall]
      exact .refl _
    | some call =>
      rw [Service.step_advance hcall]
      exact (cbtStep_ok token hd (hcalls call (List.mem_of_getElem? hcall))).2.1

/-- **CBT is fair throughout a run**, and submitted attempts stay as they are, when attempts are
inserted only where none is in progress, answers are written only to an attempt that is not
submitted, the scored answers are still the stored ones, no attempt in progress runs out of time
before there is a submitted one, and the points of every exam fit. -/
theorem cbt_fair (roles : String → List String) (enrolled : String → String → Bool)
    (enabled : Bool) (now : ℤ) (es : List CbtEvent)
    (hes : Along cbtService.step CbtStepOk (cbtStart roles enrolled enabled now) es) :
    (∀ pre, pre <+: es → CbtFair (run cbtService.step (cbtStart roles enrolled enabled now) pre))
      ∧ Along cbtService.step Freezes (cbtStart roles enrolled enabled now) es := by
  have hstart : CbtSound (cbtStart roles enrolled enabled now)
      ∧ CbtKnown (cbtStart roles enrolled enabled now).shared
      ∧ ∀ call ∈ (cbtStart roles enrolled enabled now).calls,
        call.Ok (cbtStart roles enrolled enabled now).shared :=
    ⟨⟨fun _ _ => Nat.zero_le _, nofun, nofun, nofun, nofun⟩, nofun, nofun⟩
  have hstep : ∀ (s : CbtState) (e : CbtEvent), (CbtSound s ∧ CbtKnown s.shared
      ∧ ∀ call ∈ s.calls, call.Ok s.shared) → CbtStepOk s e →
      CbtSound (cbtService.step e s) ∧ CbtKnown (cbtService.step e s).shared
        ∧ ∀ call ∈ (cbtService.step e s).calls, call.Ok (cbtService.step e s).shared :=
    fun s e hs hok => ⟨cbtSound_step e hs.1 hs.2.1 hs.2.2 hok, cbt_ok_step e hs.2.1 hs.2.2⟩
  constructor
  · intro pre hpre
    exact (along_invariant_throughout hstep hstart hes hpre).1.fair
  · exact Along.of_invariant hstep (fun s e hs hok => freezes_of_ok hs.1 hs.2.2 hok) hstart hes

namespace Example

def pupils : String → List String := fun _ => ["student"]

/-- An exam with one question, of which the second option is right. -/
def quiz : CbtExam :=
  { title := "Quiz", published := true, questions := [{ id := "q1", correctIndex := 1 }] }

/-- The steps of a start up to its insert, as call `i`. -/
def startQuiz (i : ℕ) (token : String) : List CbtEvent :=
  [.call (.start "ada" "quiz"), .advance i "", .advance i "", .advance i token]

def submitQuiz (i : ℕ) (choice : ℤ) : List CbtEvent :=
  [.call (.submit "ada" "a1" [("q1", choice)]), .advance i "", .advance i "", .advance i "",
    .advance i "", .advance i ""]

/-- An attempt is started and submitted. -/
def taken : List CbtEvent :=
  .other (.createExam "quiz" quiz) :: startQuiz 0 "a1" ++ submitQuiz 1 1

/-- Two starts find no attempt before either inserts one. -/
def startedTwice : List CbtEvent :=
  [.other (.createExam "quiz" quiz), .call (.start "ada" "quiz"), .call (.start "ada" "quiz"),
    .advance 0 "", .advance 1 "", .advance 0 "", .advance 1 "", .advance 0 "a1", .advance 1 "a2"]

/-- A submission that was accepted writes its answers after another was scored. -/
def overwritten : List CbtEvent :=
  .other (.createExam "quiz" quiz) :: startQuiz 0 "a1"
    ++ [.call (.submit "ada" "a1" [("q1", 0)]), .advance 1 "", .advance 1 ""]
    ++ submitQuiz 2 1 ++ [.advance 1 ""]

/-- An attempt runs out of time. -/
def lapsed : List CbtEvent :=
  .other (.createExam "quiz" quiz) :: startQuiz 0 "a1" ++ [.other (.pass 3600001)]

end Example

/-- An attempt is started, and submitted in time. -/
theorem cbt_fair_taken :
    CbtFair (run cbtService.step (cbtStart Example.pupils (fun _ _ => false) true 0)
      Example.taken) := by
  refine (cbt_fair Example.pupils (fun _ _ => false) true 0 Example.taken ?_).1 _ List.prefix_rfl
  have hfits : Example.quiz.maxScoreOf ≤ 2147483647 := by decide
  refine ⟨hfits, trivial, ?_, ?_, ?_, trivial, ?_, ?_, ?_, ?_, ?_, trivial⟩
  · intro call hcall
    cases hcall
    trivial
  · intro call hcall
    cases hcall
    trivial
  · intro call hcall
    cases hcall
    exact nofun
  · intro call hcall
    cases hcall
    trivial
  · intro call hcall
    cases hcall
    trivial
  · intro call hcall
    cases hcall
    change ∀ row ∈ _, _
    decide
  · intro call hcall
    cases hcall
    trivial
  intro call hcall
  cases hcall
  change ∀ row ∈ _, _
  decide

/-- CBT is not always fair: two starts at once leave two attempts in progress, a submission that
was accepted late changes the answers of a scored attempt, and an attempt that has run out of time
is neither closed nor replaced. -/
theorem not_cbt_fair :
    ¬ CbtFair (run cbtService.step (cbtStart Example.pupils (fun _ _ => false) true 0)
        Example.startedTwice)
      ∧ ¬ CbtFair (run cbtService.step (cbtStart Example.pupils (fun _ _ => false) true 0)
        Example.overwritten)
      ∧ ¬ CbtFair (run cbtService.step (cbtStart Example.pupils (fun _ _ => false) true 0)
        Example.lapsed) := by
  refine ⟨fun h => ?_, fun h => ?_, fun h => ?_⟩
  · have hone := h.single "ada" "quiz"
    revert hone
    decide
  · have hrow : ({ id := "a1", examId := "quiz", studentId := "ada", submitted := true
                   answers := [("q1", 0)], score := 1, maxScore := 1, startedAt := 0 } : CbtAttempt)
        ∈ (run cbtService.step (cbtStart Example.pupils (fun _ _ => false) true 0)
          Example.overwritten).shared.attempts.rows := by decide
    obtain ⟨exam, hexam, hscore, -⟩ := (h.scored _ hrow rfl).points
    have hquiz : (run cbtService.step (cbtStart Example.pupils (fun _ _ => false) true 0)
        Example.overwritten).shared.exams "quiz" = some Example.quiz := by decide
    cases hquiz.symm.trans hexam
    revert hscore
    decide
  have hmay : admitStudent "ada" "quiz" (run cbtService.step
      (cbtStart Example.pupils (fun _ _ => false) true 0) Example.lapsed).shared
        = .admitted "ada" "quiz" := by decide
  rcases h.startable "ada" "quiz" hmay with hdone | hcan
  · revert hdone
    decide
  -- the attempt that has run out of time is all that a start returns
  obtain ⟨token, attemptId, d, hstart, hsubmit⟩ := hcan
  have hfound : findAttempt "ada" "quiz" (run cbtService.step
      (cbtStart Example.pupils (fun _ _ => false) true 0) Example.lapsed).shared
        = .started "a1" := by decide
  rw [start_alone token hmay, hfound] at hstart
  cases hstart
  obtain ⟨score, maxScore, d, hscored⟩ := hsubmit []
  have hread : readAttempt "ada" "a1" [] (run cbtService.step
      (cbtStart Example.pupils (fun _ _ => false) true 0) Example.lapsed).shared
      = .attemptRead { id := "a1", examId := "quiz", studentId := "ada", startedAt := 0 }
        [] := by
    decide
  have htime : checkTime { id := "a1", examId := "quiz", studentId := "ada", startedAt := 0 } []
      (run cbtService.step (cbtStart Example.pupils (fun _ _ => false) true 0)
        Example.lapsed).shared = .refused "Exam time has expired" := by decide
  simp only [alone, List.foldl_cons, List.foldl_nil, cbtStep, hread, htime] at hscored
  cases hscored

end MultiAcademy.School
