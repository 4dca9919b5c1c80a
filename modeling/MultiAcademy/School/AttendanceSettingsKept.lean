import MultiAcademy.School.AttendanceSettings

/-!
# Saves that keep the manual code and the finalized day

Every save of the column writes the whole of it.  It keeps what the others have written exactly
when it carries the code and the day that stand in the column at that moment: those that it read
are still there, and those that it was given are not others.
-/

namespace MultiAcademy.School

open MultiAcademy.Lib

def latestDay (days : List String) : Option String := days.max?

theorem latestDay_concat_eq_iff (days : List String) (day : String) :
    latestDay (days ++ [day]) = some day ↔ ∀ earlier ∈ latestDay days, earlier ≤ day := by
  unfold latestDay
  rw [List.max?_eq_some_iff]
  cases hmax : days.max? with
  | none => simp [List.max?_eq_none_iff.1 hmax]
  | some earlier =>
    have hle := List.max?_le_iff hmax (x := day)
    simp [hle, or_imp, forall_and]

abbrev ColumnState := Flight ColumnStores ColumnCall

abbrev ColumnEvent := FlightEvent ColumnRequest ColumnDraw Empty

/-- The request is about to put the code in the column. -/
def ColumnCall.carries (code : String) : ColumnCall → Bool
  | .reading save | .writing save _ =>
    match save.reason with
    | .newCode _ drawn _ _ => drawn.text = code
    | _ => false
  | _ => false

/-- The code in the column is the last that was put there, and the last that was drawn unless
that one is on its way; the day is the latest that was recorded; and no code that a sign-in
has used up is in the column. -/
structure AttendanceKept (s : ColumnState) : Prop where
  stored : s.shared.code = s.shared.stored.getLast?
  newest : ∀ code ∈ s.shared.generated.getLast?,
    s.shared.code = some code ∨ ∃ call ∈ s.calls, call.carries code = true
  date : s.shared.finalizeDate = latestDay s.shared.recorded
  consumed : ∀ code ∈ s.shared.consumed, s.shared.expected ≠ code

/-- What the save carries is what the column has.  A new code is the last that was drawn, or that
one is on its way, and none that was used up; a day that is recorded is no earlier one. -/
def ColumnSave.Keeps (save : ColumnSave) (existing : Option StoredAttendance) (d : ColumnStores)
    (others : List ColumnCall) : Prop :=
  match save.reason with
  | .settings _ =>
    save.reason.carriedCode existing = d.code ∧ save.reason.carriedDate existing = d.finalizeDate
  | .newCode _ code _ signIn =>
    save.reason.carriedDate existing = d.finalizeDate
      ∧ (∀ last ∈ d.generated.getLast?,
          code.text = last ∨ ∃ call ∈ others, call.carries last = true)
      ∧ ∀ used ∈ d.consumed ++ (signIn.map AcceptedSignIn.code).toList, code.text ≠ used
  | .finalize _ today =>
    save.reason.carriedCode existing = d.code ∧ ∀ date ∈ d.finalizeDate, date ≤ today.text

/-- The UPDATE of a save of the school's column keeps what is there. -/
def KeepsAttendance (s : ColumnState) : ColumnEvent → Prop
  | .advance i _ =>
    match s.calls[i]? with
    | some (.writing save existing) =>
      s.shared.IsCurrent save.id → save.Keeps existing s.shared (s.calls.eraseIdx i)
    | _ => True
  | .call _ | .other _ => True

/-! ## Whose column a request writes -/

/-- A regeneration and the end of the day save the organization that is read. -/
def ColumnCall.Own (d : ColumnStores) : ColumnCall → Prop
  | .drawing id _ | .markingAbsent (some id) _ _ _ => d.IsCurrent id
  | .reading save | .writing save _ =>
    match save.reason with
    | .settings _ => True
    | .newCode _ _ _ _ | .finalize _ _ => d.IsCurrent save.id
  | _ => True

/-- The step leaves the column and its history alone. -/
structure SameColumn (d d' : ColumnStores) : Prop where
  head : d'.orgs.rows.head? = d.orgs.rows.head?
  generated : d'.generated = d.generated
  stored : d'.stored = d.stored
  consumed : d'.consumed = d.consumed
  recorded : d'.recorded = d.recorded

theorem SameColumn.refl (d : ColumnStores) : SameColumn d d := ⟨rfl, rfl, rfl, rfl, rfl⟩

/-- The request draws a code or saves the column. -/
def ColumnCall.touches : ColumnCall → Bool
  | .drawing _ _ | .writing _ _ => true
  | _ => false

/-- The request only reads in its next step. -/
def ColumnCall.looks : ColumnCall → Bool
  | .consuming _ _ _ | .drawing _ _ | .writing _ _ | .deleting _ _ | .inserting _ _ => false
  | _ => true

theorem columnNext_looks (env : AttendanceEnv) (x : ColumnDraw) {call : ColumnCall}
    (d : ColumnStores) (h : call.looks = true) : (columnNext env x call d).2 = d := by
  cases call with
  | consuming | drawing | writing | deleting | inserting => cases h
  | reading save => rfl
  | answered answer => rfl
  | markingAbsent id config today actorUserId =>
    simp only [columnNext]
    split
    · split <;> rfl
    · rfl
  | signingIn | gettingCode | regenerating | finalizing | locating =>
    simp only [columnNext]
    split <;> rfl

/-- The other steps leave the column alone, and put no code on its way. -/
theorem columnNext_same (env : AttendanceEnv) (x : ColumnDraw) {call : ColumnCall}
    (d : ColumnStores) (h : call.touches = false) :
    SameColumn d (columnNext env x call d).2
      ∧ ∀ code, (columnNext env x call d).1.carries code = call.carries code := by
  cases call with
  | drawing id signIn => cases h
  | writing save existing => cases h
  | reading save => exact ⟨.refl d, fun _ => rfl⟩
  | signingIn request today =>
    simp only [columnNext]
    split <;> exact ⟨.refl d, fun _ => rfl⟩
  | consuming request config today =>
    simp only [columnNext]
    split
    · exact ⟨.refl d, fun _ => rfl⟩
    · exact ⟨⟨rfl, rfl, rfl, rfl, rfl⟩, fun _ => rfl⟩
  | gettingCode =>
    simp only [columnNext]
    split <;> exact ⟨.refl d, fun _ => rfl⟩
  | regenerating signIn =>
    simp only [columnNext]
    split <;> exact ⟨.refl d, fun _ => rfl⟩
  | finalizing today actorUserId =>
    simp only [columnNext]
    split <;> exact ⟨.refl d, fun _ => rfl⟩
  | locating config today actorUserId =>
    simp only [columnNext]
    split <;> exact ⟨.refl d, fun _ => rfl⟩
  | markingAbsent id config today actorUserId =>
    simp only [columnNext]
    split
    · split <;> exact ⟨.refl d, fun _ => rfl⟩
    · exact ⟨.refl d, fun _ => rfl⟩
  | deleting mark today => exact ⟨⟨rfl, rfl, rfl, rfl, rfl⟩, fun _ => rfl⟩
  | inserting mark today =>
    simp only [columnNext]
    split
    · exact ⟨.refl d, fun _ => rfl⟩
    · exact ⟨⟨rfl, rfl, rfl, rfl, rfl⟩, fun _ => rfl⟩
  | answered answer => exact ⟨.refl d, fun _ => rfl⟩

variable {env : AttendanceEnv} {s : ColumnState} {i : ℕ} {x : ColumnDraw} {call : ColumnCall}
  {save : ColumnSave} {existing : Option StoredAttendance}

theorem isCurrent_next (id : String) (d : ColumnStores) :
    (columnNext env x call d).2.IsCurrent id ↔ d.IsCurrent id := by
  cases hcall : call.touches with
  | false =>
    have hsame := (columnNext_same env x d hcall).1.head
    simp only [ColumnStores.IsCurrent, hsame]
  | true =>
    cases call with
    | drawing id signIn => exact Iff.rfl
    | writing save existing => exact ColumnStores.isCurrent_write
    | _ => cases hcall

theorem ColumnCall.own_congr {d d' : ColumnStores} (hd : ∀ id, d'.IsCurrent id ↔ d.IsCurrent id)
    (call : ColumnCall) : call.Own d' ↔ call.Own d := by
  have hsave : ∀ save existing,
      (ColumnCall.writing save existing).Own d' ↔ (ColumnCall.writing save existing).Own d := by
    intro ⟨id, reason⟩ existing
    cases reason with
    | settings incoming => exact Iff.rfl
    | newCode read code createdAt signIn => exact hd id
    | finalize config today => exact hd id
  cases call with
  | drawing id signIn => exact hd id
  | markingAbsent id config today actorUserId =>
    cases id with
    | none => exact Iff.rfl
    | some id => exact hd id
  | reading save => exact hsave save none
  | writing save existing => exact hsave save existing
  | _ => exact Iff.rfl

theorem currentId_isCurrent {d : ColumnStores} {id : String} (h : d.currentId = some id) :
    d.IsCurrent id := by
  simp only [ColumnStores.currentId, orNull, Option.filter_eq_some_iff] at h
  simpa [ColumnStores.IsCurrent, ColumnStores.getCurrentOrganization, Function.comp_def,
    OrgRow.mapped] using h.1

/-- A request finds the id of the organization once, and saves that one. -/
theorem own_next {d : ColumnStores} (h : call.Own d) : (columnNext env x call d).1.Own d := by
  cases call with
  | signingIn request today =>
    simp only [columnNext]
    split <;> trivial
  | consuming request config today =>
    simp only [columnNext]
    split <;> trivial
  | gettingCode =>
    simp only [columnNext]
    split <;> trivial
  | regenerating signIn =>
    simp only [columnNext]
    split
    · trivial
    · exact currentId_isCurrent ‹_›
  | drawing id signIn => exact h
  | finalizing today actorUserId =>
    simp only [columnNext]
    split <;> trivial
  | locating config today actorUserId =>
    simp only [columnNext]
    split
    · trivial
    cases hid : d.currentId with
    | none => trivial
    | some id => exact currentId_isCurrent hid
  | markingAbsent id config today actorUserId =>
    simp only [columnNext]
    split
    · split
      · exact h
      · trivial
    · trivial
  | reading save => exact h
  | writing save existing =>
    simp only [columnNext, SaveReason.after]
    split
    · trivial
    · trivial
    · split <;> trivial
    · trivial
  | deleting mark today => trivial
  | inserting mark today =>
    simp only [columnNext]
    split <;> trivial
  | answered answer => trivial

theorem own_step (e : ColumnEvent) (h : ∀ call ∈ s.calls, call.Own s.shared) :
    ∀ call ∈ ((columnService env).step e s).calls,
      call.Own ((columnService env).step e s).shared := by
  have hkeep : ∀ (x : ColumnDraw) (call other : ColumnCall) (d : ColumnStores),
      other.Own (columnNext env x call d).2 ↔ other.Own d := fun x call other d =>
    other.own_congr fun id => isCurrent_next id d
  refine Service.forall_calls_step (Q := fun d call => ColumnCall.Own d call) ?_ ?_ ?_ ?_ h
  · intro request d
    cases request <;> trivial
  · intro x call d hown
    exact (hkeep x call _ d).2 (own_next hown)
  · intro x call d _ other hother
    exact (hkeep x call other d).2 hother
  · exact fun y => y.elim

/-! ## One step -/

theorem AttendanceKept.of_same {s' : ColumnState} (h : AttendanceKept s)
    (hsame : SameColumn s.shared s'.shared)
    (hcalls : ∀ code, (∃ call ∈ s.calls, call.carries code = true) →
      ∃ call ∈ s'.calls, call.carries code = true) : AttendanceKept s' := by
  have hcode := ColumnStores.code_congr hsame.head
  constructor
  · rw [hcode, hsame.stored, h.stored]
  · rw [hsame.generated, hcode]
    intro code hlast
    exact (h.newest code hlast).imp_right (hcalls code)
  · rw [ColumnStores.finalizeDate_congr hsame.head, hsame.recorded, h.date]
  rw [hsame.consumed, ColumnStores.expected, hcode]
  exact h.consumed

theorem exists_carries_moved {code : String} (hc : s.calls[i]? = some call) (moved : ColumnCall) :
    (∃ c ∈ s.calls.set i moved, c.carries code = true)
      ↔ moved.carries code = true ∨ ∃ c ∈ s.calls.eraseIdx i, c.carries code = true := by
  have hlt : i < s.calls.length := (List.getElem?_eq_some_iff.1 hc).1
  have hperm : (s.calls.set i moved).Perm (moved :: s.calls.eraseIdx i) :=
    List.set_perm_cons_eraseIdx hlt moved
  simp [hperm.mem_iff]

theorem exists_carries_iff {code : String} (hc : s.calls[i]? = some call) :
    (∃ c ∈ s.calls, c.carries code = true)
      ↔ call.carries code = true ∨ ∃ c ∈ s.calls.eraseIdx i, c.carries code = true := by
  have hself : s.calls.set i call = s.calls := by
    obtain ⟨hlt, rfl⟩ := List.getElem?_eq_some_iff.1 hc
    exact List.set_getElem_self hlt
  rw [← exists_carries_moved hc call, hself]

theorem not_carries_after (reason : SaveReason) (code : String) :
    (reason.after env).carries code = false := by
  unfold SaveReason.after
  split
  · rfl
  · rfl
  · split <;> rfl
  · rfl

/-- A save of another organization. -/
theorem sameColumn_write (h : ¬ s.shared.IsCurrent save.id)
    (hown : (ColumnCall.writing save existing).Own s.shared) :
    SameColumn s.shared (s.shared.write save existing)
      ∧ ∀ code, (ColumnCall.writing save existing).carries code = false := by
  have hhead : (s.shared.write save existing).orgs.rows.head? = s.shared.orgs.rows.head? :=
    ColumnStores.write_head_of_not h
  obtain ⟨id, reason⟩ := save
  cases reason with
  | settings incoming => exact ⟨⟨hhead, rfl, rfl, rfl, rfl⟩, fun _ => rfl⟩
  | newCode read code createdAt signIn => exact absurd hown h
  | finalize config today => exact absurd hown h

/-- What the school looks like after a save of its column. -/
theorem attendanceKept_saved_iff (hcur : s.shared.IsCurrent save.id)
    (hc : s.calls[i]? = some (.writing save existing)) :
    AttendanceKept { shared := s.shared.write save existing
                     calls := s.calls.set i (save.reason.after env) }
      ↔ save.reason.carriedCode existing = (s.shared.noteSave save.reason).stored.getLast?
        ∧ (∀ code ∈ s.shared.generated.getLast?, save.reason.carriedCode existing = some code
            ∨ ∃ c ∈ s.calls.eraseIdx i, c.carries code = true)
        ∧ save.reason.carriedDate existing = latestDay (s.shared.noteSave save.reason).recorded
        ∧ ∀ code ∈ (s.shared.noteSave save.reason).consumed,
            trim (textOrElse (save.reason.carriedCode existing) "") ≠ code := by
  have hgenerated : (s.shared.write save existing).generated = s.shared.generated := by
    rw [ColumnStores.write_eq]
    exact ColumnStores.noteSave_generated _ _
  have hstored : (s.shared.write save existing).stored
      = (s.shared.noteSave save.reason).stored := by rw [ColumnStores.write_eq]; rfl
  have hrecorded : (s.shared.write save existing).recorded
      = (s.shared.noteSave save.reason).recorded := by rw [ColumnStores.write_eq]; rfl
  have hconsumed : (s.shared.write save existing).consumed
      = (s.shared.noteSave save.reason).consumed := by rw [ColumnStores.write_eq]; rfl
  have hmoved : ∀ code, (∃ c ∈ s.calls.set i (save.reason.after env), c.carries code = true)
      ↔ ∃ c ∈ s.calls.eraseIdx i, c.carries code = true := fun code => by
    rw [exists_carries_moved hc, not_carries_after]
    simp
  have hcode : (s.shared.write save existing).code = save.reason.carriedCode existing :=
    ColumnStores.write_code hcur
  have hdate : (s.shared.write save existing).finalizeDate = save.reason.carriedDate existing :=
    ColumnStores.write_finalizeDate hcur
  constructor
  · intro h
    have hnewest := h.newest
    have hconsumed' := h.consumed
    simp only [ColumnStores.expected, hcode, hgenerated, hmoved, hconsumed] at hnewest hconsumed'
    exact ⟨hcode ▸ hstored ▸ h.stored, hnewest, hdate ▸ hrecorded ▸ h.date, hconsumed'⟩
  rintro ⟨hstored', hnewest, hdate', hconsumed'⟩
  constructor <;> simp only [ColumnStores.expected, hcode, hdate, hgenerated, hmoved, hstored,
    hrecorded, hconsumed]
  · exact hstored'
  · exact hnewest
  · exact hdate'
  · exact hconsumed'

theorem newest_others (h : AttendanceKept s)
    (hc : s.calls[i]? = some (.writing save existing))
    (hidle : ∀ code, (ColumnCall.writing save existing).carries code = false) :
    ∀ code ∈ s.shared.generated.getLast?,
      s.shared.code = some code ∨ ∃ c ∈ s.calls.eraseIdx i, c.carries code = true := by
  intro code hlast
  refine (h.newest code hlast).imp_right fun hcarries => ?_
  rw [exists_carries_iff hc, hidle] at hcarries
  simpa using hcarries

/-- **A save keeps what is in the column exactly when it carries it.** -/
theorem attendanceKept_write_iff (h : AttendanceKept s)
    (hown : (ColumnCall.writing save existing).Own s.shared)
    (hc : s.calls[i]? = some (.writing save existing)) :
    AttendanceKept ((columnService env).step (.advance i x) s)
      ↔ (s.shared.IsCurrent save.id → save.Keeps existing s.shared (s.calls.eraseIdx i)) := by
  rw [Service.step_advance hc]
  change AttendanceKept { shared := s.shared.write save existing
                          calls := s.calls.set i (save.reason.after env) } ↔ _
  by_cases hcur : s.shared.IsCurrent save.id
  · rw [forall_prop_of_true hcur, attendanceKept_saved_iff hcur hc]
    obtain ⟨id, reason⟩ := save
    cases reason with
    | settings incoming =>
      have hnewest := newest_others h hc fun _ => rfl
      simp only [ColumnStores.noteSave, ColumnSave.Keeps, ← h.stored, ← h.date]
      constructor
      · rintro ⟨hcode, -, hdate, -⟩
        exact ⟨hcode, hdate⟩
      rintro ⟨hcode, hdate⟩
      rw [hcode]
      exact ⟨rfl, hnewest, hdate, h.consumed⟩
    | newCode read code createdAt signIn =>
      have hexpected : trim (textOrElse (some code.text) "") = code.text := by
        simp [textOrElse, hasText, code.text_ne_empty]
      simp only [ColumnStores.noteSave, ColumnSave.Keeps, SaveReason.carriedCode_newCode,
        List.getLast?_concat, ← h.date, Option.some.injEq, hexpected]
      tauto
    | finalize config today =>
      have hnewest := newest_others h hc fun _ => rfl
      simp only [ColumnStores.noteSave, ColumnSave.Keeps, SaveReason.carriedDate_finalize,
        eq_comm (a := some today.text), latestDay_concat_eq_iff, ← h.stored, ← h.date]
      constructor
      · rintro ⟨hcode, -, hdate, -⟩
        exact ⟨hcode, hdate⟩
      rintro ⟨hcode, hdate⟩
      rw [hcode]
      exact ⟨rfl, hnewest, hdate, h.consumed⟩
  obtain ⟨hsame, hidle⟩ := sameColumn_write hcur hown
  refine iff_of_true (h.of_same hsame ?_) fun hcurrent => absurd hcurrent hcur
  intro code hcarries
  rw [exists_carries_iff hc, hidle] at hcarries
  rw [exists_carries_moved hc]
  exact Or.inr (by simpa using hcarries)

/-- A code that is drawn is on its way. -/
theorem attendanceKept_drawing {id : String} {signIn : Option AcceptedSignIn}
    (h : AttendanceKept s) (hc : s.calls[i]? = some (.drawing id signIn)) :
    AttendanceKept ((columnService env).step (.advance i x) s) := by
  rw [Service.step_advance hc]
  refine ⟨h.stored, ?_, h.date, h.consumed⟩
  intro code hlast
  right
  obtain rfl : x.code.text = code := by simpa [columnService, columnNext] using hlast
  refine (exists_carries_moved hc _).2 (Or.inl ?_)
  simp [columnService, columnNext, ColumnCall.carries]

theorem attendanceKept_step_iff (e : ColumnEvent) (h : AttendanceKept s)
    (hown : ∀ call ∈ s.calls, call.Own s.shared) :
    AttendanceKept ((columnService env).step e s) ↔ KeepsAttendance s e := by
  cases e with
  | other y => exact y.elim
  | call request =>
    refine iff_of_true (h.of_same (.refl _) ?_) trivial
    rintro code ⟨call, hcall, hcarries⟩
    exact ⟨call, List.mem_append_left _ hcall, hcarries⟩
  | advance i x =>
    cases hc : s.calls[i]? with
    | none => simpa [KeepsAttendance, Service.step_advance_none hc, hc] using h
    | some call =>
      cases htouches : call.touches with
      | true =>
        cases call with
        | drawing id signIn =>
          simp only [KeepsAttendance, hc, iff_true]
          exact attendanceKept_drawing h hc
        | writing save existing =>
          simp only [KeepsAttendance, hc]
          exact attendanceKept_write_iff h (hown _ (List.mem_of_getElem? hc)) hc
        | _ => cases htouches
      | false =>
        have hfree : KeepsAttendance s (.advance i x) := by
          simp only [KeepsAttendance, hc]
          cases call with
          | writing save existing => cases htouches
          | _ => trivial
        obtain ⟨hsame, hcarries⟩ := columnNext_same env x s.shared htouches
        rw [Service.step_advance hc]
        refine iff_of_true (h.of_same hsame ?_) hfree
        intro code hway
        rw [exists_carries_iff hc] at hway
        exact (exists_carries_moved hc _).2 (hway.imp_left (hcarries code).trans)

/-! ## Runs -/

/-- The school before any request. -/
def columnStart (orgs : Keyed OrgRow.id) : ColumnStores :=
  let d : ColumnStores := { orgs }
  { d with
    generated := d.code.toList, stored := d.code.toList, recorded := d.finalizeDate.toList }

theorem attendanceKept_start (orgs : Keyed OrgRow.id) :
    AttendanceKept { shared := columnStart orgs } := by
  have hlast : ∀ text : Option String, text = text.toList.getLast? := fun text => by
    cases text <;> rfl
  have hlatest : ∀ text : Option String, text = latestDay text.toList := fun text => by
    cases text <;> rfl
  constructor
  · exact hlast _
  · intro code hcode
    exact Or.inl ((hlast _).trans hcode)
  · exact hlatest _
  intro code hcode
  cases hcode

/-- **Saves of the settings leave codes and days alone exactly as long as they carry those of the
column.**  Along every run of requests whose statements interleave in any way. -/
theorem attendance_state_kept_iff (env : AttendanceEnv) (orgs : Keyed OrgRow.id)
    (es : List ColumnEvent) :
    (∀ pre, pre <+: es →
        AttendanceKept (run (columnService env).step { shared := columnStart orgs } pre))
      ↔ Along (columnService env).step KeepsAttendance { shared := columnStart orgs } es := by
  symm
  refine along_iff_throughout_with (D := fun _ _ => True)
    (J := fun s : ColumnState => ∀ call ∈ s.calls, call.Own s.shared) ?_ ?_ ?_ ?_ ?_
  · intro s e _ _ hown
    exact own_step e hown
  · intro s e _ hkept hown
    exact attendanceKept_step_iff e hkept hown
  · exact along_of_forall (D := fun _ => True) fun _ _ => trivial
  · exact attendanceKept_start orgs
  intro call hcall
  cases hcall

namespace Example

/-- What the staff member was given. -/
def shownCode : ManualCode := ⟨"11111111111111111111", by decide, by decide⟩

def nextCode : ManualCode := ⟨"22222222222222222222", by decide, by decide⟩

/-- A school that lets its class teachers in from eight to four. -/
def codeSchool : Keyed OrgRow.id :=
  ⟨[{ id := "org_1", id_ne_empty := by decide
      attendanceConfig := some
        { biometricWindowStart := some "08:00", biometricWindowEnd := some "16:00"
          manualVerificationCode := some shownCode.text } }], by decide⟩

def teacherSignIn (code : String) (staffId date : String) : ManualSignIn :=
  { request :=
      { actorUserId := staffId, staffId, date, status := .present, verification := .manual code }
    verificationCode := code, manual := rfl }

def schoolMonday : SchoolDay := ⟨"2025-03-03", by decide⟩

def teacherDraw : ColumnDraw := { code := nextCode, roles := ["class_teacher"], rowId := "att_1" }

/-- A save of the settings has read the column when a teacher signs in. -/
def savedLate : List ColumnEvent :=
  [.call (.updateBusinessOrganization "org_1" (some { businessDays := some (some [1, 2, 3]) })),
    .advance 0 teacherDraw,
    .call (.markStaffAttendanceWithManualCode
      (teacherSignIn shownCode.text "usr_1" "2025-03-03") schoolMonday),
    .advance 1 teacherDraw, .advance 1 teacherDraw, .advance 1 teacherDraw,
    .advance 1 teacherDraw, .advance 1 teacherDraw, .advance 1 teacherDraw,
    .advance 0 teacherDraw]

end Example

/-- A save of the settings brings back a code that was used up. -/
theorem not_attendance_state_kept :
    ¬ ∀ pre, pre <+: Example.savedLate →
        AttendanceKept (run (columnService Example.schoolEnv).step
          { shared := columnStart Example.codeSchool } pre) := by
  intro h
  have hconsumed := (h _ List.prefix_rfl).consumed Example.shownCode.text
  revert hconsumed
  decide

end MultiAcademy.School
