import MultiAcademy.School.AttendanceSettingsKept

/-!
# What a manual code verifies

A code is compared when a sign-in reads the column, and replaced some statements later.  As long
as no sign-in is between the two when another one compares, each code is accepted once.  The
date of the record is the one that the request gives.
-/

namespace MultiAcademy.School

open MultiAcademy.Lib

/-- Each code was accepted by one request at most, and the records of sign-ins carry the school's
date at the time of the request. -/
structure VerifiesOnce (d : ColumnStores) : Prop where
  once : d.accepted.Nodup
  dates : ∀ p ∈ d.verified, p.1.date = p.2

/-- The code that a request was accepted with and has not replaced yet. -/
def ColumnCall.replaces : ColumnCall → Option String
  | .regenerating signIn | .drawing _ signIn => signIn.map AcceptedSignIn.code
  | .reading save | .writing save _ =>
    match save.reason with
    | .newCode _ _ _ signIn => signIn.map AcceptedSignIn.code
    | _ => none
  | _ => none

/-- A code is compared while no request has one to replace, and a record has the date on which it
was asked for. -/
def ColumnCall.VerifiesAlone (x : ColumnDraw) (calls : List ColumnCall) (d : ColumnStores) :
    ColumnCall → Prop
  | .consuming request _ _ =>
    d.expected ≠ "" → d.expected = trim request.verificationCode →
      ∀ call ∈ calls, call.replaces = none
  | .inserting mark today => (d.staff.find? x.rowId).isSome = true ∨ mark.date = today.text
  | _ => True

def VerifiesAlone (s : ColumnState) : ColumnEvent → Prop
  | .advance i x => ∀ call ∈ s.calls[i]?, call.VerifiesAlone x s.calls s.shared
  | .call _ | .other _ => True

/-- A code that is drawn was not accepted before. -/
def ColumnCall.DrawsFresh (x : ColumnDraw) (d : ColumnStores) : ColumnCall → Prop
  | .drawing _ _ => x.code.text ∉ d.accepted
  | _ => True

def DrawsFresh (s : ColumnState) : ColumnEvent → Prop
  | .advance i x => ∀ call ∈ s.calls[i]?, call.DrawsFresh x s.shared
  | .call _ | .other _ => True

instance decidableCallVerifiesAlone (x : ColumnDraw) (calls : List ColumnCall) (d : ColumnStores)
    (call : ColumnCall) : Decidable (call.VerifiesAlone x calls d) := by
  cases call <;> (dsimp only [ColumnCall.VerifiesAlone]; infer_instance)

instance decidableVerifiesAlone (s : ColumnState) : ∀ e : ColumnEvent, Decidable (VerifiesAlone s e)
  | .advance i x =>
    inferInstanceAs (Decidable (∀ call ∈ s.calls[i]?, call.VerifiesAlone x s.calls s.shared))
  | .call _ | .other _ => Decidable.isTrue trivial

instance decidableCallDrawsFresh (x : ColumnDraw) (d : ColumnStores) (call : ColumnCall) :
    Decidable (call.DrawsFresh x d) := by
  cases call <;> (dsimp only [ColumnCall.DrawsFresh]; infer_instance)

instance decidableDrawsFresh (s : ColumnState) : ∀ e : ColumnEvent, Decidable (DrawsFresh s e)
  | .advance i x =>
    inferInstanceAs (Decidable (∀ call ∈ s.calls[i]?, call.DrawsFresh x s.shared))
  | .call _ | .other _ => Decidable.isTrue trivial

def IsSignIn : ColumnEvent → Prop
  | .call (.markStaffAttendanceWithManualCode _ _) => True
  | .call _ => False
  | .advance _ _ | .other _ => True

/-! ## Comparing -/

theorem ColumnStores.getAttendanceConfig_code (d : ColumnStores) :
    d.getAttendanceConfig.manualVerificationCode = d.code := by
  unfold getAttendanceConfig code
  cases d.parsedConfig <;> rfl

theorem verifiesAlone_advance {s : ColumnState} {i : ℕ} {x : ColumnDraw} {call : ColumnCall}
    (hc : s.calls[i]? = some call) :
    VerifiesAlone s (.advance i x) ↔ call.VerifiesAlone x s.calls s.shared := by
  simp [VerifiesAlone, hc]

/-- The code that the request is accepted with by its next step. -/
def ColumnCall.accepts (d : ColumnStores) : ColumnCall → Option String
  | .consuming request _ _ =>
    if d.expected ≠ "" ∧ d.expected = trim request.verificationCode then some d.expected
    else none
  | _ => none

theorem consumeManualVerificationCode_of_expected {d : ColumnStores} {code : String}
    (h : d.expected ≠ "" ∧ d.expected = trim code) :
    consumeManualVerificationCode d.getAttendanceConfig.toAttendanceConfig true code = .ok () := by
  have hexpected : trim (textOrElse d.code "") = d.expected := rfl
  simp [consumeManualVerificationCode, d.getAttendanceConfig_code, hexpected, h.1, ← h.2]

theorem consumeManualVerificationCode_of_not {d : ColumnStores} {code : String}
    (h : ¬ (d.expected ≠ "" ∧ d.expected = trim code)) :
    ∃ e, consumeManualVerificationCode d.getAttendanceConfig.toAttendanceConfig true code
      = .error e := by
  have hexpected : trim (textOrElse d.code "") = d.expected := rfl
  have hwrong : d.expected = "" ∨ d.expected ≠ trim code := by
    by_cases hempty : d.expected = ""
    · exact Or.inl hempty
    · exact Or.inr fun heq => h ⟨hempty, heq⟩
  simp only [consumeManualVerificationCode, d.getAttendanceConfig_code, hexpected]
  rw [if_pos (by simpa using hwrong)]
  exact ⟨_, rfl⟩

variable {env : AttendanceEnv} {s : ColumnState} {i : ℕ} {x : ColumnDraw} {call : ColumnCall}
  {d : ColumnStores}

/-- A comparison that succeeds, and one that does not. -/
theorem columnNext_consuming (env : AttendanceEnv) (x : ColumnDraw) (d : ColumnStores)
    (request : ManualSignIn) (config : StoredAttendance) (today : SchoolDay) :
    (d.expected ≠ "" ∧ d.expected = trim request.verificationCode
        ∧ columnNext env x (.consuming request config today) d
          = (.regenerating (some { request, config, today }),
              { d with accepted := d.accepted ++ [d.expected] }))
      ∨ (¬ (d.expected ≠ "" ∧ d.expected = trim request.verificationCode)
        ∧ ∃ answer,
            columnNext env x (.consuming request config today) d = (.answered answer, d)) := by
  by_cases h : d.expected ≠ "" ∧ d.expected = trim request.verificationCode
  · refine Or.inl ⟨h.1, h.2, ?_⟩
    simp only [columnNext, consumeManualVerificationCode_of_expected h]
    rw [h.2]
  obtain ⟨e, he⟩ := consumeManualVerificationCode_of_not h
  refine Or.inr ⟨h, .error e.1 e.2, ?_⟩
  simp only [columnNext, he]

/-- The codes that were accepted, after a step. -/
theorem columnNext_accepted (env : AttendanceEnv) (x : ColumnDraw) (call : ColumnCall)
    (d : ColumnStores) :
    (columnNext env x call d).2.accepted = d.accepted ++ (call.accepts d).toList := by
  cases hlooks : call.looks with
  | true =>
    have hnone : call.accepts d = none := by
      cases call with
      | consuming => cases hlooks
      | _ => rfl
    rw [columnNext_looks env x d hlooks, hnone, Option.toList_none, List.append_nil]
  | false =>
    cases call with
    | consuming request config today =>
      rcases columnNext_consuming env x d request config today with
        ⟨hne, heq, hnext⟩ | ⟨hnot, answer, hnext⟩
      · rw [hnext, ColumnCall.accepts, if_pos ⟨hne, heq⟩]
        rfl
      rw [hnext, ColumnCall.accepts, if_neg hnot]
      simp
    | writing save existing =>
      rw [columnNext, ColumnStores.write_eq]
      cases hreason : save.reason <;>
        simp [ColumnCall.accepts, ColumnStores.setColumn, ColumnStores.noteSave]
    | inserting mark today =>
      simp only [columnNext]
      split <;> simp [ColumnCall.accepts]
    | drawing id signIn => simp [columnNext, ColumnCall.accepts]
    | deleting mark today => simp [columnNext, ColumnCall.accepts]
    | _ => cases hlooks

/-- The record that the request writes by its next step, with the day of the request. -/
def ColumnCall.inserts (x : ColumnDraw) (d : ColumnStores) :
    ColumnCall → Option (StaffAttendance × String)
  | .inserting mark today =>
    if (d.staff.find? x.rowId).isSome then none else some (mark.row x.rowId x.signIn, today.text)
  | _ => none

/-- The records of sign-ins, after a step. -/
theorem columnNext_verified (env : AttendanceEnv) (x : ColumnDraw) (call : ColumnCall)
    (d : ColumnStores) :
    (columnNext env x call d).2.verified = d.verified ++ (call.inserts x d).toList := by
  cases hlooks : call.looks with
  | true =>
    have hnone : call.inserts x d = none := by
      cases call with
      | inserting => cases hlooks
      | _ => rfl
    rw [columnNext_looks env x d hlooks, hnone, Option.toList_none, List.append_nil]
  | false =>
    cases call with
    | inserting mark today =>
      simp only [columnNext, ColumnCall.inserts]
      cases hinsert : d.staff.insert? (mark.row x.rowId x.signIn) with
      | none =>
        have hused : (d.staff.find? x.rowId).isSome = true :=
          Option.isSome_iff_ne_none.2 (Keyed.insert?_eq_none hinsert)
        simp [hused]
      | some staff =>
        have hfree : (d.staff.find? x.rowId).isSome = false := by
          have hnew : d.staff.find? x.rowId = none := (Keyed.insert?_eq_some hinsert).1
          rw [hnew, Option.isSome_none]
        simp [hfree]
    | consuming request config today =>
      simp only [columnNext]
      split <;> simp [ColumnCall.inserts]
    | writing save existing =>
      rw [columnNext, ColumnStores.write_eq]
      cases hreason : save.reason <;>
        simp [ColumnCall.inserts, ColumnStores.setColumn, ColumnStores.noteSave]
    | drawing id signIn => simp [columnNext, ColumnCall.inserts]
    | deleting mark today => simp [columnNext, ColumnCall.inserts]
    | _ => cases hlooks

/-! ## Requests that have a code to replace -/

def ColumnCall.SignsIn : ColumnCall → Prop
  | .signingIn _ _ | .consuming _ _ _ | .deleting _ _ | .inserting _ _ | .answered _ => True
  | .regenerating signIn | .drawing _ signIn => signIn.isSome = true
  | .reading save | .writing save _ =>
    match save.reason with
    | .newCode _ _ _ signIn => signIn.isSome = true
    | _ => False
  | _ => False

theorem signsIn_next (h : call.SignsIn) : (columnNext env x call d).1.SignsIn := by
  cases call with
  | signingIn request today =>
    simp only [columnNext]
    split <;> trivial
  | consuming request config today =>
    simp only [columnNext]
    split <;> trivial
  | regenerating signIn =>
    simp only [columnNext]
    split
    · trivial
    · exact h
  | drawing id signIn => exact h
  | reading save => exact h
  | writing save existing =>
    simp only [columnNext, SaveReason.after]
    split
    · trivial
    · trivial
    · split <;> trivial
    · trivial
  | deleting mark today => trivial
  | inserting mark today =>
    simp only [columnNext]
    split <;> trivial
  | answered answer => trivial
  | gettingCode => cases h
  | finalizing today actorUserId => cases h
  | locating config today actorUserId => cases h
  | markingAbsent id config today actorUserId => cases h

def pendingCodes (s : ColumnState) : List String := s.calls.filterMap ColumnCall.replaces

/-- At most one code is still to be replaced, the one in the column; no code that was drawn for
it was ever accepted. -/
structure ManualCodesApart (s : ColumnState) : Prop where
  pending : (pendingCodes s = [] ∧ s.shared.expected ∉ s.shared.accepted)
    ∨ (pendingCodes s = [s.shared.expected] ∧ s.shared.expected ≠ ""
      ∧ s.shared.expected ∈ s.shared.accepted)
  fresh : ∀ call ∈ s.calls, ∀ code, call.carries code = true → code ∉ s.shared.accepted

/-- Which code a request of sign-in has to replace after a step that is no save. -/
theorem replaces_next (hsigns : call.SignsIn)
    (hsave : ∀ save existing, call ≠ .writing save existing)
    (hschool : ∀ code ∈ call.replaces, d.currentId ≠ none) :
    (columnNext env x call d).1.replaces = call.replaces.or (call.accepts d) := by
  cases call with
  | signingIn request today =>
    simp only [columnNext]
    split <;> rfl
  | consuming request config today =>
    rcases columnNext_consuming env x d request config today with
      ⟨hne, heq, hnext⟩ | ⟨hnot, answer, hnext⟩
    · rw [hnext, ColumnCall.accepts, if_pos ⟨hne, heq⟩, heq]
      rfl
    rw [hnext, ColumnCall.accepts, if_neg hnot]
    rfl
  | regenerating signIn =>
    obtain ⟨signIn, rfl⟩ := Option.isSome_iff_exists.1 hsigns
    simp only [columnNext]
    split
    · exact absurd ‹_› (hschool _ rfl)
    · rfl
  | drawing id signIn => simp [columnNext, ColumnCall.replaces, ColumnCall.accepts]
  | reading save => simp [columnNext, ColumnCall.replaces, ColumnCall.accepts]
  | writing save existing => exact absurd rfl (hsave save existing)
  | deleting mark today => rfl
  | inserting mark today =>
    simp only [columnNext]
    split <;> rfl
  | answered answer => rfl
  | gettingCode => cases hsigns
  | finalizing today actorUserId => cases hsigns
  | locating config today actorUserId => cases hsigns
  | markingAbsent id config today actorUserId => cases hsigns

theorem replaces_after (reason : SaveReason) : (reason.after env).replaces = none := by
  unfold SaveReason.after
  split
  · rfl
  · rfl
  · split <;> rfl
  · rfl

/-- A code that is on its way after a step was so before, or was drawn by the step. -/
theorem carries_next {code : String} (h : (columnNext env x call d).1.carries code = true) :
    call.carries code = true ∨ (∃ id signIn, call = .drawing id signIn) ∧ x.code.text = code := by
  cases htouches : call.touches with
  | false => exact Or.inl ((columnNext_same env x d htouches).2 code ▸ h)
  | true =>
    cases call with
    | drawing id signIn =>
      refine Or.inr ⟨⟨id, signIn, rfl⟩, ?_⟩
      simpa [columnNext, ColumnCall.carries] using h
    | writing save existing =>
      rw [columnNext, not_carries_after] at h
      cases h
    | _ => cases htouches

theorem pendingCodes_moved (hc : s.calls[i]? = some call) (moved : ColumnCall) :
    ((s.calls.set i moved).filterMap ColumnCall.replaces).Perm
      (moved.replaces.toList ++ (s.calls.eraseIdx i).filterMap ColumnCall.replaces) := by
  have hlt : i < s.calls.length := (List.getElem?_eq_some_iff.1 hc).1
  refine ((List.set_perm_cons_eraseIdx hlt moved).filterMap _).trans (List.Perm.of_eq ?_)
  cases hmoved : moved.replaces <;> simp [hmoved]

/-! ## One step -/

def OnlySignIns (s : ColumnState) : Prop :=
  ∀ call ∈ s.calls, call.SignsIn ∧ call.Own s.shared

theorem onlySignIns_step (e : ColumnEvent) (he : IsSignIn e) (h : OnlySignIns s) :
    OnlySignIns ((columnService env).step e s) := by
  have hown : ∀ call ∈ ((columnService env).step e s).calls,
      call.Own ((columnService env).step e s).shared :=
    own_step e fun call hcall => (h call hcall).2
  refine fun call hcall => ⟨?_, hown call hcall⟩
  cases e with
  | other y => exact y.elim
  | call request =>
    rcases List.mem_append.1 hcall with hold | hnew
    · exact (h call hold).1
    obtain rfl := List.mem_singleton.1 hnew
    cases request with
    | markStaffAttendanceWithManualCode request today => exact True.intro
    | _ => cases he
  | advance i x =>
    cases hc : s.calls[i]? with
    | none =>
      rw [Service.step_advance_none hc] at hcall
      exact (h call hcall).1
    | some moving =>
      rcases Service.mem_calls_advance hc hcall with hold | rfl
      · exact (h call hold).1
      · exact signsIn_next (h moving (List.mem_of_getElem? hc)).1

/-- What a step adds to the codes that were accepted and to the records. -/
theorem verifiesOnce_moved_iff (h : VerifiesOnce s.shared) (hc : s.calls[i]? = some call) :
    VerifiesOnce ((columnService env).step (.advance i x) s).shared
      ↔ (∀ code ∈ call.accepts s.shared, code ∉ s.shared.accepted)
        ∧ ∀ p ∈ call.inserts x s.shared, p.1.date = p.2 := by
  have haccepted := columnNext_accepted env x call s.shared
  have hverified := columnNext_verified env x call s.shared
  rw [Service.step_advance hc]
  change VerifiesOnce (columnNext env x call s.shared).2 ↔ _
  constructor
  · intro hnext
    have honce := hnext.once
    have hdates := hnext.dates
    rw [haccepted, List.nodup_append'] at honce
    rw [hverified] at hdates
    refine ⟨fun code hcode hmem => honce.2.2 hmem (Option.mem_toList.2 hcode), fun p hp => ?_⟩
    exact hdates p (List.mem_append_right _ (Option.mem_toList.2 hp))
  rintro ⟨hnew, hday⟩
  constructor
  · rw [haccepted, List.nodup_append']
    refine ⟨h.once, ?_, fun code hmem hcode => hnew code (Option.mem_toList.1 hcode) hmem⟩
    cases call.accepts s.shared <;> simp
  rw [hverified]
  intro p hp
  rcases List.mem_append.1 hp with hold | hadded
  · exact h.dates p hold
  · exact hday p (Option.mem_toList.1 hadded)

theorem ManualCodesApart.expected_iff (h : ManualCodesApart s) :
    s.shared.expected ∉ s.shared.accepted ↔ ∀ call ∈ s.calls, call.replaces = none := by
  have hnil : pendingCodes s = [] ↔ ∀ call ∈ s.calls, call.replaces = none :=
    List.filterMap_eq_nil_iff
  rw [← hnil]
  rcases h.pending with ⟨hpending, hnot⟩ | ⟨hpending, -, hmem⟩
  · exact iff_of_true hnot hpending
  refine iff_of_false (not_not_intro hmem) ?_
  simp [hpending]

/-- **A step keeps codes and dates exactly when its comparison is alone.** -/
theorem verifiesOnce_step_iff (e : ColumnEvent) (h : VerifiesOnce s.shared)
    (hapart : ManualCodesApart s) :
    VerifiesOnce ((columnService env).step e s).shared ↔ VerifiesAlone s e := by
  cases e with
  | other y => exact y.elim
  | call request => exact iff_of_true h trivial
  | advance i x =>
    cases hc : s.calls[i]? with
    | none =>
      have hnone : VerifiesAlone s (.advance i x) := by simp [VerifiesAlone, hc]
      rw [Service.step_advance_none hc]
      exact iff_of_true h hnone
    | some call =>
      rw [verifiesOnce_moved_iff h hc, verifiesAlone_advance hc]
      unfold ColumnCall.VerifiesAlone
      cases call with
      | consuming request config today =>
        rw [← hapart.expected_iff]
        by_cases hok : s.shared.expected ≠ ""
            ∧ s.shared.expected = trim request.verificationCode
        · simp [ColumnCall.accepts, ColumnCall.inserts, hok]
        have hnot : ∀ P : Prop, s.shared.expected ≠ "" →
            s.shared.expected = trim request.verificationCode → P :=
          fun _ hne heq => absurd ⟨hne, heq⟩ hok
        simp only [ColumnCall.accepts, ColumnCall.inserts, if_neg hok]
        exact iff_of_true ⟨fun _ hcode => (by cases hcode), fun _ hp => (by cases hp)⟩
          (hnot _)
      | inserting mark today =>
        by_cases hused : (s.shared.staff.find? x.rowId).isSome = true
        · simp [ColumnCall.accepts, ColumnCall.inserts, hused]
        · simp [ColumnCall.accepts, ColumnCall.inserts, hused, AttendanceMark.row]
      | _ => exact iff_of_true ⟨fun _ h => (by cases h), fun _ h => (by cases h)⟩ trivial

theorem ColumnCall.SignsIn.replaces_of_carries (h : call.SignsIn) {code : String}
    (hcarries : call.carries code = true) : call.replaces ≠ none := by
  cases call with
  | reading save | writing save existing =>
    obtain ⟨id, reason⟩ := save
    cases reason with
    | newCode read drawn createdAt signIn =>
      obtain ⟨signIn, rfl⟩ := Option.isSome_iff_exists.1 h
      exact nofun
    | _ => cases hcarries
  | _ => cases hcarries

theorem expected_next (hsave : ∀ save existing, call ≠ .writing save existing) :
    (columnNext env x call d).2.expected = d.expected := by
  unfold ColumnStores.expected
  cases htouches : call.touches with
  | false => rw [ColumnStores.code_congr (columnNext_same env x d htouches).1.head]
  | true =>
    cases call with
    | drawing id signIn => rfl
    | writing save existing => exact absurd rfl (hsave save existing)
    | _ => cases htouches

theorem currentId_ne_none (h : d.expected ≠ "") : d.currentId ≠ none := by
  cases hhead : d.orgs.rows.head? with
  | none =>
    refine absurd ?_ h
    rw [ColumnStores.expected, ColumnStores.code_eq, hhead]
    rfl
  | some row =>
    simp [ColumnStores.currentId, ColumnStores.getCurrentOrganization, hhead, OrgRow.mapped,
      orNull_some row.id_ne_empty]

theorem pendingCodes_moving (hc : s.calls[i]? = some call) :
    (pendingCodes s).Perm
      (call.replaces.toList ++ (s.calls.eraseIdx i).filterMap ColumnCall.replaces) := by
  have hmoved := pendingCodes_moved hc call
  obtain ⟨hlt, rfl⟩ := List.getElem?_eq_some_iff.1 hc
  rwa [List.set_getElem_self hlt] at hmoved

theorem accepts_alone {code : String} (halone : VerifiesAlone s (.advance i x))
    (hc : s.calls[i]? = some call) (haccepts : call.accepts s.shared = some code) :
    s.shared.expected = code ∧ code ≠ "" ∧ ∀ other ∈ s.calls, other.replaces = none := by
  cases call with
  | consuming request config today =>
    simp only [ColumnCall.accepts, Option.ite_none_right_eq_some, Option.some.injEq] at haccepts
    obtain ⟨⟨hne, heq⟩, rfl⟩ := haccepts
    exact ⟨rfl, hne, (verifiesAlone_advance hc).1 halone hne heq⟩
  | _ => cases haccepts

/-- A step that is no save: a comparison adds the code in the column to those to be replaced. -/
theorem manualCodesApart_moved (hcalls : OnlySignIns s) (hfresh : DrawsFresh s (.advance i x))
    (halone : VerifiesAlone s (.advance i x)) (hapart : ManualCodesApart s)
    (hc : s.calls[i]? = some call) (hsave : ∀ save existing, call ≠ .writing save existing) :
    ManualCodesApart ((columnService env).step (.advance i x) s) := by
  have hpending := pendingCodes_moving hc
  have hmoved := pendingCodes_moved hc (columnNext env x call s.shared).1
  have haccepted := columnNext_accepted env x call s.shared
  have hschool : ∀ code ∈ call.replaces, s.shared.currentId ≠ none := by
    intro code hcode
    refine currentId_ne_none ?_
    rcases hapart.pending with ⟨hnone, -⟩ | ⟨-, hne, -⟩
    · rw [hnone, hcode] at hpending
      exact absurd hpending.nil_eq nofun
    · exact hne
  rw [replaces_next (hcalls _ (List.mem_of_getElem? hc)).1 hsave hschool] at hmoved
  rw [Service.step_advance hc]
  change ManualCodesApart { shared := (columnNext env x call s.shared).2
                            calls := s.calls.set i (columnNext env x call s.shared).1 }
  have hexpected : (columnNext env x call s.shared).2.expected = s.shared.expected :=
    expected_next hsave
  have hcarried : ∀ other ∈ s.calls.set i (columnNext env x call s.shared).1, ∀ code,
      other.carries code = true →
        (∃ before ∈ s.calls, before.carries code = true)
          ∨ (∃ id signIn, call = .drawing id signIn) ∧ x.code.text = code := by
    intro other hother code hcarries
    rcases List.mem_or_eq_of_mem_set hother with hold | rfl
    · exact Or.inl ⟨other, hold, hcarries⟩
    · exact (carries_next hcarries).imp_left fun h => ⟨call, List.mem_of_getElem? hc, h⟩
  cases haccepts : call.accepts s.shared with
  | none =>
    rw [haccepts, Option.toList_none, List.append_nil] at haccepted
    rw [haccepts, Option.or_none] at hmoved
    have hsame : (s.calls.set i (columnNext env x call s.shared).1).filterMap
        ColumnCall.replaces = pendingCodes s := by
      have hperm := hmoved.trans hpending.symm
      rcases hapart.pending with ⟨hnone, -⟩ | ⟨hone, -⟩
      · rw [hnone] at hperm ⊢
        exact hperm.eq_nil
      rw [hone] at hperm ⊢
      exact List.perm_singleton.1 hperm
    constructor
    · simp only [pendingCodes, hsame, hexpected, haccepted]
      exact hapart.pending
    simp only [haccepted]
    intro other hother code hcarries
    rcases hcarried other hother code hcarries with ⟨before, hbefore, hold⟩ | ⟨hdraw, rfl⟩
    · exact hapart.fresh before hbefore code hold
    obtain ⟨id, signIn, rfl⟩ := hdraw
    exact hfresh _ hc
  | some code =>
    obtain ⟨rfl, hne, hnone⟩ := accepts_alone halone hc haccepts
    have hidle : (s.calls.eraseIdx i).filterMap ColumnCall.replaces = [] :=
      List.filterMap_eq_nil_iff.2 fun other hother =>
        hnone other (List.mem_of_mem_eraseIdx hother)
    have hone : (s.calls.set i (columnNext env x call s.shared).1).filterMap
        ColumnCall.replaces = [s.shared.expected] := by
      rw [hnone call (List.mem_of_getElem? hc), haccepts, hidle] at hmoved
      exact List.perm_singleton.1 hmoved
    constructor
    · right
      simp only [pendingCodes, hone, hexpected, haccepted, haccepts]
      exact ⟨trivial, hne, by simp⟩
    intro other hother code hcarries
    exfalso
    rcases hcarried other hother code hcarries with ⟨before, hbefore, hold⟩ | ⟨hdraw, -⟩
    · exact (hcalls before hbefore).1.replaces_of_carries hold (hnone before hbefore)
    obtain ⟨id, signIn, rfl⟩ := hdraw
    cases haccepts

/-- The save of a new code: the one that was used up is replaced. -/
theorem manualCodesApart_write {save : ColumnSave} {existing : Option StoredAttendance}
    (hcalls : OnlySignIns s) (hapart : ManualCodesApart s)
    (hc : s.calls[i]? = some (.writing save existing)) :
    ManualCodesApart ((columnService env).step (.advance i x) s) := by
  obtain ⟨id, reason⟩ := save
  obtain ⟨hsigns, hown⟩ := hcalls _ (List.mem_of_getElem? hc)
  cases reason with
  | settings incoming => cases hsigns
  | finalize config today => cases hsigns
  | newCode read code createdAt signIn =>
    obtain ⟨signIn, rfl⟩ := Option.isSome_iff_exists.1 hsigns
    have hdrawn : code.text ∉ s.shared.accepted :=
      hapart.fresh _ (List.mem_of_getElem? hc) code.text (by simp [ColumnCall.carries])
    have hpending := pendingCodes_moving hc
    have hmoved := pendingCodes_moved hc
      ((SaveReason.newCode read code createdAt (some signIn)).after env)
    rw [replaces_after] at hmoved
    have hidle : (s.calls.eraseIdx i).filterMap ColumnCall.replaces = [] := by
      rcases hapart.pending with ⟨hnone, -⟩ | ⟨hone, -⟩
      · rw [hnone] at hpending
        cases hpending.nil_eq
      have hlength := hpending.length_eq
      simpa [hone, ColumnCall.replaces] using hlength
    rw [hidle] at hmoved
    have hexpected : (s.shared.write ⟨id, .newCode read code createdAt (some signIn)⟩
        existing).expected = code.text := by
      rw [ColumnStores.expected, ColumnStores.write_code hown, SaveReason.carriedCode_newCode]
      simp [textOrElse, hasText, code.text_ne_empty]
    rw [Service.step_advance hc]
    refine ⟨Or.inl ⟨hmoved.eq_nil, ?_⟩, ?_⟩
    · change (s.shared.write _ existing).expected ∉ _
      rw [hexpected]
      exact hdrawn
    intro other hother drawn hcarries
    rcases List.mem_or_eq_of_mem_set hother with hold | rfl
    · exact hapart.fresh other hold drawn hcarries
    have hafter : ((SaveReason.newCode read code createdAt (some signIn)).after env).carries
        drawn = false := not_carries_after _ _
    cases hafter.symm.trans hcarries

/-- Along sign-ins that compare alone and draw new codes, the codes stay apart. -/
theorem manualCodesApart_step (e : ColumnEvent) (he : IsSignIn e) (hfresh : DrawsFresh s e)
    (hcalls : OnlySignIns s) (halone : VerifiesAlone s e) (hapart : ManualCodesApart s) :
    ManualCodesApart ((columnService env).step e s) := by
  cases e with
  | other y => exact y.elim
  | call request =>
    cases request with
    | markStaffAttendanceWithManualCode request today =>
      have hpending : pendingCodes ((columnService env).step
          (.call (.markStaffAttendanceWithManualCode request today)) s) = pendingCodes s := by
        simp [pendingCodes, columnService, ColumnRequest.start, ColumnCall.replaces]
      refine ⟨?_, ?_⟩
      · rw [hpending]
        exact hapart.pending
      intro call hcall code hcarries
      rcases List.mem_append.1 hcall with hold | hnew
      · exact hapart.fresh call hold code hcarries
      obtain rfl := List.mem_singleton.1 hnew
      cases hcarries
    | _ => cases he
  | advance i x =>
    cases hc : s.calls[i]? with
    | none =>
      rw [Service.step_advance_none hc]
      exact hapart
    | some call =>
      by_cases hsave : ∃ save existing, call = .writing save existing
      · obtain ⟨save, existing, rfl⟩ := hsave
        exact manualCodesApart_write hcalls hapart hc
      refine manualCodesApart_moved hcalls hfresh halone hapart hc ?_
      intro save existing hcall
      exact hsave ⟨save, existing, hcall⟩

/-! ## Runs -/

/-- **Each code lets one sign-in through, for the day of the request, exactly as long as codes are
compared alone and requests give their own day.**  Along every run of sign-ins whose statements
interleave in any way, when no code is drawn again. -/
theorem manual_code_once_iff (env : AttendanceEnv) (orgs : Keyed OrgRow.id) (es : List ColumnEvent)
    (hsign : ∀ e ∈ es, IsSignIn e)
    (hfresh : Along (columnService env).step DrawsFresh { shared := columnStart orgs } es) :
    (∀ pre, pre <+: es → VerifiesOnce
        (run (columnService env).step { shared := columnStart orgs } pre).shared)
      ↔ Along (columnService env).step VerifiesAlone { shared := columnStart orgs } es := by
  symm
  refine along_iff_throughout_with (D := fun s e => IsSignIn e ∧ DrawsFresh s e)
    (I := fun s : ColumnState => VerifiesOnce s.shared)
    (J := fun s : ColumnState => OnlySignIns s ∧ (VerifiesOnce s.shared → ManualCodesApart s))
    ?_ ?_ ?_ ?_ ?_
  · rintro s e ⟨he, hdraw⟩ honce ⟨hcalls, hapart⟩
    refine ⟨onlySignIns_step e he hcalls, fun hafter => ?_⟩
    exact manualCodesApart_step e he hdraw hcalls
      ((verifiesOnce_step_iff e honce (hapart honce)).1 hafter) (hapart honce)
  · rintro s e - honce ⟨-, hapart⟩
    exact verifiesOnce_step_iff e honce (hapart honce)
  · exact (along_of_forall hsign).and hfresh
  · exact ⟨List.nodup_nil, fun p hp => (by cases hp)⟩
  refine ⟨fun call hcall => (by cases hcall), fun _ => ⟨Or.inl ⟨rfl, List.not_mem_nil⟩, ?_⟩⟩
  intro call hcall
  cases hcall

namespace Example

/-- A teacher signs in with the code that is shown. -/
def teacherComes (staffId date : String) : ColumnEvent :=
  .call (.markStaffAttendanceWithManualCode (teacherSignIn shownCode.text staffId date)
    schoolMonday)

/-- Two teachers send the same code, and both are compared before it is replaced. -/
def comparedTogether : List ColumnEvent :=
  [teacherComes "usr_1" "2025-03-03", teacherComes "usr_2" "2025-03-03",
    .advance 0 teacherDraw, .advance 1 teacherDraw, .advance 0 teacherDraw, .advance 1 teacherDraw]

/-- A teacher signs in from the first statement to the last, for a day. -/
def signedInFor (date : String) : List ColumnEvent :=
  teacherComes "usr_1" date :: List.replicate 8 (.advance 0 teacherDraw)

end Example

/-- Two requests are accepted with one code, and one is recorded for the day before. -/
theorem not_manual_code_once :
    ¬ VerifiesOnce (run (columnService Example.schoolEnv).step
        { shared := columnStart Example.codeSchool } Example.comparedTogether).shared
      ∧ ¬ VerifiesOnce (run (columnService Example.schoolEnv).step
        { shared := columnStart Example.codeSchool }
          (Example.signedInFor "2025-03-02")).shared := by
  constructor
  · intro h
    exact absurd h.once (by decide)
  intro h
  exact absurd h.dates (by decide)

/-- A teacher who signs in alone and for the day is verified rightly. -/
theorem manual_code_once_alone :
    VerifiesOnce (run (columnService Example.schoolEnv).step
      { shared := columnStart Example.codeSchool } (Example.signedInFor "2025-03-03")).shared :=
  (manual_code_once_iff Example.schoolEnv Example.codeSchool (Example.signedInFor "2025-03-03")
    (by simp [Example.signedInFor, Example.teacherComes, IsSignIn]) (by decide)).2
    (by decide) _ (List.prefix_refl _)

end MultiAcademy.School
