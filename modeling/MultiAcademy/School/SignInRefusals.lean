import MultiAcademy.School.AttendanceSettings

/-!
# What a refused sign-in leaves

A staff sign-in checks who signs in, when and whether again, takes its assertion or its code, and
only then looks at the place and writes the record.  A refusal before the credential is taken
leaves everything as it was; one afterwards leaves a teacher without the assertion, or the school
with another code.
-/

namespace MultiAcademy.School

open MultiAcademy.Lib

/-! ## A sign-in -/

/-- What can fail from the credential on: the UPDATE of the column, what
`updateBusinessOrganization` does after it, the DELETE, the INSERT, and the notification. -/
inductive SignInFault
  | save
  | sync
  | delete
  | insert
  | notify
  deriving DecidableEq

/-- What a sign-in finds and draws, with the two readings of the clock for an assertion and the
statement that fails. -/
structure SignInDraw extends ColumnDraw where
  purgedAt : ℕ := 0
  elapsed : ℕ := 0
  fault : Option SignInFault := none

def SignInDraw.readAt (x : SignInDraw) : ℕ := x.purgedAt + x.elapsed

theorem SignInDraw.purgedAt_le (x : SignInDraw) : x.purgedAt ≤ x.readAt := Nat.le_add_right _ _

/-- The tables, with the history of the codes in the column, and the memory. -/
structure SignInStores where
  columns : ColumnStores
  assertions : Assertions := fun _ => none

def statementFailed : ℕ × String := (500, "Internal server error")

def persistStaffAttendance (x : SignInDraw) (mark : AttendanceMark) (d : ColumnStores) :
    Except (ℕ × String) StaffAttendance × ColumnStores :=
  if x.fault = some .delete then (.error statementFailed, d)
  else
    let d := { d with staff := d.staff.deleteWhere (StaffAttendance.isOf mark.staffId mark.date) }
    match d.staff.insert? (mark.row x.rowId x.signIn) with
    | none => (.error statementFailed, d)
    | some staff =>
      if x.fault = some .insert then (.error statementFailed, d)
      else if x.fault = some .notify then (.error statementFailed, { d with staff })
      else (.ok (mark.row x.rowId x.signIn), { d with staff })

def recordSignIn (env : AttendanceEnv) (x : SignInDraw) (request : SignInRequest)
    (config : AttendanceConfig) (d : ColumnStores) :
    Except (ℕ × String) StaffAttendance × ColumnStores :=
  match resolveStaffSignInLocation env.distanceMeters config request.latitude request.longitude
    request.locationHint with
  | .error e => (.error e, d)
  | .ok resolvedLocation => persistStaffAttendance x (request.mark resolvedLocation) d

/-- `regenerateManualVerificationCode` of a school. -/
def regenerateCode (x : SignInDraw) (id : String) (d : ColumnStores) : ColumnStores :=
  d.write { id, reason := .newCode d.parsedConfig x.code x.createdAt none } (d.existingConfig id)

/-- `consumeAssertion`, or `consumeManualVerificationCode` with the regeneration. -/
def verifyStaff (env : AttendanceEnv) (x : SignInDraw) (request : SignInRequest)
    (s : SignInStores) : Except (ℕ × String) Unit × SignInStores :=
  match request.verification with
  | .biometric assertionId =>
    let (result, assertions) := consumeAssertion assertionId env.tenantId request.actorUserId
      x.purgedAt x.readAt s.assertions
    (result, { s with assertions })
  | .manual code =>
    match consumeManualVerificationCode s.columns.getAttendanceConfig.toAttendanceConfig
      s.columns.currentId.isSome code with
    | .error e => (.error e, s)
    | .ok () =>
      if x.fault = some .save then (.error statementFailed, s)
      else
        let s := { s with columns := regenerateCode x (s.columns.currentId.getD "") s.columns }
        (if x.fault = some .sync then .error statementFailed else .ok (), s)

/-- `markStaffAttendance` and `markStaffAttendanceWithManualCode`, while nothing else happens. -/
def markStaffAttendance (env : AttendanceEnv) (x : SignInDraw) (request : SignInRequest)
    (s : SignInStores) : Except (ℕ × String) StaffAttendance × SignInStores :=
  let config := s.columns.getAttendanceConfig.toAttendanceConfig
  match checkSignIn request config x.roles x.now s.columns.staff.rows with
  | .error e => (.error e, s)
  | .ok () =>
    match verifyStaff env x request s with
    | (.error e, s) => (.error e, s)
    | (.ok (), s) =>
      let (answer, columns) := recordSignIn env x request config s.columns
      (answer, { s with columns })

/-! ## What a refusal leaves -/

/-- The column, the records and the assertions that are good at a time are the same. -/
structure SameStored (now : ℕ) (s s' : SignInStores) : Prop where
  columns : s'.columns = s.columns
  assertions : purgeExpired now s'.assertions = purgeExpired now s.assertions

/-- Whatever a sign-in is refused for, what is stored stays. -/
def RefusalKeeps (env : AttendanceEnv) (x : SignInDraw) (request : SignInRequest)
    (s : SignInStores) : Prop :=
  ∀ e s', markStaffAttendance env x request s = (.error e, s') → SameStored x.readAt s s'

def credentialTaken (env : AttendanceEnv) (x : SignInDraw) (request : SignInRequest)
    (s : SignInStores) : Bool :=
  match request.verification with
  | .biometric assertionId =>
    (consumeAssertion assertionId env.tenantId request.actorUserId x.purgedAt x.readAt
      s.assertions).1.isOk
  | .manual code =>
    (consumeManualVerificationCode s.columns.getAttendanceConfig.toAttendanceConfig
      s.columns.currentId.isSome code).isOk && x.fault ≠ some .save

/-- The sign-in passes the checks before its credential, and takes that. -/
def takes (env : AttendanceEnv) (x : SignInDraw) (request : SignInRequest) (s : SignInStores) :
    Bool :=
  (checkSignIn request s.columns.getAttendanceConfig.toAttendanceConfig x.roles x.now
    s.columns.staff.rows).isOk && credentialTaken env x request s

/-- The place is right, and no statement after the credential fails. -/
def completes (env : AttendanceEnv) (x : SignInDraw) (request : SignInRequest)
    (s : SignInStores) : Bool :=
  (resolveStaffSignInLocation env.distanceMeters s.columns.getAttendanceConfig.toAttendanceConfig
      request.latitude request.longitude request.locationHint).isOk
    && (x.fault.all fun fault =>
      fault = .save || (fault = .sync && request.verification matches .biometric _))
    && ((s.columns.staff.deleteWhere (StaffAttendance.isOf request.staffId request.date)).find?
      x.rowId).isNone

/-! ## Assertions -/

theorem purgeExpired_purgeExpired {purgedAt now : ℕ} (h : purgedAt ≤ now)
    (assertions : Assertions) :
    purgeExpired now (purgeExpired purgedAt assertions) = purgeExpired now assertions := by
  funext id
  simp only [purgeExpired, Option.filter_filter]
  refine congrArg (fun p => (assertions id).filter p) (funext fun entry => ?_)
  by_cases hexpired : entry.expiresAt < purgedAt
  · simp [hexpired, hexpired.trans_le h]
  · by_cases hused : entry.used = true <;> simp [hexpired, hused]

theorem purgeExpired_update (now : ℕ) (assertions : Assertions) (id : String) :
    purgeExpired now (Function.update assertions id none)
      = Function.update (purgeExpired now assertions) id none := by
  funext id'
  by_cases hid : id' = id <;> simp [purgeExpired, hid]

/-- What taking an assertion comes to: a good one goes, an expired one may. -/
theorem consumeAssertion_cases (assertionId tenantId userId : String) (assertions : Assertions)
    {purgedAt now : ℕ} (hle : purgedAt ≤ now) :
    ((consumeAssertion assertionId tenantId userId purgedAt now assertions).1 = .ok ()
      ∧ (purgeExpired now assertions assertionId).isSome = true
      ∧ (consumeAssertion assertionId tenantId userId purgedAt now assertions).2 assertionId = none)
    ∨ ((consumeAssertion assertionId tenantId userId purgedAt now assertions).1.isOk = false
      ∧ purgeExpired now (consumeAssertion assertionId tenantId userId purgedAt now assertions).2
        = purgeExpired now assertions) := by
  have hpurge := purgeExpired_purgeExpired hle assertions
  simp only [consumeAssertion]
  cases hentry : purgeExpired purgedAt assertions assertionId with
  | none => exact Or.inr ⟨rfl, hpurge⟩
  | some entry =>
    have hunused : entry.used = false := by
      obtain ⟨-, hkept⟩ := Option.filter_eq_some_iff.1 hentry
      simp only [Bool.not_eq_true', Bool.or_eq_false_iff] at hkept
      exact hkept.2
    have hnow : purgeExpired now assertions assertionId
        = if entry.expiresAt < now then none else some entry := by
      rw [← hpurge, purgeExpired, hentry, Option.filter_some]
      by_cases hexpired : entry.expiresAt < now <;> simp [hunused, hexpired]
    dsimp only
    split
    next hexpired =>
      refine Or.inr ⟨rfl, ?_⟩
      rw [purgeExpired_update, hpurge, Function.update_eq_self_iff, hnow, if_pos hexpired]
    next hgood =>
      split
      · exact Or.inr ⟨rfl, hpurge⟩
      split
      · refine Or.inl ⟨rfl, ?_, Function.update_self _ _ _⟩
        rw [hnow, if_neg hgood]
        rfl
      · exact Or.inr ⟨rfl, hpurge⟩

/-! ## Recording -/

section
variable {env : AttendanceEnv} {x : SignInDraw} {request : SignInRequest} {s : SignInStores}
  {d : ColumnStores}

/-- A sign-in is recorded when the place is right and no statement fails. -/
theorem recordSignIn_isOk (config : AttendanceConfig) :
    (recordSignIn env x request config d).1.isOk
      = ((resolveStaffSignInLocation env.distanceMeters config request.latitude request.longitude
            request.locationHint).isOk
        && (x.fault.all fun fault => fault = .save || fault = .sync)
        && ((d.staff.deleteWhere (StaffAttendance.isOf request.staffId request.date)).find?
          x.rowId).isNone) := by
  simp only [recordSignIn]
  cases resolveStaffSignInLocation env.distanceMeters config request.latitude request.longitude
    request.locationHint with
  | error e => rfl
  | ok resolvedLocation =>
    simp only [persistStaffAttendance]
    have hinsert : ∀ mark : AttendanceMark, mark.staffId = request.staffId →
        mark.date = request.date →
        ((d.staff.deleteWhere (StaffAttendance.isOf mark.staffId mark.date)).insert?
            (mark.row x.rowId x.signIn)).isSome
          = ((d.staff.deleteWhere (StaffAttendance.isOf request.staffId request.date)).find?
            x.rowId).isNone := by
      intro mark hstaff hdate
      rw [hstaff, hdate]
      cases hrow : (d.staff.deleteWhere (StaffAttendance.isOf request.staffId request.date)).insert?
        (mark.row x.rowId x.signIn) with
      | none =>
        have hused := Keyed.insert?_eq_none hrow
        exact (Option.isNone_eq_false_iff.2 (Option.isSome_iff_ne_none.2 hused)).symm
      | some staff => exact (Option.isNone_iff_eq_none.2 (Keyed.insert?_eq_some hrow).1).symm
    have hmark := hinsert (request.mark resolvedLocation) rfl rfl
    cases hrow : (d.staff.deleteWhere (StaffAttendance.isOf
        (request.mark resolvedLocation).staffId (request.mark resolvedLocation).date)).insert?
        ((request.mark resolvedLocation).row x.rowId x.signIn) with
    | none =>
      rw [hrow] at hmark
      rw [← hmark]
      split <;> simp [Except.isOk, Except.toBool]
    | some staff =>
      rw [hrow] at hmark
      rw [← hmark]
      rcases x.fault with _ | _ | _ | _ | _ | _ <;> rfl

theorem recordSignIn_stored (config : AttendanceConfig) :
    (recordSignIn env x request config d).2.stored = d.stored := by
  simp only [recordSignIn]
  split
  · rfl
  simp only [persistStaffAttendance]
  repeat' split
  all_goals rfl

theorem regenerateCode_stored (id : String) :
    (regenerateCode x id d).stored = d.stored ++ [x.code.text] := rfl

/-! ## Refusals -/

/-- A credential that is not taken changes nothing. -/
theorem verifyStaff_refused (h : credentialTaken env x request s = false) :
    (verifyStaff env x request s).1.isOk = false
      ∧ SameStored x.readAt s (verifyStaff env x request s).2 := by
  simp only [credentialTaken] at h
  simp only [verifyStaff]
  split
  next assertionId hverification =>
    simp only [hverification] at h
    rcases consumeAssertion_cases assertionId env.tenantId request.actorUserId s.assertions
      x.purgedAt_le with hcases | ⟨-, hsame⟩
    · rw [hcases.1] at h
      cases h
    · exact ⟨h, rfl, hsame⟩
  next code hverification =>
    simp only [hverification] at h
    split
    · exact ⟨rfl, rfl, rfl⟩
    next hcode =>
      rw [hcode] at h
      have hsave : x.fault = some .save := by simpa [Except.isOk, Except.toBool] using h
      rw [if_pos hsave]
      exact ⟨rfl, rfl, rfl⟩

/-- **A credential that is taken is gone**, whether the sign-in completes or not. -/
theorem markStaffAttendance_taken (h : takes env x request s = true) :
    (markStaffAttendance env x request s).1.isOk = completes env x request s
      ∧ ¬ SameStored x.readAt s (markStaffAttendance env x request s).2 := by
  rw [takes, Bool.and_eq_true] at h
  obtain ⟨hcheck, htaken⟩ := h
  simp only [credentialTaken] at htaken
  simp only [markStaffAttendance]
  cases hchecked : checkSignIn request s.columns.getAttendanceConfig.toAttendanceConfig x.roles
      x.now s.columns.staff.rows with
  | error e => rw [hchecked] at hcheck; cases hcheck
  | ok u =>
    dsimp only
    cases hverification : request.verification with
    | biometric assertionId =>
      simp only [hverification] at htaken
      rcases consumeAssertion_cases assertionId env.tenantId request.actorUserId s.assertions
        x.purgedAt_le with
        ⟨hok, hgood, hgone⟩ | ⟨hrefused, -⟩
      · simp only [verifyStaff, hverification, hok]
        constructor
        · rw [recordSignIn_isOk, completes]
          simp [hverification]
        intro hsame
        have hassertion := congrFun hsame.assertions assertionId
        rw [← hassertion, purgeExpired] at hgood
        dsimp only at hgood
        rw [hgone] at hgood
        cases hgood
      rw [hrefused] at htaken
      cases htaken
    | manual code =>
      simp only [hverification, Bool.and_eq_true] at htaken
      obtain ⟨hcode, hsave⟩ := htaken
      cases hconsumed : consumeManualVerificationCode
          s.columns.getAttendanceConfig.toAttendanceConfig s.columns.currentId.isSome code with
      | error e => rw [hconsumed] at hcode; cases hcode
      | ok v =>
        have hstored : ∀ s' : SignInStores, s'.columns.stored = s.columns.stored ++ [x.code.text] →
            ¬ SameStored x.readAt s s' := by
          intro s' hs' hsame
          rw [hsame.columns] at hs'
          simp at hs'
        simp only [verifyStaff, hverification, hconsumed, if_neg (of_decide_eq_true hsave)]
        by_cases hsync : x.fault = some .sync
        · simp only [if_pos hsync]
          refine ⟨?_, hstored _ (regenerateCode_stored _)⟩
          simp [completes, hsync, hverification, Except.isOk, Except.toBool]
        simp only [if_neg hsync]
        refine ⟨?_, hstored _ ((recordSignIn_stored _).trans (regenerateCode_stored _))⟩
        rw [recordSignIn_isOk, completes]
        have hfault : ∀ biometric : Bool, biometric = false →
            (x.fault.all fun fault => fault = .save || fault = .sync)
              = x.fault.all fun fault => fault = .save || (fault = .sync && biometric) := by
          rintro - rfl
          rcases hx : x.fault with _ | fault
          · rfl
          cases fault with
          | sync => exact absurd hx hsync
          | save | delete | insert | notify => rfl
        have hmanual : (request.verification matches .biometric _) = false := by
          rw [hverification]
        rw [hfault _ hmanual]
        rfl

/-- **A refused sign-in leaves what is stored as it was** exactly when one that takes its credential
completes: its place is right, and no statement after that fails. -/
theorem refusal_keeps_iff (env : AttendanceEnv) (x : SignInDraw) (request : SignInRequest)
    (s : SignInStores) :
    RefusalKeeps env x request s
      ↔ (takes env x request s = true → completes env x request s = true) := by
  constructor
  · intro hkeeps htakes
    obtain ⟨hok, hchanged⟩ := markStaffAttendance_taken htakes
    rw [← hok]
    cases hanswer : (markStaffAttendance env x request s).1 with
    | ok row => rfl
    | error e => exact absurd (hkeeps e _ (Prod.ext hanswer rfl)) hchanged
  rintro hcompletes e s' hrefused
  cases htakes : takes env x request s with
  | true =>
    have hok := (markStaffAttendance_taken htakes).1
    rw [hrefused, hcompletes htakes] at hok
    cases hok
  | false =>
    rw [takes, Bool.and_eq_false_iff] at htakes
    simp only [markStaffAttendance] at hrefused
    cases hchecked : checkSignIn request s.columns.getAttendanceConfig.toAttendanceConfig x.roles
        x.now s.columns.staff.rows with
    | error e =>
      rw [hchecked] at hrefused
      cases hrefused
      exact ⟨rfl, rfl⟩
    | ok u =>
      have hcredential : credentialTaken env x request s = false := by
        simpa [hchecked, Except.isOk, Except.toBool] using htakes
      obtain ⟨herror, hsame⟩ := verifyStaff_refused hcredential
      rw [hchecked] at hrefused
      rcases hverify : verifyStaff env x request s with ⟨result, s''⟩
      rw [hverify] at hrefused herror hsame
      cases result with
      | ok v => cases herror
      | error e' =>
        cases hrefused
        exact hsame

end

def gatedSchool : SignInStores :=
  { columns :=
      { orgs := ⟨[{ id := "org_1", id_ne_empty := by simp
                    attendanceConfig := some
                      { requireLocationVerification := some true
                        locations := some [⟨"gate", "Gate", 0, 0, 50⟩]
                        biometricWindowStart := some "08:00"
                        biometricWindowEnd := some "16:00" } }], by simp⟩ }
    assertions := fun id =>
      if id = "assertion" then
        some { tenantId := "school", userId := "staff", purpose := "staff_attendance"
               expiresAt := 100 }
      else none }

def gateEnv : AttendanceEnv := { tenantId := "school", distanceMeters := fun _ _ _ _ => 80 }

theorem gateCode_digits : "22222222222222222222".toList.all Char.isDigit = true := by simp

theorem gateCode_length : "22222222222222222222".toList.length = 20 := by simp

def gateDraw : SignInDraw :=
  { code := ⟨"22222222222222222222", gateCode_digits, gateCode_length⟩
    roles := ["class_teacher"] }

def acrossTheStreet : SignInRequest :=
  { actorUserId := "staff", staffId := "staff", date := "2025-03-03", status := .present
    verification := .biometric "assertion", latitude := some 0, longitude := some 0 }

/-- **A sign-in from the wrong place takes the assertion.** -/
theorem refused_takes_assertion :
    ¬ ∀ (env : AttendanceEnv) (x : SignInDraw) (request : SignInRequest) (s : SignInStores),
      RefusalKeeps env x request s := by
  intro h
  have htakes : takes gateEnv gateDraw acrossTheStreet gatedSchool = true := by decide
  have hcompletes : completes gateEnv gateDraw acrossTheStreet gatedSchool = false := by
    decide
  obtain ⟨hok, hchanged⟩ := markStaffAttendance_taken htakes
  cases hanswer : (markStaffAttendance gateEnv gateDraw acrossTheStreet gatedSchool).1 with
  | ok row =>
    rw [hanswer, hcompletes] at hok
    cases hok
  | error e => exact hchanged (h _ _ _ _ e _ (Prod.ext hanswer rfl))

end MultiAcademy.School
