import MultiAcademy.School.ExitPassTables

/-!
# Leaving school on a pass

What it takes for a redemption at the gate to let out the right student on a live pass, once.
The writes of a redemption name their row by its id and check nothing again, and a code is
looked for among the exeats before the tokens, whichever it was issued as.
-/

namespace MultiAcademy.School

open MultiAcademy.Lib

def Exeat.StandsApproved (row : Exeat) : Prop :=
  match row.approval with
  | some approval => approval.Legitimate
  | none => False

/-- A student is let out on a pass or a token of the student that stands and is valid, and with a
code that was issued to the student alone. -/
def GateCall.RedeemsLive (d : GateStores) (call : GateCall) : Prop :=
  match call with
  | ⟨.redeem _ code, .consuming row⟩ =>
    (∃ current ∈ d.exeats.rows, current.id = row.id ∧ current.studentId = row.studentId
        ∧ current.StandsApproved ∧ d.now ≤ current.passExpiresAt.getD 0)
      ∧ ∀ issued ∈ d.issued, issued.code = code → issued.studentId = row.studentId
  | ⟨.redeem _ code, .consumingToken row⟩ =>
    (∃ current ∈ d.tokens.rows, current.id = row.id ∧ current.studentId = row.studentId
        ∧ d.now ≤ current.validUntil)
      ∧ (∃ issued ∈ d.issued, issued.code = code ∧ issued.studentId = row.studentId)
      ∧ ∀ issued ∈ d.issued, issued.code = code → issued.studentId = row.studentId
  | _ => True

/-- The row is still as the redemption has read it, and valid; the code that is issued was not
issued to another student. -/
def GateCall.Guarded (draw : GateDraw) (d : GateStores) (call : GateCall) : Prop :=
  match call with
  | ⟨.redeem _ _, .consuming row⟩ =>
    ∀ current ∈ d.exeats.rows, current.id = row.id →
      current.status = .approved ∧ current.gateUsedAt = none
        ∧ d.now ≤ current.passExpiresAt.getD 0
  | ⟨.redeem _ code, .consumingToken _⟩ =>
    ∀ current ∈ d.tokens.rows, current.tokenCode = code →
      current.usedAt = none ∧ d.now ≤ current.validUntil
  | ⟨_, .approving id _ _⟩ =>
    ∀ current ∈ d.exeats.rows, current.id = id →
      ∀ issued ∈ d.issued, issued.code = draw.passCode → issued.studentId = current.studentId
  | ⟨.issueToken _ body, .issuing⟩ =>
    ∀ issued ∈ d.issued, issued.code = draw.tokenCode → issued.studentId = body.studentId
  | _ => True

def RedeemsLive (s : GateState) : GateEvent → Prop
  | .advance i _ => ∀ call ∈ s.calls[i]?, call.RedeemsLive s.shared
  | .call _ | .other _ => True

def GateGuarded (s : GateState) : GateEvent → Prop
  | .advance i draw => ∀ call ∈ s.calls[i]?, call.Guarded draw s.shared
  | .call _ | .other _ => True

instance (row : Exeat) : Decidable row.StandsApproved :=
  match h : row.approval with
  | some (.leader roles) =>
    decidable_of_iff (mayAct roles leaderRoles = true)
      (by simp [Exeat.StandsApproved, h, Approval.Legitimate])
  | some (.parent linked kind otpHash given expires now) =>
    decidable_of_iff (linked = true ∧ kind = .schoolInitiated ∧ otpHash = given ∧ now ≤ expires)
      (by simp [Exeat.StandsApproved, h, Approval.Legitimate])
  | none => Decidable.isFalse (by simp [Exeat.StandsApproved, h])

instance decidableRedeemsLive (d : GateStores) (call : GateCall) :
    Decidable (call.RedeemsLive d) := by
  obtain ⟨request, phase⟩ := call
  cases request <;> cases phase <;> (dsimp only [GateCall.RedeemsLive]; infer_instance)

instance decidableGuarded (draw : GateDraw) (d : GateStores) (call : GateCall) :
    Decidable (call.Guarded draw d) := by
  obtain ⟨request, phase⟩ := call
  cases request <;> cases phase <;> (dsimp only [GateCall.Guarded]; infer_instance)

instance decidableRedeemsLiveEvent (s : GateState) : ∀ e : GateEvent, Decidable (RedeemsLive s e)
  | .advance i _ => inferInstanceAs (Decidable (∀ call ∈ s.calls[i]?, call.RedeemsLive s.shared))
  | .call _ | .other _ => Decidable.isTrue trivial

instance decidableGateGuarded (s : GateState) : ∀ e : GateEvent, Decidable (GateGuarded s e)
  | .advance i draw =>
    inferInstanceAs (Decidable (∀ call ∈ s.calls[i]?, call.Guarded draw s.shared))
  | .call _ | .other _ => Decidable.isTrue trivial

/-- The request has let a student out on the pass of the exeat. -/
def GateCall.usesPass (exeatId : ℕ) (call : GateCall) : Bool :=
  match call.phase with
  | .answered (.pass id _ .redeemed _) => id = exeatId
  | _ => false

/-- The request has let a student out on the token of the code. -/
def GateCall.usesToken (code : String) (call : GateCall) : Bool :=
  match call with
  | ⟨.redeem _ presented, .answered (.token _ _ .redeemed)⟩ => presented = code
  | _ => false

/-- How often the pass of an exeat let a student out. -/
def passUses (exeatId : ℕ) (s : GateState) : ℕ := s.calls.countP (GateCall.usesPass exeatId)

/-- How often the token of a code let a student out. -/
def tokenUses (code : String) (s : GateState) : ℕ := s.calls.countP (GateCall.usesToken code)

/-! ## How students are let out -/

def GatePhase.letsOut : GatePhase → Bool
  | .answered (.pass _ _ .redeemed _) | .answered (.token _ _ .redeemed) => true
  | _ => false

section LetsOut
variable {sha256 : String → String} {draw : GateDraw} {request : GateRequest} {phase : GatePhase}
  {d : GateStores} {call : GateCall}

theorem letsOut_of_usesPass {id : ℕ} (h : call.usesPass id = true) : call.phase.letsOut = true := by
  simp only [GateCall.usesPass] at h
  split at h
  · rename_i hphase
    rw [hphase]
    rfl
  · cases h

theorem letsOut_of_usesToken {code : String} (h : call.usesToken code = true) :
    call.phase.letsOut = true := by
  simp only [GateCall.usesToken] at h
  split at h
  · rfl
  · cases h

theorem gateStep_of_letsOut (h : phase.letsOut = true) :
    (gateStep sha256 draw request phase d).1 = phase := by
  cases phase with
  | answered answer => cases request <;> rfl
  | starting | reading | checking | inserting | deciding | approving | confirming | issuing
  | consuming | searching | consumingToken | failed => cases h

theorem pass_used {id : ℕ} (h : call.Ok d) (huses : call.usesPass id = true) :
    ∃ current ∈ d.exeats.rows, current.id = id ∧ current.gateUsedAt.isSome = true := by
  obtain ⟨request, phase⟩ := call
  simp only [GateCall.usesPass] at huses
  split at huses
  · obtain rfl := of_decide_eq_true huses
    cases request <;> exact h
  · cases huses

theorem token_used {code : String} (h : call.Ok d) (huses : call.usesToken code = true) :
    ∃ current ∈ d.tokens.rows, current.tokenCode = code ∧ current.usedAt.isSome = true := by
  simp only [GateCall.usesToken] at huses
  split at huses
  · obtain rfl := of_decide_eq_true huses
    exact h
  · cases huses

theorem letsOut_prepareExeat (actorId : String) (body : ExeatBody) :
    (prepareExeat sha256 draw actorId body d).letsOut = false := by
  simp only [prepareExeat]
  generalize body.kind.getD _ = kind
  split
  · rfl
  · split <;> rfl

theorem letsOut_enterGate : (enterGate sha256 draw request d).letsOut = false := by
  cases request with
  | createExeat actorId body =>
    simp only [enterGate]
    split
    · exact letsOut_prepareExeat actorId body
    · rfl
  | review =>
    simp only [enterGate]
    split
    · split
      · rfl
      · split <;> rfl
    · rfl
  | decide | redeem =>
    simp only [enterGate]
    split
    · split <;> rfl
    · rfl
  | confirmParentOtp =>
    simp only [enterGate]
    split
    · split <;> rfl
    · rfl
  | issueToken =>
    simp only [enterGate]
    split
    · split
      · rfl
      · split <;> rfl
    · rfl

theorem letsOut_findPass (code : String) : (findPass draw code d).letsOut = false := by
  simp only [findPass]
  split
  · rfl
  split
  · rfl
  · split <;> rfl

theorem letsOut_findToken (code : String) : (findToken code d).letsOut = false := by
  simp only [findToken]
  split
  · rfl
  split
  · rfl
  · split <;> rfl

theorem letsOut_decideRow {actorId : String} {roles : List String} {id : ℕ} {approve : Bool}
    {note : Option String} : (decideRow actorId roles id approve note d).letsOut = false := by
  simp only [decideRow]
  split
  · rfl
  split
  · rfl
  · split <;> rfl

theorem letsOut_confirmRow {parentId otp : String} {row : Exeat} :
    (confirmRow sha256 parentId otp row d).letsOut = false := by
  simp only [confirmRow]
  split
  · rfl
  split
  · rfl
  split
  · split
    · rfl
    · split <;> rfl
  · rfl

/-- **A student is let out by the write of a pass or of a token.** -/
theorem gateStep_letsOut (h : (gateStep sha256 draw request phase d).1.letsOut = true) :
    phase.letsOut = true
      ∨ (∃ userId code row, request = .redeem userId code ∧ phase = .consuming row)
      ∨ ∃ userId code row, request = .redeem userId code ∧ phase = .consumingToken row := by
  cases phase with
  | starting =>
    rw [show (gateStep sha256 draw request .starting d).1 = enterGate sha256 draw request d by
      cases request <;> rfl, letsOut_enterGate] at h
    cases h
  | reading roles =>
    cases request with
    | decide => exact absurd (letsOut_decideRow.symm.trans h) Bool.false_ne_true
    | redeem userId code =>
      simp only [gateStep] at h
      split at h
      · exact absurd ((letsOut_findPass code).symm.trans h) Bool.false_ne_true
      · cases h
    | createExeat | review | confirmParentOtp | issueToken => cases h
  | checking row =>
    cases request with
    | review actorId id approve note =>
      simp only [gateStep, reviewRow] at h
      split at h <;> cases h
    | confirmParentOtp => exact absurd (letsOut_confirmRow.symm.trans h) Bool.false_ne_true
    | createExeat | decide | issueToken | redeem => cases h
  | inserting row parentOtp =>
    cases hinsert : d.insertExeat row <;> cases request <;>
      simp [gateStep, hinsert, GatePhase.letsOut] at h
  | deciding | confirming => cases request <;> cases h
  | approving id actorId approval =>
    cases hissue : d.issuePass id actorId draw.passCode approval <;> cases request <;>
      simp [gateStep, hissue, GatePhase.letsOut, GateRequest.passIssued] at h
  | issuing =>
    cases request with
    | issueToken userId body =>
      cases hinsert : d.insertToken (tokenRow draw userId body d) <;>
        simp [gateStep, hinsert, GatePhase.letsOut] at h
    | createExeat | review | decide | confirmParentOtp | redeem => cases h
  | consuming row =>
    cases request with
    | redeem userId code => exact Or.inr (Or.inl ⟨userId, code, row, rfl, rfl⟩)
    | createExeat | review | decide | confirmParentOtp | issueToken => cases h
  | searching =>
    cases request with
    | redeem userId code =>
      exact absurd ((letsOut_findToken code).symm.trans h) Bool.false_ne_true
    | createExeat | review | decide | confirmParentOtp | issueToken => cases h
  | consumingToken row =>
    cases request with
    | redeem userId code => exact Or.inr (Or.inr ⟨userId, code, row, rfl, rfl⟩)
    | createExeat | review | decide | confirmParentOtp | issueToken => cases h
  | answered answer => exact Or.inl (by cases request <;> exact h)
  | failed => cases request <;> cases h

/-- Which pass or token it was. -/
theorem gateStep_uses :
    (∀ id, GateCall.usesPass id ⟨request, (gateStep sha256 draw request phase d).1⟩ = true →
      GateCall.usesPass id ⟨request, phase⟩ = true
        ∨ ∃ userId code row, request = .redeem userId code ∧ phase = .consuming row
          ∧ row.id = id)
    ∧ ∀ code, GateCall.usesToken code ⟨request, (gateStep sha256 draw request phase d).1⟩ = true →
      GateCall.usesToken code ⟨request, phase⟩ = true
        ∨ ∃ userId row, request = .redeem userId code ∧ phase = .consumingToken row := by
  constructor
  · intro id h
    rcases gateStep_letsOut (letsOut_of_usesPass h) with
      hout | ⟨userId, code, row, rfl, rfl⟩ | ⟨userId, code, row, rfl, rfl⟩
    · rw [gateStep_of_letsOut hout] at h
      exact Or.inl h
    · exact Or.inr ⟨userId, code, row, rfl, rfl, of_decide_eq_true h⟩
    · cases h
  intro code h
  rcases gateStep_letsOut (letsOut_of_usesToken h) with
    hout | ⟨userId, presented, row, rfl, rfl⟩ | ⟨userId, presented, row, rfl, rfl⟩
  · rw [gateStep_of_letsOut hout] at h
    exact Or.inl h
  · cases h
  obtain rfl : presented = code := of_decide_eq_true h
  exact Or.inr ⟨userId, row, rfl, rfl⟩

end LetsOut

/-! ## Once -/

section Once
variable {sha256 : String → String} {s : GateState} {e : GateEvent}

/-- A redemption that finds its row unused is the first of the pass. -/
theorem passUses_step {id : ℕ} (h : GateHolds s) (hguard : GateGuarded s e)
    (hone : passUses id s ≤ 1) : passUses id ((gateService sha256).step e s) ≤ 1 := by
  have hkeep : ∀ (draw : GateDraw) (c : GateCall) (d : GateStores),
      c.usesPass id = true → ((gateService sha256).next draw c d).1.usesPass id = true := by
    intro draw c d huses
    have hsame := @gateStep_of_letsOut sha256 draw c.request c.phase d (letsOut_of_usesPass huses)
    simpa [gateService, hsame] using huses
  refine (Service.count_step_le_one (fun _ => rfl) hkeep hone).2 ?_
  intro hfires
  obtain ⟨i, draw, call, rfl, hcall, hnot, huses⟩ := Service.exists_of_fires hfires
  rcases gateStep_uses.1 id huses with hbefore | ⟨userId, code, row, hreq, hphase, hid⟩
  · exact absurd (hnot.symm.trans hbefore) Bool.false_ne_true
  obtain rfl : call = ⟨.redeem userId code, .consuming row⟩ := by
    rw [← hreq, ← hphase]
  have hunused := hguard _ hcall
  rw [List.countP_eq_zero]
  intro other hother huses
  obtain ⟨current, hcurrent, hcurrentId, hused⟩ := pass_used (h.2 other hother) huses
  rw [(hunused current hcurrent (hcurrentId.trans hid.symm)).2.1] at hused
  cases hused

theorem tokenUses_step {code : String} (h : GateHolds s) (hguard : GateGuarded s e)
    (hone : tokenUses code s ≤ 1) : tokenUses code ((gateService sha256).step e s) ≤ 1 := by
  have hkeep : ∀ (draw : GateDraw) (c : GateCall) (d : GateStores),
      c.usesToken code = true → ((gateService sha256).next draw c d).1.usesToken code = true := by
    intro draw c d huses
    have hsame := @gateStep_of_letsOut sha256 draw c.request c.phase d (letsOut_of_usesToken huses)
    simpa [gateService, hsame] using huses
  have hstart : ∀ request : GateRequest,
      ((gateService sha256).start request).usesToken code = false := by
    intro request
    cases request <;> rfl
  refine (Service.count_step_le_one hstart hkeep hone).2 ?_
  intro hfires
  obtain ⟨i, draw, call, rfl, hcall, hnot, huses⟩ := Service.exists_of_fires hfires
  rcases gateStep_uses.2 code huses with hbefore | ⟨userId, row, hreq, hphase⟩
  · exact absurd (hnot.symm.trans hbefore) Bool.false_ne_true
  obtain rfl : call = ⟨.redeem userId code, .consumingToken row⟩ := by
    rw [← hreq, ← hphase]
  have hunused := hguard _ hcall
  rw [List.countP_eq_zero]
  intro other hother huses
  obtain ⟨current, hcurrent, hcode, hused⟩ := token_used (h.2 other hother) huses
  rw [(hunused current hcurrent hcode).1] at hused
  cases hused

end Once

/-! ## The right student -/

def CodesApart (d : GateStores) : Prop :=
  ∀ i ∈ d.issued, ∀ j ∈ d.issued, i.code = j.code → i.studentId = j.studentId

section Codes
variable {sha256 : String → String} {draw : GateDraw} {request : GateRequest} {phase : GatePhase}
  {d d' : GateStores} {s : GateState} {e : GateEvent} {call : GateCall}

/-- A code more, which no other student has. -/
theorem codesApart_issue (h : CodesApart d) {code studentId : String}
    (hfresh : ∀ issued ∈ d.issued, issued.code = code → issued.studentId = studentId)
    (hnew : ∀ issued ∈ d'.issued,
      issued ∈ d.issued ∨ issued.code = code ∧ issued.studentId = studentId) : CodesApart d' := by
  intro i hi j hj hcode
  rcases hnew i hi with hold | ⟨hcodeI, hstudentI⟩
  · rcases hnew j hj with hold' | ⟨hcodeJ, hstudentJ⟩
    · exact h i hold j hold' hcode
    rw [hstudentJ]
    exact hfresh i hold (hcode.trans hcodeJ)
  rw [hstudentI]
  rcases hnew j hj with hold' | ⟨hcodeJ, hstudentJ⟩
  · exact (hfresh j hold' (hcode.symm.trans hcodeI)).symm
  · exact hstudentJ.symm

theorem codesApart_writes (h : CodesApart d) (hguard : GateCall.Guarded draw d ⟨request, phase⟩)
    (hwrites : GateWrites draw request phase d d') : CodesApart d' := by
  cases hwrites with
  | insert request parentOtp hinsert =>
    rw [(insertExeat_eq_some hinsert).1]
    exact h
  | issue request hissue =>
    rename_i id actorId approval
    have hfresh : ∀ current ∈ d.exeats.rows, current.id = id →
        ∀ issued ∈ d.issued, issued.code = draw.passCode →
          issued.studentId = current.studentId := by
      cases request <;> exact hguard
    cases hrow : d.exeats.find? id with
    | none =>
      rw [(issuePass_eq_some hissue).2, hrow]
      intro i hi j hj
      exact h i (by simpa using hi) j (by simpa using hj)
    | some row =>
      obtain ⟨hmem, hid⟩ := Keyed.find?_eq_some.1 hrow
      refine codesApart_issue h (hfresh row hmem hid) ?_
      intro issued hissued
      rcases (mem_issued hissue).1 hissued with hold | ⟨row', hmem', hid', rfl⟩
      · exact Or.inl hold
      obtain rfl := Keyed.eq_of_key hmem hmem' (hid.trans hid'.symm)
      exact Or.inr ⟨rfl, rfl⟩
  | token drawn hinsert =>
    have hissued := congrArg GateStores.issued (insertToken_eq_some hinsert).1
    refine codesApart_issue h hguard ?_
    intro issued hmem
    rw [show _ = d.issued ++ _ from hissued, List.mem_append, List.mem_singleton] at hmem
    rcases hmem with hold | rfl
    · exact Or.inl hold
    · exact Or.inr ⟨rfl, rfl⟩
  | nothing | decide | confirm | usePass | useToken => exact h

theorem codesApart_step (h : CodesApart s.shared) (hguard : GateGuarded s e) :
    CodesApart ((gateService sha256).step e s).shared := by
  cases e with
  | call => exact h
  | other other => cases other <;> exact h
  | advance i draw =>
    cases hcall : s.calls[i]? with
    | none =>
      rw [Service.step_advance_none hcall]
      exact h
    | some call =>
      rw [Service.step_advance hcall]
      exact codesApart_writes h (hguard call hcall)
        (@gateStep_writes sha256 draw call.request call.phase s.shared)

/-- **A guarded redemption lets the right student out on a live pass.** -/
theorem redeemsLive (h : GateHolds s) (hcodes : CodesApart s.shared) (hguard : GateGuarded s e) :
    RedeemsLive s e := by
  cases e with
  | call | other => trivial
  | advance i draw =>
    intro call hcall
    have hok := h.2 call (List.mem_of_getElem? hcall)
    have hguarded := hguard call hcall
    obtain ⟨request, phase⟩ := call
    cases phase with
    | consuming row =>
      cases request with
      | redeem userId code =>
        obtain ⟨⟨current, hcurrent, hid, hstudent⟩, own, hown, hownCode, hownStudent⟩ := hok
        obtain ⟨hstatus, -, hvalid⟩ := hguarded current hcurrent hid
        obtain ⟨approval, happroval, hlegit⟩ := h.1.legitimate current hcurrent hstatus
        have hstands : current.StandsApproved := by
          rw [Exeat.StandsApproved, happroval]
          exact hlegit
        refine ⟨⟨current, hcurrent, hid, hstudent, hstands, hvalid⟩, ?_⟩
        intro issued hissued hcode
        rw [← hownStudent]
        exact hcodes issued hissued own hown (hcode.trans hownCode.symm)
      | createExeat | review | decide | confirmParentOtp | issueToken => trivial
    | consumingToken row =>
      cases request with
      | redeem userId code =>
        obtain ⟨⟨current, hcurrent, hid, hcode, hstudent⟩, -, own, hown, hownCode,
          hownStudent⟩ := hok
        refine ⟨⟨current, hcurrent, hid, hstudent, (hguarded current hcurrent hcode).2⟩,
          ⟨own, hown, hownCode, hownStudent⟩, ?_⟩
        intro issued hissued hissuedCode
        rw [← hownStudent]
        exact hcodes issued hissued own hown (hissuedCode.trans hownCode.symm)
      | createExeat | review | decide | confirmParentOtp | issueToken => trivial
    | starting | reading | checking | inserting | deciding | approving | confirming | issuing
    | searching | answered | failed => cases request <;> trivial

end Codes

/-! ## Every run -/

/-- **Students leave on a live pass, once, in every run whose redemptions and codes are
guarded.** -/
theorem leaves_on_live_pass (sha256 : String → String) (d : GateStores) (es : List GateEvent)
    (h : Along (gateService sha256).step GateGuarded (gateStart d) es) :
    (∀ pre, pre <+: es →
      (∀ id, passUses id (run (gateService sha256).step (gateStart d) pre) ≤ 1)
        ∧ ∀ code, tokenUses code (run (gateService sha256).step (gateStart d) pre) ≤ 1)
    ∧ Along (gateService sha256).step RedeemsLive (gateStart d) es := by
  let Sound : GateState → Prop := fun s => (GateHolds s ∧ CodesApart s.shared)
    ∧ (∀ id, passUses id s ≤ 1) ∧ ∀ code, tokenUses code s ≤ 1
  have hstart : Sound (gateStart d) := by
    refine ⟨⟨gateHolds_start d, ?_⟩, fun _ => Nat.zero_le 1, fun _ => Nat.zero_le 1⟩
    intro i hi
    cases hi
  have hstep : ∀ (s : GateState) (e : GateEvent), Sound s → GateGuarded s e →
      Sound ((gateService sha256).step e s) := by
    intro s e hs hguard
    exact ⟨⟨gateHolds_step hs.1.1, codesApart_step hs.1.2 hguard⟩,
      fun id => passUses_step hs.1.1 hguard (hs.2.1 id),
      fun code => tokenUses_step hs.1.1 hguard (hs.2.2 code)⟩
  constructor
  · intro pre hpre
    exact (along_invariant_throughout hstep hstart h hpre).2
  · exact Along.of_invariant hstep (fun s e hs hguard => redeemsLive hs.1.1 hs.1.2 hguard) hstart h

namespace Example

def gateSchool : GateStores where
  now := 0
  roles := fun userId =>
    if userId = "head" then ["head_teacher"] else if userId = "guard" then ["guard"] else ["parent"]
  linked := fun userId studentId => userId = "mother" && studentId = "student_1"

/-- An exeat of the first student, which the head approves with the code. -/
def approved (code : Fin 6 → Fin 10) : List GateEvent :=
  [.call (.createExeat "mother"
      { studentId := "student_1", reason := "visit", pickupAt := "12:00",
        pickupAdultName := "aunt" }), .advance 0 {}, .advance 0 {},
    .call (.decide "head" 0 true), .advance 1 {}, .advance 1 {}, .advance 1 { digits := code }]

def zeros : GateDraw := {}

def ones : GateDraw := { digits := fun _ => 1 }

/-- The first student leaves on the pass, the second on a token. -/
def bothLeave : List GateEvent :=
  approved zeros.digits
    ++ [.call (.redeem "guard" "000000"), .advance 2 {}, .advance 2 {}, .advance 2 {},
      .call (.issueToken "head" { studentId := "student_2" }), .advance 3 {}, .advance 3 {},
      .call (.redeem "guard" "100000"), .advance 4 {}, .advance 4 {}, .advance 4 {},
      .advance 4 {}]

/-- The pass is presented at two gates at once. -/
def presentedTwice : List GateEvent :=
  approved zeros.digits
    ++ [.call (.redeem "guard" "000000"), .call (.redeem "guard" "000000"), .advance 2 {},
      .advance 3 {}, .advance 2 {}, .advance 3 {}, .advance 2 {}, .advance 3 {}]

/-- A decision that has read the exeat before its approval declines it before the gate writes. -/
def declinedMeanwhile : List GateEvent :=
  [.call (.createExeat "mother"
      { studentId := "student_1", reason := "visit", pickupAt := "12:00",
        pickupAdultName := "aunt" }), .advance 0 {}, .advance 0 {},
    .call (.decide "head" 0 true), .call (.decide "head" 0 false), .advance 1 {}, .advance 2 {},
    .advance 1 {}, .advance 2 {}, .advance 1 {}, .call (.redeem "guard" "000000"), .advance 3 {},
    .advance 3 {}, .advance 2 {}, .advance 3 {}]

/-- A token of the second student has the code of the first one's pass. -/
def sharedCode : List GateEvent :=
  approved (fun i => if i = 0 then 1 else 0)
    ++ [.call (.issueToken "head" { studentId := "student_2" }), .advance 2 {}, .advance 2 {},
      .call (.redeem "guard" "100000"), .advance 3 {}, .advance 3 {}, .advance 3 {}]

end Example

theorem both_leave_on_live_pass :
    passUses 0 (run (gateService id).step (gateStart Example.gateSchool) Example.bothLeave) ≤ 1
    ∧ Along (gateService id).step RedeemsLive (gateStart Example.gateSchool) Example.bothLeave := by
  have h := leaves_on_live_pass id Example.gateSchool Example.bothLeave (by decide)
  exact ⟨(h.1 _ List.prefix_rfl).1 0, h.2⟩

/-- A pass lets a student out twice, a student leaves on a pass that was declined, and a token's
code takes the pass of another student. -/
theorem not_leaves_on_live_pass :
    passUses 0 (run (gateService id).step (gateStart Example.gateSchool) Example.presentedTwice) = 2
    ∧ ¬ Along (gateService id).step RedeemsLive (gateStart Example.gateSchool)
        Example.declinedMeanwhile
    ∧ ¬ Along (gateService id).step RedeemsLive (gateStart Example.gateSchool)
        Example.sharedCode := by
  decide

end MultiAcademy.School
