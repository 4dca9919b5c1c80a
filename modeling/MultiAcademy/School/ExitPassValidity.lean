import MultiAcademy.School.ExitPassUse

/-!
# Valid passes at the gate

Which passes work.  An exeat holds one code, so a pass that is issued for it again takes the place
of the one before; and codes are never cleared, so without the index a code can be that of an
exeat long over, which may be the one that is found.
-/

namespace MultiAcademy.School

open MultiAcademy.Lib

/-- The request has let a student out on the pass of the exeat, by the code. -/
def GateCall.redeems (exeatId : ℕ) (code : String) (call : GateCall) : Bool :=
  match call with
  | ⟨.redeem _ presented, .answered (.pass id _ .redeemed _)⟩ =>
    presented = code && id = exeatId
  | _ => false

/-- The pass was used. -/
def Redeemed (exeatId : ℕ) (code : String) (s : GateState) : Prop :=
  ∃ call ∈ s.calls, call.redeems exeatId code = true

instance (exeatId : ℕ) (code : String) (s : GateState) : Decidable (Redeemed exeatId code s) :=
  inferInstanceAs (Decidable (∃ call ∈ s.calls, _))

/-- A code is presented at a gate that is open, to someone who may redeem it. -/
def presented (duty : GateOther) (userId code : String) (k : ℕ) (x y z : GateDraw) :
    List GateEvent :=
  [.other duty, .call (.redeem userId code), .advance k x, .advance k y, .advance k z]

/-- The code is a pass of the exeat, in time and unused, and the exeat stands approved. -/
def ValidPass (issued : IssuedCode) (row : Exeat) (s : GateState) : Prop :=
  issued.exeatId = some row.id ∧ s.shared.now ≤ issued.expiresAt
    ∧ ¬ Redeemed row.id issued.code s ∧ row.status = .approved

instance (issued : IssuedCode) (row : Exeat) (s : GateState) : Decidable (ValidPass issued row s) :=
  inferInstanceAs (Decidable (_ ∧ _))

/-- Every valid pass is redeemed when its code is presented. -/
def PassesWork (sha256 : String → String) (s : GateState) : Prop :=
  ∀ issued ∈ s.shared.issued, ∀ row ∈ s.shared.exeats.rows, ValidPass issued row s →
    ∀ (roles : String → List String) (linked : String → String → Bool)
      (formTeacher : String → Option String) (enabled : String → Bool) (userId : String)
      (x y z : GateDraw),
      mayAct (roles userId) gateRoles = true → enabled "ops.gate_security" = true →
      enabled "ops.safeguarding" = true →
      (run (gateService sha256).step s (presented (.edit roles linked formTeacher enabled) userId
          issued.code s.calls.length x y z)).calls[s.calls.length]?
        = some ⟨.redeem userId issued.code,
            .answered (.pass row.id row.studentId .redeemed row.pickupAdultName)⟩

/-- Every valid pass is the one in its row, which no student has left on, and in no other. -/
def PassesCurrent (s : GateState) : Prop :=
  ∀ issued ∈ s.shared.issued, ∀ row ∈ s.shared.exeats.rows, ValidPass issued row s →
    row.passCode = some issued.code ∧ row.gateUsedAt = none
      ∧ ∀ other ∈ s.shared.exeats.rows, other.passCode = some issued.code → other.id = row.id

instance (s : GateState) : Decidable (PassesCurrent s) :=
  inferInstanceAs (Decidable (∀ issued ∈ s.shared.issued, ∀ row ∈ s.shared.exeats.rows, _))

/-- A pass is issued, unless the index refuses it, for an exeat that no student has left on and
that has no other valid pass, and under a code that no other exeat has. -/
def IssuesOnce (s : GateState) : GateEvent → Prop
  | .advance i draw => ∀ call ∈ s.calls[i]?, match call.phase with
      | .approving id _ _ =>
        (s.shared.indexed = true → ∀ row ∈ s.shared.exeats.rows, row.id ≠ id →
          row.passCode ≠ some draw.passCode) →
        ∀ row ∈ s.shared.exeats.rows, row.id = id →
          (¬ Redeemed id draw.passCode s → row.gateUsedAt = none
            ∧ ∀ other ∈ s.shared.exeats.rows, other.passCode = some draw.passCode →
              other.id = id)
          ∧ (∀ issued ∈ s.shared.issued, issued.exeatId = some id →
            s.shared.now ≤ issued.expiresAt → ¬ Redeemed id issued.code s →
            issued.code = draw.passCode)
          ∧ ∀ issued ∈ s.shared.issued, ∀ other ∈ s.shared.exeats.rows, other.id ≠ id →
            ValidPass issued other s → issued.code ≠ draw.passCode
      | _ => True
  | .call _ | .other _ => True

section Validity
variable {sha256 : String → String} {draw : GateDraw} {request : GateRequest} {phase : GatePhase}
  {d d' : GateStores} {s s' : GateState} {e : GateEvent} {call : GateCall}

/-! ## One presentation -/

theorem letsOut_of_redeems {exeatId : ℕ} {code : String} (h : call.redeems exeatId code = true) :
    call.phase.letsOut = true := by
  simp only [GateCall.redeems] at h
  split at h
  · rfl
  · cases h

theorem exists_passRow {code : String} {row : Exeat} (hrow : row ∈ d.exeats.rows)
    (hcode : row.passCode = some code) : ∃ pick, passRow pick code d = some row := by
  have hmem : row ∈ d.exeats.rows.filter fun row => row.passCode = some code :=
    List.mem_filter.2 ⟨hrow, by simpa using hcode⟩
  obtain ⟨pick, hpick, hget⟩ := List.mem_iff_getElem.1 hmem
  refine ⟨pick, ?_⟩
  simp only [passRow, Nat.mod_eq_of_lt hpick]
  exact List.getElem?_eq_some_iff.2 ⟨hpick, hget⟩

theorem passRow_isSome {code : String} {row : Exeat} (hrow : row ∈ d.exeats.rows)
    (hcode : row.passCode = some code) (pick : ℕ) : ∃ found, passRow pick code d = some found := by
  have hmem : row ∈ d.exeats.rows.filter fun row => row.passCode = some code :=
    List.mem_filter.2 ⟨hrow, by simpa using hcode⟩
  have hlt := Nat.mod_lt pick (List.length_pos_of_mem hmem)
  exact ⟨_, List.getElem?_eq_some_iff.2 ⟨hlt, rfl⟩⟩

theorem findPass_consuming {code : String} {row : Exeat}
    (h : findPass draw code d = .consuming row) :
    passRow draw.pick code d = some row ∧ row.gateUsedAt = none := by
  simp only [findPass] at h
  split at h
  · cases h
  rename_i found hfound
  split at h
  · cases h
  rename_i hunused
  split at h
  · cases h
  cases h
  exact ⟨hfound, by simpa using hunused⟩

theorem findPass_ne_consumingToken (code : String) (token : GateToken) :
    findPass draw code d ≠ .consumingToken token := by
  simp only [findPass]
  split
  · simp
  split
  · simp
  · split <;> simp

theorem passRow_congr {pick : ℕ} {code : String} (hexeats : d'.exeats = d.exeats) :
    passRow pick code d' = passRow pick code d := by
  simp only [passRow, hexeats]

/-- **A live pass that no other exeat has the code of is found.** -/
theorem findPass_of_only {code : String} {row : Exeat} (hrow : row ∈ d.exeats.rows)
    (hcode : row.passCode = some code) (hunused : row.gateUsedAt = none)
    (hstatus : row.status = .approved) (hlive : d.now ≤ row.passExpiresAt.getD 0)
    (honly : ∀ other ∈ d.exeats.rows, other.passCode = some code → other.id = row.id) :
    findPass draw code d = .consuming row := by
  obtain ⟨found, hfound⟩ := passRow_isSome hrow hcode draw.pick
  obtain ⟨hmem, hfoundCode⟩ := passRow_eq_some hfound
  obtain rfl := Keyed.eq_of_key hmem hrow (honly found hmem hfoundCode)
  have hfresh : ¬ (found.status ≠ .approved ∨ found.passExpiresAt.getD 0 < d.now) := by
    rw [not_or, not_not, Nat.not_lt]
    exact ⟨hstatus, hlive⟩
  simp only [findPass, hfound, hunused, Option.isSome_none, Bool.false_eq_true, if_false,
    if_neg hfresh]

/-- What the presentation comes to. -/
theorem calls_presented {roles : String → List String} {linked : String → String → Bool}
    {formTeacher : String → Option String} {enabled : String → Bool} {userId code : String}
    {x y z : GateDraw} (hroles : mayAct (roles userId) gateRoles = true)
    (hgate : enabled "ops.gate_security" = true) (hpass : enabled "ops.safeguarding" = true) :
    ∃ d : GateStores, d.exeats = s.shared.exeats ∧ d.now = s.shared.now
      ∧ (run (gateService sha256).step s (presented (.edit roles linked formTeacher enabled) userId
          code s.calls.length x y z)).calls[s.calls.length]?
        = some ⟨.redeem userId code,
            (gateStep sha256 z (.redeem userId code) (findPass y code d) d).1⟩ := by
  refine ⟨{ s.shared with roles, linked, formTeacher, enabled, drawn := s.shared.drawn + 1 },
    rfl, rfl, ?_⟩
  simp only [presented, run_cons, run_nil, Service.step_other, Service.step_call,
    Service.step_advance_append]
  simp [gateService, gateStep, enterGate, GateOther.apply, hroles, hgate, hpass]

/-- The row that a presentation let a student out on. -/
theorem row_of_redeemed {y z : GateDraw} {userId code : String} {id : ℕ} {studentId : String}
    {name : Option String}
    (h : (gateStep sha256 z (.redeem userId code) (findPass y code d) d).1
      = .answered (.pass id studentId .redeemed name)) :
    ∃ found, passRow y.pick code d = some found ∧ found.gateUsedAt = none ∧ found.id = id := by
  -- only the write of the pass answers so
  rcases gateStep_letsOut (show GatePhase.letsOut _ = true from congrArg _ h) with
    hout | ⟨_, _, found, -, hfind⟩ | ⟨_, _, found, -, hfind⟩
  · rw [letsOut_findPass] at hout
    cases hout
  · obtain ⟨hfound, hunused⟩ := findPass_consuming hfind
    rw [hfind] at h
    simp only [gateStep, GatePhase.answered.injEq, GateAnswer.pass.injEq] at h
    exact ⟨found, hfound, hunused, h.1⟩
  · exact absurd hfind (findPass_ne_consumingToken _ _)

/-- **The passes work when each is the one in its row, and in no other.** -/
theorem passesWork_iff (h : GateHolds s) : PassesWork sha256 s ↔ PassesCurrent s := by
  constructor
  · intro hwork issued hissued row hrow hvalid
    have hfinds : ∀ pick, ∃ found, passRow pick issued.code s.shared = some found
        ∧ found.gateUsedAt = none ∧ found.id = row.id := by
      intro pick
      have hanswer := hwork issued hissued row hrow hvalid (fun _ => ["guard"]) s.shared.linked
        s.shared.formTeacher (fun _ => true) "" {} { pick } {} rfl rfl rfl
      obtain ⟨d, hexeats, hnow, hcalls⟩ := @calls_presented sha256 s (fun _ => ["guard"])
        s.shared.linked s.shared.formTeacher (fun _ => true) "" issued.code {} { pick } {} rfl rfl
        rfl
      have hphase := congrArg GateCall.phase (Option.some.inj (hcalls.symm.trans hanswer))
      obtain ⟨found, hfound, hused⟩ := row_of_redeemed hphase
      exact ⟨found, (passRow_congr hexeats).symm.trans hfound, hused⟩
    obtain ⟨found, hfound, hunused, hid⟩ := hfinds 0
    obtain ⟨hmem, hcode⟩ := passRow_eq_some hfound
    obtain rfl := Keyed.eq_of_key hmem hrow hid
    refine ⟨hcode, hunused, ?_⟩
    intro other hother hotherCode
    obtain ⟨pick, hpick⟩ := exists_passRow hother hotherCode
    obtain ⟨found', hfound', -, hid'⟩ := hfinds pick
    rw [hpick] at hfound'
    rw [Option.some.inj hfound']
    exact hid'
  intro hcurrent issued hissued row hrow hvalid roles linked formTeacher enabled userId x y z
    hroles hgate hpass
  obtain ⟨d, hexeats, hnow, hcalls⟩ := @calls_presented sha256 s roles linked formTeacher enabled
    userId issued.code x y z hroles hgate hpass
  obtain ⟨hcode, hunused, honly⟩ := hcurrent issued hissued row hrow hvalid
  obtain ⟨hexeat, hlive, -, hstatus⟩ := hvalid
  obtain ⟨-, current, hcurrentMem, hid, hexpires⟩ := h.1.expiry issued hissued row.id hexeat
  obtain rfl := Keyed.eq_of_key hcurrentMem hrow hid
  have hfind : findPass y issued.code d = .consuming current := by
    rw [← hexeats] at hrow honly
    rw [← hnow] at hlive
    exact findPass_of_only hrow hcode hunused hstatus (hlive.trans hexpires) honly
  rw [hcalls, hfind]
  rfl

/-! ## One step -/

theorem Redeemed.step {exeatId : ℕ} {code : String} (h : Redeemed exeatId code s) :
    Redeemed exeatId code ((gateService sha256).step e s) := by
  refine Service.exists_call_step (P := fun call => GateCall.redeems exeatId code call = true) ?_ h
  intro draw call d hredeems
  have hsame := @gateStep_of_letsOut sha256 draw call.request call.phase d
    (letsOut_of_redeems hredeems)
  simpa [gateService, hsame] using hredeems

/-- The approval of an exeat uses no pass. -/
theorem redeemed_approving {i id exeatId : ℕ} {actorId code : String} {approval : Approval}
    (hcall : s.calls[i]? = some ⟨request, .approving id actorId approval⟩) :
    Redeemed exeatId code ((gateService sha256).step (.advance i draw) s)
      ↔ Redeemed exeatId code s := by
  refine ⟨?_, Redeemed.step⟩
  rintro ⟨call, hmem, hredeems⟩
  rcases Service.mem_calls_advance hcall hmem with hold | rfl
  · exact ⟨call, hold, hredeems⟩
  rcases gateStep_letsOut (letsOut_of_redeems hredeems) with
    hout | ⟨_, _, _, -, hphase⟩ | ⟨_, _, _, -, hphase⟩
  · cases hout
  · cases hphase
  · cases hphase

/-- No pass was issued, and what stands approved stood so with its pass. -/
structure PassesKept (d d' : GateStores) : Prop where
  now : d.now ≤ d'.now
  issued : ∀ issued ∈ d'.issued, issued.exeatId.isSome = true → issued ∈ d.issued
  rows : ∀ r ∈ d'.exeats.rows, (r.passCode = none ∧ r.status ≠ .approved)
    ∨ ∃ row ∈ d.exeats.rows, row.id = r.id ∧ row.passCode = r.passCode
      ∧ (r.status = .approved → row.status = .approved ∧ row.gateUsedAt = r.gateUsedAt)

theorem PassesCurrent.kept (h : PassesCurrent s) (hkept : PassesKept s.shared s'.shared)
    (hused : ∀ exeatId code, Redeemed exeatId code s → Redeemed exeatId code s') :
    PassesCurrent s' := by
  intro issued hmem r hr hvalid
  obtain ⟨hexeat, hlive, hunused, hstatus⟩ := hvalid
  rcases hkept.rows r hr with hnew | ⟨row, hrow, hid, hcode, happroved⟩
  · exact absurd hstatus hnew.2
  obtain ⟨hrowStatus, hgate⟩ := happroved hstatus
  rw [← hid] at hexeat hunused
  have hrowUnused : ¬ Redeemed row.id issued.code s := fun hold => hunused (hused _ _ hold)
  have hold := hkept.issued issued hmem (by rw [hexeat]; rfl)
  obtain ⟨hrowCode, hrowGate, honly⟩ := h issued hold row hrow
    ⟨hexeat, hkept.now.trans hlive, hrowUnused, hrowStatus⟩
  refine ⟨hcode.symm.trans hrowCode, hgate.symm.trans hrowGate, ?_⟩
  intro other hother hotherCode
  rcases hkept.rows other hother with hnew | ⟨row', hrow', hid', hcode', -⟩
  · rw [hnew.1] at hotherCode
    cases hotherCode
  rw [← hid', ← hid]
  exact honly row' hrow' (hcode'.trans hotherCode)

theorem passesKept_refl (hnow : d.now ≤ d'.now)
    (hissued : ∀ issued ∈ d'.issued, issued.exeatId.isSome = true → issued ∈ d.issued)
    (hexeats : d'.exeats = d.exeats) : PassesKept d d' := by
  refine ⟨hnow, hissued, ?_⟩
  intro r hr
  rw [hexeats] at hr
  exact Or.inr ⟨r, hr, rfl, rfl, fun hstatus => ⟨hstatus, rfl⟩⟩

/-- A write of a row that leaves it approved only with its pass. -/
theorem passesKept_write {id : ℕ} {f : Exeat → Exeat} (hf : ∀ row, (f row).id = row.id)
    (hkeep : ∀ row, row.passCode = (f row).passCode ∧ ((f row).status = .approved →
      row.status = .approved ∧ row.gateUsedAt = (f row).gateUsedAt)) :
    PassesKept d (d.write id f hf) := by
  refine ⟨le_rfl, fun _ hissued _ => hissued, ?_⟩
  intro r hr
  obtain ⟨row, hrow, rfl⟩ := mem_write.1 hr
  refine Or.inr ⟨row, hrow, ?_⟩
  split
  · exact ⟨(hf row).symm, hkeep row⟩
  · exact ⟨rfl, rfl, fun hstatus => ⟨hstatus, rfl⟩⟩

/-- The other writes issue no pass and approve nothing. -/
theorem passesKept_of_writes (hwrites : GateWrites draw request phase d d')
    (hcall : GateCall.Ok d ⟨request, phase⟩)
    (hphase : ∀ id actorId approval, phase ≠ .approving id actorId approval) :
    PassesKept d d' := by
  cases hwrites with
  | nothing => exact passesKept_refl le_rfl (fun _ hissued _ => hissued) rfl
  | insert request parentOtp hinsert =>
    rename_i row
    obtain ⟨hd', -, hmem⟩ := insertExeat_eq_some hinsert
    have hnew : row.status ≠ .approved ∧ row.passCode = none := by
      cases request <;> exact ⟨hcall.1, hcall.2.2⟩
    refine ⟨by rw [hd'], fun _ hissued _ => by rw [hd'] at hissued; exact hissued, ?_⟩
    intro r hr
    rcases (hmem r).1 hr with hold | rfl
    · exact Or.inr ⟨r, hold, rfl, rfl, fun hstatus => ⟨hstatus, rfl⟩⟩
    · exact Or.inl ⟨hnew.2, hnew.1⟩
  | decide request id decision =>
    refine passesKept_write _ ?_
    intro row
    refine ⟨(decision.apply_keeps d.now row).2.2.1.symm, ?_⟩
    intro hstatus
    cases decision <;> cases hstatus
  | issue request hissue => exact absurd rfl (hphase _ _ _)
  | confirm =>
    refine passesKept_write _ ?_
    intro row
    exact ⟨rfl, fun hstatus => ⟨hstatus, rfl⟩⟩
  | token drawn hinsert =>
    rw [(insertToken_eq_some hinsert).1]
    refine passesKept_refl le_rfl ?_ rfl
    intro issued hissued hpass
    rcases List.mem_append.1 hissued with hold | hnew
    · exact hold
    rw [List.mem_singleton.1 hnew] at hpass
    cases hpass
  | usePass =>
    refine passesKept_write _ ?_
    intro row
    exact ⟨rfl, fun hstatus => nomatch hstatus⟩
  | useToken => exact passesKept_refl le_rfl (fun _ hissued _ => hissued) rfl

/-- A pass that is issued takes the place of the one before. -/
theorem passesCurrent_issue {i id : ℕ} {actorId : String} {approval : Approval}
    (h : PassesCurrent s) (hcall : s.calls[i]? = some ⟨request, .approving id actorId approval⟩)
    (hissue : s.shared.issuePass id actorId draw.passCode approval = some d')
    (hshared : ((gateService sha256).step (.advance i draw) s).shared = d') :
    PassesCurrent ((gateService sha256).step (.advance i draw) s) ↔
      ∀ row ∈ s.shared.exeats.rows, row.id = id →
        (¬ Redeemed id draw.passCode s → row.gateUsedAt = none
          ∧ ∀ other ∈ s.shared.exeats.rows, other.passCode = some draw.passCode → other.id = id)
        ∧ (∀ issued ∈ s.shared.issued, issued.exeatId = some id →
          s.shared.now ≤ issued.expiresAt → ¬ Redeemed id issued.code s →
          issued.code = draw.passCode)
        ∧ ∀ issued ∈ s.shared.issued, ∀ other ∈ s.shared.exeats.rows, other.id ≠ id →
          ValidPass issued other s → issued.code ≠ draw.passCode := by
  have hd' := (issuePass_eq_some hissue).2
  have hnow : d'.now = s.shared.now := by rw [hd']; rfl
  have hrows : ∀ r, r ∈ d'.exeats.rows ↔ ∃ row ∈ s.shared.exeats.rows, (if row.id = id then
      Exeat.approve actorId draw.passCode approval s.shared.now row else row) = r := by
    intro r
    rw [hd']
    exact @mem_write s.shared id (Exeat.approve actorId draw.passCode approval s.shared.now)
      (fun _ => rfl) r
  simp only [PassesCurrent, ValidPass, hshared, hnow, redeemed_approving hcall]
  constructor
  · intro hcurrent row hrow hid
    have hnew : Exeat.approve actorId draw.passCode approval s.shared.now row
        ∈ d'.exeats.rows := (hrows _).2 ⟨row, hrow, if_pos hid⟩
    have hother : ∀ other ∈ s.shared.exeats.rows, other.id ≠ id → other ∈ d'.exeats.rows :=
      fun other hother hne => (hrows _).2 ⟨other, hother, if_neg hne⟩
    subst hid
    refine ⟨?_, ?_, ?_⟩
    · intro hunused
      have hissued := (mem_issued hissue).2 (Or.inr ⟨row, hrow, rfl, rfl⟩)
      obtain ⟨-, hgate, honly⟩ := hcurrent _ hissued _ hnew
        ⟨rfl, Nat.le_add_right _ _, hunused, rfl⟩
      refine ⟨hgate, ?_⟩
      intro other hmem hcode
      by_contra hne
      exact hne (honly other (hother other hmem hne) hcode)
    · intro issued hissued hexeat hlive hunused
      have hcode := (hcurrent issued ((mem_issued hissue).2 (Or.inl hissued)) _ hnew
        ⟨hexeat, hlive, hunused, rfl⟩).1
      exact (Option.some.inj hcode).symm
    intro issued hissued other hmem hne hvalid hcode
    obtain ⟨-, -, honly⟩ := hcurrent issued ((mem_issued hissue).2 (Or.inl hissued)) other
      (hother other hmem hne) hvalid
    refine hne (honly _ hnew ?_).symm
    rw [hcode]
    rfl
  intro honce issued hissued r hr hvalid
  obtain ⟨row, hrow, rfl⟩ := (hrows r).1 hr
  by_cases hid : row.id = id
  · subst hid
    rw [if_pos rfl] at hvalid ⊢
    obtain ⟨hexeat, hlive, hunused, -⟩ := hvalid
    obtain ⟨hfresh, hown, -⟩ := honce row hrow rfl
    have hcode : issued.code = draw.passCode := by
      rcases (mem_issued hissue).1 hissued with hold | ⟨_, _, _, rfl⟩
      · exact hown issued hold hexeat hlive hunused
      · rfl
    rw [hcode] at hunused ⊢
    obtain ⟨hgate, honly⟩ := hfresh hunused
    refine ⟨rfl, hgate, ?_⟩
    intro other hother hotherCode
    obtain ⟨row', hrow', rfl⟩ := (hrows other).1 hother
    by_cases hid' : row'.id = row.id
    · rw [if_pos hid']
      exact hid'
    rw [if_neg hid'] at hotherCode ⊢
    exact honly row' hrow' hotherCode
  rw [if_neg hid] at hvalid ⊢
  rcases (mem_issued hissue).1 hissued with hold | ⟨row', _, hid', rfl⟩
  · obtain ⟨hcode, hgate, honly⟩ := h issued hold row hrow hvalid
    refine ⟨hcode, hgate, ?_⟩
    intro other hother hotherCode
    obtain ⟨row', hrow', rfl⟩ := (hrows other).1 hother
    by_cases hid' : row'.id = id
    · rw [if_pos hid'] at hotherCode
      exact absurd (Option.some.inj hotherCode).symm
        ((honce row' hrow' hid').2.2 issued hold row hrow hid hvalid)
    rw [if_neg hid'] at hotherCode ⊢
    exact honly row' hrow' hotherCode
  · exact absurd ((Option.some.inj hvalid.1).symm.trans hid') hid

/-- **The passes stay the ones in their rows exactly when each is issued once.** -/
theorem passesCurrent_step (h : GateHolds s) (hcurrent : PassesCurrent s) :
    PassesCurrent ((gateService sha256).step e s) ↔ IssuesOnce s e := by
  cases e with
  | call request =>
    refine iff_of_true (hcurrent.kept ?_ fun _ _ => Redeemed.step) trivial
    exact passesKept_refl le_rfl (fun _ hissued _ => hissued) rfl
  | other other =>
    refine iff_of_true (hcurrent.kept ?_ fun _ _ => Redeemed.step) trivial
    cases other with
    | tick milliseconds =>
      exact passesKept_refl (Nat.le_add_right _ _) (fun _ hissued _ => hissued) rfl
    | edit => exact passesKept_refl le_rfl (fun _ hissued _ => hissued) rfl
  | advance i draw =>
    cases hcall : s.calls[i]? with
    | none =>
      rw [Service.step_advance_none hcall]
      refine iff_of_true hcurrent ?_
      intro call hmem
      rw [hcall] at hmem
      cases hmem
    | some call =>
      obtain ⟨request, phase⟩ := call
      have hok := h.2 _ (List.mem_of_getElem? hcall)
      have hwrites := @gateStep_writes sha256 draw request phase s.shared
      have hshared : ((gateService sha256).step (.advance i draw) s).shared
          = (gateStep sha256 draw request phase s.shared).2 := by
        rw [Service.step_advance hcall]
        rfl
      simp only [IssuesOnce, hcall, Option.mem_some_iff, forall_eq']
      cases phase with
      | approving id actorId approval =>
        cases hissue : s.shared.issuePass id actorId draw.passCode approval with
        | none =>
          rw [gateStep_approving, hissue] at hshared
          refine iff_of_true (hcurrent.kept ?_ fun _ _ => Redeemed.step) ?_
          · rw [hshared]
            exact passesKept_refl le_rfl (fun _ hissued _ => hissued) rfl
          intro hfree
          obtain ⟨hindexed, row, hrow, hid, hcode⟩ := issuePass_eq_none hissue
          exact absurd hcode (hfree hindexed row hrow hid)
        | some d' =>
          rw [gateStep_approving, hissue] at hshared
          rw [passesCurrent_issue hcurrent hcall hissue hshared]
          exact ⟨fun honce _ => honce,
            fun honce => honce (issuePass_eq_some hissue).1⟩
      | starting | reading | checking | inserting | deciding | confirming | issuing
      | consuming | searching | consumingToken | answered | failed =>
        have hkept := passesKept_of_writes hwrites hok nofun
        rw [← hshared] at hkept
        exact iff_of_true (hcurrent.kept hkept fun _ _ => Redeemed.step) trivial

/-! ## Every run -/

/-- **Every valid pass works in every state of a run exactly when each pass is issued for an exeat
that no student has left on and that has no other valid pass, under a code of its own.** -/
theorem passes_work_iff (sha256 : String → String) (d : GateStores) (es : List GateEvent) :
    (∀ pre, pre <+: es → PassesWork sha256 (run (gateService sha256).step (gateStart d) pre))
      ↔ Along (gateService sha256).step IssuesOnce (gateStart d) es := by
  have hstart : PassesCurrent (gateStart d) := by
    intro issued hissued
    cases hissued
  have hruns : ∀ pre, GateHolds (run (gateService sha256).step (gateStart d) pre) :=
    fun pre => run_invariant (fun _ _ h => gateHolds_step h) (gateHolds_start d) pre
  simp only [fun pre => @passesWork_iff sha256 _ (hruns pre)]
  have hiff : Along (gateService sha256).step IssuesOnce (gateStart d) es ↔ _ :=
    along_iff_throughout_with (J := GateHolds) (fun _ _ _ _ h => gateHolds_step h)
      (fun _ _ _ hcurrent h => passesCurrent_step h hcurrent)
      (along_of_forall (D := fun _ => True) fun _ _ => trivial) hstart (gateHolds_start d)
  exact hiff.symm

end Validity

namespace Example

/-- Two leaders approve the exeat at once, and the parents are told both codes. -/
def approvedTwice : List GateEvent :=
  [.call (.createExeat "mother"
      { studentId := "student_1", reason := "visit", pickupAt := "12:00",
        pickupAdultName := "aunt" }), .advance 0 zeros, .advance 0 zeros,
    .call (.decide "head" 0 true), .call (.decide "head" 0 true), .advance 1 zeros,
    .advance 2 zeros, .advance 1 zeros, .advance 2 zeros, .advance 1 zeros, .advance 2 ones]

/-- The student has left on the pass, and a pass for another day has its code. -/
def codeAgain : List GateEvent :=
  approved zeros.digits
    ++ [.call (.redeem "guard" "000000"), .advance 2 zeros, .advance 2 zeros, .advance 2 zeros,
      .call (.createExeat "mother"
        { studentId := "student_1", reason := "visit", pickupAt := "12:00",
          pickupAdultName := "aunt" }), .advance 3 zeros, .advance 3 zeros,
      .call (.decide "head" 3 true), .advance 4 zeros, .advance 4 zeros, .advance 4 zeros]

end Example

/-- The first code is not known at the gate; and without the index the second pass is taken for
the one that was used. -/
theorem not_passes_work :
    ¬ PassesWork id (run (gateService id).step (gateStart Example.gateSchool) Example.approvedTwice)
    ∧ ¬ PassesWork id (run (gateService id).step
        (gateStart { Example.gateSchool with indexed := false }) Example.codeAgain) := by
  rw [passesWork_iff (run_invariant (fun _ _ h => gateHolds_step h) (gateHolds_start _) _),
    passesWork_iff (run_invariant (fun _ _ h => gateHolds_step h) (gateHolds_start _) _)]
  decide

end MultiAcademy.School
