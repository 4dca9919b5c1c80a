import MultiAcademy.School.ExitPasses

/-!
# The tables of the exit passes

What every step of a request at the gate keeps of the two tables, and of what the requests have
read of them.  Every code in the tables was issued for the student of its row, and an exeat that
stands approved was approved by a leader or by a linked parent with its code.
-/

namespace MultiAcademy.School

open MultiAcademy.Lib

/-! ## One write -/

section Writes
variable {d d' : GateStores} {id : ℕ} {f : Exeat → Exeat} {hf : ∀ row, (f row).id = row.id}

theorem mem_write {r : Exeat} : r ∈ (d.write id f hf).exeats.rows
    ↔ ∃ row ∈ d.exeats.rows, (if row.id = id then f row else row) = r := by
  simp [GateStores.write]

variable {actorId code : String} {approval : Approval}

theorem issuePass_eq_some
    (h : d.issuePass id actorId code approval = some d') :
    (d.indexed = true → ∀ row ∈ d.exeats.rows, row.id ≠ id → row.passCode ≠ some code)
    ∧ d' = { d.write id (Exeat.approve actorId code approval d.now) fun _ => rfl with
        issued := d.issued
          ++ ((d.exeats.find? id).map (Exeat.issuedPass code (d.now + 6 * 3600000))).toList } := by
  simp only [GateStores.issuePass] at h
  split at h
  · cases h
  rename_i hfree
  refine ⟨?_, (Option.some.inj h).symm⟩
  intro hindexed row hrow hid hcode
  exact hfree (by simpa [hindexed] using ⟨row, hrow, hid, hcode⟩)

theorem issuePass_eq_none
    (h : d.issuePass id actorId code approval = none) :
    d.indexed = true ∧ ∃ row ∈ d.exeats.rows, row.id ≠ id ∧ row.passCode = some code := by
  simp only [GateStores.issuePass] at h
  split at h
  · rename_i hused
    simpa using hused
  · cases h

/-- The exeat of a pass that is issued. -/
theorem mem_issued {issued : IssuedCode}
    (h : d.issuePass id actorId code approval = some d') :
    issued ∈ d'.issued ↔ issued ∈ d.issued ∨ ∃ row ∈ d.exeats.rows, row.id = id
      ∧ row.issuedPass code (d.now + 6 * 3600000) = issued := by
  rw [(issuePass_eq_some h).2]
  simp only [List.mem_append, Option.mem_toList, Option.map_eq_some_iff, Keyed.find?_eq_some]
  constructor
  · rintro (hold | ⟨row, ⟨hrow, hid⟩, rfl⟩)
    · exact Or.inl hold
    · exact Or.inr ⟨row, hrow, hid, rfl⟩
  rintro (hold | ⟨row, hrow, hid, rfl⟩)
  · exact Or.inl hold
  · exact Or.inr ⟨row, ⟨hrow, hid⟩, rfl⟩

theorem insertExeat_eq_some {row : Exeat} (h : d.insertExeat row = some d') :
    d' = { d with exeats := d'.exeats }
    ∧ d.exeats.find? row.id = none
    ∧ ∀ r, r ∈ d'.exeats.rows ↔ r ∈ d.exeats.rows ∨ r = row := by
  simp only [GateStores.insertExeat, Option.map_eq_some_iff] at h
  obtain ⟨exeats, hinsert, rfl⟩ := h
  exact ⟨rfl, Keyed.insert?_eq_some hinsert⟩

theorem insertToken_eq_some {token : GateToken} (h : d.insertToken token = some d') :
    d' = { d with tokens := d'.tokens, issued := d.issued ++ [token.issuedCode] }
    ∧ d.tokens.find? token.tokenCode = none
    ∧ ∀ t, t ∈ d'.tokens.rows ↔ t ∈ d.tokens.rows ∨ t = token := by
  simp only [GateStores.insertToken, Option.map_eq_some_iff] at h
  obtain ⟨tokens, hinsert, rfl⟩ := h
  exact ⟨rfl, Keyed.insert?_eq_some hinsert⟩

theorem mem_useToken {t : GateToken} : t ∈ (d.useToken id).tokens.rows
    ↔ ∃ token ∈ d.tokens.rows,
      (if token.id = id then { token with usedAt := some d.now } else token) = t := by
  simp [GateStores.useToken]

/-! ## What every step keeps -/

/-- No row is lost, none changes its student, and none that was used is unused again. -/
structure GateKeeps (d d' : GateStores) : Prop where
  exeats : ∀ row ∈ d.exeats.rows, ∃ row' ∈ d'.exeats.rows, row'.id = row.id
    ∧ row'.studentId = row.studentId
    ∧ (row.gateUsedAt.isSome = true → row'.gateUsedAt.isSome = true)
  tokens : ∀ token ∈ d.tokens.rows, ∃ token' ∈ d'.tokens.rows, token'.id = token.id
    ∧ token'.tokenCode = token.tokenCode ∧ token'.studentId = token.studentId
    ∧ (token.usedAt.isSome = true → token'.usedAt.isSome = true)
  issued : ∀ issued ∈ d.issued, issued ∈ d'.issued

theorem gateKeeps_of_subset (hexeats : ∀ row ∈ d.exeats.rows, row ∈ d'.exeats.rows)
    (htokens : ∀ token ∈ d.tokens.rows, token ∈ d'.tokens.rows)
    (hissued : ∀ issued ∈ d.issued, issued ∈ d'.issued) : GateKeeps d d' :=
  ⟨fun row hrow => ⟨row, hexeats row hrow, rfl, rfl, fun h => h⟩,
    fun token htoken => ⟨token, htokens token htoken, rfl, rfl, rfl, fun h => h⟩, hissued⟩

theorem gateKeeps_write (hf : ∀ row, (f row).id = row.id)
    (hexeats : d'.exeats = (d.write id f hf).exeats)
    (htokens : d'.tokens = d.tokens) (hissued : ∀ i ∈ d.issued, i ∈ d'.issued)
    (hkeep : ∀ row, (f row).studentId = row.studentId
      ∧ (row.gateUsedAt.isSome = true → (f row).gateUsedAt.isSome = true)) : GateKeeps d d' := by
  refine ⟨?_, ?_, hissued⟩
  · intro row hrow
    rw [hexeats]
    refine ⟨_, mem_write.2 ⟨row, hrow, rfl⟩, ?_⟩
    split
    · exact ⟨hf row, hkeep row⟩
    · exact ⟨rfl, rfl, fun h => h⟩
  intro token htoken
  rw [htokens]
  exact ⟨token, htoken, rfl, rfl, rfl, fun h => h⟩

theorem ExeatDecision.apply_keeps (now : ℕ) (row : Exeat) (decision : ExeatDecision) :
    (decision.apply now row).studentId = row.studentId
      ∧ (decision.apply now row).gateUsedAt = row.gateUsedAt
      ∧ (decision.apply now row).passCode = row.passCode
      ∧ (decision.apply now row).passExpiresAt = row.passExpiresAt
      ∧ (decision.apply now row).kind = row.kind := by
  cases decision <;> exact ⟨rfl, rfl, rfl, rfl, rfl⟩

theorem gateKeeps_of_writes {draw : GateDraw} {request : GateRequest} {phase : GatePhase}
    (h : GateWrites draw request phase d d') : GateKeeps d d' := by
  cases h with
  | nothing => exact gateKeeps_of_subset (fun _ h => h) (fun _ h => h) fun _ h => h
  | insert request parentOtp hinsert =>
    obtain ⟨hd', -, hmem⟩ := insertExeat_eq_some hinsert
    rw [hd'] at hmem ⊢
    exact gateKeeps_of_subset (fun row hrow => (hmem row).2 (Or.inl hrow)) (fun _ h => h)
      fun _ h => h
  | decide request id decision =>
    refine gateKeeps_write (fun row => decision.apply_id d.now row) rfl rfl (fun _ h => h) ?_
    intro row
    have hkeeps := decision.apply_keeps d.now row
    exact ⟨hkeeps.1, fun hused => by rw [hkeeps.2.1]; exact hused⟩
  | issue request hissue =>
    rw [(issuePass_eq_some hissue).2]
    exact gateKeeps_write (by intro row; rfl) rfl rfl (fun i hi => List.mem_append_left _ hi)
      fun row => ⟨rfl, fun hused => hused⟩
  | confirm =>
    exact gateKeeps_write (by intro row; rfl) rfl rfl (fun _ h => h)
      fun row => ⟨rfl, fun hused => hused⟩
  | token drawn hinsert =>
    obtain ⟨hd', -, hmem⟩ := insertToken_eq_some hinsert
    rw [hd'] at hmem ⊢
    exact gateKeeps_of_subset (fun _ h => h) (fun token htoken => (hmem token).2 (Or.inl htoken))
      fun i hi => List.mem_append_left _ hi
  | usePass =>
    exact gateKeeps_write (by intro row; rfl) rfl rfl (fun _ h => h)
      fun row => ⟨rfl, fun _ => rfl⟩
  | useToken =>
    refine ⟨fun row hrow => ⟨row, hrow, rfl, rfl, fun h => h⟩, ?_, fun _ h => h⟩
    intro token htoken
    refine ⟨_, mem_useToken.2 ⟨token, htoken, rfl⟩, ?_⟩
    split
    · exact ⟨rfl, rfl, rfl, fun _ => rfl⟩
    · exact ⟨rfl, rfl, rfl, fun h => h⟩

/-! ## The tables in every run -/

/-- Approvals are legitimate, only the exeats of the school wait for a parent, every code in the
tables was issued for the student of its row, and the pass of an exeat expires no earlier than
any that was issued for it. -/
structure GateOk (d : GateStores) : Prop where
  legitimate : ∀ row ∈ d.exeats.rows, row.status = .approved →
    ∃ approval, row.approval = some approval ∧ approval.Legitimate
  school : ∀ row ∈ d.exeats.rows, row.status = .pendingParent → row.kind = .schoolInitiated
  passIssued : ∀ row ∈ d.exeats.rows, ∀ code, row.passCode = some code →
    ∃ issued ∈ d.issued, issued.code = code ∧ issued.studentId = row.studentId
  expiry : ∀ issued ∈ d.issued, ∀ id, issued.exeatId = some id →
    issued.expiresAt ≤ d.now + 6 * 3600000
      ∧ ∃ row ∈ d.exeats.rows, row.id = id ∧ issued.expiresAt ≤ row.passExpiresAt.getD 0
  tokenIssued : ∀ token ∈ d.tokens.rows,
    ∃ issued ∈ d.issued, issued.code = token.tokenCode ∧ issued.studentId = token.studentId

/-- A write that leaves the pass alone and approves nothing. -/
theorem gateOk_write (h : GateOk d) (hf : ∀ row, (f row).id = row.id)
    (hpass : ∀ row, (f row).studentId = row.studentId ∧ (f row).passCode = row.passCode
      ∧ (f row).passExpiresAt = row.passExpiresAt ∧ (f row).kind = row.kind)
    (happroved : ∀ row, (f row).status = .approved →
      row.status = .approved ∧ (f row).approval = row.approval)
    (hparent : ∀ row, (f row).status = .pendingParent → row.status = .pendingParent) :
    GateOk (d.write id f hf) := by
  -- every row comes from one of the same id, student and pass
  have hold : ∀ r ∈ (d.write id f hf).exeats.rows, ∃ row ∈ d.exeats.rows, r.id = row.id
      ∧ r.studentId = row.studentId ∧ r.passCode = row.passCode
      ∧ r.passExpiresAt = row.passExpiresAt ∧ r.kind = row.kind
      ∧ (r.status = .approved → row.status = .approved ∧ r.approval = row.approval)
      ∧ (r.status = .pendingParent → row.status = .pendingParent) := by
    intro r hr
    obtain ⟨row, hrow, rfl⟩ := mem_write.1 hr
    refine ⟨row, hrow, ?_⟩
    split
    · obtain ⟨hstudent, hcode, hexpires, hkind⟩ := hpass row
      exact ⟨hf row, hstudent, hcode, hexpires, hkind, happroved row, hparent row⟩
    · exact ⟨rfl, rfl, rfl, rfl, rfl, fun h => ⟨h, rfl⟩, fun h => h⟩
  refine ⟨?_, ?_, ?_, ?_, h.tokenIssued⟩
  · intro r hr hstatus
    obtain ⟨row, hrow, -, -, -, -, -, happroved, -⟩ := hold r hr
    rw [(happroved hstatus).2]
    exact h.legitimate row hrow (happroved hstatus).1
  · intro r hr hstatus
    obtain ⟨row, hrow, -, -, -, -, hkind, -, hwaiting⟩ := hold r hr
    rw [hkind]
    exact h.school row hrow (hwaiting hstatus)
  · intro r hr code hcode
    obtain ⟨row, hrow, -, hstudent, hpassCode, -⟩ := hold r hr
    rw [hstudent]
    exact h.passIssued row hrow code (hpassCode ▸ hcode)
  intro issued hissued i hi
  obtain ⟨hsoon, row, hrow, hid, hexpires⟩ := h.expiry issued hissued i hi
  refine ⟨hsoon, _, mem_write.2 ⟨row, hrow, rfl⟩, ?_⟩
  split
  · rw [hf row, (hpass row).2.2.1]
    exact ⟨hid, hexpires⟩
  · exact ⟨hid, hexpires⟩

theorem gateOk_decide (h : GateOk d) (decision : ExeatDecision) : GateOk (d.decide id decision) := by
  refine gateOk_write h _ ?_ ?_ ?_
  · intro row
    have hkeeps := decision.apply_keeps d.now row
    exact ⟨hkeeps.1, hkeeps.2.2.1, hkeeps.2.2.2.1, hkeeps.2.2.2.2⟩
  · intro row hstatus
    cases decision <;> cases hstatus
  intro row hstatus
  cases decision <;> cases hstatus

theorem gateOk_confirm (h : GateOk d) : GateOk (d.confirm id) :=
  gateOk_write h _ (fun _ => ⟨rfl, rfl, rfl, rfl⟩) (fun _ hstatus => ⟨hstatus, rfl⟩)
    fun _ hstatus => hstatus

theorem gateOk_usePass (h : GateOk d) (actorId : String) : GateOk (d.usePass id actorId) :=
  gateOk_write h _ (fun _ => ⟨rfl, rfl, rfl, rfl⟩) (fun _ hstatus => nomatch hstatus)
    fun _ hstatus => nomatch hstatus

theorem gateOk_useToken (h : GateOk d) : GateOk (d.useToken id) := by
  refine ⟨h.legitimate, h.school, h.passIssued, h.expiry, ?_⟩
  intro t ht
  obtain ⟨token, htoken, rfl⟩ := mem_useToken.1 ht
  split
  · exact h.tokenIssued token htoken
  · exact h.tokenIssued token htoken

theorem gateOk_insertToken {token : GateToken} (h : GateOk d)
    (hinsert : d.insertToken token = some d') : GateOk d' := by
  obtain ⟨hd', -, hmem⟩ := insertToken_eq_some hinsert
  have hissued : d'.issued = d.issued ++ [token.issuedCode] := by rw [hd']
  have hexeats : d'.exeats = d.exeats := by rw [hd']
  have hnow : d'.now = d.now := by rw [hd']
  refine ⟨?_, ?_, ?_, ?_, ?_⟩
  · rw [hexeats]
    exact h.legitimate
  · rw [hexeats]
    exact h.school
  · intro row hrow code hcode
    rw [hexeats] at hrow
    obtain ⟨issued, hold, hsame⟩ := h.passIssued row hrow code hcode
    exact ⟨issued, by rw [hissued]; exact List.mem_append_left _ hold, hsame⟩
  · intro issued hmemIssued i hi
    rw [hissued, List.mem_append, List.mem_singleton] at hmemIssued
    rw [hexeats, hnow]
    rcases hmemIssued with hold | rfl
    · exact h.expiry issued hold i hi
    · cases hi
  intro t ht
  rw [hissued]
  rcases (hmem t).1 ht with hold | rfl
  · obtain ⟨issued, hmemIssued, hsame⟩ := h.tokenIssued t hold
    exact ⟨issued, List.mem_append_left _ hmemIssued, hsame⟩
  · exact ⟨_, List.mem_append_right _ (List.mem_singleton_self _), rfl, rfl⟩

theorem gateOk_insertExeat {row : Exeat} (h : GateOk d) (hinsert : d.insertExeat row = some d')
    (hstatus : row.status ≠ .approved)
    (hschool : row.status = .pendingParent → row.kind = .schoolInitiated)
    (hcode : row.passCode = none) : GateOk d' := by
  obtain ⟨hd', -, hmem⟩ := insertExeat_eq_some hinsert
  have hissued : d'.issued = d.issued := by rw [hd']
  have hnow : d'.now = d.now := by rw [hd']
  have htokens : d'.tokens = d.tokens := by rw [hd']
  refine ⟨?_, ?_, ?_, ?_, ?_⟩
  · intro r hr happroved
    rcases (hmem r).1 hr with hold | rfl
    · exact h.legitimate r hold happroved
    · exact absurd happroved hstatus
  · intro r hr hwaiting
    rcases (hmem r).1 hr with hold | rfl
    · exact h.school r hold hwaiting
    · exact hschool hwaiting
  · intro r hr code hpass
    rw [hissued]
    rcases (hmem r).1 hr with hold | rfl
    · exact h.passIssued r hold code hpass
    rw [hcode] at hpass
    cases hpass
  · intro issued hmemIssued i hi
    rw [hissued] at hmemIssued
    obtain ⟨hsoon, r, hr, hexpires⟩ := h.expiry issued hmemIssued i hi
    rw [hnow]
    exact ⟨hsoon, r, (hmem r).2 (Or.inl hr), hexpires⟩
  rw [htokens, hissued]
  exact h.tokenIssued

theorem gateOk_issuePass (h : GateOk d)
    (hissue : d.issuePass id actorId code approval = some d') (hlegit : approval.Legitimate) :
    GateOk d' := by
  obtain ⟨hfree, hd'⟩ := issuePass_eq_some hissue
  have hrows : ∀ r, r ∈ d'.exeats.rows ↔ ∃ row ∈ d.exeats.rows,
      (if row.id = id then Exeat.approve actorId code approval d.now row else row) = r := by
    intro r
    rw [hd']
    exact @mem_write d id (Exeat.approve actorId code approval d.now) (fun _ => rfl) r
  have hnow : d'.now = d.now := by rw [hd']; rfl
  have htokens : d'.tokens = d.tokens := by rw [hd']; rfl
  refine ⟨?_, ?_, ?_, ?_, ?_⟩
  · intro r hr happroved
    obtain ⟨row, hrow, rfl⟩ := (hrows r).1 hr
    by_cases hid : row.id = id
    · rw [if_pos hid]
      exact ⟨approval, rfl, hlegit⟩
    rw [if_neg hid] at happroved ⊢
    exact h.legitimate row hrow happroved
  · intro r hr hwaiting
    obtain ⟨row, hrow, rfl⟩ := (hrows r).1 hr
    by_cases hid : row.id = id
    · rw [if_pos hid] at hwaiting
      cases hwaiting
    rw [if_neg hid] at hwaiting ⊢
    exact h.school row hrow hwaiting
  · intro r hr c hcode
    obtain ⟨row, hrow, rfl⟩ := (hrows r).1 hr
    by_cases hid : row.id = id
    · rw [if_pos hid] at hcode ⊢
      cases hcode
      exact ⟨_, (mem_issued hissue).2 (Or.inr ⟨row, hrow, hid, rfl⟩), rfl, rfl⟩
    rw [if_neg hid] at hcode ⊢
    obtain ⟨issued, hold, hsame⟩ := h.passIssued row hrow c hcode
    exact ⟨issued, (mem_issued hissue).2 (Or.inl hold), hsame⟩
  · intro issued hmemIssued i hi
    rw [hnow]
    rcases (mem_issued hissue).1 hmemIssued with hold | ⟨row, hrow, hid, rfl⟩
    · obtain ⟨hsoon, row, hrow, hrowId, hexpires⟩ := h.expiry issued hold i hi
      refine ⟨hsoon, _, (hrows _).2 ⟨row, hrow, rfl⟩, ?_⟩
      split
      · exact ⟨hrowId, hsoon⟩
      · exact ⟨hrowId, hexpires⟩
    cases hi
    refine ⟨le_rfl, _, (hrows _).2 ⟨row, hrow, rfl⟩, ?_⟩
    rw [if_pos hid]
    exact ⟨rfl, le_rfl⟩
  intro token htoken
  rw [htokens] at htoken
  obtain ⟨issued, hold, hsame⟩ := h.tokenIssued token htoken
  exact ⟨issued, (mem_issued hissue).2 (Or.inl hold), hsame⟩

theorem GateOk.other (h : GateOk d) (other : GateOther) : GateOk (other.apply d) := by
  cases other with
  | tick milliseconds =>
    refine ⟨h.legitimate, h.school, h.passIssued, ?_, h.tokenIssued⟩
    intro issued hissued i hi
    obtain ⟨hsoon, hrow⟩ := h.expiry issued hissued i hi
    refine ⟨?_, hrow⟩
    change issued.expiresAt ≤ d.now + milliseconds + 6 * 3600000
    omega
  | edit => exact ⟨h.legitimate, h.school, h.passIssued, h.expiry, h.tokenIssued⟩

/-! ## The requests in every run -/

/-- What a request has read was so, and what it has used is used. -/
def GateCall.Ok (d : GateStores) (call : GateCall) : Prop :=
  match call with
  | ⟨.decide _ _ _ _, .reading roles⟩ => mayAct roles leaderRoles = true
  | ⟨.confirmParentOtp _ _ _, .checking row⟩ =>
    row.status = .pendingParent → row.kind = .schoolInitiated
  | ⟨_, .inserting row _⟩ =>
    row.status ≠ .approved ∧ (row.status = .pendingParent → row.kind = .schoolInitiated)
      ∧ row.passCode = none
  | ⟨_, .approving _ _ approval⟩ => approval.Legitimate
  | ⟨.redeem _ code, .consuming row⟩ =>
    (∃ current ∈ d.exeats.rows, current.id = row.id ∧ current.studentId = row.studentId)
      ∧ ∃ issued ∈ d.issued, issued.code = code ∧ issued.studentId = row.studentId
  | ⟨.redeem _ code, .consumingToken row⟩ =>
    (∃ current ∈ d.tokens.rows, current.id = row.id ∧ current.tokenCode = code
        ∧ current.studentId = row.studentId)
      ∧ row.tokenCode = code
      ∧ ∃ issued ∈ d.issued, issued.code = code ∧ issued.studentId = row.studentId
  | ⟨_, .answered (.pass id _ .redeemed _)⟩ =>
    ∃ current ∈ d.exeats.rows, current.id = id ∧ current.gateUsedAt.isSome = true
  | ⟨.redeem _ code, .answered (.token _ _ .redeemed)⟩ =>
    ∃ current ∈ d.tokens.rows, current.tokenCode = code ∧ current.usedAt.isSome = true
  | _ => True

/-- A request that has nothing to be right about. -/
theorem ok_answered {request : GateRequest} {answer : GateAnswer}
    (hpass : ∀ id studentId name, answer ≠ .pass id studentId .redeemed name)
    (htoken : ∀ id studentId, answer ≠ .token id studentId .redeemed) :
    GateCall.Ok d ⟨request, .answered answer⟩ := by
  cases answer with
  | created | decided | passIssued | tokenIssued => cases request <;> trivial
  | pass id studentId result name =>
    cases result with
    | redeemed => exact absurd rfl (hpass id studentId name)
    | alreadyUsed | expired => cases request <;> trivial
  | token id studentId result =>
    cases result with
    | redeemed => exact absurd rfl (htoken id studentId)
    | alreadyUsed | expired => cases request <;> trivial

theorem ok_failed (request : GateRequest) (status : ℕ) (message : String) :
    GateCall.Ok d ⟨request, .failed status message⟩ := by
  cases request <;> trivial

/-- The other requests. -/
theorem GateCall.Ok.gateKeeps {call : GateCall} (h : call.Ok d) (hkeeps : GateKeeps d d') :
    call.Ok d' := by
  have hissued : ∀ code studentId,
      (∃ issued ∈ d.issued, issued.code = code ∧ issued.studentId = studentId) →
        ∃ issued ∈ d'.issued, issued.code = code ∧ issued.studentId = studentId := by
    rintro code studentId ⟨issued, hold, hsame⟩
    exact ⟨issued, hkeeps.issued issued hold, hsame⟩
  obtain ⟨request, phase⟩ := call
  cases phase with
  | starting | confirming | issuing | searching | failed | deciding => cases request <;> trivial
  | reading | checking | inserting | approving => cases request <;> exact h
  | consuming row =>
    cases request with
    | redeem userId code =>
      obtain ⟨⟨current, hcurrent, hid, hstudent⟩, hcode⟩ := h
      obtain ⟨current', hcurrent', hid', hstudent', -⟩ := hkeeps.exeats current hcurrent
      exact ⟨⟨current', hcurrent', hid'.trans hid, hstudent'.trans hstudent⟩,
        hissued code row.studentId hcode⟩
    | createExeat | review | decide | confirmParentOtp | issueToken => trivial
  | consumingToken row =>
    cases request with
    | redeem userId code =>
      obtain ⟨⟨current, hcurrent, hid, htoken, hstudent⟩, hrow, hcode⟩ := h
      obtain ⟨current', hcurrent', hid', htoken', hstudent', -⟩ :=
        hkeeps.tokens current hcurrent
      exact ⟨⟨current', hcurrent', hid'.trans hid, htoken'.trans htoken,
        hstudent'.trans hstudent⟩, hrow, hissued code row.studentId hcode⟩
    | createExeat | review | decide | confirmParentOtp | issueToken => trivial
  | answered answer =>
    cases answer with
    | created | decided | passIssued | tokenIssued => exact ok_answered nofun nofun
    | pass id studentId result name =>
      cases result with
      | alreadyUsed | expired => exact ok_answered nofun nofun
      | redeemed =>
        have hpass : ∃ current ∈ d.exeats.rows, current.id = id
            ∧ current.gateUsedAt.isSome = true := by cases request <;> exact h
        obtain ⟨current, hcurrent, hid, hused⟩ := hpass
        obtain ⟨current', hcurrent', hid', -, hused'⟩ := hkeeps.exeats current hcurrent
        cases request <;> exact ⟨current', hcurrent', hid'.trans hid, hused' hused⟩
    | token id studentId result =>
      cases result with
      | alreadyUsed | expired => exact ok_answered nofun nofun
      | redeemed =>
        cases request with
        | redeem userId code =>
          obtain ⟨current, hcurrent, hcode, hused⟩ := h
          obtain ⟨current', hcurrent', -, hcode', -, hused'⟩ :=
            hkeeps.tokens current hcurrent
          exact ⟨current', hcurrent', hcode'.trans hcode, hused' hused⟩
        | createExeat | review | decide | confirmParentOtp | issueToken => trivial

section Phases
variable {sha256 : String → String} {draw : GateDraw} {request : GateRequest} {phase : GatePhase}

theorem prepareExeat_ok (actorId : String) (body : ExeatBody) :
    GateCall.Ok d ⟨.createExeat actorId body, prepareExeat sha256 draw actorId body d⟩ := by
  simp only [prepareExeat]
  generalize body.kind.getD _ = kind
  split
  · trivial
  split
  · trivial
  refine ⟨?_, ?_, rfl⟩
  · split
    · nofun
    · split <;> nofun
  intro hwaiting
  by_contra hkind
  rw [if_neg hkind] at hwaiting
  split at hwaiting <;> cases hwaiting

theorem enterGate_ok (h : GateOk d) :
    GateCall.Ok d ⟨request, enterGate sha256 draw request d⟩ := by
  cases request with
  | createExeat actorId body =>
    simp only [enterGate]
    split
    · exact prepareExeat_ok actorId body
    · trivial
  | review actorId id approve note =>
    simp only [enterGate]
    split
    · split
      · trivial
      · split <;> trivial
    · trivial
  | decide actorId id approve note =>
    simp only [enterGate]
    split
    · split
      · assumption
      · trivial
    · trivial
  | confirmParentOtp parentId id otp =>
    simp only [enterGate]
    split
    · split
      · trivial
      rename_i row hrow
      exact h.school row (Keyed.find?_eq_some.1 hrow).1
    · trivial
  | issueToken userId body =>
    simp only [enterGate]
    split
    · split
      · trivial
      · split <;> trivial
    · trivial
  | redeem userId code =>
    simp only [enterGate]
    split
    · split <;> trivial
    · trivial

theorem decideRow_ok {actorId : String} {roles : List String} {approve : Bool}
    {note : Option String} (hroles : mayAct roles leaderRoles = true) :
    GateCall.Ok d ⟨.decide actorId id approve note, decideRow actorId roles id approve note d⟩ := by
  simp only [decideRow]
  split
  · trivial
  split
  · trivial
  split
  · exact hroles
  · trivial

/-- **A parent's approval is of a linked parent, with the code, in time, for the school's.** -/
theorem confirmRow_ok {parentId otp : String} {row : Exeat}
    (hrow : row.status = .pendingParent → row.kind = .schoolInitiated) :
    GateCall.Ok d ⟨.confirmParentOtp parentId id otp, confirmRow sha256 parentId otp row d⟩ := by
  simp only [confirmRow]
  split
  · trivial
  rename_i hlinked
  split
  · trivial
  rename_i hstatus
  split
  · split
    · trivial
    rename_i hexpires
    split
    · trivial
    rename_i hcode
    exact ⟨by simpa using hlinked, hrow (not_not.1 hstatus), not_not.1 hcode,
      Nat.le_of_not_lt hexpires⟩
  · trivial

theorem passRow_eq_some {pick : ℕ} {code : String} {row : Exeat}
    (h : passRow pick code d = some row) : row ∈ d.exeats.rows ∧ row.passCode = some code := by
  simpa using List.mem_filter.1 (List.mem_of_getElem? h)

theorem findPass_ok {userId code : String} (h : GateOk d) :
    GateCall.Ok d ⟨.redeem userId code, findPass draw code d⟩ := by
  simp only [findPass]
  split
  · trivial
  rename_i row hfind
  obtain ⟨hrow, hcode⟩ := passRow_eq_some hfind
  split
  · trivial
  split
  · trivial
  · exact ⟨⟨row, hrow, rfl, rfl⟩, h.passIssued row hrow code hcode⟩

theorem findToken_ok {userId code : String} (h : GateOk d) :
    GateCall.Ok d ⟨.redeem userId code, findToken code d⟩ := by
  simp only [findToken]
  split
  · trivial
  rename_i row hfind
  obtain ⟨hrow, hcode⟩ := Keyed.find?_eq_some.1 hfind
  split
  · trivial
  split
  · trivial
  obtain ⟨issued, hissued, hsame, hstudent⟩ := h.tokenIssued row hrow
  exact ⟨⟨row, hrow, rfl, hcode, rfl⟩, hcode, issued, hissued, hsame.trans hcode, hstudent⟩

theorem GateOk.writes (h : GateOk d) (hcall : GateCall.Ok d ⟨request, phase⟩)
    (hwrites : GateWrites draw request phase d d') : GateOk d' := by
  cases hwrites with
  | nothing => exact ⟨h.legitimate, h.school, h.passIssued, h.expiry, h.tokenIssued⟩
  | insert request parentOtp hinsert =>
    have hrow := by cases request <;> exact hcall
    exact gateOk_insertExeat h hinsert hrow.1 hrow.2.1 hrow.2.2
  | decide request id decision => exact gateOk_decide h decision
  | issue request hissue =>
    have hlegit := by cases request <;> exact hcall
    exact gateOk_issuePass h hissue hlegit
  | confirm => exact gateOk_confirm h
  | token drawn hinsert =>
    have hd' := gateOk_insertToken h hinsert
    exact ⟨hd'.legitimate, hd'.school, hd'.passIssued, hd'.expiry, hd'.tokenIssued⟩
  | usePass userId => exact gateOk_usePass h userId
  | useToken => exact gateOk_useToken h

/-- The request that moves. -/
theorem gateStep_ok (h : GateOk d) (hcall : GateCall.Ok d ⟨request, phase⟩) :
    GateCall.Ok (gateStep sha256 draw request phase d).2
      ⟨request, (gateStep sha256 draw request phase d).1⟩ := by
  have hkeeps := gateKeeps_of_writes (@gateStep_writes sha256 draw request phase d)
  cases phase with
  | starting =>
    have henter := (@enterGate_ok d sha256 draw request h).gateKeeps hkeeps
    cases request <;> exact henter
  | reading roles =>
    cases request with
    | decide actorId id approve note => exact decideRow_ok hcall
    | redeem userId code =>
      simp only [gateStep]
      split
      · exact findPass_ok h
      · trivial
    | createExeat | review | confirmParentOtp | issueToken => trivial
  | checking row =>
    cases request with
    | review actorId id approve note =>
      simp only [gateStep, reviewRow]
      split <;> trivial
    | confirmParentOtp parentId id otp => exact confirmRow_ok hcall
    | createExeat | decide | issueToken | redeem => trivial
  | inserting row parentOtp =>
    cases hinsert : d.insertExeat row with
    | none => cases request <;> simp only [gateStep, hinsert] <;> exact ok_failed _ _ _
    | some d' =>
      cases request <;> simp only [gateStep, hinsert] <;> exact ok_answered (by simp) (by simp)
  | deciding id decision => cases request <;> exact ok_answered (by simp) (by simp)
  | approving id actorId approval =>
    cases hissue : d.issuePass id actorId draw.passCode approval with
    | none => cases request <;> simp only [gateStep, hissue] <;> exact ok_failed _ _ _
    | some d' =>
      cases request <;> simp only [gateStep, hissue, GateRequest.passIssued] <;> trivial
  | confirming => cases request <;> exact ok_answered (by simp) (by simp)
  | issuing =>
    cases request with
    | issueToken userId body =>
      cases hinsert : d.insertToken (tokenRow draw userId body d) with
      | none =>
        simp only [gateStep, hinsert]
        exact ok_failed _ _ _
      | some d' =>
        simp only [gateStep, hinsert]
        exact ok_answered (by simp) (by simp)
    | createExeat | review | decide | confirmParentOtp | redeem => trivial
  | consuming row =>
    cases request with
    | redeem userId code =>
      obtain ⟨⟨current, hcurrent, hid, -⟩, -⟩ := hcall
      refine ⟨_, mem_write.2 ⟨current, hcurrent, rfl⟩, ?_⟩
      rw [if_pos hid]
      exact ⟨hid, rfl⟩
    | createExeat | review | decide | confirmParentOtp | issueToken => trivial
  | searching =>
    cases request with
    | redeem userId code => exact findToken_ok h
    | createExeat | review | decide | confirmParentOtp | issueToken => trivial
  | consumingToken row =>
    cases request with
    | redeem userId code =>
      obtain ⟨⟨current, hcurrent, hid, hcode, -⟩, -⟩ := hcall
      refine ⟨_, mem_useToken.2 ⟨current, hcurrent, rfl⟩, ?_⟩
      rw [if_pos hid]
      exact ⟨hcode, rfl⟩
    | createExeat | review | decide | confirmParentOtp | issueToken => trivial
  | answered answer => cases request <;> exact hcall
  | failed status message => cases request <;> trivial

end Phases
end Writes

/-! ## Every run -/

/-- The tables and the requests. -/
def GateHolds (s : GateState) : Prop :=
  GateOk s.shared ∧ ∀ call ∈ s.calls, call.Ok s.shared

/-- **Every step keeps the tables and the requests as they should be.** -/
theorem gateHolds_step {sha256 : String → String} {s : GateState} {e : GateEvent}
    (h : GateHolds s) : GateHolds ((gateService sha256).step e s) := by
  have hstart : ∀ (request : GateRequest) (d : GateStores), GateOk d →
      GateCall.Ok d { request } := by
    intro request d _
    cases request <;> trivial
  have hrest : ∀ (other : GateOther) (d : GateStores), GateOk d →
      GateOk (other.apply d) ∧ ∀ call : GateCall, call.Ok d → call.Ok (other.apply d) := by
    intro other d hd
    refine ⟨hd.other other, fun call hcall => hcall.gateKeeps ?_⟩
    cases other <;> exact gateKeeps_of_subset (fun _ h => h) (fun _ h => h) fun _ h => h
  exact Service.invariant_step (S := gateService sha256) hstart
    (fun draw c d hd (hc : GateCall.Ok d c) =>
      hd.writes hc (@gateStep_writes sha256 draw c.request c.phase d))
    (fun _ _ _ hd hc => gateStep_ok hd hc)
    (fun draw c d _ _ other (hother : GateCall.Ok d other) =>
      hother.gateKeeps (gateKeeps_of_writes (@gateStep_writes sha256 draw c.request c.phase d)))
    hrest h.1 h.2

/-- Empty tables, and a school. -/
def gateStart (d : GateStores) : GateState :=
  { shared := { d with exeats := .empty, tokens := .empty, issued := [] } }

theorem gateHolds_start (d : GateStores) : GateHolds (gateStart d) := by
  refine ⟨⟨?_, ?_, ?_, ?_, ?_⟩, ?_⟩
  · intro row hrow
    cases hrow
  · intro row hrow
    cases hrow
  · intro row hrow
    cases hrow
  · intro issued hissued
    cases hissued
  · intro token htoken
    cases htoken
  intro call hcall
  cases hcall

end MultiAcademy.School
