import MultiAcademy.School.ParentActivation

/-!
# Activation codes that work

Which activation codes are found, over every run of `ParentActivation`.  Rows only age, but for the
one that an issue inserts: an insert must leave the codes that stand within reach of both queries,
and the statements of a request must not be overtaken by another on the same code.
-/

namespace MultiAcademy.School

open MultiAcademy.Lib

/-! ## The bookkeeping -/

/-- Codes are of users that there are, and those with which a password was set are known. -/
structure CodesKnown (d : ActivationStores) : Prop where
  users : ∀ row ∈ d.codes.rows, (d.users row.parentId).isSome = true
  used : ∀ row ∈ d.codes.rows, row.used = true → row.id ∈ d.spent
  spent : ∀ id ∈ d.spent, ∃ row ∈ d.codes.rows, row.id = id

/-- What a request has read is there. -/
def ActivationCall.Ok (d : ActivationStores) : ActivationCall → Prop
  | .parentFound _ body => (d.users body.parentId).isSome = true
  | .studentsFound _ parentId _ _ | .retired _ parentId _ _ => (d.users parentId).isSome = true
  | .matched id parentId _ => ∃ row ∈ d.codes.rows, row.id = id ∧ row.parentId = parentId
  | .passwordSet id parentId =>
    id ∈ d.spent ∧ ∃ row ∈ d.codes.rows, row.id = id ∧ row.parentId = parentId
  | _ => True

/-- An open code is the newest of its parent; one that stands has a hash that no newer one has, and
is within the rows that both queries read. -/
structure CodesFound (d : ActivationStores) : Prop where
  single : ∀ row ∈ d.codes.rows, row.isOpen = true → ∀ later ∈ d.codes.newer row.id,
    later.parentId ≠ row.parentId
  hashes : ∀ row ∈ d.codes.rows, CodeStands row d → ∀ later ∈ d.codes.newer row.id,
    later.codeHash ≠ row.codeHash
  window : ∀ row ∈ d.codes.rows, CodeStands row d →
    (d.codes.newer row.id).countP ActivationCode.isOpen < 50

/-- Codes are the same ones, no more of them open, no fewer superseded or used, and no sooner. -/
structure CodesAge (d d' : ActivationStores) : Prop where
  rows : ∀ row' ∈ d'.codes.rows, ∃ row ∈ d.codes.rows, row'.id = row.id
    ∧ row'.parentId = row.parentId ∧ row'.codeHash = row.codeHash
    ∧ row'.expiresAt = row.expiresAt ∧ (row'.isOpen = true → row.isOpen = true)
    ∧ (row.recovered = true → row'.recovered = true)
  keys : ∀ id, (d'.codes.newer id).map (fun row => (row.parentId, row.codeHash))
    = (d.codes.newer id).map (fun row => (row.parentId, row.codeHash))
  count : ∀ id, (d'.codes.newer id).countP ActivationCode.isOpen
    ≤ (d.codes.newer id).countP ActivationCode.isOpen
  now : d.now ≤ d'.now
  spent : ∀ id ∈ d.spent, id ∈ d'.spent

section Ageing
variable {d d' : ActivationStores} {row row' : ActivationCode}

theorem CodesAge.of_codes (hcodes : d'.codes = d.codes) (hnow : d.now ≤ d'.now)
    (hspent : ∀ id ∈ d.spent, id ∈ d'.spent) : CodesAge d d' where
  rows := by
    rw [hcodes]
    exact fun row hrow => ⟨row, hrow, rfl, rfl, rfl, rfl, id, id⟩
  keys id := by rw [hcodes]
  count id := by rw [hcodes]
  now := hnow
  spent := hspent

theorem CodesAge.refl (d : ActivationStores) : CodesAge d d :=
  .of_codes rfl le_rfl fun _ h => h

/-- An update that only sets `used_at` or `recovered_at`. -/
theorem CodesAge.of_update {p : ActivationCode → Bool} {f : ActivationCode → ActivationCode}
    (hf : ∀ row, (f row).id = row.id)
    (hkept : ∀ row, (f row).parentId = row.parentId ∧ (f row).codeHash = row.codeHash
      ∧ (f row).expiresAt = row.expiresAt)
    (hopen : ∀ row, (f row).isOpen = true → row.isOpen = true)
    (hrecovered : ∀ row, row.recovered = true → (f row).recovered = true) :
    CodesAge d { d with codes := d.codes.updateWhere p f hf } where
  rows := by
    intro row' hrow'
    obtain ⟨row, hrow, rfl⟩ := List.mem_map.1 hrow'
    refine ⟨row, hrow, ?_⟩
    by_cases hp : p row = true
    · rw [if_pos hp]
      obtain ⟨hparent, hhash, hexpires⟩ := hkept row
      exact ⟨hf row, hparent, hhash, hexpires, hopen row, hrecovered row⟩
    rw [if_neg hp]
    exact ⟨rfl, rfl, rfl, rfl, id, id⟩
  keys id := by
    rw [Keyed.newer_updateWhere, List.map_map]
    refine List.map_congr_left fun row _ => ?_
    simp only [Function.comp_apply]
    split
    · rw [(hkept row).1, (hkept row).2.1]
    · rfl
  count id := by
    rw [Keyed.newer_updateWhere, List.countP_map]
    refine List.countP_mono_left fun row _ h => ?_
    simp only [Function.comp_apply] at h
    split at h
    · exact hopen row h
    · exact h
  now := le_rfl
  spent _ h := h

theorem CodesAge.mem_newer (h : CodesAge d d') {id : String} :
    (∀ later' ∈ d'.codes.newer id, ∃ later ∈ d.codes.newer id,
        later.parentId = later'.parentId ∧ later.codeHash = later'.codeHash)
      ∧ ∀ later ∈ d.codes.newer id, ∃ later' ∈ d'.codes.newer id,
        later'.parentId = later.parentId := by
  have hkeys := h.keys id
  constructor
  · intro later' hlater'
    have hmem := List.mem_map_of_mem (f := fun row => (row.parentId, row.codeHash)) hlater'
    rw [hkeys] at hmem
    obtain ⟨later, hlater, heq⟩ := List.mem_map.1 hmem
    exact ⟨later, hlater, (Prod.mk.inj heq).1, (Prod.mk.inj heq).2⟩
  intro later hlater
  have hmem := List.mem_map_of_mem (f := fun row => (row.parentId, row.codeHash)) hlater
  rw [← hkeys] at hmem
  obtain ⟨later', hlater', heq⟩ := List.mem_map.1 hmem
  exact ⟨later', hlater', (Prod.mk.inj heq).1⟩

/-- A code that is superseded stays so. -/
theorem CodesAge.superseded (h : CodesAge d d') (hid : row'.id = row.id)
    (hparent : row'.parentId = row.parentId)
    (hrecovered : row.recovered = true → row'.recovered = true)
    (hnot : superseded row' d' = false) : superseded row d = false := by
  rw [School.superseded, Bool.or_eq_false_iff, List.any_eq_false] at hnot ⊢
  constructor
  · cases hrow : row.recovered with
    | false => rfl
    | true => exact hnot.1.symm.trans (hrecovered hrow) |>.symm
  intro later hlater hsame
  obtain ⟨later', hlater', heq⟩ := h.mem_newer.2 later hlater
  rw [← hid] at hlater'
  apply hnot.2 later' hlater'
  rw [decide_eq_true_eq, heq, hparent]
  exact of_decide_eq_true hsame

/-- **A code that stands has stood.** -/
theorem CodesAge.stands (h : CodesAge d d') (hid : row'.id = row.id)
    (hparent : row'.parentId = row.parentId) (hexpires : row'.expiresAt = row.expiresAt)
    (hrecovered : row.recovered = true → row'.recovered = true) (hstands : CodeStands row' d') :
    CodeStands row d where
  unused hspent := hstands.unused (hid ▸ h.spent _ hspent)
  newest := h.superseded hid hparent hrecovered hstands.newest
  inTime := by
    have hnow := h.now
    have hin := hstands.inTime
    omega

theorem CodesFound.age (h : CodesFound d) (hage : CodesAge d d') : CodesFound d' where
  single := by
    intro row' hrow' hopen later' hlater' hsame
    obtain ⟨row, hrow, hid, hparent, -, -, hopen', -⟩ := hage.rows row' hrow'
    obtain ⟨later, hlater, heq, -⟩ := hage.mem_newer.1 later' hlater'
    rw [hid] at hlater
    exact h.single row hrow (hopen' hopen) later hlater (heq.trans (hsame.trans hparent))
  hashes := by
    intro row' hrow' hstands later' hlater' hsame
    obtain ⟨row, hrow, hid, hparent, hhash, hexpires, -, hrecovered⟩ := hage.rows row' hrow'
    obtain ⟨later, hlater, -, heq⟩ := hage.mem_newer.1 later' hlater'
    rw [hid] at hlater
    exact h.hashes row hrow (hage.stands hid hparent hexpires hrecovered hstands) later hlater
      (heq.trans (hsame.trans hhash))
  window := by
    intro row' hrow' hstands
    obtain ⟨row, hrow, hid, hparent, -, hexpires, -, hrecovered⟩ := hage.rows row' hrow'
    have hfew := h.window row hrow (hage.stands hid hparent hexpires hrecovered hstands)
    have hcount := hage.count row.id
    rw [hid]
    omega

theorem age_retireCodes (parentId : String) (d : ActivationStores) :
    CodesAge d (retireCodes parentId d) :=
  .of_update _ (fun _ => ⟨rfl, rfl, rfl⟩) (fun row h => by
    simp [ActivationCode.isOpen] at h) fun _ _ => rfl

theorem age_markUsed (id : String) (d : ActivationStores) : CodesAge d (markUsed id d) :=
  .of_update _ (fun _ => ⟨rfl, rfl, rfl⟩) (fun row h => by
    simp [ActivationCode.isOpen] at h) fun _ h => h

theorem age_setPassword (passwordHash id parentId : String) (d : ActivationStores) :
    CodesAge d (setPassword passwordHash id parentId d) :=
  .of_codes rfl le_rfl fun _ h => List.mem_append_left _ h

theorem age_change (change : ActivationChange) (d : ActivationStores) :
    CodesAge d (change.apply d) := by
  cases change with
  | saveUser id user => exact .of_codes rfl le_rfl fun _ h => h
  | setLinks links => exact .of_codes rfl le_rfl fun _ h => h
  | setEnabled enabled => exact .of_codes rfl le_rfl fun _ h => h
  | pass milliseconds =>
    refine .of_codes rfl ?_ fun _ h => h
    simp only [ActivationChange.apply]
    omega

end Ageing

/-! ## Inserting a code -/

section Requests
variable {sha256 : String → String} {hashPassword : String → String → String}
  {d d' : ActivationStores} {call call' : ActivationCall} {s : ActivationState}
  {draw : ActivationDraw} {i : ℕ}

/-- The code is inserted, or its id is in use. -/
theorem insertCode_cases (sha256 : String → String) (draw : ActivationDraw)
    (actorId parentId : String) (studentIds : List String) (daysValid : Option ℚ)
    (d : ActivationStores) :
    (∃ codes row, d.codes.push? row = some codes ∧ row.id = draw.token ∧ row.parentId = parentId
        ∧ row.codeHash = hashCode sha256 draw.code ∧ row.used = false ∧ row.recovered = false
        ∧ insertCode sha256 draw actorId parentId studentIds daysValid d
          = (.issued draw.code row, { d with codes }))
      ∨ insertCode sha256 draw actorId parentId studentIds daysValid d
          = (.refused 500 "Internal server error", d)
        ∧ ∃ row ∈ d.codes.rows, row.id = draw.token := by
  simp only [insertCode]
  split
  · rename_i codes hcodes
    exact Or.inl ⟨codes, _, hcodes, rfl, rfl, rfl, rfl, rfl, rfl⟩
  rename_i hnone
  exact Or.inr ⟨rfl, Keyed.push?_eq_none hnone⟩

variable {codes : Keyed ActivationCode.id} {row new : ActivationCode}

/-- An older code that stands after the insert stood before it. -/
theorem stands_of_insert (hpush : d.codes.push? new = some codes) (hid : new.id ≠ row.id)
    (h : CodeStands row { d with codes }) : CodeStands row d where
  unused := h.unused
  newest := by
    have hnot := h.newest
    rw [superseded, Bool.or_eq_false_iff] at hnot ⊢
    refine ⟨hnot.1, ?_⟩
    have hany := hnot.2
    dsimp only at hany
    rw [Keyed.newer_push? hpush hid, List.any_cons, Bool.or_eq_false_iff] at hany
    exact hany.2
  inTime := h.inTime

theorem codesFound_insert (hpush : d.codes.push? new = some codes) (h : CodesFound d)
    (hclosed : ∀ row ∈ d.codes.rows, row.parentId = new.parentId → row.isOpen = false)
    (hapart : ∀ row ∈ d.codes.rows, CodeStands row d → row.codeHash ≠ new.codeHash
      ∧ (d.codes.newer row.id).countP ActivationCode.isOpen + 1 < 50) :
    CodesFound { d with codes } := by
  obtain ⟨hnew, hrows⟩ := Keyed.push?_eq_some hpush
  have hcases : ∀ row ∈ codes.rows, row = new ∨ row ∈ d.codes.rows ∧ new.id ≠ row.id := by
    intro row hrow
    rw [hrows] at hrow
    rcases List.mem_cons.1 hrow with heq | hold
    · exact Or.inl heq
    · exact Or.inr ⟨hold, (hnew row hold).symm⟩
  refine ⟨?_, ?_, ?_⟩
  · intro row hrow hopen later hlater
    dsimp only at hlater
    rcases hcases row hrow with rfl | ⟨hold, hid⟩
    · rw [Keyed.newer_push?_self hpush] at hlater
      cases hlater
    rw [Keyed.newer_push? hpush hid] at hlater
    rcases List.mem_cons.1 hlater with rfl | hlater
    · intro hsame
      rw [hclosed row hold hsame.symm] at hopen
      cases hopen
    · exact h.single row hold hopen later hlater
  · intro row hrow hstands later hlater
    dsimp only at hlater
    rcases hcases row hrow with rfl | ⟨hold, hid⟩
    · rw [Keyed.newer_push?_self hpush] at hlater
      cases hlater
    have hstood := stands_of_insert hpush hid hstands
    rw [Keyed.newer_push? hpush hid] at hlater
    rcases List.mem_cons.1 hlater with rfl | hlater
    · exact (hapart row hold hstood).1.symm
    · exact h.hashes row hold hstood later hlater
  intro row hrow hstands
  dsimp only
  rcases hcases row hrow with rfl | ⟨hold, hid⟩
  · rw [Keyed.newer_push?_self hpush, List.countP_nil]
    omega
  have hfew := (hapart row hold (stands_of_insert hpush hid hstands)).2
  rw [Keyed.newer_push? hpush hid, List.countP_cons]
  split <;> omega

/-! ## What every step keeps -/

theorem ActivationCall.Ok.mono (h : call.Ok d)
    (husers : ∀ id, (d.users id).isSome = true → (d'.users id).isSome = true)
    (hrows : ∀ row ∈ d.codes.rows, ∃ row' ∈ d'.codes.rows,
      row'.id = row.id ∧ row'.parentId = row.parentId)
    (hspent : ∀ id ∈ d.spent, id ∈ d'.spent) : call.Ok d' := by
  have hthere : ∀ id parentId, (∃ row ∈ d.codes.rows, row.id = id ∧ row.parentId = parentId) →
      ∃ row ∈ d'.codes.rows, row.id = id ∧ row.parentId = parentId := by
    intro id parentId hold
    obtain ⟨row, hrow, hid, hparent⟩ := hold
    obtain ⟨row', hrow', hid', hparent'⟩ := hrows row hrow
    exact ⟨row', hrow', hid'.trans hid, hparent'.trans hparent⟩
  cases call with
  | parentFound actorId body => exact husers _ h
  | studentsFound actorId parentId studentIds daysValid => exact husers _ h
  | retired actorId parentId studentIds daysValid => exact husers _ h
  | matched id parentId password => exact hthere id parentId h
  | passwordSet id parentId => exact ⟨hspent _ h.1, hthere id parentId h.2⟩
  | asked | issued | previewed | activated | refused => trivial

structure CodesStay (d d' : ActivationStores) : Prop where
  users : ∀ id, (d.users id).isSome = true → (d'.users id).isSome = true
  rows : ∀ row ∈ d.codes.rows, ∃ row' ∈ d'.codes.rows,
    row'.id = row.id ∧ row'.parentId = row.parentId
  spent : ∀ id ∈ d.spent, id ∈ d'.spent

theorem CodesStay.refl (d : ActivationStores) : CodesStay d d :=
  ⟨fun _ h => h, fun row hrow => ⟨row, hrow, rfl, rfl⟩, fun _ h => h⟩

theorem findParent_ok (actorId : String) (body : IssueCodeBody) :
    (findParent actorId body d).Ok d := by
  simp only [findParent]
  split
  · trivial
  split
  · trivial
  rename_i user huser
  split
  · exact Option.isSome_iff_exists.2 ⟨user, huser⟩
  · trivial

theorem previewCode_ok (code : String) : (previewCode sha256 code d).Ok d := by
  simp only [previewCode]
  split
  · trivial
  · split <;> trivial

theorem of_matchCode {limit : ℕ} {joined : ActivationCode → Bool} {code : String}
    (h : matchCode sha256 limit joined code d = some row) :
    row ∈ d.codes.rows ∧ row.isOpen = true ∧ row.codeHash = hashCode sha256 code
      ∧ d.now ≤ row.expiresAt := by
  obtain ⟨hfound, hin⟩ := Option.filter_eq_some_iff.1 h
  obtain ⟨hrow, hkeep, hhash⟩ := Keyed.mem_of_recent? hfound
  rw [Bool.and_eq_true] at hkeep
  exact ⟨hrow, hkeep.1, of_decide_eq_true hhash, of_decide_eq_true hin⟩

theorem matchActivation_ok (code password : String) :
    (matchActivation sha256 code password d).Ok d := by
  simp only [matchActivation]
  split
  · trivial
  split
  · trivial
  split
  · trivial
  rename_i row hrow
  exact ⟨row, (of_matchCode hrow).1, rfl, rfl⟩

/-- What is known and what stays, over one statement. -/
theorem activationStep_ok (draw : ActivationDraw) (hd : CodesKnown d) (h : call.Ok d) :
    CodesKnown (activationStep sha256 hashPassword draw call d).2
      ∧ CodesStay d (activationStep sha256 hashPassword draw call d).2
      ∧ (activationStep sha256 hashPassword draw call d).1.Ok
        (activationStep sha256 hashPassword draw call d).2 := by
  cases call with
  | asked request =>
    cases request with
    | issue actorId body => exact ⟨hd, .refl d, findParent_ok actorId body⟩
    | preview code => exact ⟨hd, .refl d, previewCode_ok code⟩
    | activate code password => exact ⟨hd, .refl d, matchActivation_ok code password⟩
  | parentFound actorId body => exact ⟨hd, .refl d, h⟩
  | studentsFound actorId parentId studentIds daysValid =>
    refine ⟨⟨?_, ?_, ?_⟩, ⟨fun _ h => h, ?_, fun _ h => h⟩, h⟩
    · intro row' hrow'
      obtain ⟨row, hrow, -, hparent, -⟩ := (age_retireCodes parentId d).rows row' hrow'
      exact hparent ▸ hd.users row hrow
    · intro row' hrow' hused
      obtain ⟨row, hrow, rfl⟩ := List.mem_map.1 hrow'
      split at hused
      · rename_i hp
        rw [if_pos hp]
        exact hd.used row hrow hused
      rename_i hp
      rw [if_neg hp]
      exact hd.used row hrow hused
    · intro id hid
      obtain ⟨row, hrow, rfl⟩ := hd.spent id hid
      refine ⟨_, List.mem_map_of_mem hrow, ?_⟩
      split <;> rfl
    intro row hrow
    refine ⟨_, List.mem_map_of_mem hrow, ?_⟩
    split <;> exact ⟨rfl, rfl⟩
  | retired actorId parentId studentIds daysValid =>
    simp only [activationStep]
    rcases insertCode_cases sha256 draw actorId parentId studentIds daysValid d with
      ⟨codes, new, hpush, -, hparent, -, hused, -, hnext⟩ | ⟨hnext, -⟩
    · obtain ⟨-, hrows⟩ := Keyed.push?_eq_some hpush
      have hold : ∀ row ∈ d.codes.rows, row ∈ codes.rows := by
        intro row hrow
        rw [hrows]
        exact List.mem_cons_of_mem _ hrow
      rw [hnext]
      refine ⟨⟨?_, ?_, ?_⟩, ⟨fun _ h => h, ?_, fun _ h => h⟩, trivial⟩
      · intro row hrow
        dsimp only at hrow ⊢
        rw [hrows] at hrow
        rcases List.mem_cons.1 hrow with rfl | hrow
        · rw [hparent]
          exact h
        · exact hd.users row hrow
      · intro row hrow husedRow
        dsimp only at hrow ⊢
        rw [hrows] at hrow
        rcases List.mem_cons.1 hrow with rfl | hrow
        · rw [hused] at husedRow
          cases husedRow
        · exact hd.used row hrow husedRow
      · intro id hid
        obtain ⟨row, hrow, heq⟩ := hd.spent id hid
        exact ⟨row, hold row hrow, heq⟩
      · exact fun row hrow => ⟨row, hold row hrow, rfl, rfl⟩
    rw [hnext]
    exact ⟨hd, .refl d, trivial⟩
  | matched id parentId password =>
    have husers : ∀ userId, (d.users userId).isSome = true →
        ((setPassword (hashPassword draw.salt password) id parentId d).users userId).isSome
          = true := by
      intro userId huser
      simp only [setPassword]
      split
      · rw [Option.isSome_map]
        exact huser
      · exact huser
    have hspent : ∀ id' ∈ d.spent, id' ∈ d.spent ++ [id] :=
      fun id' hid' => List.mem_append_left _ hid'
    refine ⟨⟨?_, ?_, ?_⟩, ⟨husers, fun row hrow => ⟨row, hrow, rfl, rfl⟩, hspent⟩, ?_, h⟩
    · exact fun row hrow => husers _ (hd.users row hrow)
    · exact fun row hrow hused => hspent _ (hd.used row hrow hused)
    · intro id' hid'
      rcases List.mem_append.1 hid' with hold | hnew
      · exact hd.spent id' hold
      obtain ⟨row, hrow, hid, -⟩ := h
      exact ⟨row, hrow, hid.trans (List.mem_singleton.1 hnew).symm⟩
    · exact List.mem_append_right _ (List.mem_singleton.2 rfl)
  | passwordSet id parentId =>
    refine ⟨⟨?_, ?_, ?_⟩, ⟨fun _ h => h, ?_, fun _ h => h⟩, trivial⟩
    · intro row' hrow'
      obtain ⟨row, hrow, -, hparent, -⟩ := (age_markUsed id d).rows row' hrow'
      exact hparent ▸ hd.users row hrow
    · intro row' hrow' hused
      obtain ⟨row, hrow, rfl⟩ := List.mem_map.1 hrow'
      split at hused
      · rename_i hid
        rw [if_pos hid, of_decide_eq_true hid]
        exact h.1
      rename_i hid
      rw [if_neg hid]
      exact hd.used row hrow hused
    · intro id' hid'
      obtain ⟨row, hrow, rfl⟩ := hd.spent id' hid'
      refine ⟨_, List.mem_map_of_mem hrow, ?_⟩
      split <;> rfl
    intro row hrow
    refine ⟨_, List.mem_map_of_mem hrow, ?_⟩
    split <;> exact ⟨rfl, rfl⟩
  | issued | previewed | activated | refused => exact ⟨hd, .refl d, trivial⟩

theorem activationChange_ok (change : ActivationChange) (hd : CodesKnown d) :
    CodesKnown (change.apply d) ∧ CodesStay d (change.apply d) := by
  cases change with
  | saveUser id user =>
    have husers : ∀ userId, (d.users userId).isSome = true →
        ((ActivationChange.apply d (.saveUser id user)).users userId).isSome = true := by
      intro userId huser
      simp only [ActivationChange.apply]
      split
      · rfl
      · exact huser
    exact ⟨⟨fun row hrow => husers _ (hd.users row hrow), hd.used, hd.spent⟩,
      husers, fun row hrow => ⟨row, hrow, rfl, rfl⟩, fun _ h => h⟩
  | setLinks links => exact ⟨⟨hd.users, hd.used, hd.spent⟩,
      fun _ h => h, fun row hrow => ⟨row, hrow, rfl, rfl⟩, fun _ h => h⟩
  | setEnabled enabled => exact ⟨⟨hd.users, hd.used, hd.spent⟩,
      fun _ h => h, fun row hrow => ⟨row, hrow, rfl, rfl⟩, fun _ h => h⟩
  | pass milliseconds => exact ⟨⟨hd.users, hd.used, hd.spent⟩,
      fun _ h => h, fun row hrow => ⟨row, hrow, rfl, rfl⟩, fun _ h => h⟩

/-- The bookkeeping is kept by every step. -/
theorem activation_ok_step (e : ActivationEvent) (hd : CodesKnown s.shared)
    (hcalls : ∀ call ∈ s.calls, call.Ok s.shared) :
    CodesKnown ((activationService sha256 hashPassword).step e s).shared
      ∧ ∀ call ∈ ((activationService sha256 hashPassword).step e s).calls,
        call.Ok ((activationService sha256 hashPassword).step e s).shared := by
  refine Service.invariant_step (W := CodesKnown) (Q := fun d call => call.Ok d) ?_ ?_ ?_ ?_ ?_
    hd hcalls
  · exact fun request d _ => trivial
  · exact fun draw call d hd hcall => (activationStep_ok draw hd hcall).1
  · exact fun draw call d hd hcall => (activationStep_ok draw hd hcall).2.2
  · intro draw call d hd hcall call' hcall'
    have hstay : CodesStay d (activationStep sha256 hashPassword draw call d).2 :=
      (activationStep_ok draw hd hcall).2.1
    exact hcall'.mono hstay.users hstay.rows hstay.spent
  intro change d hd
  obtain ⟨hd', hstay⟩ := activationChange_ok change hd
  exact ⟨hd', fun call hcall => hcall.mono hstay.users hstay.rows hstay.spent⟩

/-! ## One step -/

/-- Codes are found, one that stands while the feature is on; one that a password was set with is
marked, or about to be; and one that is retired has a successor, or is about to. -/
structure CodesSound (s : ActivationState) : Prop where
  found : CodesFound s.shared
  enabled : ∀ row ∈ s.shared.codes.rows, CodeStands row s.shared → s.shared.enabled = true
  marked : ∀ row ∈ s.shared.codes.rows, row.id ∈ s.shared.spent →
    row.used = true ∨ ∃ call ∈ s.calls, ∃ parentId, call = .passwordSet row.id parentId
  replaced : ∀ row ∈ s.shared.codes.rows, row.recovered = true →
    (∃ later ∈ s.shared.codes.newer row.id, later.parentId = row.parentId)
      ∨ ∃ call ∈ s.calls, ∃ actorId studentIds daysValid,
        call = .retired actorId row.parentId studentIds daysValid

/-- A statement that ages the codes keeps them sound, when it keeps the feature and accounts for
the codes that are used or retired. -/
theorem CodesSound.of_age (h : CodesSound s) (hcall : s.calls[i]? = some call)
    (hnext : activationStep sha256 hashPassword draw call s.shared = (call', d'))
    (hage : CodesAge s.shared d') (henabled : d'.enabled = s.shared.enabled)
    (hmarked : ∀ row' ∈ d'.codes.rows, row'.id ∈ d'.spent → row'.used = true
      ∨ (∃ parentId, call' = .passwordSet row'.id parentId)
      ∨ ∃ row ∈ s.shared.codes.rows, row.id = row'.id ∧ row.id ∈ s.shared.spent
        ∧ (row.used = true → row'.used = true) ∧ ∀ parentId, call ≠ .passwordSet row.id parentId)
    (hreplaced : ∀ row' ∈ d'.codes.rows, row'.recovered = true →
      (∃ actorId studentIds daysValid, call' = .retired actorId row'.parentId studentIds daysValid)
      ∨ ∃ row ∈ s.shared.codes.rows, row.id = row'.id ∧ row.parentId = row'.parentId
        ∧ row.recovered = true)
    (hretired : ∀ actorId parentId studentIds daysValid,
      call ≠ .retired actorId parentId studentIds daysValid) :
    CodesSound ((activationService sha256 hashPassword).step (.advance i draw) s) := by
  have hshared : ((activationService sha256 hashPassword).step (.advance i draw) s).shared
      = d' := by
    rw [Service.step_advance hcall]
    exact congrArg Prod.snd hnext
  have hmoved : call'
      ∈ ((activationService sha256 hashPassword).step (.advance i draw) s).calls := by
    rw [← show ((activationService sha256 hashPassword).next draw call s.shared).1 = call' from
      congrArg Prod.fst hnext]
    exact Service.mem_calls_moved hcall
  refine ⟨?_, ?_, ?_, ?_⟩
  · rw [hshared]
    exact h.found.age hage
  · rw [hshared]
    intro row' hrow' hstands
    obtain ⟨row, hrow, hid, hparent, -, hexpires, -, hrecovered⟩ := hage.rows row' hrow'
    rw [henabled]
    exact h.enabled row hrow (hage.stands hid hparent hexpires hrecovered hstands)
  · rw [hshared]
    intro row' hrow' hspent
    rcases hmarked row' hrow' hspent with hused | hset | hold
    · exact Or.inl hused
    · obtain ⟨parentId, hset⟩ := hset
      exact Or.inr ⟨call', hmoved, parentId, hset⟩
    obtain ⟨row, hrow, hid, hspent, hused, hother⟩ := hold
    rcases h.marked row hrow hspent with hmark | hpending
    · exact Or.inl (hused hmark)
    rcases Service.exists_call_advance (S := activationService sha256 hashPassword) (x := draw)
      hcall hpending with hself | hstill
    · obtain ⟨parentId, hself⟩ := hself
      exact absurd hself (hother parentId)
    rw [hid] at hstill
    exact Or.inr hstill
  rw [hshared]
  intro row' hrow' hrecovered
  rcases hreplaced row' hrow' hrecovered with hnew | hold
  · obtain ⟨actorId, studentIds, daysValid, hnew⟩ := hnew
    exact Or.inr ⟨call', hmoved, actorId, studentIds, daysValid, hnew⟩
  obtain ⟨row, hrow, hid, hparent, hrow'⟩ := hold
  rw [← hid, ← hparent]
  rcases h.replaced row hrow hrow' with hlater | hpending
  · obtain ⟨later, hlater, hsame⟩ := hlater
    obtain ⟨later', hlater', hsame'⟩ := hage.mem_newer.2 later hlater
    exact Or.inl ⟨later', hlater', hsame'.trans hsame⟩
  rcases Service.exists_call_advance (S := activationService sha256 hashPassword) (x := draw)
    hcall hpending with hself | hstill
  · obtain ⟨actorId, studentIds, daysValid, hself⟩ := hself
    exact absurd hself (hretired _ _ _ _)
  · exact Or.inr hstill

theorem CodesSound.idle (h : CodesSound s) (hcall : s.calls[i]? = some call)
    (hnext : activationStep sha256 hashPassword draw call s.shared = (call', s.shared))
    (hset : ∀ id parentId, call ≠ .passwordSet id parentId)
    (hretired : ∀ actorId parentId studentIds daysValid,
      call ≠ .retired actorId parentId studentIds daysValid) :
    CodesSound ((activationService sha256 hashPassword).step (.advance i draw) s) := by
  refine h.of_age hcall hnext (.refl _) rfl ?_ ?_ hretired
  · exact fun row hrow hspent => Or.inr (Or.inr ⟨row, hrow, rfl, hspent, id, hset row.id⟩)
  · exact fun row hrow hrecovered => Or.inr ⟨row, hrow, rfl, rfl, hrecovered⟩

/-- The open codes of a parent are retired. -/
theorem CodesSound.retired (h : CodesSound s) {actorId parentId : String}
    {studentIds : List String} {daysValid : Option ℚ}
    (hcall : s.calls[i]? = some (.studentsFound actorId parentId studentIds daysValid)) :
    CodesSound ((activationService sha256 hashPassword).step (.advance i draw) s) := by
  refine h.of_age hcall rfl (age_retireCodes parentId _) rfl ?_ ?_ (fun _ _ _ _ => nofun)
  · intro row' hrow' hspent
    obtain ⟨row, hrow, rfl⟩ := List.mem_map.1 hrow'
    have hid : (if (decide (row.parentId = parentId) && row.isOpen) = true then
        { row with recovered := true } else row).id = row.id := by
      split <;> rfl
    refine Or.inr (Or.inr ⟨row, hrow, hid.symm, hid ▸ hspent, ?_, fun _ => nofun⟩)
    intro hused
    split <;> exact hused
  intro row' hrow' hrecovered
  obtain ⟨row, hrow, rfl⟩ := List.mem_map.1 hrow'
  by_cases hp : (decide (row.parentId = parentId) && row.isOpen) = true
  · rw [if_pos hp]
    rw [Bool.and_eq_true, decide_eq_true_eq] at hp
    exact Or.inl ⟨actorId, studentIds, daysValid, by rw [← hp.1]⟩
  rw [if_neg hp] at hrecovered ⊢
  exact Or.inr ⟨row, hrow, rfl, rfl, hrecovered⟩

/-- A password is set. -/
theorem CodesSound.set (h : CodesSound s) {id parentId password : String}
    (hcall : s.calls[i]? = some (.matched id parentId password)) :
    CodesSound ((activationService sha256 hashPassword).step (.advance i draw) s) := by
  refine h.of_age hcall rfl (age_setPassword _ id parentId _) rfl ?_ ?_ (fun _ _ _ _ => nofun)
  · intro row hrow hspent
    rcases List.mem_append.1 hspent with hold | hnew
    · exact Or.inr (Or.inr ⟨row, hrow, rfl, hold, fun hused => hused, fun _ => nofun⟩)
    rw [List.mem_singleton.1 hnew]
    exact Or.inr (Or.inl ⟨parentId, rfl⟩)
  · exact fun row hrow hrecovered => Or.inr ⟨row, hrow, rfl, rfl, hrecovered⟩

/-- A code is marked as used. -/
theorem CodesSound.mark (h : CodesSound s) {id parentId : String}
    (hcall : s.calls[i]? = some (.passwordSet id parentId)) :
    CodesSound ((activationService sha256 hashPassword).step (.advance i draw) s) := by
  refine h.of_age hcall rfl (age_markUsed id _) rfl ?_ ?_ (fun _ _ _ _ => nofun)
  · intro row' hrow' hspent
    obtain ⟨row, hrow, rfl⟩ := List.mem_map.1 hrow'
    by_cases hid : decide (row.id = id) = true
    · rw [if_pos hid]
      exact Or.inl rfl
    rw [if_neg hid] at hspent ⊢
    refine Or.inr (Or.inr ⟨row, hrow, rfl, hspent, fun hused => hused, ?_⟩)
    intro parentId' heq
    cases heq
    exact hid (decide_eq_true rfl)
  intro row' hrow' hrecovered
  obtain ⟨row, hrow, rfl⟩ := List.mem_map.1 hrow'
  refine Or.inr ⟨row, hrow, ?_⟩
  split at hrecovered
  · rename_i hid
    rw [if_pos hid]
    exact ⟨rfl, rfl, hrecovered⟩
  rename_i hid
  rw [if_neg hid]
  exact ⟨rfl, rfl, hrecovered⟩

/-- A code is inserted. -/
theorem CodesSound.insert (h : CodesSound s) (hd : CodesKnown s.shared) {actorId parentId : String}
    {studentIds : List String} {daysValid : Option ℚ}
    (hcall : s.calls[i]? = some (.retired actorId parentId studentIds daysValid))
    (hok : CodeStepOk sha256 s (.advance i draw)) :
    CodesSound ((activationService sha256 hashPassword).step (.advance i draw) s) := by
  obtain ⟨henabled, hclosed, hapart⟩ := hok _ hcall
  rcases insertCode_cases sha256 draw actorId parentId studentIds daysValid s.shared with
    ⟨codes, new, hpush, hnewId, hparent, hhash, hused, hrecovered, hnext⟩ | ⟨-, row, hrow, hid⟩
  · obtain ⟨hfresh, hrows⟩ := Keyed.push?_eq_some hpush
    have hshared : ((activationService sha256 hashPassword).step (.advance i draw) s).shared
        = { s.shared with codes } := by
      rw [Service.step_advance hcall]
      exact congrArg Prod.snd hnext
    have hcases : ∀ row ∈ codes.rows, row = new ∨ row ∈ s.shared.codes.rows := by
      intro row hrow
      rw [hrows] at hrow
      exact List.mem_cons.1 hrow
    refine ⟨?_, ?_, ?_, ?_⟩
    · rw [hshared]
      refine codesFound_insert hpush h.found ?_ ?_
      · intro row hrow hsame
        exact (hclosed row hrow).2 (hsame.trans hparent)
      intro row hrow hstands
      rw [hhash]
      exact hapart row hrow hstands
    · rw [hshared]
      exact fun _ _ _ => henabled
    · rw [hshared]
      intro row hrow hspent
      rcases hcases row hrow with rfl | hold
      · -- no password was set with a code that is new
        obtain ⟨known, hknown, hsame⟩ := hd.spent _ hspent
        exact absurd hsame (hfresh known hknown)
      rcases h.marked row hold hspent with hmark | hpending
      · exact Or.inl hmark
      rcases Service.exists_call_advance (S := activationService sha256 hashPassword)
        (x := draw) hcall hpending with hself | hstill
      · obtain ⟨_, hself⟩ := hself
        cases hself
      · exact Or.inr hstill
    rw [hshared]
    intro row hrow hrowRecovered
    dsimp only
    rcases hcases row hrow with rfl | hold
    · rw [hrecovered] at hrowRecovered
      cases hrowRecovered
    rw [Keyed.newer_push? hpush (hfresh row hold).symm]
    rcases h.replaced row hold hrowRecovered with hlater | hpending
    · obtain ⟨later, hlater, hsame⟩ := hlater
      exact Or.inl ⟨later, List.mem_cons_of_mem _ hlater, hsame⟩
    rcases Service.exists_call_advance (S := activationService sha256 hashPassword)
      (x := draw) hcall hpending with hself | hstill
    · obtain ⟨_, _, _, hself⟩ := hself
      cases hself
      exact Or.inl ⟨new, List.mem_cons_self, hparent⟩
    · exact Or.inr hstill
  · exact absurd hid (hclosed row hrow).1

/-- **One step that keeps to the conditions keeps codes sound.** -/
theorem codesSound_step (e : ActivationEvent) (h : CodesSound s) (hd : CodesKnown s.shared)
    (hok : CodeStepOk sha256 s e) :
    CodesSound ((activationService sha256 hashPassword).step e s) := by
  cases e with
  | call request =>
    refine ⟨h.found, h.enabled, ?_, ?_⟩
    · intro row hrow hspent
      rcases h.marked row hrow hspent with hmark | hpending
      · exact Or.inl hmark
      obtain ⟨call, hcall, hset⟩ := hpending
      exact Or.inr ⟨call, List.mem_append_left _ hcall, hset⟩
    intro row hrow hrecovered
    rcases h.replaced row hrow hrecovered with hlater | hpending
    · exact Or.inl hlater
    obtain ⟨call, hcall, hretired⟩ := hpending
    exact Or.inr ⟨call, List.mem_append_left _ hcall, hretired⟩
  | other change =>
    have hage := age_change change s.shared
    have hcodes : (change.apply s.shared).codes = s.shared.codes := by
      cases change <;> rfl
    have hspent : (change.apply s.shared).spent = s.shared.spent := by
      cases change <;> rfl
    have hstood : ∀ row ∈ (change.apply s.shared).codes.rows,
        CodeStands row (change.apply s.shared) →
          row ∈ s.shared.codes.rows ∧ CodeStands row s.shared := by
      intro row hrow hstands
      rw [hcodes] at hrow
      exact ⟨hrow, hage.stands rfl rfl rfl (fun hrecovered => hrecovered) hstands⟩
    refine ⟨h.found.age hage, ?_, ?_, ?_⟩
    · intro row hrow hstands
      obtain ⟨hold, hstoodRow⟩ := hstood row hrow hstands
      cases change with
      | saveUser id user => exact h.enabled row hold hstoodRow
      | setLinks links => exact h.enabled row hold hstoodRow
      | pass milliseconds => exact h.enabled row hold hstoodRow
      | setEnabled enabled =>
        cases enabled with
        | true => rfl
        | false => exact absurd hstoodRow (hok row hold)
    · intro row hrow hused
      rw [Service.step_other] at hrow hused ⊢
      exact h.marked row (hcodes ▸ hrow) (hspent ▸ hused)
    intro row hrow hrecovered
    have hold := h.replaced row (hcodes ▸ hrow) hrecovered
    rw [← hcodes] at hold
    exact hold
  | advance i draw =>
    cases hcall : s.calls[i]? with
    | none =>
      rw [Service.step_advance_none hcall]
      exact h
    | some call =>
      cases call with
      | asked request =>
        cases request <;> exact h.idle hcall rfl (fun _ _ => nofun) fun _ _ _ _ => nofun
      | studentsFound actorId parentId studentIds daysValid => exact h.retired hcall
      | retired actorId parentId studentIds daysValid => exact h.insert hd hcall hok
      | matched id parentId password => exact h.set hcall
      | passwordSet id parentId => exact h.mark hcall
      | parentFound | issued | previewed | activated | refused =>
        exact h.idle hcall rfl (fun _ _ => nofun) fun _ _ _ _ => nofun

/-! ## What follows -/

/-- A code that stands is open. -/
theorem isOpen_of_stands (hd : CodesKnown d) (hrow : row ∈ d.codes.rows) (h : CodeStands row d) :
    row.isOpen = true := by
  have hnewest := h.newest
  rw [superseded, Bool.or_eq_false_iff] at hnewest
  have hused : row.used = false := by
    cases hrowUsed : row.used with
    | false => rfl
    | true => exact absurd (hd.used row hrow hrowUsed) h.unused
  rw [ActivationCode.isOpen, hused, hnewest.1]
  rfl

theorem superseded_of_isOpen (hfound : CodesFound d) (hrow : row ∈ d.codes.rows)
    (hopen : row.isOpen = true) : superseded row d = false := by
  have hlater := hfound.single row hrow hopen
  rw [ActivationCode.isOpen, Bool.and_eq_true, Bool.not_eq_true', Bool.not_eq_true'] at hopen
  rw [superseded, hopen.2, Bool.false_or, List.any_eq_false]
  intro later hmem hsame
  exact hlater later hmem (of_decide_eq_true hsame)

/-- A code that stands is matched. -/
theorem matchCode_of_stands (hd : CodesKnown d) (hfound : CodesFound d)
    (hrow : row ∈ d.codes.rows) (h : CodeStands row d) (limit : ℕ) (hlimit : 50 ≤ limit)
    (joined : ActivationCode → Bool) (hjoined : joined row = true) {code : String}
    (hcode : hashCode sha256 code = row.codeHash) :
    matchCode sha256 limit joined code d = some row := by
  have hopen := isOpen_of_stands hd hrow h
  have hfew : (d.codes.newer row.id).countP (fun row => row.isOpen && joined row) < limit := by
    have hle : (d.codes.newer row.id).countP (fun row => row.isOpen && joined row)
        ≤ (d.codes.newer row.id).countP ActivationCode.isOpen :=
      List.countP_mono_left fun later _ hboth => (Bool.and_eq_true_iff.1 hboth).1
    have hwindow := hfound.window row hrow h
    omega
  have hrecent : d.codes.recent? limit (fun row => row.isOpen && joined row)
      (fun row => row.codeHash = hashCode sha256 code) = some row := by
    refine Keyed.recent?_eq_some hrow (Bool.and_eq_true_iff.2 ⟨hopen, hjoined⟩)
      (decide_eq_true hcode.symm) ?_ hfew
    intro later hlater
    rw [hcode, decide_eq_false_iff_not]
    exact hfound.hashes row hrow h later hlater
  rw [matchCode, hrecent]
  exact Option.filter_eq_some_iff.2 ⟨rfl, decide_eq_true h.inTime⟩

theorem codesWork_of_sound (h : CodesSound s) (hd : CodesKnown s.shared) :
    CodesWork sha256 s where
  accepted := by
    intro row hrow hstands code hcode
    obtain ⟨user, huser⟩ := Option.isSome_iff_exists.1 (hd.users row hrow)
    have hmatched := matchCode_of_stands hd h.found hrow hstands 100 (by omega) (fun _ => true) rfl
      hcode
    have hpreviewed := matchCode_of_stands hd h.found hrow hstands 50 le_rfl
      (fun row => (s.shared.users row.parentId).isSome) (hd.users row hrow) hcode
    constructor
    · intro password hlong
      rw [matchActivation, if_neg (by omega), h.enabled row hrow hstands, if_neg nofun,
        activationMatch, hmatched]
    refine ⟨user, huser, ?_⟩
    rw [previewCode, previewMatch, hpreviewed]
    simp only [huser]
  refused := by
    intro code row hmatch
    have hfacts : row ∈ s.shared.codes.rows ∧ row.isOpen = true := by
      rcases hmatch with hmatched | hpreviewed
      · exact ⟨(of_matchCode hmatched).1, (of_matchCode hmatched).2.1⟩
      · exact ⟨(of_matchCode hpreviewed).1, (of_matchCode hpreviewed).2.1⟩
    obtain ⟨hrow, hopen⟩ := hfacts
    refine ⟨superseded_of_isOpen h.found hrow hopen, ?_⟩
    intro hspent
    rcases h.marked row hrow hspent with hused | hpending
    · rw [ActivationCode.isOpen, hused] at hopen
      cases hopen
    · exact hpending
  replaced := h.replaced

theorem setsOnce_of_ok (h : CodesSound s) (hcalls : ∀ call ∈ s.calls, call.Ok s.shared)
    {e : ActivationEvent} (hok : CodeStepOk sha256 s e) : SetsOnce s e := by
  cases e with
  | call request => trivial
  | other change => trivial
  | advance i draw =>
    intro id parentId password hcall
    obtain ⟨hopen, hnone⟩ := hok _ hcall
    obtain ⟨row, hrow, hid, hparent⟩ := hcalls _ (List.mem_of_getElem? hcall)
    refine ⟨?_, row, hrow, hid, hparent, superseded_of_isOpen h.found hrow (hopen row hrow hid)⟩
    intro hspent
    rcases h.marked row hrow (hid ▸ hspent) with hused | hpending
    · have hrowOpen := hopen row hrow hid
      rw [ActivationCode.isOpen, hused] at hrowOpen
      cases hrowOpen
    obtain ⟨call, hmem, parentId', hset⟩ := hpending
    rw [hid] at hset
    exact hnone call hmem parentId' hset

end Requests

/-! ## Runs -/

/-- A school without codes. -/
def activationStart (users : String → Option ParentUser) (links : String → List String)
    (enabled : Bool) (now : ℤ) : ActivationState :=
  { shared := { users, links, enabled, now } }

/-- **Codes work throughout a run**, and passwords are set once with each, when a code is inserted
only under a new id while the feature is on, with no open code of its parent, none that stands with
its hash, and fewer than 49 open ones newer than any that stands; when a password is set only with
a code that is still open and that no other request is about to mark; and when the feature is not
turned off while a code stands. -/
theorem codes_work (sha256 : String → String) (hashPassword : String → String → String)
    (users : String → Option ParentUser) (links : String → List String) (enabled : Bool) (now : ℤ)
    (es : List ActivationEvent)
    (hes : Along (activationService sha256 hashPassword).step (CodeStepOk sha256)
      (activationStart users links enabled now) es) :
    (∀ pre, pre <+: es → CodesWork sha256
        (run (activationService sha256 hashPassword).step (activationStart users links enabled now)
          pre))
      ∧ Along (activationService sha256 hashPassword).step SetsOnce
        (activationStart users links enabled now) es := by
  have hstart : CodesSound (activationStart users links enabled now)
      ∧ CodesKnown (activationStart users links enabled now).shared
      ∧ ∀ call ∈ (activationStart users links enabled now).calls,
        call.Ok (activationStart users links enabled now).shared := by
    refine ⟨⟨⟨nofun, nofun, nofun⟩, nofun, nofun, nofun⟩, ⟨nofun, nofun, nofun⟩, nofun⟩
  have hstep : ∀ (s : ActivationState) (e : ActivationEvent), (CodesSound s
      ∧ CodesKnown s.shared ∧ ∀ call ∈ s.calls, call.Ok s.shared) → CodeStepOk sha256 s e →
      CodesSound ((activationService sha256 hashPassword).step e s)
        ∧ CodesKnown ((activationService sha256 hashPassword).step e s).shared
        ∧ ∀ call ∈ ((activationService sha256 hashPassword).step e s).calls,
          call.Ok ((activationService sha256 hashPassword).step e s).shared :=
    fun s e hs hok => ⟨codesSound_step e hs.1 hs.2.1 hok, activation_ok_step e hs.2.1 hs.2.2⟩
  constructor
  · intro pre hpre
    have hs := along_invariant_throughout hstep hstart hes hpre
    exact codesWork_of_sound hs.1 hs.2.1
  · exact Along.of_invariant hstep (fun s e hs hok => setsOnce_of_ok hs.1 hs.2.2 hok) hstart hes

namespace Example

def parentOf (id : String) : Option ParentUser :=
  some { name := id, email := id, roles := ["parent"] }

/-- The requests of an issue up to its insert, as call `i`. -/
def issueCode (i : ℕ) (parentId code : String) : List ActivationEvent :=
  [.call (.issue "admin" { parentId }), .advance i ⟨"", "", ""⟩, .advance i ⟨"", "", ""⟩,
    .advance i ⟨"", "", ""⟩, .advance i ⟨parentId, code, ""⟩]

def activateCode (i : ℕ) (code : String) : List ActivationEvent :=
  [.call (.activate code "password"), .advance i ⟨"", "", ""⟩, .advance i ⟨"", "", ""⟩,
    .advance i ⟨"", "", ""⟩]

def manyCodes : List ActivationEvent :=
  (List.range 51).flatMap fun i => issueCode i (toString i) (toString i)

/-- Two activations find one code before either uses it. -/
def twiceUsed : List ActivationEvent :=
  issueCode 0 "p" "ABCD2345" ++ [.call (.activate "ABCD2345" "password"),
    .call (.activate "ABCD2345" "wordpass"), .advance 1 ⟨"", "", ""⟩, .advance 2 ⟨"", "", ""⟩,
    .advance 1 ⟨"", "", ""⟩, .advance 2 ⟨"", "", ""⟩]

/-- The request has set a password and is about to mark the code. -/
def hasSet : ActivationCall → Bool
  | .passwordSet _ _ => true
  | _ => false

end Example

/-- A code is issued and used. -/
theorem codes_work_once :
    CodesWork (fun text => text) (run (activationService (fun text => text) fun _ text => text).step
      (activationStart Example.parentOf (fun _ => []) true 0)
      (Example.issueCode 0 "p" "ABCD2345" ++ Example.activateCode 1 "ABCD2345")) := by
  refine (codes_work (fun text => text) (fun _ text => text) Example.parentOf (fun _ => []) true 0
    (Example.issueCode 0 "p" "ABCD2345" ++ Example.activateCode 1 "ABCD2345") ?_).1 _
    List.prefix_rfl
  refine ⟨trivial, ?_, ?_, ?_, ?_, trivial, ?_, ?_, ?_, trivial⟩
  · intro call hcall
    cases hcall
    trivial
  · intro call hcall
    cases hcall
    trivial
  · intro call hcall
    cases hcall
    trivial
  · intro call hcall
    cases hcall
    exact ⟨rfl, nofun, nofun⟩
  · intro call hcall
    cases hcall
    trivial
  · -- the activation has found the code
    intro call hcall
    have hmatched : (run (activationService (fun text => text) fun _ text => text).step
        (activationStart Example.parentOf (fun _ => []) true 0)
        (Example.issueCode 0 "p" "ABCD2345" ++ Example.activateCode 1 "ABCD2345").dropLast.dropLast
          ).calls[1]? = some (.matched "p" "p" "password") := by decide +kernel
    cases hmatched.symm.trans hcall
    refine ⟨by decide +kernel, ?_⟩
    have hcalls : ∀ call ∈ (run (activationService (fun text => text) fun _ text => text).step
        (activationStart Example.parentOf (fun _ => []) true 0)
        (Example.issueCode 0 "p" "ABCD2345" ++ Example.activateCode 1 "ABCD2345").dropLast.dropLast
          ).calls, Example.hasSet call = false := by decide +kernel
    intro call hmem parentId heq
    cases heq
    cases hcalls _ hmem
  intro call hcall
  have hset : (run (activationService (fun text => text) fun _ text => text).step
      (activationStart Example.parentOf (fun _ => []) true 0)
      (Example.issueCode 0 "p" "ABCD2345" ++ Example.activateCode 1 "ABCD2345").dropLast
        ).calls[1]? = some (.passwordSet "p" "p") := by decide +kernel
  cases hset.symm.trans hcall
  trivial

instance (row : ActivationCode) (d : ActivationStores) : Decidable (CodeStands row d) :=
  decidable_of_iff (row.id ∉ d.spent ∧ superseded row d = false ∧ d.now ≤ row.expiresAt)
    ⟨fun h => ⟨h.1, h.2.1, h.2.2⟩, fun h => ⟨h.1, h.2, h.3⟩⟩

/-- Codes do not always work: of 51 outstanding ones the oldest is refused by a preview, and two
activations at once set a password with one code. -/
theorem not_codes_work :
    (∃ row ∈ (run (activationService (fun text => text) fun _ text => text).step
        (activationStart Example.parentOf (fun _ => []) true 0)
        Example.manyCodes).shared.codes.rows,
      CodeStands row (run (activationService (fun text => text) fun _ text => text).step
          (activationStart Example.parentOf (fun _ => []) true 0) Example.manyCodes).shared
        ∧ hashCode (fun text => text) "0" = row.codeHash
        ∧ previewMatch (fun text => text) "0"
          (run (activationService (fun text => text) fun _ text => text).step
            (activationStart Example.parentOf (fun _ => []) true 0) Example.manyCodes).shared = none)
      ∧ (run (activationService (fun text => text) fun _ text => text).step
        (activationStart Example.parentOf (fun _ => []) true 0) Example.twiceUsed).shared.spent
          = ["p", "p"] := by
  constructor
  · decide +kernel
  · decide +kernel

end MultiAcademy.School
