import MultiAcademy.Control.BlockForms

/-!
# When an import blocks what was written

The tests of `import_blocks_csv` against the forms of a line, first for one line and then for
the whole text.  A line with an at sign, a slash or nothing but digits is taken for an address
even where it has a type of its own or is none; a line that no test knows is taken for an e-mail
address; and an IPv6 address with a letter in it is taken for a type and a value.
-/

namespace MultiAcademy.Control

open MultiAcademy.Lib

/-! ## One line -/

section Line
variable {text : CaseMap} {createdBy : String} {db : Db} {raw line : List Char}

def LineOutcome.reading : LineOutcome → Reading BlockRow
  | .passed => .passed
  | .skipped _ => .skipped
  | .created row => .taken row

/-- The import reads the line as it is written. -/
def ReadsAs (text : CaseMap) (createdBy : String) (db : Db) (raw : List Char) : Prop :=
  ∃ outcome, importedLine text createdBy db raw = .ok outcome
    ∧ outcome.reading = writtenReading text createdBy db raw

def isPassed (raw : List Char) : Prop := stripText raw = [] ∨ (stripText raw).head? = some '#'

/-- The row that a line asks for, if `create_block` makes it. -/
def writtenRow (text : CaseMap) (createdBy : String) (db : Db) (line : List Char) :
    Option BlockRow :=
  (writtenBody text db line).bind fun body => (createRow createdBy body db).toOption

theorem writtenReading_of_not (h : ¬ isPassed raw) :
    writtenReading text createdBy db raw
      = ((writtenRow text createdBy db (stripText raw)).elim .skipped .taken) := by
  unfold isPassed at h
  rw [writtenReading, if_neg h, writtenRow]
  split
  · rename_i row hrow
    rw [hrow]
    rfl
  rename_i hrow
  rw [hrow]
  rfl

theorem createRow_eq {body : BlockBody} (htype : body.targetType ∈ blockTargetTypes)
    (hreason : body.reason ≠ "") (htenant : ∀ t ∈ body.tenantId, (db.tenants[t]?).isSome = true) :
    (createRow createdBy body db).toOption
      = if (body.row createdBy).fits then some (body.row createdBy) else none := by
  have hknown : ¬ (body.tenantId.any fun t => (db.tenants[t]?).isNone) = true := by
    intro hany
    obtain ⟨t, ht, hnone⟩ := (Option.any_eq_true _ _).1 hany
    rw [Option.isNone_iff_eq_none] at hnone
    have hsome := htenant t ht
    rw [hnone] at hsome
    cases hsome
  rw [createRow, if_neg (not_not_intro htype), if_neg hreason, if_neg hknown]
  split <;> rfl

variable {targetType value : String}

theorem plainBody_row (htype : targetType ∈ blockTargetTypes) :
    (createRow createdBy { targetType, value, reason := "Bulk CSV import" } db).toOption
      = if (plainRow createdBy targetType value).fits then
          some (plainRow createdBy targetType value)
        else none :=
  createRow_eq htype (show "Bulk CSV import" ≠ "" by decide) nofun

/-- A draft without a tenant is written if the columns take it. -/
theorem importedLine_plain (hpassed : ¬ isPassed raw)
    (hdraft : classify text (stripText raw) = .ok { targetType, value })
    (htype : targetType ∈ blockTargetTypes) :
    importedLine text createdBy db raw
      = if (plainRow createdBy targetType value).fits then
          .ok (.created (plainRow createdBy targetType value))
        else .error serverError := by
  rw [importedLine]
  simp only [isPassed] at hpassed
  simp only [if_neg hpassed, hdraft, if_neg (not_not_intro htype), flushRow, Option.any_none,
    Bool.false_or, Option.bind_none]
  cases hfits : (plainRow createdBy targetType value).fits with
  | true =>
    rw [if_neg]
    · rfl
    rw [Bool.not_eq_true', ← Bool.not_eq_true, not_not]
    exact hfits
  | false =>
    rw [if_pos]
    · rfl
    rw [Bool.not_eq_true']
    exact hfits

theorem readsAs_plain_iff (hpassed : ¬ isPassed raw)
    (hdraft : classify text (stripText raw) = .ok { targetType, value })
    (htype : targetType ∈ blockTargetTypes) :
    ReadsAs text createdBy db raw
      ↔ (plainRow createdBy targetType value).fits = true
        ∧ writtenRow text createdBy db (stripText raw)
          = some (plainRow createdBy targetType value) := by
  rw [ReadsAs, importedLine_plain hpassed hdraft htype, writtenReading_of_not hpassed]
  cases hfits : (plainRow createdBy targetType value).fits with
  | false => simp
  | true =>
    cases hrow : writtenRow text createdBy db (stripText raw) <;>
      simp [LineOutcome.reading, eq_comm]

/-- A form of a line that is read off before another. -/
theorem writtenRow_of_not (hnames : ¬ namesType (fields line) = true)
    (hcolon : ¬ (':' ∈ line ∧ typePrefix line ∈ blockTargetTypes)) :
    writtenRow text createdBy db line
      = if isMail line then
          if (plainRow createdBy "email" (text.lower (String.ofList line))).fits then
            some (plainRow createdBy "email" (text.lower (String.ofList line)))
          else none
        else if isAddress line then
          if (plainRow createdBy "ip" (String.ofList line)).fits then
            some (plainRow createdBy "ip" (String.ofList line))
          else none
        else none := by
  rw [writtenRow, writtenBody, if_neg hnames, if_neg hcolon]
  split
  · exact plainBody_row (by decide)
  split
  · exact plainBody_row (by decide)
  · rfl

theorem writtenRow_colon (hnames : ¬ namesType (fields line) = true)
    (hcolon : ':' ∈ line ∧ typePrefix line ∈ blockTargetTypes) :
    writtenRow text createdBy db line
      = if (plainRow createdBy (typePrefix line)
            (String.ofList ((line.dropWhile (· ≠ ':')).drop 1))).fits then
          some (plainRow createdBy (typePrefix line)
            (String.ofList ((line.dropWhile (· ≠ ':')).drop 1)))
        else none := by
  rw [writtenRow, writtenBody, if_neg hnames, if_pos hcolon]
  exact plainBody_row hcolon.2

def fieldsRow (createdBy : String) (parts : List String) (tenantId : Option ℕ) : BlockRow :=
  { targetType := parts.headD "", value := parts.getD 1 "", tenantId
    reason := parts.getD 2 "Bulk CSV import", createdBy }

/-- The tenant that the import reads in the fields; `none` is an exception. -/
def fieldsTenant (db : Db) (parts : List String) : Option (Option ℕ) :=
  match (parts[3]?.map String.toList).filter allDigits with
  | none => some none
  | some digits => ((intOf digits).bind (rowOfPublicId db)).map some

theorem importedLine_fields (hpassed : ¬ isPassed raw)
    (hnames : namesType (fields (stripText raw)) = true) :
    importedLine text createdBy db raw
      = match fieldsTenant db (fields (stripText raw)) with
        | none => .error serverError
        | some tenantId =>
          if (fieldsRow createdBy (fields (stripText raw)) tenantId).fits then
            .ok (.created (fieldsRow createdBy (fields (stripText raw)) tenantId))
          else .error serverError := by
  unfold isPassed at hpassed
  generalize hparts : fields (stripText raw) = parts at *
  have htype : parts.headD "" ∈ blockTargetTypes := by
    simp only [namesType, Bool.and_eq_true, decide_eq_true_eq] at hnames
    exact hnames.2
  have hdraft : classify text (stripText raw) = .ok
      { targetType := parts.headD "", value := parts.getD 1 ""
        reason := parts.getD 2 "Bulk CSV import"
        tenant := (parts[3]?.map String.toList).filter allDigits } := by
    simp only [namesType, Bool.and_eq_true, decide_eq_true_eq] at hnames
    rw [classify, hparts, if_pos hnames]
  have hflush : ∀ tenantRef, ¬ (tenantRef.any fun ref => (rowOfPublicId db ref).isNone) = true →
      flushRow createdBy
          { targetType := parts.headD "", value := parts.getD 1 ""
            reason := parts.getD 2 "Bulk CSV import"
            tenant := (parts[3]?.map String.toList).filter allDigits } tenantRef db
        = if (fieldsRow createdBy parts (tenantRef.bind (rowOfPublicId db))).fits then
            .ok (.created (fieldsRow createdBy parts (tenantRef.bind (rowOfPublicId db))))
          else .error serverError := by
    intro tenantRef hknown
    simp only [flushRow]
    rw [Bool.not_eq_true] at hknown
    rw [hknown, Bool.false_or]
    cases hfits : (fieldsRow createdBy parts (tenantRef.bind (rowOfPublicId db))).fits with
    | true =>
      rw [if_neg]
      · rfl
      rw [Bool.not_eq_true', ← Bool.not_eq_true, not_not]
      exact hfits
    | false =>
      rw [if_pos]
      · rfl
      rw [Bool.not_eq_true']
      exact hfits
  rw [importedLine]
  simp only [if_neg hpassed, hdraft, if_neg (not_not_intro htype), fieldsTenant]
  cases hfield : (parts[3]?.map String.toList).filter allDigits with
  | none =>
    rw [hfield] at hflush
    exact hflush none Bool.false_ne_true
  | some digits =>
    rw [hfield] at hflush
    cases hint : intOf digits with
    | none => simp only [hint, Option.bind_none, Option.map_none]
    | some ref =>
      simp only [hint, Option.bind_some]
      cases hrow : rowOfPublicId db ref with
      | none =>
        simp only [Option.map_none, flushRow]
        exact if_pos (by simp [hrow])
      | some t =>
        have hknown : ¬ ((some ref).any fun ref => (rowOfPublicId db ref).isNone) = true := by
          simp [hrow]
        rw [hflush (some ref) hknown, Option.bind_some, hrow, Option.map_some]

theorem fieldsBody_eq_some {parts : List String} {body : BlockBody}
    (h : fieldsBody db parts = some body) :
    parts.length ≤ 4
      ∧ body.reason = fieldsReason parts
      ∧ (parts.getD 3 "" = "" ∨ allDigits (parts.getD 3 "").toList = true
        ∧ ∃ n, intOf (parts.getD 3 "").toList = some n ∧ (rowOfPublicId db n).isSome = true) := by
  rw [fieldsBody] at h
  split at h
  · cases h
  rename_i hlength
  refine ⟨Nat.le_of_not_lt hlength, ?_⟩
  split at h
  · rename_i hempty
    cases h
    exact ⟨rfl, Or.inl hempty⟩
  split at h
  · rename_i hdigits
    obtain ⟨t, ht, rfl⟩ := Option.map_eq_some_iff.1 h
    obtain ⟨n, hn, hrow⟩ := Option.bind_eq_some_iff.1 ht
    exact ⟨rfl, Or.inr ⟨hdigits, n, hn, by rw [hrow]; rfl⟩⟩
  · cases h

theorem createRow_eq_ok {body : BlockBody} {row : BlockRow}
    (h : createRow createdBy body db = .ok row) : row = body.row createdBy := by
  unfold createRow at h
  split at h
  · cases h
  split at h
  · cases h
  split at h
  · cases h
  split at h
  · cases h
    rfl
  · cases h

theorem fieldsRow_fits (createdBy : String) (parts : List String) (tenantId : Option ℕ) :
    (fieldsRow createdBy parts tenantId).fits
      = (BlockRow.fits
          { targetType := parts.headD "", value := parts.getD 1 ""
            reason := parts.getD 2 "" }) := by
  have hdefault : '\x00' ∉ "Bulk CSV import".toList := by decide
  cases h : parts[2]? with
  | none => simp [BlockRow.fits, fieldsRow, List.getD_eq_getElem?_getD, h]
  | some reason => simp [BlockRow.fits, fieldsRow, List.getD_eq_getElem?_getD, h]

theorem rowOfPublicId_isSome {ref t : ℕ} (h : rowOfPublicId db ref = some t) :
    (db.tenants[t]?).isSome = true := by
  rw [rowOfPublicId] at h
  split at h
  · cases h
  split at h
  · rename_i hsome
    cases h
    exact hsome
  · cases h

/-- A line with fields is read as it is written when its fields are sound. -/
theorem readsAs_fields_iff (hpassed : ¬ isPassed raw)
    (hnames : namesType (fields (stripText raw)) = true) :
    ReadsAs text createdBy db raw ↔ FieldsSound db (fields (stripText raw)) := by
  have htype : (fields (stripText raw)).headD "" ∈ blockTargetTypes := by
    simp only [namesType, Bool.and_eq_true, decide_eq_true_eq] at hnames
    exact hnames.2
  have hwritten : writtenRow text createdBy db (stripText raw)
      = (fieldsBody db (fields (stripText raw))).bind fun body =>
          (createRow createdBy body db).toOption := by
    rw [writtenRow, writtenBody, if_pos hnames]
  rw [ReadsAs, importedLine_fields hpassed hnames, writtenReading_of_not hpassed, hwritten]
  generalize fields (stripText raw) = parts at *
  constructor
  · rintro ⟨outcome, himport, hreading⟩
    cases htenant : fieldsTenant db parts with
    | none =>
      rw [htenant] at himport
      cases himport
    | some tenantId =>
      simp only [htenant] at himport
      split at himport
      · rename_i hfits
        cases himport
        cases hbody : fieldsBody db parts with
        | none =>
          rw [hbody] at hreading
          cases hreading
        | some body =>
          obtain ⟨hlength, hreason, hlast⟩ := fieldsBody_eq_some hbody
          rw [hbody, Option.bind_some] at hreading
          cases hrow : createRow createdBy body db with
          | error e =>
            rw [hrow] at hreading
            cases hreading
          | ok row =>
            rw [hrow] at hreading
            injection hreading with hrows
            have hsame : body.reason = parts.getD 2 "Bulk CSV import" :=
              congrArg BlockRow.reason ((createRow_eq_ok hrow).symm.trans hrows.symm)
            have hgiven : parts[2]? ≠ some "" := by
              intro hempty
              rw [hreason, fieldsReason, List.getD_eq_getElem?_getD,
                List.getD_eq_getElem?_getD, hempty] at hsame
              exact absurd hsame (by decide)
            rw [fieldsRow_fits] at hfits
            exact ⟨hlength, hgiven, hlast, hfits⟩
      · cases himport
  rintro ⟨hlength, hgiven, hlast, hfits⟩
  have hreason : fieldsReason parts = parts.getD 2 "Bulk CSV import" := by
    unfold fieldsReason
    cases h : parts[2]? with
    | none => simp [List.getD_eq_getElem?_getD, h]
    | some reason =>
      have hne : reason ≠ "" := fun heq => hgiven (by rw [h, heq])
      simp [List.getD_eq_getElem?_getD, h, hne]
  have hne : parts.getD 2 "Bulk CSV import" ≠ "" := by
    rw [← hreason, fieldsReason]
    split
    · decide
    · assumption
  -- the body that the fields ask for, with the tenant that both read
  obtain ⟨tenantId, htenant, hknown, hbody⟩ : ∃ tenantId, fieldsTenant db parts = some tenantId
      ∧ (∀ t ∈ tenantId, (db.tenants[t]?).isSome = true)
      ∧ fieldsBody db parts = some
        { targetType := parts.headD "", value := parts.getD 1 "", tenantId
          reason := parts.getD 2 "Bulk CSV import" } := by
    rw [fieldsBody, if_neg (Nat.not_lt.2 hlength)]
    simp only [hreason]
    rcases hlast with hempty | ⟨hdigits, n, hn, hrow⟩
    · rw [if_pos hempty]
      refine ⟨none, ?_, nofun, rfl⟩
      rw [fieldsTenant]
      cases h : parts[3]? with
      | none => rfl
      | some field =>
        have hfield : field = "" := by simpa [List.getD_eq_getElem?_getD, h] using hempty
        rw [hfield]
        rfl
    have hnot : parts.getD 3 "" ≠ "" := by
      intro hempty
      rw [hempty] at hdigits
      cases hdigits
    obtain ⟨t, ht⟩ := Option.isSome_iff_exists.1 hrow
    rw [if_neg hnot, if_pos hdigits, hn, Option.bind_some, ht]
    refine ⟨some t, ?_, ?_, rfl⟩
    · rw [fieldsTenant]
      cases h : parts[3]? with
      | none =>
        rw [List.getD_eq_getElem?_getD, h] at hnot
        exact absurd rfl hnot
      | some field =>
        rw [List.getD_eq_getElem?_getD, h, Option.getD_some] at hdigits hn
        simp only [Option.map_some, Option.filter_some, hdigits, if_true, hn,
          Option.bind_some, ht]
    rintro _ ⟨rfl⟩
    exact rowOfPublicId_isSome ht
  have hfits' := (fieldsRow_fits createdBy parts tenantId).trans hfits
  have hrow : (createRow createdBy
      { targetType := parts.headD "", value := parts.getD 1 "", tenantId
        reason := parts.getD 2 "Bulk CSV import" } db).toOption
      = some (fieldsRow createdBy parts tenantId) :=
    (createRow_eq htype hne hknown).trans (if_pos hfits')
  refine ⟨.created (fieldsRow createdBy parts tenantId), ?_, ?_⟩
  · simp only [htenant, if_pos hfits']
  rw [hbody, Option.bind_some, hrow]
  rfl

/-- The value after the colon is shorter than the line. -/
theorem length_afterColon (h : ':' ∈ line) :
    (String.ofList ((line.dropWhile (· ≠ ':')).drop 1)).length < line.length := by
  have hne : line.dropWhile (· ≠ ':') ≠ [] := by
    intro hnil
    have hall := List.dropWhile_eq_nil_iff.1 hnil ':' h
    exact absurd hall (by decide)
  have hle : (line.dropWhile (· ≠ ':')).length ≤ line.length :=
    (List.dropWhile_suffix _).length_le
  have hpos := List.length_pos_iff.2 hne
  rw [String.length_ofList, List.length_drop]
  omega

/-- **How a line is read**: as it is written exactly when it is passed over, or sound. -/
theorem readsAs_iff (hpassed : ¬ isPassed raw) :
    ReadsAs text createdBy db raw ↔ LineSound text db (stripText raw) := by
  rw [LineSound]
  by_cases hnames : namesType (fields (stripText raw)) = true
  · rw [if_pos hnames]
    exact readsAs_fields_iff hpassed hnames
  have hfields : ¬ (2 ≤ (fields (stripText raw)).length
      ∧ (fields (stripText raw)).headD "" ∈ blockTargetTypes) := by
    simpa [namesType] using hnames
  rw [if_neg hnames]
  generalize hline : stripText raw = line at *
  by_cases hat : '@' ∈ line
  · have hdraft : classify text (stripText raw)
        = .ok { targetType := "email", value := text.lower (String.ofList line) } := by
      rw [hline, classify, if_neg hfields, if_pos hat]
    rw [if_pos hat, readsAs_plain_iff hpassed hdraft (by decide), hline, and_comm]
    refine and_congr_left fun hfits => ?_
    by_cases hcolon : ':' ∈ line ∧ typePrefix line ∈ blockTargetTypes
    · -- the value after the colon is not the whole line
      rw [writtenRow_colon hnames hcolon]
      refine iff_of_false ?_ ?_
      · intro heq
        split at heq
        · have hvalue := congrArg BlockRow.value (Option.some.inj heq)
          have hlong := text.length_le (String.ofList line)
          have hshort := length_afterColon hcolon.1
          simp only [plainRow] at hvalue
          rw [hvalue] at hshort
          rw [String.length_ofList] at hlong
          omega
        · cases heq
      intro hmail
      simp only [isMail, Bool.and_eq_true, List.all_eq_true] at hmail
      exact absurd (hmail.2 ':' hcolon.1) (by decide)
    rw [writtenRow_of_not hnames hcolon]
    by_cases hmail : isMail line = true
    · rw [if_pos hmail, if_pos hfits]
      exact iff_of_true rfl hmail
    rw [if_neg hmail]
    refine iff_of_false ?_ hmail
    intro heq
    split at heq
    · rename_i haddress
      exact absurd (chars_of_isAddress haddress '@' hat) (by decide)
    · cases heq
  rw [if_neg hat]
  have hmail : ¬ isMail line = true := by
    intro hmail
    simp only [isMail, Bool.and_eq_true, decide_eq_true_eq] at hmail
    rw [List.count_eq_zero_of_not_mem hat] at hmail
    exact absurd hmail.1.1.1 (by decide)
  by_cases hdigits : allDigits (line.filter fun c => c ≠ '.' ∧ c ≠ ':') = true ∨ '/' ∈ line
  · have hdraft : classify text (stripText raw)
        = .ok { targetType := "ip", value := String.ofList line } := by
      rw [hline, classify, if_neg hfields, if_neg hat, if_pos hdigits]
    rw [if_pos hdigits, readsAs_plain_iff hpassed hdraft (by decide), hline, and_comm]
    refine and_congr_left fun hfits => ?_
    by_cases hcolon : ':' ∈ line ∧ typePrefix line ∈ blockTargetTypes
    · rw [writtenRow_colon hnames hcolon]
      refine iff_of_false ?_ fun haddress => typePrefix_of_isAddress haddress hcolon.2
      intro heq
      split at heq
      · have hvalue := congrArg BlockRow.value (Option.some.inj heq)
        have hshort := length_afterColon hcolon.1
        simp only [plainRow] at hvalue
        rw [hvalue, String.length_ofList] at hshort
        exact absurd hshort (lt_irrefl _)
      · cases heq
    rw [writtenRow_of_not hnames hcolon, if_neg hmail]
    by_cases haddress : isAddress line = true
    · rw [if_pos haddress, if_pos hfits]
      exact iff_of_true rfl haddress
    rw [if_neg haddress]
    exact iff_of_false (by simp) haddress
  rw [if_neg hdigits]
  by_cases hcolon : ':' ∈ line
  · rw [if_pos hcolon]
    by_cases htype : typePrefix line ∈ blockTargetTypes
    · have hdraft : classify text (stripText raw)
          = .ok
            { targetType := typePrefix line
              value := String.ofList ((line.dropWhile (· ≠ ':')).drop 1) } := by
        rw [hline, classify, if_neg hfields, if_neg hat, if_neg hdigits, if_pos hcolon]
        exact if_pos htype
      rw [if_pos htype, readsAs_plain_iff hpassed hdraft htype, hline,
        writtenRow_colon hnames ⟨hcolon, htype⟩]
      refine and_iff_left_of_imp fun hfits => ?_
      rw [if_pos hfits]
    -- the line is skipped
    have hskipped : importedLine text createdBy db raw
        = .ok (.skipped ("unknown type " ++ typePrefix line)) := by
      unfold isPassed at hpassed
      have hdraft : classify text (stripText raw)
          = .error ("unknown type " ++ typePrefix line) := by
        rw [hline, classify, if_neg hfields, if_neg hat, if_neg hdigits, if_pos hcolon]
        exact if_neg htype
      rw [importedLine]
      simp only [if_neg hpassed, hdraft]
    rw [if_neg htype, ReadsAs, hskipped, writtenReading_of_not hpassed, hline,
      writtenRow_of_not hnames fun h => htype h.2, if_neg hmail]
    by_cases haddress : isAddress line = true
    · rw [if_pos haddress, if_pos (fits_address haddress (not_or.1 hdigits).2 createdBy)]
      simp [LineOutcome.reading, haddress]
    rw [if_neg haddress]
    simp [LineOutcome.reading, haddress]
  -- the line is taken for an e-mail
  have hdraft : classify text (stripText raw)
      = .ok { targetType := "email", value := String.ofList line } := by
    rw [hline, classify, if_neg hfields, if_neg hat, if_neg hdigits, if_neg hcolon]
  rw [if_neg hcolon, readsAs_plain_iff hpassed hdraft (by decide), hline,
    writtenRow_of_not hnames fun h => hcolon h.1, if_neg hmail]
  refine iff_of_false ?_ id
  rintro ⟨-, heq⟩
  split at heq
  · split at heq
    · have htype := congrArg BlockRow.targetType (Option.some.inj heq)
      exact absurd htype (show "ip" ≠ "email" by decide)
    · cases heq
  · cases heq

end Line

/-! ## The whole text -/

section Text
variable {text : CaseMap} {createdBy : String} {s : BlockStore} {lines : List (List Char)}

def importedReading (text : CaseMap) (createdBy : String) (db : Db) (raw : List Char) :
    Reading BlockRow :=
  match importedLine text createdBy db raw with
  | .ok outcome => outcome.reading
  | .error _ => .skipped

/-- The entries of a report for rows that are added. -/
def createdEntries (rows : List BlockRow) (n : ℕ) : List CreatedEntry :=
  (rows.zipIdx n).map fun entry =>
    { id := entry.2, targetType := entry.1.targetType, value := entry.1.value }

/-- What the loop leaves when no line raises. -/
theorem importLines_ok (n : ℕ) (report : ImportReport)
    (h : ∀ raw ∈ lines, ∃ outcome, importedLine text createdBy s.config.db raw = .ok outcome) :
    ∃ after report', importLines text createdBy n lines (s, report) = .ok (after, report')
      ∧ after.rows = s.rows ++ takenOf (importedReading text createdBy s.config.db) lines
      ∧ report'.skipped.map (·.line) = report.skipped.map (·.line)
        ++ skippedOf (importedReading text createdBy s.config.db) n lines
      ∧ report'.created = report.created
        ++ createdEntries (takenOf (importedReading text createdBy s.config.db) lines)
          s.rows.nextId := by
  induction lines generalizing n s report with
  | nil => exact ⟨s, report, rfl, by simp [takenOf], by simp [skippedOf],
      by simp [takenOf, createdEntries]⟩
  | cons raw lines ih =>
    obtain ⟨⟨outcome, hline⟩, hrest⟩ := List.forall_mem_cons.1 h
    have hread : importedReading text createdBy s.config.db raw = outcome.reading := by
      rw [importedReading, hline]
    rw [takenOf_cons, skippedOf, hread]
    cases outcome with
    | passed =>
      obtain ⟨after, report', hrun, hrows, hskipped, hcreated⟩ := ih (n + 1) report hrest
      refine ⟨after, report', ?_, hrows, hskipped, hcreated⟩
      rw [importLines, hline]
      exact hrun
    | skipped reason =>
      obtain ⟨after, report', hrun, hrows, hskipped, hcreated⟩ :=
        ih (n + 1)
          { report with skipped := report.skipped ++ [{ line := n, reason }] } hrest
      refine ⟨after, report', ?_, hrows, ?_, hcreated⟩
      · rw [importLines, hline]
        exact hrun
      rw [hskipped]
      simp [LineOutcome.reading, Reading.isSkipped]
    | created row =>
      have hadded : ∀ raw ∈ lines, ∃ outcome,
          importedLine text createdBy (s.add row).config.db raw = .ok outcome := hrest
      obtain ⟨after, report', hrun, hrows, hskipped, hcreated⟩ :=
        ih (n + 1)
          { report with
            created := report.created ++
              [{ id := s.rows.nextId, targetType := row.targetType, value := row.value }] }
          hadded
      refine ⟨after, report', ?_, ?_, hskipped, ?_⟩
      · rw [importLines, hline]
        exact hrun
      · rw [hrows]
        simp [LineOutcome.reading, Reading.taken?, BlockStore.add, Table.insert]
      rw [hcreated]
      simp [LineOutcome.reading, Reading.taken?, BlockStore.add, Table.insert,
        Table.nextId, createdEntries]

theorem importLines_error (n : ℕ) (report : ImportReport)
    (h : ∃ raw ∈ lines, ∃ e, importedLine text createdBy s.config.db raw = .error e) :
    ∃ e, importLines text createdBy n lines (s, report) = .error e := by
  induction lines generalizing n s report with
  | nil =>
    obtain ⟨raw, hraw, -⟩ := h
    cases hraw
  | cons first lines ih =>
    rw [importLines]
    cases hline : importedLine text createdBy s.config.db first with
    | error e => exact ⟨e, rfl⟩
    | ok outcome =>
      have hrest : ∃ raw ∈ lines, ∃ e,
          importedLine text createdBy s.config.db raw = .error e := by
        obtain ⟨raw, hraw, e, he⟩ := h
        rcases List.mem_cons.1 hraw with rfl | hraw
        · rw [hline] at he
          cases he
        · exact ⟨raw, hraw, e, he⟩
      cases outcome with
      | passed => exact ih _ _ hrest
      | skipped reason => exact ih _ _ hrest
      | created row =>
        have hadded : ∃ raw ∈ lines, ∃ e,
            importedLine text createdBy (s.add row).config.db raw = .error e := hrest
        exact ih _ _ hadded

theorem importedLine_passed {raw : List Char} {db : Db} (h : isPassed raw) :
    importedLine text createdBy db raw = .ok .passed := if_pos h

theorem importedReading_passed_iff {raw : List Char} {db : Db} :
    importedReading text createdBy db raw = .passed ↔ isPassed raw := by
  rw [importedReading]
  by_cases h : isPassed raw
  · rw [importedLine_passed h]
    exact iff_of_true rfl h
  refine iff_of_false ?_ h
  have hflush : ∀ draft tenantRef,
      flushRow createdBy draft tenantRef db ≠ .ok .passed := by
    intro draft tenantRef
    rw [flushRow]
    split <;> nofun
  intro hread
  split at hread
  · rename_i outcome hline
    cases outcome with
    | passed =>
      unfold isPassed at h
      rw [importedLine, if_neg h] at hline
      split at hline
      · cases hline
      split at hline
      · split at hline
        · cases hline
        split at hline
        · cases hline
        · exact hflush _ _ hline
      split at hline
      · cases hline
      · exact hflush _ _ hline
    | skipped reason => cases hread
    | created row => cases hread
  · cases hread

theorem writtenReading_passed_iff {raw : List Char} {db : Db} :
    writtenReading text createdBy db raw = .passed ↔ isPassed raw := by
  by_cases h : isPassed raw
  · exact iff_of_true (if_pos h) h
  refine iff_of_false ?_ h
  rw [writtenReading_of_not h]
  cases writtenRow text createdBy db (stripText raw) <;> nofun

/-- **The import blocks the targets that were written exactly when every line is sound** that
is not blank and no comment. -/
theorem imported_as_written_iff (text : CaseMap) (cfg : Settings) (now : Time)
    (createdBy csvText : String) (s : BlockStore) :
    ImportedAsWritten text createdBy csvText s
        (importBlocksCsv text cfg now createdBy csvText s)
      ↔ ∀ raw ∈ csvLines csvText, ¬ isPassed raw →
          LineSound text s.config.db (stripText raw) := by
  by_cases hblank : stripText csvText.toList = []
  · have hlines : csvLines csvText = [] := by rw [csvLines, hblank, splitlines]
    rw [importBlocksCsv, if_pos hblank, hlines]
    refine iff_of_true ⟨?_, ?_, nofun⟩ nofun
    · simp [hlines, takenOf]
    · simp [hlines, skippedLines, skippedOf]
  have hsound : (∀ raw ∈ csvLines csvText, ¬ isPassed raw →
        LineSound text s.config.db (stripText raw))
      ↔ ∀ raw ∈ csvLines csvText, ReadsAs text createdBy s.config.db raw := by
    refine forall₂_congr fun raw _ => ?_
    by_cases hpassed : isPassed raw
    · refine iff_of_true (absurd hpassed) ⟨.passed, importedLine_passed hpassed, ?_⟩
      exact (writtenReading_passed_iff.2 hpassed).symm
    · exact (forall_prop_of_true hpassed).trans (readsAs_iff hpassed).symm
  rw [hsound, importBlocksCsv, if_neg hblank]
  by_cases hraises : ∃ raw ∈ csvLines csvText, ∃ e,
      importedLine text createdBy s.config.db raw = .error e
  · obtain ⟨e, hrun⟩ := importLines_error 1 {} hraises
    obtain ⟨raw, hraw, e', he⟩ := hraises
    rw [hrun]
    refine iff_of_false ?_ ?_
    · -- a line that raises is not passed over, so something is owed for it
      intro h
      have hskipped := skippedOf_eq_nil_iff.1 h.skipped.symm raw hraw
      have htaken := List.filterMap_eq_nil_iff.1 (List.append_right_eq_self.1 h.rows.symm) raw hraw
      cases hread : writtenReading text createdBy s.config.db raw with
      | passed =>
        rw [importedLine_passed (writtenReading_passed_iff.1 hread)] at he
        cases he
      | skipped =>
        rw [hread] at hskipped
        cases hskipped
      | taken row =>
        rw [hread] at htaken
        cases htaken
    intro h
    obtain ⟨outcome, hok, -⟩ := h raw hraw
    rw [he] at hok
    cases hok
  have hok : ∀ raw ∈ csvLines csvText, ∃ outcome,
      importedLine text createdBy s.config.db raw = .ok outcome := by
    intro raw hraw
    cases hline : importedLine text createdBy s.config.db raw with
    | ok outcome => exact ⟨outcome, rfl⟩
    | error e => exact absurd ⟨raw, hraw, e, hline⟩ hraises
  obtain ⟨after, report, hrun, hrows, hskipped, hcreated⟩ :=
    importLines_ok 1 {} hok
  have hreads : (∀ raw ∈ csvLines csvText, ReadsAs text createdBy s.config.db raw)
      ↔ ∀ raw ∈ csvLines csvText, importedReading text createdBy s.config.db raw
        = writtenReading text createdBy s.config.db raw := by
    refine forall₂_congr fun raw hraw => ?_
    obtain ⟨outcome, hline⟩ := hok raw hraw
    simp [ReadsAs, importedReading, hline]
  have hpassed : ∀ raw ∈ csvLines csvText,
      importedReading text createdBy s.config.db raw = .passed
        ↔ writtenReading text createdBy s.config.db raw = .passed := fun raw _ =>
    importedReading_passed_iff.trans writtenReading_passed_iff.symm
  have hbumped : (if report.created = [] then after else after.bump cfg now).rows
      = after.rows := by
    split <;> rfl
  rw [hreads, ← readings_eq_iff (n := 1) hpassed, hrun]
  constructor
  · intro h
    exact ⟨List.append_cancel_left (hrows.symm.trans (hbumped.symm.trans h.rows)),
      hskipped.symm.trans h.skipped⟩
  rintro ⟨htaken, hreported⟩
  refine ⟨?_, hskipped.trans hreported, ?_⟩
  · rw [← htaken]
    exact hbumped.trans hrows
  rintro _ ⟨rfl⟩
  rw [hcreated, htaken]
  rfl

end Text

/-! ## A text that is not imported as it is written -/

namespace Example

/-- `str.lower` of ASCII text. -/
def asciiCase : CaseMap where
  lower := Control.lower
  length_le s := by simp [Control.lower, String.length_toList]

def noBlocks : BlockStore := ⟨{}, [], rfl⟩

/-- An address with its type, an IPv6 address, and a line of text. -/
def threeLines : String := "user:ada@hill.test\n2001:db8::1\nsee the list below"

end Example

/-- The user is blocked as an e-mail address with the type in it, the IPv6 address is reported,
and the text is blocked as an e-mail address. -/
theorem not_imported_as_written :
    ¬ ImportedAsWritten Example.asciiCase "ops@hub.test" Example.threeLines Example.noBlocks
        (importBlocksCsv Example.asciiCase (.default "production") 0 "ops@hub.test"
          Example.threeLines Example.noBlocks) := by
  intro h
  exact absurd h.skipped (by decide)

end MultiAcademy.Control
