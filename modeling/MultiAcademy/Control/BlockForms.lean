import MultiAcademy.Control.BlockImport
import MultiAcademy.Lib.Intake

/-!
# The forms of a line of blocks

What a line of the import asks for: a type with its value and, it may be, a reason and a tenant;
a type before a colon; a bare e-mail address; or a bare address of the network.  A bare e-mail
address is kept in lower case, as whoever reads the blocks compares it so.
-/

namespace MultiAcademy.Control

open MultiAcademy.Lib

/-! ## What a line asks for -/

/-- A decimal number of at most three digits, up to a bound, as addresses write them. -/
def isNumberUpTo (bound : ℕ) (cs : List Char) : Bool :=
  isDigits cs && cs.length ≤ 3 && (cs.length = 1 || cs.head? ≠ some '0')
    && digitsValue cs ≤ bound

def isIpv4 (cs : List Char) : Bool :=
  (cs.splitOn '.').length = 4 && (cs.splitOn '.').all (isNumberUpTo 255)

def isHexDigit (c : Char) : Bool :=
  ('0' ≤ c && c ≤ '9') || ('a' ≤ c && c ≤ 'f') || ('A' ≤ c && c ≤ 'F')

def isHexGroup (cs : List Char) : Bool := cs ≠ [] && cs.length ≤ 4 && cs.all isHexDigit

/-- The number of groups of sixteen bits that are written out, where the last two may be
written as an IPv4 address. -/
def hexGroups (cs : List Char) : Option ℕ :=
  if cs = [] then some 0
  else if (cs.splitOn ':').all isHexGroup then some (cs.splitOn ':').length
  else if (cs.splitOn ':').dropLast.all isHexGroup && isIpv4 ((cs.splitOn ':').getLastD []) then
    some ((cs.splitOn ':').length + 1)
  else none

/-- What stands before the first double colon, and what after it. -/
def splitDouble : List Char → Option (List Char × List Char)
  | ':' :: ':' :: rest => some ([], rest)
  | [] => none
  | c :: rest => (splitDouble rest).map fun p => (c :: p.1, p.2)

/-- Eight groups, or fewer around one double colon. -/
def isIpv6 (cs : List Char) : Bool :=
  match splitDouble cs with
  | none => hexGroups cs = some 8
  | some (before, after) =>
    (before = [] || (before.splitOn ':').all isHexGroup)
      && (hexGroups before).any fun m => (hexGroups after).any fun n => m + n ≤ 7

/-- An IPv4 or IPv6 address, or a network of one. -/
def isAddress (cs : List Char) : Bool :=
  if '/' ∈ cs then
    let address := cs.takeWhile (· ≠ '/')
    let bits := (cs.dropWhile (· ≠ '/')).drop 1
    (isIpv4 address && isNumberUpTo 32 bits) || (isIpv6 address && isNumberUpTo 128 bits)
  else isIpv4 cs || isIpv6 cs

/-- A bare e-mail address: one at sign with something on both sides, and none of the signs that
separate fields. -/
def isMail (cs : List Char) : Bool :=
  cs.count '@' = 1 && cs.head? ≠ some '@' && cs.getLast? ≠ some '@'
    && cs.all fun c => !isBlank c && c ≠ ',' && c ≠ ':'

/-- The fields begin with the type of a target. -/
def namesType (parts : List String) : Bool :=
  2 ≤ parts.length && parts.headD "" ∈ blockTargetTypes

def fieldsReason (parts : List String) : String :=
  if parts.getD 2 "" = "" then "Bulk CSV import" else parts.getD 2 ""

/-- `type,value[,reason[,tenant]]`; a field that is empty counts as left out. -/
def fieldsBody (db : Db) (parts : List String) : Option BlockBody :=
  if 4 < parts.length then none
  else
    let body : BlockBody :=
      { targetType := parts.headD "", value := parts.getD 1 ""
        reason := fieldsReason parts }
    if parts.getD 3 "" = "" then some body
    else if allDigits (parts.getD 3 "").toList then
      ((intOf (parts.getD 3 "").toList).bind (rowOfPublicId db)).map fun t =>
        { body with tenantId := some t }
    else none

/-- The type before the first colon. -/
def typePrefix (line : List Char) : String := String.ofList (line.takeWhile (· ≠ ':'))

/-- The block that a line asks for, in one of the forms that the import knows. -/
def writtenBody (text : CaseMap) (db : Db) (line : List Char) : Option BlockBody :=
  if namesType (fields line) then fieldsBody db (fields line)
  else if ':' ∈ line ∧ typePrefix line ∈ blockTargetTypes then
    some
      { targetType := typePrefix line
        value := String.ofList ((line.dropWhile (· ≠ ':')).drop 1), reason := "Bulk CSV import" }
  else if isMail line then
    some
      { targetType := "email", value := text.lower (String.ofList line)
        reason := "Bulk CSV import" }
  else if isAddress line then
    some { targetType := "ip", value := String.ofList line, reason := "Bulk CSV import" }
  else none

/-- How a line is to be read: what asks for a block that `create_block` creates is that block,
comments and blank lines are passed over, and every other line is reported. -/
def writtenReading (text : CaseMap) (createdBy : String) (db : Db) (raw : List Char) :
    Reading BlockRow :=
  if stripText raw = [] ∨ (stripText raw).head? = some '#' then .passed
  else
    match (writtenBody text db (stripText raw)).bind fun body =>
        (createRow createdBy body db).toOption with
    | some row => .taken row
    | none => .skipped

def skippedLines (answer : Except (ℕ × String) ImportReport) : List ℕ :=
  match answer with
  | .ok report => report.skipped.map (·.line)
  | .error _ => []

/-- **The import blocks the targets that were written**: the rows that the lines ask for are
added, each once and in their order, and the other lines are reported. -/
structure ImportedAsWritten (text : CaseMap) (createdBy csvText : String) (s : BlockStore)
    (outcome : BlockStore × Except (ℕ × String) ImportReport) : Prop where
  rows : outcome.1.rows
    = s.rows ++ takenOf (writtenReading text createdBy s.config.db) (csvLines csvText)
  skipped : skippedLines outcome.2
    = skippedOf (writtenReading text createdBy s.config.db) 1 (csvLines csvText)
  created : ∀ report, outcome.2 = .ok report →
    report.created = ((takenOf (writtenReading text createdBy s.config.db)
      (csvLines csvText)).zipIdx s.rows.nextId).map fun entry =>
        { id := entry.2, targetType := entry.1.targetType, value := entry.1.value }

/-! ## The condition -/

/-- A row of the import with the columns that the form of a line leaves out. -/
def plainRow (createdBy targetType value : String) : BlockRow :=
  { targetType, value, reason := "Bulk CSV import", createdBy }

/-- A line with fields has at most four, a reason that is not empty if it has one, and the
number of a tenant if its last field is not empty; and the columns take it. -/
def FieldsSound (db : Db) (parts : List String) : Prop :=
  parts.length ≤ 4 ∧ parts[2]? ≠ some ""
    ∧ (parts.getD 3 "" = "" ∨ allDigits (parts.getD 3 "").toList = true
        ∧ ∃ n, intOf (parts.getD 3 "").toList = some n ∧ (rowOfPublicId db n).isSome = true)
    ∧ (BlockRow.fits
        { targetType := parts.headD "", value := parts.getD 1 "", reason := parts.getD 2 "" })
      = true

/-- The tests take the line, which is not blank and no comment, for what it is. -/
def LineSound (text : CaseMap) (db : Db) (line : List Char) : Prop :=
  if namesType (fields line) then FieldsSound db (fields line)
  else if '@' ∈ line then
    isMail line = true ∧ (plainRow "" "email" (text.lower (String.ofList line))).fits = true
  else if allDigits (line.filter fun c => c ≠ '.' ∧ c ≠ ':') ∨ '/' ∈ line then
    isAddress line = true ∧ (plainRow "" "ip" (String.ofList line)).fits = true
  else if ':' ∈ line then
    if typePrefix line ∈ blockTargetTypes then
      (plainRow "" (typePrefix line) (String.ofList ((line.dropWhile (· ≠ ':')).drop 1))).fits
        = true
    else isAddress line = false
  else False

/-! ## Addresses -/

section Pieces
variable {sep : Char} {cs : List Char}

/-- The pieces and the signs between them make the text. -/
theorem length_pieces (sep : Char) (cs : List Char) :
    ((cs.splitOn sep).map fun piece => piece.length + 1).sum = cs.length + 1 := by
  induction cs with
  | nil => simp
  | cons c cs ih =>
    rw [List.splitOn_cons_eq_if_modifyHead]
    split
    · simp [ih, Nat.add_comm]
    obtain ⟨piece, pieces, hpieces⟩ := List.exists_cons_of_ne_nil (List.splitOn_ne_nil sep cs)
    rw [hpieces] at ih ⊢
    simp only [List.modifyHead_cons, List.map_cons, List.sum_cons, List.length_cons] at ih ⊢
    omega

theorem mem_pieces (sep : Char) {c : Char} (h : c ∈ cs) : c = sep ∨ ∃ piece ∈ cs.splitOn sep, c ∈ piece := by
  induction cs with
  | nil => cases h
  | cons d cs ih =>
    rw [List.splitOn_cons_eq_if_modifyHead]
    obtain ⟨piece, pieces, hpieces⟩ := List.exists_cons_of_ne_nil (List.splitOn_ne_nil sep cs)
    rw [hpieces] at ih ⊢
    split
    · rename_i hsep
      rcases List.mem_cons.1 h with rfl | h
      · exact Or.inl (by simpa using hsep)
      · exact (ih h).imp_right fun ⟨p, hp, hc⟩ => ⟨p, List.mem_cons_of_mem _ hp, hc⟩
    rw [List.modifyHead_cons]
    rcases List.mem_cons.1 h with rfl | h
    · exact Or.inr ⟨_, List.mem_cons_self, List.mem_cons_self⟩
    rcases ih h with hsep | ⟨p, hp, hc⟩
    · exact Or.inl hsep
    rcases List.mem_cons.1 hp with rfl | hp
    · exact Or.inr ⟨_, List.mem_cons_self, List.mem_cons_of_mem _ hc⟩
    · exact Or.inr ⟨p, List.mem_cons_of_mem _ hp, hc⟩

theorem sum_pieces_le {k : ℕ} {pieces : List (List Char)}
    (h : ∀ piece ∈ pieces, piece.length ≤ k) :
    (pieces.map fun piece => piece.length + 1).sum ≤ pieces.length * (k + 1) := by
  have hle := List.sum_le_card_nsmul (pieces.map fun piece => piece.length + 1) (k + 1)
    fun n hn => by
      obtain ⟨piece, hpiece, rfl⟩ := List.mem_map.1 hn
      exact Nat.succ_le_succ (h piece hpiece)
  simpa using hle

/-- Pieces of at most `k` characters make a text of a length that their number bounds. -/
theorem length_le_of_pieces {k : ℕ} (h : ∀ piece ∈ cs.splitOn sep, piece.length ≤ k) :
    cs.length + 1 ≤ (cs.splitOn sep).length * (k + 1) := by
  rw [← length_pieces sep cs]
  exact sum_pieces_le h

end Pieces

def isAddressChar (c : Char) : Bool := isHexDigit c || c = ':' || c = '.' || c = '/'

theorem isHexDigit_of_digit {c : Char} (h : '0' ≤ c ∧ c ≤ '9') : isHexDigit c = true := by
  simp [isHexDigit, h]

theorem chars_of_isDigits {cs : List Char} (h : isDigits cs = true) :
    ∀ c ∈ cs, '0' ≤ c ∧ c ≤ '9' := by
  simp only [isDigits, Bool.and_eq_true, List.all_eq_true, decide_eq_true_eq] at h
  exact h.2

theorem chars_of_isIpv4 {cs : List Char} (h : isIpv4 cs = true) {c : Char} (hc : c ∈ cs) :
    ('0' ≤ c ∧ c ≤ '9') ∨ c = '.' := by
  simp only [isIpv4, isNumberUpTo, Bool.and_eq_true, List.all_eq_true] at h
  rcases mem_pieces '.' hc with rfl | ⟨piece, hpiece, hmem⟩
  · exact Or.inr rfl
  · exact Or.inl (chars_of_isDigits (h.2 piece hpiece).1.1.1 c hmem)

theorem length_of_isIpv4 {cs : List Char} (h : isIpv4 cs = true) : cs.length ≤ 15 := by
  simp only [isIpv4, isNumberUpTo, Bool.and_eq_true, List.all_eq_true, decide_eq_true_eq] at h
  have hle := length_le_of_pieces fun piece hpiece => (h.2 piece hpiece).1.1.2
  rw [h.1] at hle
  omega

/-- Groups that are written out have the characters of an address, and are short. -/
theorem hexGroups_eq_some {cs : List Char} {n : ℕ} (h : hexGroups cs = some n) :
    (∀ c ∈ cs, isAddressChar c = true) ∧ cs.length ≤ 5 * n + 15 := by
  have hgroups : ∀ groups : List (List Char), groups.all isHexGroup = true →
      ∀ group ∈ groups, (∀ c ∈ group, isAddressChar c = true) ∧ group.length ≤ 4 := by
    intro groups hall group hgroup
    have hhex := List.all_eq_true.1 hall group hgroup
    simp only [isHexGroup, Bool.and_eq_true, decide_eq_true_eq, List.all_eq_true] at hhex
    exact ⟨fun c hc => by simp [isAddressChar, hhex.2 c hc], hhex.1.2⟩
  rw [hexGroups] at h
  split at h
  · rename_i hnil
    rw [hnil]
    exact ⟨nofun, Nat.zero_le _⟩
  have hsep : isAddressChar ':' = true := rfl
  split at h
  · rename_i hall
    cases h
    refine ⟨fun c hc => ?_, ?_⟩
    · rcases mem_pieces ':' hc with rfl | ⟨group, hgroup, hmem⟩
      · exact hsep
      · exact (hgroups _ hall group hgroup).1 c hmem
    have hle := length_le_of_pieces fun group hgroup => (hgroups _ hall group hgroup).2
    omega
  split at h
  · rename_i hlast
    cases h
    obtain ⟨hinit, hv4⟩ := Bool.and_eq_true_iff.1 hlast
    obtain ⟨init, last, hpieces⟩ : ∃ init last, cs.splitOn ':' = init ++ [last] :=
      ⟨_, _, (List.dropLast_concat_getLast (List.splitOn_ne_nil ':' cs)).symm⟩
    rw [hpieces, List.dropLast_concat] at hinit
    rw [hpieces, List.getLastD_concat] at hv4
    refine ⟨fun c hc => ?_, ?_⟩
    · rcases mem_pieces ':' hc with rfl | ⟨group, hgroup, hmem⟩
      · exact hsep
      rw [hpieces, List.mem_append, List.mem_singleton] at hgroup
      rcases hgroup with hgroup | rfl
      · exact (hgroups _ hinit group hgroup).1 c hmem
      rcases chars_of_isIpv4 hv4 hmem with hdigit | rfl
      · simp [isAddressChar, isHexDigit_of_digit hdigit]
      · rfl
    have hlength := length_pieces ':' cs
    have hle := sum_pieces_le fun group hgroup => (hgroups _ hinit group hgroup).2
    have hshort := length_of_isIpv4 hv4
    rw [hpieces] at hlength ⊢
    simp only [List.map_append, List.sum_append, List.map_cons, List.map_nil,
      List.sum_cons, List.sum_nil, List.length_append, List.length_cons,
      List.length_nil] at hlength ⊢
    omega
  · cases h

theorem splitDouble_eq_some {cs before after : List Char}
    (h : splitDouble cs = some (before, after)) : cs = before ++ ':' :: ':' :: after := by
  fun_induction splitDouble cs generalizing before with
  | case1 rest =>
    cases h
    rfl
  | case2 => cases h
  | case3 c rest hnot ih =>
    obtain ⟨p, hp, heq⟩ := Option.map_eq_some_iff.1 h
    obtain ⟨rfl, rfl⟩ := Prod.mk.inj heq
    rw [ih hp]
    rfl

theorem chars_of_isIpv6 {cs : List Char} (h : isIpv6 cs = true) :
    (∀ c ∈ cs, isAddressChar c = true) ∧ cs.length ≤ 75 := by
  unfold isIpv6 at h
  split at h
  · obtain ⟨hchars, hlength⟩ := hexGroups_eq_some (of_decide_eq_true h)
    exact ⟨hchars, hlength.trans (by omega)⟩
  rename_i before after hsplit
  rw [Bool.and_eq_true, Option.any_eq_true] at h
  obtain ⟨-, m, hm, hrest⟩ := h
  obtain ⟨n, hn, hle⟩ := (Option.any_eq_true _ _).1 hrest
  obtain ⟨hbefore, hlength⟩ := hexGroups_eq_some hm
  obtain ⟨hafter, hlength'⟩ := hexGroups_eq_some hn
  have hsum : m + n ≤ 7 := of_decide_eq_true hle
  rw [splitDouble_eq_some hsplit]
  constructor
  · intro c hc
    rcases List.mem_append.1 hc with hc | hc
    · exact hbefore c hc
    rcases List.mem_cons.1 hc with rfl | hc
    · rfl
    rcases List.mem_cons.1 hc with rfl | hc
    · rfl
    · exact hafter c hc
  simp only [List.length_append, List.length_cons]
  omega

theorem chars_of_isAddress {cs : List Char} (h : isAddress cs = true) :
    ∀ c ∈ cs, isAddressChar c = true := by
  have hv4 : ∀ {cs}, isIpv4 cs = true → ∀ c ∈ cs, isAddressChar c = true := by
    intro cs h c hc
    rcases chars_of_isIpv4 h hc with hdigit | rfl
    · simp [isAddressChar, isHexDigit_of_digit hdigit]
    · rfl
  have hbits : ∀ {bound cs}, isNumberUpTo bound cs = true → ∀ c ∈ cs, isAddressChar c = true := by
    intro bound cs h c hc
    simp only [isNumberUpTo, Bool.and_eq_true] at h
    simp [isAddressChar, isHexDigit_of_digit (chars_of_isDigits h.1.1.1 c hc)]
  unfold isAddress at h
  split at h
  · have hparts : (∀ c ∈ cs.takeWhile (· ≠ '/'), isAddressChar c = true)
        ∧ ∀ c ∈ (cs.dropWhile (· ≠ '/')).drop 1, isAddressChar c = true := by
      simp only [Bool.or_eq_true, Bool.and_eq_true] at h
      rcases h with ⟨haddress, hnumber⟩ | ⟨haddress, hnumber⟩
      · exact ⟨hv4 haddress, hbits hnumber⟩
      · exact ⟨(chars_of_isIpv6 haddress).1, hbits hnumber⟩
    intro c hc
    rw [← List.takeWhile_append_dropWhile (p := (· ≠ '/')) (l := cs), List.mem_append] at hc
    rcases hc with hc | hc
    · exact hparts.1 c hc
    have hslash := List.head?_dropWhile_not (· ≠ '/') cs
    cases hrest : cs.dropWhile (· ≠ '/') with
    | nil =>
      rw [hrest] at hc
      cases hc
    | cons d rest =>
      rw [hrest] at hc hslash hparts
      rcases List.mem_cons.1 hc with rfl | hc
      · have hd : c = '/' := by simpa using hslash
        rw [hd]
        rfl
      · exact hparts.2 c hc
  rcases Bool.or_eq_true_iff.1 h with h | h
  · exact hv4 h
  · exact (chars_of_isIpv6 h).1

theorem typePrefix_of_isAddress {cs : List Char} (h : isAddress cs = true) :
    typePrefix cs ∉ blockTargetTypes := by
  have hchars : (typePrefix cs).toList.all isAddressChar = true := by
    rw [typePrefix, String.toList_ofList, List.all_eq_true]
    exact fun c hc => chars_of_isAddress h c ((List.takeWhile_prefix _).subset hc)
  intro hmem
  have hnone : ∀ t ∈ blockTargetTypes, t.toList.all isAddressChar = false := by decide
  rw [hnone _ hmem] at hchars
  cases hchars

theorem fits_address {cs : List Char} (h : isAddress cs = true) (hslash : '/' ∉ cs)
    (createdBy : String) : (plainRow createdBy "ip" (String.ofList cs)).fits = true := by
  have hchars := chars_of_isAddress h
  have hnul : '\x00' ∉ cs := fun hmem => absurd (hchars _ hmem) (by decide)
  have hlength : cs.length ≤ 255 := by
    rw [isAddress, if_neg hslash] at h
    rcases Bool.or_eq_true_iff.1 h with h | h
    · exact (length_of_isIpv4 h).trans (by omega)
    · exact (chars_of_isIpv6 h).2.trans (by omega)
  simp [BlockRow.fits, plainRow, hnul, hlength]

end MultiAcademy.Control
