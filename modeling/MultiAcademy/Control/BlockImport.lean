import MultiAcademy.Control.ConfigRoutes

/-!
# The bulk import of blocks

`POST /v1/blocks/import` of `routers/blocks.py` once more, line by line: what each line of the
text is taken for, the rows that are written with all their columns, and the report.  The order
of the tests decides: an at sign makes an e-mail of a line with a type of its own, a slash makes
a network of it, and what no test knows is an e-mail too.

`str.lower` is a parameter: all that matters of it is that it shortens no text.
-/

namespace MultiAcademy.Control

open MultiAcademy.Lib

/-! ## Text -/

/-- The characters `str.strip` removes. -/
def isBlank (c : Char) : Bool :=
  isSpace c || c = '\u1680' || ('\u2000' ≤ c && c ≤ '\u200a') || c = '\u2028' || c = '\u2029'
    || c = '\u202f' || c = '\u205f' || c = '\u3000'

/-- `str.strip`. -/
def stripText (cs : List Char) : List Char :=
  ((cs.dropWhile isBlank).reverse.dropWhile isBlank).reverse

def splitlines : List Char → List (List Char)
  | [] => []
  | '\r' :: '\n' :: rest => [] :: splitlines rest
  | c :: rest =>
    if isLineBreak c then [] :: splitlines rest
    else
      match splitlines rest with
      | [] => [[c]]
      | line :: lines => (c :: line) :: lines

/-- The code points of the zeros of `str.isdecimal`; the other nine follow each of them. -/
def decimalZeros : List ℕ :=
  [0x30, 0x660, 0x6f0, 0x7c0, 0x966, 0x9e6, 0xa66, 0xae6, 0xb66, 0xbe6, 0xc66, 0xce6, 0xd66,
    0xde6, 0xe50, 0xed0, 0xf20, 0x1040, 0x1090, 0x17e0, 0x1810, 0x1946, 0x19d0, 0x1a80, 0x1a90,
    0x1b50, 0x1bb0, 0x1c40, 0x1c50, 0xa620, 0xa8d0, 0xa900, 0xa9d0, 0xa9f0, 0xaa50, 0xabf0,
    0xff10, 0x104a0, 0x10d30, 0x11066, 0x110f0, 0x11136, 0x111d0, 0x112f0, 0x11450, 0x114d0,
    0x11650, 0x116c0, 0x11730, 0x118e0, 0x11950, 0x11c50, 0x11d50, 0x11da0, 0x16a60, 0x16ac0,
    0x16b50, 0x1d7ce, 0x1d7d8, 0x1d7e2, 0x1d7ec, 0x1d7f6, 0x1e140, 0x1e2f0, 0x1e950, 0x1fbf0]

/-- The other characters of `str.isdigit`, in ranges: superscripts, circled digits and such. -/
def otherDigits : List (ℕ × ℕ) :=
  [(0xb2, 0xb3), (0xb9, 0xb9), (0x1369, 0x1371), (0x19da, 0x19da), (0x2070, 0x2070),
    (0x2074, 0x2079), (0x2080, 0x2089), (0x2460, 0x2468), (0x2474, 0x247c), (0x2488, 0x2490),
    (0x24ea, 0x24ea), (0x24f5, 0x24fd), (0x24ff, 0x24ff), (0x2776, 0x277e), (0x2780, 0x2788),
    (0x278a, 0x2792), (0x10a40, 0x10a43), (0x10e60, 0x10e68), (0x11052, 0x1105a),
    (0x1f100, 0x1f10a)]

def decimalValue (c : Char) : Option ℕ :=
  (decimalZeros.find? fun start => start ≤ c.toNat ∧ c.toNat < start + 10).map (c.toNat - ·)

/-- `str.isdigit`. -/
def allDigits (cs : List Char) : Bool :=
  cs ≠ [] && cs.all fun c =>
    (decimalValue c).isSome || otherDigits.any fun range => range.1 ≤ c.toNat && c.toNat ≤ range.2

/-- `int` of a text of digits; `none` is a `ValueError`, as for a superscript or beyond 4300
digits. -/
def intOf (cs : List Char) : Option ℕ :=
  if 4300 < cs.length then none
  else cs.foldlM (fun n c => (decimalValue c).map (10 * n + ·)) 0

/-- `str.lower`, which shortens no text. -/
structure CaseMap where
  lower : String → String
  length_le : ∀ s, s.length ≤ (lower s).length

/-! ## The rows -/

/-- A row of `blocks`. -/
structure BlockRow where
  targetType : String
  value : String
  tenantId : Option ℕ := none
  action : String := "deny"
  reason : String := ""
  evidence : String := ""
  severity : String := "medium"
  expiresAt : Option Time := none
  isActive : Bool := true
  createdBy : String := ""
  deriving DecidableEq

def BlockRow.block (row : BlockRow) : Block :=
  { targetType := row.targetType, value := row.value, tenantId := row.tenantId
    isActive := row.isActive, expiresAt := row.expiresAt }

/-- The columns take the row: `value` has 255 characters, and no text has a NUL. -/
def BlockRow.fits (row : BlockRow) : Bool :=
  row.value.length ≤ 255 && '\x00' ∉ row.value.toList && '\x00' ∉ row.reason.toList

/-- The tables of the control plane, with the rows of `blocks` in full. -/
structure BlockStore where
  config : ConfigStore
  rows : Table BlockRow
  rows_block : rows.map BlockRow.block = config.blocks

namespace BlockStore

def add (row : BlockRow) (s : BlockStore) : BlockStore where
  config := { s.config with blocks := s.config.blocks.insert row.block }
  rows := s.rows.insert row
  rows_block := by simp [Table.insert, s.rows_block]

/-- `bump_config_version`. -/
def bump (cfg : Settings) (now : Time) (s : BlockStore) : BlockStore where
  config := s.config.bump cfg now
  rows := s.rows
  rows_block := s.rows_block

end BlockStore

/-! ## `POST /v1/blocks` -/

/-- `BlockCreate`, with the fields that no runtime config shows. -/
structure BlockBody extends BlockCreate where
  action : String := "deny"
  evidence : String := ""
  severity : String := "medium"

def BlockBody.row (createdBy : String) (body : BlockBody) : BlockRow :=
  { targetType := body.targetType, value := body.value, tenantId := body.tenantId
    action := body.action, reason := body.reason, evidence := body.evidence
    severity := body.severity, expiresAt := body.expiresAt, createdBy }

/-- An exception that no handler catches. -/
def serverError : ℕ × String := (500, "Internal Server Error")

/-- The row that `create_block` makes of a body, or its refusal. -/
def createRow (createdBy : String) (body : BlockBody) (db : Db) :
    Except (ℕ × String) BlockRow :=
  if body.targetType ∉ blockTargetTypes then
    .error (400, "Unknown target type: " ++ body.targetType)
  else if body.reason = "" then .error (400, "Reason required")
  else if body.tenantId.any fun t => (db.tenants[t]?).isNone then
    .error (404, "Tenant not found")
  else if (body.row createdBy).fits then .ok (body.row createdBy)
  else .error serverError

/-- `POST /v1/blocks`, with all the columns. -/
def createBlockRow (cfg : Settings) (now : Time) (createdBy : String) (body : BlockBody)
    (s : BlockStore) : BlockStore × Except (ℕ × String) BlockRow :=
  match createRow createdBy body s.config.db with
  | .error refusal => (s, .error refusal)
  | .ok row => ((s.add row).bump cfg now, .ok row)

/-! ## `POST /v1/blocks/import` -/

structure LineDraft where
  targetType : String
  value : String
  reason : String := "Bulk CSV import"
  /-- The field that `int` is to read. -/
  tenant : Option (List Char) := none

/-- `[p.strip() for p in line.split(",")]`. -/
def fields (line : List Char) : List String :=
  (line.splitOn ',').map fun part => String.ofList (stripText part)

/-- The tests on a line, in their order; the error is the reason of a line that is skipped. -/
def classify (text : CaseMap) (line : List Char) : Except String LineDraft :=
  let parts := fields line
  if 2 ≤ parts.length ∧ parts.headD "" ∈ blockTargetTypes then
    .ok
      { targetType := parts.headD "", value := parts.getD 1 ""
        reason := parts.getD 2 "Bulk CSV import"
        tenant := (parts[3]?.map String.toList).filter allDigits }
  else if '@' ∈ line then
    .ok { targetType := "email", value := text.lower (String.ofList line) }
  else if allDigits (line.filter fun c => c ≠ '.' ∧ c ≠ ':') ∨ '/' ∈ line then
    .ok { targetType := "ip", value := String.ofList line }
  else if ':' ∈ line then
    let targetType := String.ofList (line.takeWhile (· ≠ ':'))
    if targetType ∈ blockTargetTypes then
      .ok { targetType, value := String.ofList ((line.dropWhile (· ≠ ':')).drop 1) }
    else .error ("unknown type " ++ targetType)
  else .ok { targetType := "email", value := String.ofList line }

inductive LineOutcome
  | passed
  | skipped (reason : String)
  | created (row : BlockRow)

/-- `Block(...)` and `db.flush()`: the foreign key refuses a tenant that is not there. -/
def flushRow (createdBy : String) (draft : LineDraft) (tenantRef : Option ℕ) (db : Db) :
    Except (ℕ × String) LineOutcome :=
  let row : BlockRow :=
    { targetType := draft.targetType, value := draft.value
      tenantId := tenantRef.bind (rowOfPublicId db), reason := draft.reason, createdBy }
  if (tenantRef.any fun ref => (rowOfPublicId db ref).isNone) || !row.fits then
    .error serverError
  else .ok (.created row)

/-- The body of the loop. -/
def importedLine (text : CaseMap) (createdBy : String) (db : Db) (raw : List Char) :
    Except (ℕ × String) LineOutcome :=
  let line := stripText raw
  if line = [] ∨ line.head? = some '#' then .ok .passed
  else
    match classify text line with
    | .error reason => .ok (.skipped reason)
    | .ok draft =>
      match draft.tenant with
      | some digits =>
        match intOf digits with
        | none => .error serverError
        | some ref =>
          if draft.targetType ∉ blockTargetTypes then
            .ok (.skipped "could not infer target type")
          else flushRow createdBy draft (some ref) db
      | none =>
        if draft.targetType ∉ blockTargetTypes then
          .ok (.skipped "could not infer target type")
        else flushRow createdBy draft none db

structure CreatedEntry where
  id : ℕ
  targetType : String
  value : String
  deriving DecidableEq

structure SkippedEntry where
  line : ℕ
  reason : String
  deriving DecidableEq

structure ImportReport where
  created : List CreatedEntry := []
  skipped : List SkippedEntry := []

/-- The loop, from the line with the number `n` on. -/
def importLines (text : CaseMap) (createdBy : String) :
    ℕ → List (List Char) → BlockStore × ImportReport →
      Except (ℕ × String) (BlockStore × ImportReport)
  | _, [], state => .ok state
  | n, raw :: rest, (s, report) =>
    match importedLine text createdBy s.config.db raw with
    | .error e => .error e
    | .ok .passed => importLines text createdBy (n + 1) rest (s, report)
    | .ok (.skipped reason) =>
      importLines text createdBy (n + 1) rest
        (s, { report with skipped := report.skipped ++ [{ line := n, reason }] })
    | .ok (.created row) =>
      importLines text createdBy (n + 1) rest
        (s.add row,
          { report with
            created := report.created ++
              [{ id := s.rows.nextId, targetType := row.targetType, value := row.value }] })

/-- The lines of a text, stripped as a whole. -/
def csvLines (csvText : String) : List (List Char) := splitlines (stripText csvText.toList)

/-- `POST /v1/blocks/import`. -/
def importBlocksCsv (text : CaseMap) (cfg : Settings) (now : Time) (createdBy csvText : String)
    (s : BlockStore) : BlockStore × Except (ℕ × String) ImportReport :=
  if stripText csvText.toList = [] then (s, .error (400, "CSV body required"))
  else
    match importLines text createdBy 1 (csvLines csvText) (s, {}) with
    | .error e => (s, .error e)
    | .ok (after, report) =>
      (if report.created = [] then after else after.bump cfg now, .ok report)

end MultiAcademy.Control
