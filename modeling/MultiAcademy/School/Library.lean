import MultiAcademy.School.Inventory

/-!
# The library

`library/library.service.ts`: `createItem`, `loan` and `returnLoan`.  A loan reads how many copies
are available, inserts its row and then takes one off; a return reads the loan, marks it and then
adds one.  Each is a statement of its own, and what a request has read may have changed when it
writes.
-/

namespace MultiAcademy.School

open MultiAcademy.Lib

/-! ## The tables -/

/-- A row of `library_items`. -/
structure LibraryItem where
  id : String
  title : String
  author : Option String := none
  isbn : Option String := none
  copies : ℤ
  available : ℤ
  deriving DecidableEq

/-- A row of `library_loans`; it is returned when it has a `returned_at`. -/
structure LibraryLoan where
  id : String
  itemId : String
  borrowerId : String
  dueAt : Option String := none
  returned : Bool := false
  deriving DecidableEq

/-- The tables, who has which role, whose parent is whose, and whether the school has the
feature. -/
structure LibraryStores where
  items : Keyed LibraryItem.id := .empty
  loans : Keyed LibraryLoan.id := .empty
  roles : String → List String := fun _ => []
  linked : String → String → Bool := fun _ _ => false
  enabled : Bool := true

variable (itemId : String)

def LibraryLoan.isOut (loan : LibraryLoan) : Bool :=
  loan.itemId = itemId && !loan.returned

/-- How many loans of an item are not returned. -/
def LibraryStores.out (d : LibraryStores) : ℤ :=
  d.loans.rows.countP (LibraryLoan.isOut itemId)

/-! ## The requests -/

/-- The body of `createItem`; a number of copies that is not whole is refused by its column. -/
structure LibraryItemBody where
  title : String
  author : Option String := none
  isbn : Option String := none
  copies : Option ℤ := none

structure LoanBody where
  itemId : String
  borrowerId : Option String := none
  dueAt : Option String := none

inductive LibraryRequest
  | loan (actorId : String) (body : LoanBody)
  | returnLoan (loanId : String)

/-- Where a request is: of a loan, that it knows the borrower, that the borrower may borrow, that a
copy was available, and that the loan is inserted; of a return, that the loan was not returned, and
that it is marked.  Or it is done, was refused, or ended, before its writes or between them. -/
inductive LibraryCall
  | asked (request : LibraryRequest)
  | identified (actorId : String) (body : LoanBody) (roles : List String) (borrowerId : String)
  | permitted (body : LoanBody) (borrowerId : String)
  | available (body : LoanBody) (borrowerId : String)
  | lent (itemId : String)
  | open (loanId itemId : String)
  | marked (itemId : String)
  | alreadyReturned (loanId : String)
  | done
  | refused (message : String)
  | died
  | lost

def resolveBorrowerId (roles : List String) (actorId : String) (requestedId : Option String) :
    Option String :=
  if "student" ∈ roles then some actorId else requestedId

/-- `loan`, the feature and the borrower. -/
def identifyBorrower (actorId : String) (body : LoanBody) (d : LibraryStores) : LibraryCall :=
  if d.enabled = false then .refused "Feature disabled: ops.library"
  else
    match (resolveBorrowerId (d.roles actorId) actorId body.borrowerId).filter
        fun borrowerId => borrowerId ≠ "" with
    | none => .refused "Borrower is required"
    | some borrowerId => .identified actorId body (d.roles actorId) borrowerId

/-- `loan`, the link that a parent needs. -/
def permitBorrower (actorId : String) (body : LoanBody) (roles : List String)
    (borrowerId : String) (d : LibraryStores) : LibraryCall :=
  if "parent" ∈ roles ∧ d.linked actorId borrowerId = false then
    .refused "Borrower is not linked to this parent"
  else .permitted body borrowerId

/-- `loan`, the copies. -/
def findCopy (body : LoanBody) (borrowerId : String) (d : LibraryStores) : LibraryCall :=
  match d.items.find? body.itemId with
  | none => .refused "Item not found"
  | some row =>
    if row.available < 1 then .refused "No copies available" else .available body borrowerId

/-- `INSERT INTO library_loans`, under a random token. -/
def insertLoan (token : String) (body : LoanBody) (borrowerId : String) (d : LibraryStores) :
    LibraryCall × LibraryStores :=
  match d.loans.insert?
      { id := token, itemId := body.itemId, borrowerId
        dueAt := body.dueAt.filter fun text => text ≠ "" } with
  | some loans => (.lent body.itemId, { d with loans })
  | none => (.died, d)

/-- `UPDATE library_items SET available = available + ?`, which fails when the sum does not fit the
column. -/
def moveCopies (delta : ℤ) (d : LibraryStores) : LibraryCall × LibraryStores :=
  if (d.items.find? itemId).all fun row => fitsInt (row.available + delta) then
    (.done, { d with
      items := d.items.updateWhere (fun row => row.id = itemId)
        (fun row => { row with available := row.available + delta }) fun _ => rfl })
  else (.lost, d)

/-- `returnLoan`, the loan. -/
def readLoan (loanId : String) (d : LibraryStores) : LibraryCall :=
  if d.enabled = false then .refused "Feature disabled: ops.library"
  else
    match d.loans.find? loanId with
    | none => .refused "Loan not found"
    | some loan => if loan.returned then .alreadyReturned loanId else .open loanId loan.itemId

/-- `UPDATE library_loans SET returned_at = CURRENT_TIMESTAMP`. -/
def markReturned (loanId : String) (d : LibraryStores) : LibraryStores :=
  { d with
    loans := d.loans.updateWhere (fun loan => loan.id = loanId)
      (fun loan => { loan with returned := true }) fun _ => rfl }

def LibraryCall.ended : LibraryCall → LibraryCall
  | .lent _ | .marked _ => .lost
  | .asked _ | .identified .. | .permitted .. | .available .. | .open .. => .died
  | call => call

/-- The next statement of a request, with the token that it draws. -/
def libraryNext (token : String) (call : LibraryCall) (d : LibraryStores) :
    LibraryCall × LibraryStores :=
  match call with
  | .asked (.loan actorId body) => (identifyBorrower actorId body d, d)
  | .asked (.returnLoan loanId) => (readLoan loanId d, d)
  | .identified actorId body roles borrowerId => (permitBorrower actorId body roles borrowerId d, d)
  | .permitted body borrowerId => (findCopy body borrowerId d, d)
  | .available body borrowerId => insertLoan token body borrowerId d
  | .lent itemId => moveCopies itemId (-1) d
  | .open loanId itemId => (.marked itemId, markReturned loanId d)
  | .marked itemId => moveCopies itemId 1 d
  | call => (call, d)

/-- The next statement, or the request ends before it. -/
def libraryStep (token : Option String) (call : LibraryCall) (d : LibraryStores) :
    LibraryCall × LibraryStores :=
  match token with
  | some token => libraryNext token call d
  | none => (call.ended, d)

/-- `createItem`; `id` is the random token. -/
def createLibraryItem (id : String) (body : LibraryItemBody) (d : LibraryStores) : LibraryStores :=
  let copies := max 1 (((body.copies.filter fun copies => copies ≠ 0)).getD 1)
  if d.enabled = false ∨ fitsInt copies = false then d
  else
    match d.items.insert?
        { id, title := body.title, author := body.author.filter fun text => text ≠ ""
          isbn := body.isbn.filter fun text => text ≠ "", copies, available := copies } with
    | some items => { d with items }
    | none => d

/-- What else happens. -/
inductive LibraryChange
  | createItem (id : String) (body : LibraryItemBody)
  | setRoles (roles : String → List String)
  | setLinked (linked : String → String → Bool)
  | setEnabled (enabled : Bool)

def LibraryChange.apply (d : LibraryStores) : LibraryChange → LibraryStores
  | .createItem id body => createLibraryItem id body d
  | .setRoles roles => { d with roles }
  | .setLinked linked => { d with linked }
  | .setEnabled enabled => { d with enabled }

def libraryService :
    Service LibraryRequest (Option String) LibraryChange LibraryStores LibraryCall where
  start := .asked
  next := libraryStep
  other change d := change.apply d

abbrev LibraryState := Flight LibraryStores LibraryCall
abbrev LibraryEvent := FlightEvent LibraryRequest (Option String) LibraryChange

/-! ## What is kept -/

/-- What a request still owes to the available copies of an item. -/
def LibraryCall.owed : LibraryCall → ℤ
  | .lent item => if item = itemId then 1 else 0
  | .marked item => if item = itemId then -1 else 0
  | _ => 0

/-- **Copies are kept**: of each item at least none and at most all are available, and those that
are not are out, but for what requests between their writes have yet to change. -/
def CopiesKept (s : LibraryState) : Prop :=
  ∀ id row, s.shared.items.find? id = some row → 0 ≤ row.available ∧ row.available ≤ row.copies
    ∧ row.available = row.copies - s.shared.out id + s.total (LibraryCall.owed id)

/-- The step takes a copy that there is, ends a loan that is not returned, gives back a copy that is
missing, and does not end a request between its two writes. -/
def TakesCopy (s : LibraryState) : LibraryEvent → Prop
  | .advance i token =>
    ∀ call, s.calls[i]? = some call →
      match call with
      | .lent itemId =>
        token.isSome = true ∧ ∀ row, s.shared.items.find? itemId = some row → 0 < row.available
      | .open loanId _ =>
        token.isSome = true → ∀ loan, s.shared.loans.find? loanId = some loan →
          loan.returned = false
      | .marked itemId =>
        token.isSome = true ∧ ∀ row, s.shared.items.find? itemId = some row →
          row.available < row.copies
      | _ => True
  | _ => True

/-! ## The bookkeeping -/

/-- What a request has read is there. -/
def LibraryCall.Ok (d : LibraryStores) : LibraryCall → Prop
  | .available body _ => (d.items.find? body.itemId).isSome = true
  | .lent itemId | .marked itemId => (d.items.find? itemId).isSome = true
  | .open loanId itemId =>
    (d.items.find? itemId).isSome = true
      ∧ ∃ loan, d.loans.find? loanId = some loan ∧ loan.itemId = itemId
  | _ => True

/-- Loans are of items that there are, and the copies fit their column. -/
structure LibraryOk (d : LibraryStores) : Prop where
  loans : ∀ loan ∈ d.loans.rows, (d.items.find? loan.itemId).isSome = true
  copies : ∀ row ∈ d.items.rows, row.copies ≤ 2147483647

section Steps
variable {d d' : LibraryStores} {call call' : LibraryCall} {s : LibraryState}

theorem LibraryCall.Ok.mono (h : call.Ok d)
    (hitems : ∀ id, (d'.items.find? id).isSome = (d.items.find? id).isSome)
    (hloans : ∀ id loan, d.loans.find? id = some loan →
      ∃ loan', d'.loans.find? id = some loan' ∧ loan'.itemId = loan.itemId) : call.Ok d' := by
  cases call with
  | available body borrowerId => exact (hitems _).trans h
  | lent itemId => exact (hitems _).trans h
  | marked itemId => exact (hitems _).trans h
  | «open» loanId itemId =>
    obtain ⟨hitem, loan, hloan, rfl⟩ := h
    exact ⟨(hitems _).trans hitem, hloans loanId loan hloan⟩
  | asked | identified | permitted | alreadyReturned | done | refused | died | lost => trivial

variable (actorId : String) (body : LoanBody) {i : ℕ}

theorem identifyBorrower_ok :
    (identifyBorrower actorId body d).Ok d := by
  simp only [identifyBorrower]
  split
  · trivial
  · split <;> trivial

theorem findCopy_ok (borrowerId : String) :
    (findCopy body borrowerId d).Ok d := by
  simp only [findCopy]
  split
  · trivial
  rename_i row hrow
  split
  · trivial
  · exact Option.isSome_iff_exists.2 ⟨row, hrow⟩

theorem permitBorrower_ok (roles : List String)
    (borrowerId : String) : (permitBorrower actorId body roles borrowerId d).Ok d := by
  simp only [permitBorrower]
  split <;> trivial

theorem readLoan_ok (hd : LibraryOk d) (loanId : String) : (readLoan loanId d).Ok d := by
  simp only [readLoan]
  split
  · trivial
  split
  · trivial
  rename_i loan hloan
  split
  · trivial
  · exact ⟨hd.loans loan (Keyed.find?_eq_some.1 hloan).1, loan, hloan, rfl⟩

/-- The loan is inserted, or its token is in use. -/
theorem insertLoan_cases (token : String) (body : LoanBody) (borrowerId : String)
    (d : LibraryStores) :
    (∃ loans loan, d.loans.insert? loan = some loans ∧ loan.itemId = body.itemId
        ∧ loan.returned = false
        ∧ insertLoan token body borrowerId d = (.lent body.itemId, { d with loans }))
      ∨ insertLoan token body borrowerId d = (.died, d) := by
  simp only [insertLoan]
  split
  · rename_i loans hloans
    exact Or.inl ⟨loans, _, hloans, rfl, rfl, rfl⟩
  · exact Or.inr rfl

/-- The copies are moved, or the sum is out of range. -/
theorem moveCopies_cases (itemId : String) (delta : ℤ) (d : LibraryStores) :
    moveCopies itemId delta d = (.done, { d with
        items := d.items.updateWhere (fun row => row.id = itemId)
          (fun row => { row with available := row.available + delta }) fun _ => rfl })
      ∨ moveCopies itemId delta d = (.lost, d)
        ∧ ∃ row, d.items.find? itemId = some row ∧ fitsInt (row.available + delta) = false := by
  simp only [moveCopies]
  split
  · exact Or.inl rfl
  rename_i hfits
  refine Or.inr ⟨rfl, ?_⟩
  cases hrow : d.items.find? itemId with
  | none => exact absurd (by rw [hrow]; rfl) hfits
  | some row =>
    refine ⟨row, rfl, ?_⟩
    rw [hrow] at hfits
    exact Bool.eq_false_iff.2 hfits

theorem find?_moved (itemId : String) (delta : ℤ) (d : LibraryStores) (id : String) :
    (d.items.updateWhere (fun row => row.id = itemId)
        (fun row => { row with available := row.available + delta }) fun _ => rfl).find? id
      = (d.items.find? id).map fun row =>
        if row.id = itemId then { row with available := row.available + delta } else row := by
  rw [Keyed.find?_updateWhere]
  simp

/-- A statement keeps the items, the loans, and whose they are. -/
structure LibraryKeeps (d d' : LibraryStores) : Prop where
  items : ∀ id, (d'.items.find? id).isSome = (d.items.find? id).isSome
  loans : ∀ id loan, d.loans.find? id = some loan →
    ∃ loan', d'.loans.find? id = some loan' ∧ loan'.itemId = loan.itemId

theorem LibraryKeeps.refl (d : LibraryStores) : LibraryKeeps d d :=
  ⟨fun _ => rfl, fun _ loan hloan => ⟨loan, hloan, rfl⟩⟩

theorem moveCopies_ok (itemId : String) (delta : ℤ) (hd : LibraryOk d) :
    LibraryOk (moveCopies itemId delta d).2 ∧ LibraryKeeps d (moveCopies itemId delta d).2
      ∧ ∀ d', (moveCopies itemId delta d).1.Ok d' := by
  rcases moveCopies_cases itemId delta d with hmoved | ⟨hlost, -⟩
  · rw [hmoved]
    have hitems : ∀ id, ((d.items.updateWhere (fun row => row.id = itemId)
        (fun row => { row with available := row.available + delta }) fun _ => rfl).find? id).isSome
          = (d.items.find? id).isSome := by
      intro id
      rw [find?_moved, Option.isSome_map]
    refine ⟨⟨?_, ?_⟩, ⟨hitems, fun _ loan hloan => ⟨loan, hloan, rfl⟩⟩, fun _ => trivial⟩
    · intro loan hloan
      exact (hitems _).trans (hd.loans loan hloan)
    intro row hrow
    obtain ⟨row, hold, rfl⟩ := List.mem_map.1 hrow
    split
    · exact hd.copies row hold
    · exact hd.copies row hold
  rw [hlost]
  exact ⟨hd, LibraryKeeps.refl d, fun _ => trivial⟩

/-- What is kept by the next statement of a request. -/
theorem libraryNext_ok (token : String) (hd : LibraryOk d) (h : call.Ok d) :
    LibraryOk (libraryNext token call d).2 ∧ LibraryKeeps d (libraryNext token call d).2
      ∧ (libraryNext token call d).1.Ok (libraryNext token call d).2 := by
  cases call with
  | asked request =>
    cases request with
    | loan actorId body => exact ⟨hd, LibraryKeeps.refl d, identifyBorrower_ok actorId body⟩
    | returnLoan loanId => exact ⟨hd, LibraryKeeps.refl d, readLoan_ok hd loanId⟩
  | identified actorId body roles borrowerId =>
    exact ⟨hd, LibraryKeeps.refl d, permitBorrower_ok actorId body roles borrowerId⟩
  | permitted body borrowerId => exact ⟨hd, LibraryKeeps.refl d, findCopy_ok body borrowerId⟩
  | available body borrowerId =>
    simp only [libraryNext]
    rcases insertLoan_cases token body borrowerId d with
      ⟨loans, loan, hinsert, hitem, -, hnext⟩ | hnext
    · rw [hnext]
      refine ⟨⟨?_, hd.copies⟩, ⟨fun _ => rfl, ?_⟩, h⟩
      · intro loan' hloan'
        rw [Keyed.rows_insert? hinsert] at hloan'
        rcases List.mem_append.1 hloan' with hold | hnew
        · exact hd.loans loan' hold
        rw [List.mem_singleton.1 hnew, hitem]
        exact h
      intro id loan' hloan'
      refine ⟨loan', ?_, rfl⟩
      dsimp only
      rw [Keyed.find?_insert? hinsert, if_neg]
      · exact hloan'
      intro hid
      rw [← hid, (Keyed.insert?_eq_some hinsert).1] at hloan'
      cases hloan'
    rw [hnext]
    exact ⟨hd, LibraryKeeps.refl d, trivial⟩
  | lent itemId =>
    obtain ⟨hd', hkeeps, hok⟩ := moveCopies_ok itemId (-1) hd
    exact ⟨hd', hkeeps, hok _⟩
  | «open» loanId itemId =>
    refine ⟨⟨?_, hd.copies⟩, ⟨fun _ => rfl, ?_⟩, h.1⟩
    · intro loan hloan
      obtain ⟨loan, hold, rfl⟩ := List.mem_map.1 hloan
      split
      · exact hd.loans loan hold
      · exact hd.loans loan hold
    intro id loan hloan
    simp only [libraryNext, markReturned, Keyed.find?_updateWhere, hloan, Option.map_some]
    refine ⟨_, rfl, ?_⟩
    split <;> rfl
  | marked itemId =>
    obtain ⟨hd', hkeeps, hok⟩ := moveCopies_ok itemId 1 hd
    exact ⟨hd', hkeeps, hok _⟩
  | alreadyReturned | done | refused | died | lost => exact ⟨hd, LibraryKeeps.refl d, trivial⟩

theorem LibraryCall.ended_ok (call : LibraryCall) (d : LibraryStores) : call.ended.Ok d := by
  cases call <;> trivial

theorem libraryStep_ok (token : Option String) (hd : LibraryOk d) (h : call.Ok d) :
    LibraryOk (libraryStep token call d).2 ∧ LibraryKeeps d (libraryStep token call d).2
      ∧ (libraryStep token call d).1.Ok (libraryStep token call d).2 := by
  cases token with
  | none => exact ⟨hd, LibraryKeeps.refl d, call.ended_ok d⟩
  | some token => exact libraryNext_ok token hd h

theorem createLibraryItem_cases (id : String) (body : LibraryItemBody) (d : LibraryStores) :
    createLibraryItem id body d = d
      ∨ ∃ items row, d.items.insert? row = some items ∧ 1 ≤ row.copies
        ∧ row.copies ≤ 2147483647 ∧ row.available = row.copies
        ∧ createLibraryItem id body d = { d with items } := by
  simp only [createLibraryItem]
  split
  · exact Or.inl rfl
  rename_i hvalid
  split
  · rename_i items hitems
    refine Or.inr ⟨items, _, hitems, le_max_left _ _, ?_, rfl, rfl⟩
    simp only [not_or, Bool.not_eq_false, fitsInt, Bool.and_eq_true, decide_eq_true_eq] at hvalid
    exact hvalid.2.2
  · exact Or.inl rfl

/-- What else happens keeps the loans, and the items. -/
theorem libraryChange_ok (change : LibraryChange) (hd : LibraryOk d) :
    LibraryOk (change.apply d) ∧ ∀ call : LibraryCall, call.Ok d → call.Ok (change.apply d) := by
  cases change with
  | setRoles roles => exact ⟨⟨hd.loans, hd.copies⟩, fun call hcall => by cases call <;> exact hcall⟩
  | setLinked linked =>
    exact ⟨⟨hd.loans, hd.copies⟩, fun call hcall => by cases call <;> exact hcall⟩
  | setEnabled enabled =>
    exact ⟨⟨hd.loans, hd.copies⟩, fun call hcall => by cases call <;> exact hcall⟩
  | createItem id body =>
    rcases createLibraryItem_cases id body d with
      hsame | ⟨items, row, hinsert, -, hcopies, -, hnew⟩
    · rw [show LibraryChange.apply d (.createItem id body) = d from hsame]
      exact ⟨hd, fun _ hcall => hcall⟩
    rw [show LibraryChange.apply d (.createItem id body) = _ from hnew]
    have hitems : ∀ itemId, (d.items.find? itemId).isSome = true →
        (items.find? itemId).isSome = true := by
      intro itemId hthere
      rw [Keyed.find?_insert? hinsert]
      split
      · rfl
      · exact hthere
    refine ⟨⟨fun loan hloan => hitems _ (hd.loans loan hloan), ?_⟩, ?_⟩
    · intro row' hrow'
      rcases ((Keyed.insert?_eq_some hinsert).2 row').1 hrow' with hold | rfl
      · exact hd.copies row' hold
      · exact hcopies
    intro call hcall
    cases call with
    | available body borrowerId => exact hitems _ hcall
    | lent itemId => exact hitems _ hcall
    | marked itemId => exact hitems _ hcall
    | «open» loanId itemId => exact ⟨hitems _ hcall.1, hcall.2⟩
    | asked | identified | permitted | alreadyReturned | done | refused | died | lost =>
      trivial

/-- The bookkeeping is kept by every step. -/
theorem library_ok_step (e : LibraryEvent) (hd : LibraryOk s.shared)
    (hcalls : ∀ call ∈ s.calls, call.Ok s.shared) :
    LibraryOk (libraryService.step e s).shared
      ∧ ∀ call ∈ (libraryService.step e s).calls, call.Ok (libraryService.step e s).shared := by
  refine Service.invariant_step (W := LibraryOk) (Q := fun d call => call.Ok d) ?_ ?_ ?_ ?_ ?_
    hd hcalls
  · exact fun request d _ => trivial
  · exact fun token call d hd hcall => (libraryStep_ok token hd hcall).1
  · exact fun token call d hd hcall => (libraryStep_ok token hd hcall).2.2
  · intro token call d hd hcall call' hcall'
    have hkeeps := (libraryStep_ok token hd hcall).2.1
    exact hcall'.mono hkeeps.items hkeeps.loans
  · exact fun change d hd => libraryChange_ok change hd

/-! ## One step -/

/-- What copies are kept means after a step of a request. -/
theorem kept_advance_iff {token : Option String} (hcall : s.calls[i]? = some call)
    (hnext : libraryStep token call s.shared = (call', d')) :
    CopiesKept (libraryService.step (.advance i token) s)
      ↔ ∀ id row, d'.items.find? id = some row → 0 ≤ row.available ∧ row.available ≤ row.copies
        ∧ row.available
          = row.copies - d'.out id + (s.total (LibraryCall.owed id) - call.owed id
            + call'.owed id) := by
  have hshared : (libraryService.step (.advance i token) s).shared = d' := by
    rw [Service.step_advance hcall]
    exact congrArg Prod.snd hnext
  have htotal : ∀ id, (libraryService.step (.advance i token) s).total (LibraryCall.owed id)
      = s.total (LibraryCall.owed id) - call.owed id + call'.owed id := by
    intro id
    rw [Service.total_step_advance _ hcall,
      show (libraryService.next token call s.shared).1 = call' from congrArg Prod.fst hnext]
  simp only [CopiesKept, hshared, htotal]

/-- A step that changes nothing but where the request is. -/
theorem copiesKept_idle {token : Option String} (hcall : s.calls[i]? = some call)
    (hnext : libraryStep token call s.shared = (call', s.shared))
    (howed : ∀ id, call'.owed id = call.owed id) (h : CopiesKept s) :
    CopiesKept (libraryService.step (.advance i token) s) := by
  rw [kept_advance_iff hcall hnext]
  intro id row hrow
  obtain ⟨hnonneg, hle, hbalance⟩ := h id row hrow
  refine ⟨hnonneg, hle, ?_⟩
  have hsame := howed id
  omega

/-- A request that ends between its two writes keeps what it owes. -/
theorem not_copiesKept_lost {token : Option String} {itemId : String} {row : LibraryItem}
    (hcall : s.calls[i]? = some call) (hnext : libraryStep token call s.shared = (.lost, s.shared))
    (howed : call.owed itemId ≠ 0) (hrow : s.shared.items.find? itemId = some row)
    (h : CopiesKept s) : ¬ CopiesKept (libraryService.step (.advance i token) s) := by
  rw [kept_advance_iff hcall hnext]
  intro hkept
  obtain ⟨-, -, hbefore⟩ := h itemId row hrow
  obtain ⟨-, -, hafter⟩ := hkept itemId row hrow
  have hzero : LibraryCall.lost.owed itemId = 0 := rfl
  omega

/-- A request moves the copies that it owes: no fewer than none and no more than all are then
available. -/
theorem copiesKept_moved_iff {token : String} {delta : ℤ} (itemId : String)
    (hcall : s.calls[i]? = some call)
    (hnext : libraryStep (some token) call s.shared = moveCopies itemId delta s.shared)
    (howed : ∀ id, call.owed id = if itemId = id then -delta else 0) (hdelta : delta ≠ 0)
    (hd : LibraryOk s.shared) (h : CopiesKept s) :
    CopiesKept (libraryService.step (.advance i (some token)) s)
      ↔ ∀ row, s.shared.items.find? itemId = some row →
        0 ≤ row.available + delta ∧ row.available + delta ≤ row.copies := by
  rcases moveCopies_cases itemId delta s.shared with hmoved | ⟨hlost, row, hrow, hrange⟩
  · have hdone : ∀ id, LibraryCall.done.owed id = 0 := fun _ => rfl
    rw [kept_advance_iff hcall (hnext.trans hmoved)]
    simp only [find?_moved, howed, hdone]
    constructor
    · intro hkept row hrow
      have hid : row.id = itemId := (Keyed.find?_eq_some.1 hrow).2
      obtain ⟨hnonneg, hle, -⟩ := hkept itemId
        { row with available := row.available + delta } (by rw [hrow, Option.map_some, if_pos hid])
      exact ⟨hnonneg, hle⟩
    intro hrange id row hrow
    obtain ⟨row, hold, rfl⟩ := Option.map_eq_some_iff.1 hrow
    have hid : row.id = id := (Keyed.find?_eq_some.1 hold).2
    obtain ⟨hnonneg, hle, hbalance⟩ := h id row hold
    change _ = row.copies - s.shared.out id + _ at hbalance
    by_cases hitem : row.id = itemId
    · have hsame : itemId = id := hitem.symm.trans hid
      obtain ⟨hnonneg', hle'⟩ := hrange row (by rw [hsame]; exact hold)
      rw [if_pos hitem, if_pos hsame]
      refine ⟨hnonneg', hle', ?_⟩
      change row.available + delta = row.copies - s.shared.out id + _
      omega
    have hother : itemId ≠ id := fun heq => hitem (hid.trans heq.symm)
    rw [if_neg hitem, if_neg hother]
    refine ⟨hnonneg, hle, ?_⟩
    change row.available = row.copies - s.shared.out id + _
    omega
  refine iff_of_false (not_copiesKept_lost hcall (hnext.trans hlost) ?_ hrow h) ?_
  · rw [howed, if_pos rfl]
    omega
  intro hkept
  obtain ⟨hnonneg, hle⟩ := hkept row hrow
  have hcopies := hd.copies row (Keyed.find?_eq_some.1 hrow).1
  rw [fitsInt, Bool.and_eq_false_iff, decide_eq_false_iff_not,
    decide_eq_false_iff_not] at hrange
  omega

/-- A loan is inserted. -/
theorem copiesKept_lent {token : String} {body : LoanBody} {borrowerId : String}
    (hcall : s.calls[i]? = some (.available body borrowerId)) (h : CopiesKept s) :
    CopiesKept (libraryService.step (.advance i (some token)) s) := by
  rcases insertLoan_cases token body borrowerId s.shared with
    ⟨loans, loan, hinsert, hitem, hout, hnext⟩ | hnext
  · have hstep : libraryStep (some token) (.available body borrowerId) s.shared = _ := hnext
    rw [kept_advance_iff hcall hstep]
    intro id row hrow
    obtain ⟨hnonneg, hle, hbalance⟩ := h id row hrow
    refine ⟨hnonneg, hle, ?_⟩
    have hcount : LibraryStores.out id { s.shared with loans }
        = s.shared.out id + if body.itemId = id then 1 else 0 := by
      simp only [LibraryStores.out, Keyed.rows_insert? hinsert, List.countP_append,
        List.countP_singleton, LibraryLoan.isOut, hitem, hout]
      by_cases hid : body.itemId = id
      · simp [hid]
      · simp [hid]
    have howed : (LibraryCall.available body borrowerId).owed id = 0 := rfl
    rw [hcount, howed, LibraryCall.owed]
    omega
  · exact copiesKept_idle hcall hnext (fun _ => rfl) h

/-- A return marks its loan: it is not to be returned already. -/
theorem copiesKept_marked_iff {token loanId itemId : String} {loan : LibraryLoan}
    {row : LibraryItem} (hcall : s.calls[i]? = some (.open loanId itemId))
    (hloan : s.shared.loans.find? loanId = some loan) (hitem : loan.itemId = itemId)
    (hrow : s.shared.items.find? itemId = some row) (h : CopiesKept s) :
    CopiesKept (libraryService.step (.advance i (some token)) s) ↔ loan.returned = false := by
  have hnext : libraryStep (some token) (.open loanId itemId) s.shared
      = (.marked itemId, markReturned loanId s.shared) := rfl
  have hcount : ∀ id, (markReturned loanId s.shared).out id
      = s.shared.out id - if itemId = id ∧ loan.returned = false then 1 else 0 := by
    intro id
    have hrows := Keyed.countP_updateWhere (p := LibraryLoan.isOut id)
      (f := fun loan => { loan with returned := true }) (fun _ => rfl) hloan
    have hafter : LibraryLoan.isOut id { loan with returned := true } = false := by
      simp [LibraryLoan.isOut]
    have hbefore : LibraryLoan.isOut id loan = true ↔ itemId = id ∧ loan.returned = false := by
      simp [LibraryLoan.isOut, hitem]
    rw [hafter, if_neg Bool.false_ne_true, Nat.add_zero] at hrows
    simp only [hbefore] at hrows
    simp only [LibraryStores.out, markReturned]
    by_cases hboth : itemId = id ∧ loan.returned = false
    · rw [if_pos hboth] at hrows ⊢
      omega
    rw [if_neg hboth] at hrows ⊢
    omega
  rw [kept_advance_iff hcall hnext]
  constructor
  · intro hkept
    obtain ⟨-, -, hbefore⟩ := h itemId row hrow
    obtain ⟨-, -, hafter⟩ := hkept itemId row hrow
    rw [hcount] at hafter
    by_contra hreturned
    rw [if_neg fun hboth => hreturned hboth.2] at hafter
    simp only [LibraryCall.owed, if_pos] at hafter
    omega
  intro hout id row' hrow'
  obtain ⟨hnonneg, hle, hbalance⟩ := h id row' hrow'
  refine ⟨hnonneg, hle, ?_⟩
  rw [hcount]
  simp only [LibraryCall.owed, hout, and_true]
  split <;> omega

theorem owed_identifyBorrower (d : LibraryStores)
    (id : String) : (identifyBorrower actorId body d).owed id = 0 := by
  simp only [identifyBorrower]
  split
  · rfl
  · split <;> rfl

theorem owed_permitBorrower (roles : List String)
    (borrowerId : String) (d : LibraryStores) (id : String) :
    (permitBorrower actorId body roles borrowerId d).owed id = 0 := by
  simp only [permitBorrower]
  split <;> rfl

theorem owed_findCopy (borrowerId : String) (d : LibraryStores) (id : String) :
    (findCopy body borrowerId d).owed id = 0 := by
  simp only [findCopy]
  split
  · rfl
  · split <;> rfl

theorem owed_readLoan (loanId : String) (d : LibraryStores) (id : String) :
    (readLoan loanId d).owed id = 0 := by
  simp only [readLoan]
  split
  · rfl
  split
  · rfl
  · split <;> rfl

/-- An item that is created has all its copies. -/
theorem copiesKept_created (h : CopiesKept s) (hd : LibraryOk s.shared)
    (hcalls : ∀ call ∈ s.calls, call.Ok s.shared) (newId : String) (body : LibraryItemBody) :
    CopiesKept (libraryService.step (.other (.createItem newId body)) s) := by
  intro id row hrow
  rcases createLibraryItem_cases newId body s.shared with
    hsame | ⟨items, created, hinsert, hone, -, hall, hnew⟩
  · rw [Service.step_other, show libraryService.other (.createItem newId body) s.shared
      = s.shared from hsame] at hrow ⊢
    exact h id row hrow
  rw [Service.step_other, show libraryService.other (.createItem newId body) s.shared
    = _ from hnew] at hrow ⊢
  dsimp only at hrow
  rw [Keyed.find?_insert? hinsert] at hrow
  split at hrow
  · rename_i hid
    cases hrow
    -- nothing was lent of an item that was not there
    have hnone : s.shared.items.find? id = none := hid ▸ (Keyed.insert?_eq_some hinsert).1
    have hout : LibraryStores.out id { s.shared with items } = 0 := by
      rw [LibraryStores.out, Int.natCast_eq_zero, List.countP_eq_zero]
      intro loan hloan hisOut
      have hthere := hd.loans loan hloan
      rw [LibraryLoan.isOut, Bool.and_eq_true, decide_eq_true_eq] at hisOut
      rw [hisOut.1, hnone] at hthere
      cases hthere
    have howed : s.total (LibraryCall.owed id) = 0 := by
      apply Service.total_eq_zero
      intro call hcall
      have hok := hcalls call hcall
      cases call with
      | lent itemId =>
        refine if_neg ?_
        rintro rfl
        rw [LibraryCall.Ok, hnone] at hok
        cases hok
      | marked itemId =>
        refine if_neg ?_
        rintro rfl
        rw [LibraryCall.Ok, hnone] at hok
        cases hok
      | asked | identified | permitted | available | «open» | alreadyReturned | done | refused
      | died | lost => rfl
    have howed' : ({ s with shared := { s.shared with items } } : LibraryState).total
        (LibraryCall.owed id) = 0 := howed
    rw [hout, howed']
    omega
  · exact h id row hrow

/-- **One step keeps the copies exactly when it takes what there is and loses nothing.** -/
theorem copies_step_iff (e : LibraryEvent) (h : CopiesKept s) (hd : LibraryOk s.shared)
    (hcalls : ∀ call ∈ s.calls, call.Ok s.shared) :
    CopiesKept (libraryService.step e s) ↔ TakesCopy s e := by
  cases e with
  | call request =>
    refine iff_of_true ?_ trivial
    intro id row hrow
    have hzero : (libraryService.start request).owed id = 0 := rfl
    rw [Service.total_step_call, hzero, Int.add_zero]
    exact h id row hrow
  | other change =>
    refine iff_of_true ?_ trivial
    cases change with
    | setRoles roles => exact h
    | setLinked linked => exact h
    | setEnabled enabled => exact h
    | createItem newId body => exact copiesKept_created h hd hcalls newId body
  | advance i token =>
    cases hcall : s.calls[i]? with
    | none =>
      rw [Service.step_advance_none hcall]
      exact iff_of_true h fun call hcall' => by rw [hcall] at hcall'; cases hcall'
    | some call =>
      have hok := hcalls call (List.mem_of_getElem? hcall)
      have htakes : TakesCopy s (.advance i token) ↔ _ :=
        ⟨fun h => h _ hcall, fun h call hcall' => by
          rw [hcall] at hcall'; cases hcall'; exact h⟩
      rw [htakes]
      cases token with
      | none =>
        -- the request ends here
        have hnext : libraryStep none call s.shared = (call.ended, s.shared) := rfl
        cases call with
        | lent itemId =>
          obtain ⟨row, hrow⟩ := Option.isSome_iff_exists.1 hok
          refine iff_of_false (not_copiesKept_lost hcall hnext ?_ hrow h) nofun
          rw [LibraryCall.owed, if_pos rfl]
          exact one_ne_zero
        | marked itemId =>
          obtain ⟨row, hrow⟩ := Option.isSome_iff_exists.1 hok
          refine iff_of_false (not_copiesKept_lost hcall hnext ?_ hrow h) nofun
          rw [LibraryCall.owed, if_pos rfl]
          exact neg_ne_zero.2 one_ne_zero
        | «open» loanId itemId =>
          exact iff_of_true (copiesKept_idle hcall hnext (fun _ => rfl) h) nofun
        | asked | identified | permitted | available | alreadyReturned | done | refused
        | died | lost =>
          exact iff_of_true (copiesKept_idle hcall hnext (fun _ => rfl) h) trivial
      | some token =>
        cases call with
        | asked request =>
          refine iff_of_true ?_ trivial
          cases request with
          | loan actorId body =>
            exact copiesKept_idle hcall rfl (owed_identifyBorrower actorId body _) h
          | returnLoan loanId =>
            exact copiesKept_idle hcall rfl (owed_readLoan loanId _) h
        | identified actorId body roles borrowerId =>
          exact iff_of_true (copiesKept_idle hcall rfl
            (owed_permitBorrower actorId body roles borrowerId _) h) trivial
        | permitted body borrowerId =>
          exact iff_of_true (copiesKept_idle hcall rfl (owed_findCopy body borrowerId _) h)
            trivial
        | available body borrowerId => exact iff_of_true (copiesKept_lent hcall h) trivial
        | lent itemId =>
          rw [copiesKept_moved_iff itemId hcall rfl (fun _ => rfl)
            (neg_ne_zero.2 one_ne_zero) hd h]
          simp only [Option.isSome_some, true_and]
          refine forall₂_congr fun row hrow => ?_
          have hle := (h itemId row hrow).2.1
          omega
        | «open» loanId itemId =>
          obtain ⟨hitem, loan, hloan, hof⟩ := hok
          obtain ⟨row, hrow⟩ := Option.isSome_iff_exists.1 hitem
          rw [copiesKept_marked_iff hcall hloan hof hrow h]
          constructor
          · intro hout _ loan' hloan'
            rw [hloan] at hloan'
            cases hloan'
            exact hout
          · exact fun hout => hout rfl loan hloan
        | marked itemId =>
          rw [copiesKept_moved_iff itemId hcall rfl (fun _ => rfl) one_ne_zero
            hd h]
          simp only [Option.isSome_some, true_and]
          refine forall₂_congr fun row hrow => ?_
          have hnonneg := (h itemId row hrow).1
          omega
        | alreadyReturned | done | refused | died | lost =>
          exact iff_of_true (copiesKept_idle hcall rfl (fun _ => rfl) h) trivial

end Steps

/-! ## Runs -/

def libraryStart (roles : String → List String) (linked : String → String → Bool)
    (enabled : Bool) : LibraryState :=
  { shared := { roles, linked, enabled } }

/-- No request is between its two writes. -/
def LibraryStill (s : LibraryState) : Prop :=
  ∀ call ∈ s.calls, ∀ itemId, call ≠ .lent itemId ∧ call ≠ .marked itemId

/-- **When copies are kept**: throughout a run between none and all copies of each item are
available, and the others are out, but for what requests between their writes have yet to change,
exactly when each loan takes a copy that there is, each return ends a loan that is not returned and
gives back a copy that is missing, and no request ends between its writes.  At the end, the
available copies are then the copies without the loans that are not returned. -/
theorem copies_kept_iff (roles : String → List String) (linked : String → String → Bool)
    (enabled : Bool) (es : List LibraryEvent) :
    ((∀ pre, pre <+: es →
          CopiesKept (run libraryService.step (libraryStart roles linked enabled) pre))
        ↔ Along libraryService.step TakesCopy (libraryStart roles linked enabled) es)
      ∧ ∀ s, CopiesKept s → LibraryStill s → ∀ id row, s.shared.items.find? id = some row →
        row.available = row.copies - s.shared.out id := by
  constructor
  · have hstart : CopiesKept (libraryStart roles linked enabled) := by
      intro id row hrow
      cases hrow
    have hok : LibraryOk (libraryStart roles linked enabled).shared
        ∧ ∀ call ∈ (libraryStart roles linked enabled).calls,
          call.Ok (libraryStart roles linked enabled).shared := by
      refine ⟨⟨?_, ?_⟩, ?_⟩
      · intro loan hloan
        cases hloan
      · intro row hrow
        cases hrow
      intro call hcall
      cases hcall
    have hevents : Along libraryService.step (fun _ _ => True) (libraryStart roles linked enabled)
        es := along_of_forall (D := fun _ => True) fun _ _ => trivial
    refine (along_iff_throughout_with (J := fun s => LibraryOk s.shared
      ∧ ∀ call ∈ s.calls, call.Ok s.shared) ?_ ?_ hevents hstart hok).symm
    · exact fun s e _ _ hok => library_ok_step e hok.1 hok.2
    · exact fun s e _ h hok => copies_step_iff e h hok.1 hok.2
  intro s h hstill id row hrow
  obtain ⟨-, -, hbalance⟩ := h id row hrow
  have howed : s.total (LibraryCall.owed id) = 0 := by
    apply Service.total_eq_zero
    intro call hcall
    cases call with
    | lent itemId => exact absurd rfl (hstill _ hcall itemId).1
    | marked itemId => exact absurd rfl (hstill _ hcall itemId).2
    | asked | identified | permitted | available | «open» | alreadyReturned | done | refused
    | died | lost => rfl
  rw [hbalance, howed, Int.add_zero]

namespace Example

def oneCopy : List LibraryEvent := [.other (.createItem "atlas" { title := "Atlas" })]

def borrow (borrowerId : String) : LibraryRequest :=
  .loan "librarian" { itemId := "atlas", borrowerId := some borrowerId }

/-- Two requests for the last copy read that it is available before either takes it. -/
def lastCopy : List LibraryEvent :=
  oneCopy ++ [.call (borrow "ada"), .call (borrow "grace"), .advance 0 (some ""),
    .advance 0 (some ""), .advance 0 (some ""), .advance 1 (some ""), .advance 1 (some ""),
    .advance 1 (some ""), .advance 0 (some "l1"), .advance 1 (some "l2"), .advance 0 (some ""),
    .advance 1 (some "")]

/-- Two requests return one loan. -/
def returnedTwice : List LibraryEvent :=
  oneCopy ++ [.call (borrow "ada"), .advance 0 (some ""), .advance 0 (some ""),
    .advance 0 (some ""), .advance 0 (some "l1"), .advance 0 (some ""),
    .call (.returnLoan "l1"), .call (.returnLoan "l1"), .advance 1 (some ""), .advance 2 (some ""),
    .advance 1 (some ""), .advance 2 (some ""), .advance 1 (some ""), .advance 2 (some "")]

end Example

/-- Copies are not always kept: the last copy is lent twice, and one that is returned twice counts
as two. -/
theorem not_copies_kept :
    (((run libraryService.step (libraryStart (fun _ => []) (fun _ _ => false) true)
        Example.lastCopy).shared.items.find? "atlas").map (·.available) = some (-1))
      ∧ ∃ row, (run libraryService.step (libraryStart (fun _ => []) (fun _ _ => false) true)
          Example.returnedTwice).shared.items.find? "atlas" = some row
        ∧ row.copies < row.available
        ∧ row.available ≠ row.copies - (run libraryService.step
          (libraryStart (fun _ => []) (fun _ _ => false) true)
            Example.returnedTwice).shared.out "atlas" := by
  refine ⟨by decide, { id := "atlas", title := "Atlas", copies := 1, available := 2 }, ?_⟩
  refine ⟨?_, ?_, ?_⟩
  · decide
  · decide
  · decide

end MultiAcademy.School
