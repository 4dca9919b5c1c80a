import MultiAcademy.Lib.Flight
import MultiAcademy.Lib.Keyed
import MultiAcademy.Lib.Tally
import MultiAcademy.School.Grading

/-!
# Stock

`finance/inventory/inventory.service.ts`: `createItem` and `recordMovement`.  A movement reads the
quantity on hand, changes it with a statement of its own, and then inserts its row; nothing ties
the three together, so that other movements come in between and any statement may be the last
one of its request.
-/

namespace MultiAcademy.School

open MultiAcademy.Lib

/-! ## The tables -/

inductive MovementDirection
  | into
  | out
  deriving DecidableEq

/-- A row of `inventory_items`, with the quantity that it was created with. -/
structure InventoryItem where
  id : String
  name : String
  qtyOnHand : ℤ
  opening : ℤ
  deriving DecidableEq

/-- A row of `inventory_movements`. -/
structure InventoryMovement where
  itemId : String
  direction : MovementDirection
  qty : ℤ
  reason : Option String
  createdBy : String
  deriving DecidableEq

/-- What a movement adds to the quantity. -/
def signed (direction : MovementDirection) (qty : ℤ) : ℤ :=
  match direction with
  | .into => qty
  | .out => -qty

def InventoryMovement.delta (row : InventoryMovement) : ℤ := signed row.direction row.qty

/-- The tables, who has which role, and whether the school has the feature. -/
structure InventoryStores where
  items : Keyed InventoryItem.id := .empty
  movements : List InventoryMovement := []
  roles : String → List String := fun _ => []
  enabled : Bool := true

/-- What the recorded movements of an item amount to. -/
def InventoryStores.recorded (itemId : String) (d : InventoryStores) : ℤ :=
  tally InventoryMovement.itemId InventoryMovement.delta d.movements itemId

/-- The column `int` takes the number. -/
def fitsInt (n : ℤ) : Bool := -2147483648 ≤ n && n ≤ 2147483647

/-! ## The requests -/

/-- The body of `createItem`; of a quantity, `none` is the default. -/
structure InventoryItemBody where
  name : String
  qtyOnHand : Option ℤ := none
  unitCost : Option ℚ := none

/-- The body of `recordMovement`; a direction or a quantity of another kind is none. -/
structure MovementBody where
  itemId : String
  direction : Option MovementDirection
  qty : Option ℤ
  reason : Option String := none

structure MovementRequest where
  userId : String
  body : MovementBody

/-- Where a movement is: it has read the quantity, it has changed it, it has recorded the change;
or it was refused, or ended before it changed anything, or between its two writes. -/
inductive MovementPhase
  | asked
  | checked (direction : MovementDirection) (qty : ℤ)
  | moved (direction : MovementDirection) (qty : ℤ)
  | recorded
  | refused (status : ℕ) (message : String)
  | died
  | lost (direction : MovementDirection) (qty : ℤ)
  deriving DecidableEq

structure MovementCall where
  request : MovementRequest
  phase : MovementPhase := .asked

/-- The roles that `assertAccess` asks for. -/
def inventoryRoles : List String :=
  ["director", "school_admin", "it_admin", "principal", "head_teacher", "administrative_staff",
    "bursar"]

/-- `assertAccess` for a write: the roles it asks for again are the same ones. -/
def assertAccess (userId : String) (d : InventoryStores) : Option String :=
  if (d.roles userId).all fun role => role ∉ inventoryRoles then
    some "Inventory access is restricted to authorized finance staff"
  else if ["principal", "head_teacher", "bursar", "director", "school_admin", "it_admin",
      "administrative_staff"].all fun role => role ∉ d.roles userId then
    some "Inventory writes are restricted to authorized finance staff"
  else none

/-- `recordMovement`, up to its first write. -/
def checkMovement (request : MovementRequest) (d : InventoryStores) : MovementPhase :=
  if d.enabled = false then .refused 403 "Feature disabled: finance.inventory"
  else
    match assertAccess request.userId d with
    | some message => .refused 404 message
    | none =>
      match request.body.direction, request.body.qty.filter fun qty => 0 < qty with
      | some direction, some qty =>
        match d.items.find? request.body.itemId with
        | none => .refused 404 "Inventory item not found"
        | some row =>
          if direction = .out ∧ row.qtyOnHand < qty then .refused 404 "Insufficient stock"
          else .checked direction qty
      | _, _ => .refused 404 "Inventory movement is invalid"

/-- `UPDATE inventory_items SET qty_on_hand = qty_on_hand + ?`, which fails when the number or the
sum does not fit its column. -/
def moveStock (itemId : String) (delta : ℤ) (d : InventoryStores) : Option InventoryStores :=
  if fitsInt delta && (d.items.find? itemId).all fun row => fitsInt (row.qtyOnHand + delta) then
    some { d with
      items := d.items.updateWhere (fun row => row.id = itemId)
        (fun row => { row with qtyOnHand := row.qtyOnHand + delta }) fun _ => rfl }
  else none

/-- `INSERT INTO inventory_movements`. -/
def recordRow (request : MovementRequest) (direction : MovementDirection) (qty : ℤ)
    (d : InventoryStores) : InventoryStores :=
  { d with
    movements := d.movements ++
      [{ itemId := request.body.itemId, direction, qty
         reason := request.body.reason.filter fun text => text ≠ ""
         createdBy := request.userId }] }

/-- The next statement of a movement, unless the request ends before it. -/
def movementStep (ends : Bool) (call : MovementCall) (d : InventoryStores) :
    MovementCall × InventoryStores :=
  match call.phase, ends with
  | .asked, false => ({ call with phase := checkMovement call.request d }, d)
  | .asked, true => ({ call with phase := .died }, d)
  | .checked direction qty, false =>
    match moveStock call.request.body.itemId (signed direction qty) d with
    | some moved => ({ call with phase := .moved direction qty }, moved)
    | none => ({ call with phase := .died }, d)
  | .checked _ _, true => ({ call with phase := .died }, d)
  | .moved direction qty, false =>
    ({ call with phase := .recorded }, recordRow call.request direction qty d)
  | .moved direction qty, true => ({ call with phase := .lost direction qty }, d)
  | _, _ => (call, d)

/-- `createItem`; `id` is the random token. -/
def createInventoryItem (id userId : String) (body : InventoryItemBody) (d : InventoryStores) :
    InventoryStores :=
  let qty := body.qtyOnHand.getD 0
  if d.enabled = false ∨ (assertAccess userId d).isSome ∨ blank body.name ∨ qty < 0
      ∨ body.unitCost.getD 0 < 0 ∨ fitsInt qty = false then d
  else
    match d.items.insert? { id, name := body.name, qtyOnHand := qty, opening := qty } with
    | some items => { d with items }
    | none => d

/-- What else happens. -/
inductive InventoryChange
  | createItem (id userId : String) (body : InventoryItemBody)
  | setRoles (roles : String → List String)
  | setEnabled (enabled : Bool)

def InventoryChange.apply (d : InventoryStores) : InventoryChange → InventoryStores
  | .createItem id userId body => createInventoryItem id userId body d
  | .setRoles roles => { d with roles }
  | .setEnabled enabled => { d with enabled }

def inventoryService :
    Service MovementRequest Bool InventoryChange InventoryStores MovementCall where
  start request := { request }
  next := movementStep
  other change d := change.apply d

abbrev InventoryState := Flight InventoryStores MovementCall
abbrev InventoryEvent := FlightEvent MovementRequest Bool InventoryChange

/-! ## What is kept -/

/-- What a movement has changed of an item and is about to record. -/
def MovementCall.underway (itemId : String) (call : MovementCall) : ℤ :=
  match call.phase with
  | .moved direction qty =>
    if call.request.body.itemId = itemId then signed direction qty else 0
  | _ => 0

/-- **Stock is kept**: no quantity is negative, and each is the opening quantity, with the recorded
movements and those that are about to be recorded. -/
def StockKept (s : InventoryState) : Prop :=
  ∀ id row, s.shared.items.find? id = some row → 0 ≤ row.qtyOnHand
    ∧ row.qtyOnHand = row.opening + s.shared.recorded id + s.total (MovementCall.underway id)

/-- The step takes no stock that is gone since it was read, and does not end a request between its
two writes. -/
def TakesStock (s : InventoryState) : InventoryEvent → Prop
  | .advance i ends =>
    ∀ call, s.calls[i]? = some call →
      match call.phase with
      | .checked direction qty =>
        ends = false → ∀ row moved,
          s.shared.items.find? call.request.body.itemId = some row →
          moveStock call.request.body.itemId (signed direction qty) s.shared = some moved →
          0 ≤ row.qtyOnHand + signed direction qty
      | .moved _ _ => ends = false
      | _ => True
  | _ => True

/-! ## The bookkeeping -/

/-- A movement that was checked is of an item that there is, and moves something. -/
def MovementCall.Ok (d : InventoryStores) (call : MovementCall) : Prop :=
  match call.phase with
  | .checked _ qty | .moved _ qty =>
    0 < qty ∧ (d.items.find? call.request.body.itemId).isSome = true
  | _ => True

def RecordsOk (d : InventoryStores) : Prop :=
  ∀ row ∈ d.movements, (d.items.find? row.itemId).isSome = true

section Steps
variable {d d' : InventoryStores} {call : MovementCall} {s : InventoryState}

theorem MovementCall.Ok.mono (h : call.Ok d)
    (hitems : ∀ id, (d.items.find? id).isSome = true → (d'.items.find? id).isSome = true) :
    call.Ok d' := by
  cases hphase : call.phase <;> simp_all [MovementCall.Ok]

variable {direction : MovementDirection} {request : MovementRequest} {qty : ℤ} {i : ℕ}

theorem signed_ne_zero (h : 0 < qty) (direction : MovementDirection) :
    signed direction qty ≠ 0 := by
  cases direction with
  | into => simp only [signed]; omega
  | out => simp only [signed]; omega

theorem checkMovement_ok :
    ({ request, phase := checkMovement request d } : MovementCall).Ok d := by
  simp only [checkMovement]
  split
  · trivial
  split
  · trivial
  split
  · rename_i direction qty _ hqty
    split
    · trivial
    rename_i row hrow
    split
    · trivial
    have hpos : 0 < qty := by simpa using (Option.filter_eq_some_iff.1 hqty).2
    exact ⟨hpos, by simp [hrow]⟩
  · trivial

/-- The row of an item after a movement has changed it. -/
theorem find?_moveStock {itemId : String} {delta : ℤ} (h : moveStock itemId delta d = some d')
    (id : String) :
    d'.items.find? id = (d.items.find? id).map (fun row =>
      if row.id = itemId then { row with qtyOnHand := row.qtyOnHand + delta } else row)
    ∧ d'.movements = d.movements := by
  simp only [moveStock] at h
  split at h
  · cases h
    refine ⟨?_, rfl⟩
    rw [Keyed.find?_updateWhere]
    simp
  · cases h

/-- The items are kept, and so is what a call was checked for. -/
theorem movementStep_frame (ends : Bool) (call : MovementCall) (d : InventoryStores) (id : String) :
    ((movementStep ends call d).2.items.find? id).isSome = (d.items.find? id).isSome := by
  simp only [movementStep]
  split
  · rfl
  · rfl
  · split
    · rename_i moved hmoved
      rw [(find?_moveStock hmoved id).1, Option.isSome_map]
    · rfl
  · rfl
  · rfl
  · rfl
  · rfl

theorem movementStep_ok (ends : Bool) (hd : RecordsOk d) (h : call.Ok d) :
    RecordsOk (movementStep ends call d).2
      ∧ (movementStep ends call d).1.Ok (movementStep ends call d).2 := by
  obtain ⟨request, phase⟩ := call
  cases phase with
  | asked =>
    cases ends with
    | true => exact ⟨hd, trivial⟩
    | false => exact ⟨hd, checkMovement_ok⟩
  | checked direction qty =>
    cases ends with
    | true => exact ⟨hd, trivial⟩
    | false =>
      simp only [movementStep]
      split
      · rename_i moved hmoved
        have hitems : ∀ id, (d.items.find? id).isSome = true →
            (moved.items.find? id).isSome = true := by
          intro id hid
          rw [(find?_moveStock hmoved id).1, Option.isSome_map]
          exact hid
        refine ⟨?_, h.1, hitems _ h.2⟩
        intro row hrow
        rw [(find?_moveStock hmoved "").2] at hrow
        exact hitems _ (hd row hrow)
      · exact ⟨hd, trivial⟩
  | moved direction qty =>
    cases ends with
    | true => exact ⟨hd, trivial⟩
    | false =>
      refine ⟨?_, trivial⟩
      intro row hrow
      rcases List.mem_append.1 hrow with hold | hnew
      · exact hd row hold
      rw [List.mem_singleton.1 hnew]
      exact h.2
  | recorded => exact ⟨hd, trivial⟩
  | refused status message => exact ⟨hd, trivial⟩
  | died => exact ⟨hd, trivial⟩
  | lost direction qty => exact ⟨hd, trivial⟩

theorem createInventoryItem_cases (id userId : String) (body : InventoryItemBody) :
    createInventoryItem id userId body d = d
      ∨ ∃ items row, d.items.insert? row = some items ∧ 0 ≤ row.qtyOnHand
        ∧ row.qtyOnHand = row.opening ∧ createInventoryItem id userId body d = { d with items } := by
  simp only [createInventoryItem]
  split
  · exact Or.inl rfl
  rename_i hvalid
  split
  · rename_i items hitems
    refine Or.inr ⟨items, _, hitems, ?_, rfl, rfl⟩
    have hnonneg : ¬ body.qtyOnHand.getD 0 < 0 := by tauto
    exact not_lt.1 hnonneg
  · exact Or.inl rfl

/-- What else happens keeps the items, and records nothing. -/
theorem change_items (change : InventoryChange) (id : String)
    (h : (d.items.find? id).isSome = true) : ((change.apply d).items.find? id).isSome = true := by
  cases change with
  | createItem newId userId body =>
    rcases createInventoryItem_cases (d := d) newId userId body with hsame | hnew
    · exact (congrArg (fun d => (d.items.find? id).isSome) hsame).trans h
    obtain ⟨items, row, hinsert, -, -, heq⟩ := hnew
    rw [show InventoryChange.apply d (.createItem newId userId body) = _ from heq]
    dsimp only
    rw [Keyed.find?_insert? hinsert]
    split
    · rfl
    · exact h
  | setRoles roles => exact h
  | setEnabled enabled => exact h

theorem change_movements (change : InventoryChange) (d : InventoryStores) :
    (change.apply d).movements = d.movements := by
  cases change with
  | createItem newId userId body =>
    simp only [InventoryChange.apply, createInventoryItem]
    split
    · rfl
    · split <;> rfl
  | setRoles roles => rfl
  | setEnabled enabled => rfl

/-- The bookkeeping is kept by every step. -/
theorem inventory_ok_step (e : InventoryEvent) (hd : RecordsOk s.shared)
    (hcalls : ∀ call ∈ s.calls, call.Ok s.shared) :
    RecordsOk (inventoryService.step e s).shared
      ∧ ∀ call ∈ (inventoryService.step e s).calls, call.Ok (inventoryService.step e s).shared := by
  refine Service.invariant_step (W := RecordsOk) (Q := fun d call => call.Ok d) ?_ ?_ ?_ ?_ ?_
    hd hcalls
  · exact fun request d _ => trivial
  · exact fun ends call d hd hcall => (movementStep_ok ends hd hcall).1
  · exact fun ends call d hd hcall => (movementStep_ok ends hd hcall).2
  · intro ends call d _ _ call' hcall'
    exact hcall'.mono fun id hid => (movementStep_frame ends call d id).trans hid
  intro change d hd
  refine ⟨?_, fun call hcall => hcall.mono (change_items change)⟩
  intro row hrow
  have hold : row ∈ d.movements := change_movements change d ▸ hrow
  exact change_items change _ (hd row hold)

/-! ## One step -/

/-- A movement changes the quantity of its item, and of no other. -/
theorem kept_moved_iff {direction : MovementDirection} {qty : ℤ}
    (hcall : s.calls[i]? = some { request, phase := .checked direction qty }) (h : StockKept s)
    {moved : InventoryStores}
    (hmoved : moveStock request.body.itemId (signed direction qty) s.shared = some moved) :
    StockKept (inventoryService.step (.advance i false) s)
      ↔ ∀ row, s.shared.items.find? request.body.itemId = some row →
        0 ≤ row.qtyOnHand + signed direction qty := by
  have hnext : movementStep false { request, phase := .checked direction qty } s.shared
      = ({ request, phase := .moved direction qty }, moved) := by
    simp only [movementStep, hmoved]
  have hshared : (inventoryService.step (.advance i false) s).shared = moved := by
    rw [Service.step_advance hcall]
    exact congrArg Prod.snd hnext
  have htotal : ∀ id, (inventoryService.step (.advance i false) s).total
      (MovementCall.underway id) = s.total (MovementCall.underway id)
        + if request.body.itemId = id then signed direction qty else 0 := by
    intro id
    rw [Service.total_step_advance _ hcall]
    have hfirst : (inventoryService.next false { request, phase := .checked direction qty }
        s.shared).1 = { request, phase := .moved direction qty } := congrArg Prod.fst hnext
    rw [hfirst]
    simp [MovementCall.underway]
  have hitems := fun id => (find?_moveStock hmoved id).1
  have hrecorded : ∀ id, moved.recorded id = s.shared.recorded id := by
    intro id
    rw [InventoryStores.recorded, (find?_moveStock hmoved id).2, InventoryStores.recorded]
  simp only [StockKept, hshared, htotal, hrecorded, hitems]
  constructor
  · intro hkept row hrow
    have hid : row.id = request.body.itemId := (Keyed.find?_eq_some.1 hrow).2
    have hafter := (hkept request.body.itemId
      { row with qtyOnHand := row.qtyOnHand + signed direction qty } (by simp [hrow, hid])).1
    exact hafter
  intro hstock id row hrow
  obtain ⟨row, hold, rfl⟩ := Option.map_eq_some_iff.1 hrow
  have hid : row.id = id := (Keyed.find?_eq_some.1 hold).2
  obtain ⟨hnonneg, hbalance⟩ := h id row hold
  by_cases hitem : row.id = request.body.itemId
  · have hsame : request.body.itemId = id := hitem.symm.trans hid
    rw [if_pos hitem, if_pos hsame]
    refine ⟨hstock row (by rw [hsame]; exact hold), ?_⟩
    dsimp only
    omega
  have hother : request.body.itemId ≠ id := fun heq => hitem (hid.trans heq.symm)
  rw [if_neg hitem, if_neg hother]
  exact ⟨hnonneg, by omega⟩

/-- A step of a request that changes nothing but where it is. -/
theorem kept_idle_iff {ends : Bool} {call call' : MovementCall}
    (hcall : s.calls[i]? = some call) (hnext : movementStep ends call s.shared = (call', s.shared))
    (hunderway : ∀ id, call'.underway id = call.underway id) :
    StockKept (inventoryService.step (.advance i ends) s) ↔ StockKept s := by
  have hshared : (inventoryService.step (.advance i ends) s).shared = s.shared := by
    rw [Service.step_advance hcall]
    exact congrArg Prod.snd hnext
  have htotal : ∀ id, (inventoryService.step (.advance i ends) s).total (MovementCall.underway id)
      = s.total (MovementCall.underway id) := by
    intro id
    rw [Service.total_step_advance _ hcall,
      show (inventoryService.next ends call s.shared).1 = call' from congrArg Prod.fst hnext,
      hunderway]
    omega
  simp only [StockKept, hshared, htotal]

/-- A movement is recorded. -/
theorem kept_recorded {direction : MovementDirection} {qty : ℤ}
    (hcall : s.calls[i]? = some { request, phase := .moved direction qty }) (h : StockKept s) :
    StockKept (inventoryService.step (.advance i false) s) := by
  have hshared : (inventoryService.step (.advance i false) s).shared
      = recordRow request direction qty s.shared := by
    rw [Service.step_advance hcall]
    rfl
  have htotal : ∀ id, (inventoryService.step (.advance i false) s).total
      (MovementCall.underway id) = s.total (MovementCall.underway id)
        - if request.body.itemId = id then signed direction qty else 0 := by
    intro id
    rw [Service.total_step_advance _ hcall]
    exact Int.add_zero _
  have hrecorded : ∀ id, (recordRow request direction qty s.shared).recorded id
      = s.shared.recorded id + if request.body.itemId = id then signed direction qty else 0 := by
    intro id
    exact tally_concat _ _ _ _ _
  intro id row hrow
  rw [hshared] at hrow ⊢
  obtain ⟨hnonneg, hbalance⟩ := h id row hrow
  refine ⟨hnonneg, ?_⟩
  rw [htotal, hrecorded]
  omega

/-- A request that ends between its two writes loses what it has moved. -/
theorem not_kept_lost {direction : MovementDirection} {qty : ℤ}
    (hcall : s.calls[i]? = some { request, phase := .moved direction qty }) (h : StockKept s)
    (hok : ({ request, phase := .moved direction qty } : MovementCall).Ok s.shared) :
    ¬ StockKept (inventoryService.step (.advance i true) s) := by
  intro hkept
  obtain ⟨hpos, hitem⟩ := hok
  obtain ⟨row, hrow⟩ := Option.isSome_iff_exists.1 hitem
  have hshared : (inventoryService.step (.advance i true) s).shared = s.shared := by
    rw [Service.step_advance hcall]
    rfl
  have htotal : (inventoryService.step (.advance i true) s).total
      (MovementCall.underway request.body.itemId)
        = s.total (MovementCall.underway request.body.itemId) - signed direction qty := by
    rw [Service.total_step_advance _ hcall]
    simp [inventoryService, movementStep, MovementCall.underway]
  obtain ⟨-, hbefore⟩ := h request.body.itemId row hrow
  obtain ⟨-, hafter⟩ := hkept request.body.itemId row (by rw [hshared]; exact hrow)
  rw [hshared, htotal] at hafter
  have hne := signed_ne_zero hpos direction
  omega

theorem underway_checkMovement (request : MovementRequest) (d : InventoryStores) (id : String) :
    ({ request, phase := checkMovement request d } : MovementCall).underway id = 0 := by
  have hphase : ∀ direction qty, checkMovement request d ≠ .moved direction qty := by
    intro direction qty
    simp only [checkMovement]
    split
    · simp
    split
    · simp
    split
    · split
      · simp
      · split <;> simp
    · simp
  -- the phase is none of the ones that weigh something
  simp only [MovementCall.underway]

/-- An item that is created has what it was created with. -/
theorem kept_created (h : StockKept s) (hd : RecordsOk s.shared)
    (hcalls : ∀ call ∈ s.calls, call.Ok s.shared) (newId userId : String)
    (body : InventoryItemBody) :
    StockKept (inventoryService.step (.other (.createItem newId userId body)) s) := by
  intro id row hrow
  rcases createInventoryItem_cases (d := s.shared) newId userId body with hsame | hnew
  · rw [Service.step_other, show inventoryService.other (.createItem newId userId body) s.shared
      = s.shared from hsame] at hrow ⊢
    exact h id row hrow
  obtain ⟨items, created, hinsert, hnonneg, hopening, heq⟩ := hnew
  rw [Service.step_other, show inventoryService.other (.createItem newId userId body) s.shared
    = _ from heq] at hrow ⊢
  dsimp only at hrow
  rw [Keyed.find?_insert? hinsert] at hrow
  split at hrow
  · rename_i hid
    cases hrow
    -- nothing was moved of an item that was not there
    have hnone : s.shared.items.find? id = none := hid ▸ (Keyed.insert?_eq_some hinsert).1
    have hrecorded : s.shared.recorded id = 0 := by
      apply tally_eq_zero
      intro movement hmovement hitem
      have hthere := hd movement hmovement
      rw [hitem, hnone] at hthere
      cases hthere
    have hunderway : s.total (MovementCall.underway id) = 0 := by
      apply Service.total_eq_zero
      intro call hcall
      have hok := hcalls call hcall
      simp only [MovementCall.underway]
      split
      · rename_i direction qty hphase
        rw [if_neg]
        intro hitem
        simp only [MovementCall.Ok, hphase, hitem, hnone] at hok
        cases hok.2
      · rfl
    refine ⟨hnonneg, ?_⟩
    have hrecorded' : InventoryStores.recorded id { s.shared with items } = 0 := hrecorded
    have hunderway' : ({ s with shared := { s.shared with items } } : InventoryState).total
        (MovementCall.underway id) = 0 := hunderway
    rw [hrecorded', hunderway']
    omega
  · exact h id row hrow

/-- **One step keeps stock exactly when it takes what there is and loses nothing.** -/
theorem stock_step_iff (e : InventoryEvent) (h : StockKept s) (hd : RecordsOk s.shared)
    (hcalls : ∀ call ∈ s.calls, call.Ok s.shared) :
    StockKept (inventoryService.step e s) ↔ TakesStock s e := by
  cases e with
  | call request =>
    refine iff_of_true ?_ trivial
    intro id row hrow
    have hzero : (inventoryService.start request).underway id = 0 := rfl
    rw [Service.total_step_call, hzero, Int.add_zero]
    exact h id row hrow
  | other change =>
    refine iff_of_true ?_ trivial
    cases change with
    | setRoles roles => exact h
    | setEnabled enabled => exact h
    | createItem newId userId body => exact kept_created h hd hcalls newId userId body
  | advance i ends =>
    cases hcall : s.calls[i]? with
    | none =>
      rw [Service.step_advance_none hcall]
      exact iff_of_true h fun call hcall' => by rw [hcall] at hcall'; cases hcall'
    | some call =>
      have hok := hcalls call (List.mem_of_getElem? hcall)
      obtain ⟨request, phase⟩ := call
      have htakes : TakesStock s (.advance i ends) ↔ _ :=
        ⟨fun h => h _ hcall, fun h call hcall' => by
          rw [hcall] at hcall'; cases hcall'; exact h⟩
      rw [htakes]
      cases phase with
      | asked =>
        refine iff_of_true ?_ trivial
        cases ends with
        | true =>
          have hnext : movementStep true { request, phase := .asked } s.shared
              = ({ request, phase := .died }, s.shared) := rfl
          exact (kept_idle_iff hcall hnext fun _ => rfl).2 h
        | false => exact (kept_idle_iff hcall rfl (underway_checkMovement request _)).2 h
      | checked direction qty =>
        cases ends with
        | true =>
          have hnext : movementStep true { request, phase := .checked direction qty }
              s.shared = ({ request, phase := .died }, s.shared) := rfl
          exact iff_of_true ((kept_idle_iff hcall hnext fun _ => rfl).2 h) nofun
        | false =>
          cases hmoved : moveStock request.body.itemId (signed direction qty) s.shared with
          | none =>
            have hnext : movementStep false { request, phase := .checked direction qty }
                s.shared = ({ request, phase := .died }, s.shared) := by
              simp only [movementStep, hmoved]
            refine iff_of_true ((kept_idle_iff hcall hnext fun _ => rfl).2 h) ?_
            intro _ row moved _ hmoved'
            cases hmoved.symm.trans hmoved'
          | some moved =>
            rw [kept_moved_iff hcall h hmoved]
            constructor
            · exact fun hstock _ row _ hrow _ => hstock row hrow
            · exact fun htakes row hrow => htakes rfl row moved hrow hmoved
      | moved direction qty =>
        cases ends with
        | true => exact iff_of_false (not_kept_lost hcall h hok) nofun
        | false => exact iff_of_true (kept_recorded hcall h) rfl
      | recorded => exact (kept_idle_iff hcall rfl fun _ => rfl).trans (iff_of_true h trivial)
      | refused status message =>
        exact (kept_idle_iff hcall rfl fun _ => rfl).trans (iff_of_true h trivial)
      | died => exact (kept_idle_iff hcall rfl fun _ => rfl).trans (iff_of_true h trivial)
      | lost direction qty =>
        exact (kept_idle_iff hcall rfl fun _ => rfl).trans (iff_of_true h trivial)

end Steps

/-! ## Runs -/

/-- A school without items. -/
def inventoryStart (roles : String → List String) (enabled : Bool) : InventoryState :=
  { shared := { roles, enabled } }

/-- No movement is between its two writes. -/
def Still (s : InventoryState) : Prop :=
  ∀ call ∈ s.calls, ∀ direction qty, call.phase ≠ .moved direction qty

/-- **When stock is kept**: throughout a run no quantity is negative, and each is its opening
quantity with the recorded movements and those that are about to be recorded, exactly when each
movement takes stock that is there when it takes it, and no request ends between its two writes.
Where no movement is between its two writes, the quantity is then the opening quantity with the
recorded movements. -/
theorem stock_kept_iff (roles : String → List String) (enabled : Bool) (es : List InventoryEvent) :
    ((∀ pre, pre <+: es → StockKept (run inventoryService.step (inventoryStart roles enabled) pre))
        ↔ Along inventoryService.step TakesStock (inventoryStart roles enabled) es)
      ∧ ∀ s, StockKept s → Still s → ∀ id row, s.shared.items.find? id = some row →
        0 ≤ row.qtyOnHand ∧ row.qtyOnHand = row.opening + s.shared.recorded id := by
  constructor
  · have hstart : StockKept (inventoryStart roles enabled) := by
      intro id row hrow
      cases hrow
    have hok : RecordsOk (inventoryStart roles enabled).shared
        ∧ ∀ call ∈ (inventoryStart roles enabled).calls,
          call.Ok (inventoryStart roles enabled).shared := by
      constructor
      · intro row hrow
        cases hrow
      intro call hcall
      cases hcall
    have hevents : Along inventoryService.step (fun _ _ => True)
        (inventoryStart roles enabled) es := along_of_forall (D := fun _ => True) fun _ _ => trivial
    refine (along_iff_throughout_with (J := fun s => RecordsOk s.shared
      ∧ ∀ call ∈ s.calls, call.Ok s.shared) ?_ ?_ hevents hstart hok).symm
    · exact fun s e _ _ hok => inventory_ok_step e hok.1 hok.2
    · exact fun s e _ h hok => stock_step_iff e h hok.1 hok.2
  intro s h hstill id row hrow
  obtain ⟨hnonneg, hbalance⟩ := h id row hrow
  have hunderway : s.total (MovementCall.underway id) = 0 := by
    apply Service.total_eq_zero
    intro call hcall
    simp only [MovementCall.underway]
    split
    · rename_i direction qty hphase
      exact absurd hphase (hstill call hcall direction qty)
    · rfl
  exact ⟨hnonneg, by rw [hbalance, hunderway, Int.add_zero]⟩

namespace Example

def keeper : String → List String := fun _ => ["bursar"]

def takeOne : MovementRequest :=
  { userId := "bursar", body := { itemId := "pen", direction := some .out, qty := some 1 } }

/-- Two requests for the last piece read the quantity before either takes it. -/
def lastPiece : List InventoryEvent :=
  [.other (.createItem "pen" "bursar" { name := "Pen", qtyOnHand := some 1 }),
    .call takeOne, .call takeOne, .advance 0 false, .advance 1 false, .advance 0 false,
    .advance 1 false, .advance 0 false, .advance 1 false]

/-- A request ends between its two writes. -/
def halfWritten : List InventoryEvent :=
  [.other (.createItem "pen" "bursar" { name := "Pen", qtyOnHand := some 1 }),
    .call takeOne, .advance 0 false, .advance 0 false, .advance 0 true]

end Example

/-- Stock is not always kept: two movements take the last piece, and one that fails leaves a
change that no row accounts for. -/
theorem not_stock_kept :
    (((run inventoryService.step (inventoryStart Example.keeper true)
        Example.lastPiece).shared.items.find? "pen").map (·.qtyOnHand) = some (-1))
      ∧ ∃ row, (run inventoryService.step (inventoryStart Example.keeper true)
          Example.halfWritten).shared.items.find? "pen" = some row
        ∧ row.qtyOnHand ≠ row.opening + (run inventoryService.step
          (inventoryStart Example.keeper true) Example.halfWritten).shared.recorded "pen" := by
  refine ⟨by decide, { id := "pen", name := "Pen", qtyOnHand := 0, opening := 1 }, ?_, ?_⟩
  · decide
  · decide

end MultiAcademy.School
