import MultiAcademy.Lib.Flight
import MultiAcademy.School.AcademicCalendar
import MultiAcademy.School.Timetable
import MultiAcademy.School.WardReads

/-!
# Hostel beds

`ops/hostel/hostel.service.ts`: `allocate` reads that a bed is available, inserts the allocation
and marks the bed occupied, a statement each.  Other requests come in between, and a request may
end before any of its statements; a bed then says that it is available and is allocated.
-/

namespace MultiAcademy.School

open MultiAcademy.Lib

/-! ## The tables -/

inductive BedStatus
  | available | occupied
  deriving DecidableEq

/-- A row of `hostel_beds`. -/
structure HostelBed where
  id : String
  houseId : String
  label : String
  status : BedStatus := .available

/-- A row of `hostel_allocations`. -/
structure HostelAllocation where
  id : String
  bedId : String
  studentId : String
  fromDate : Option String
  toDate : Option String

structure HostelStores where
  beds : Keyed HostelBed.id := .empty
  allocations : Keyed HostelAllocation.id := .empty

/-- What a bed says, if there is the bed. -/
def HostelStores.status (bedId : String) (d : HostelStores) : Option BedStatus :=
  (d.beds.find? bedId).map HostelBed.status

/-- How often a bed is allocated. -/
def HostelStores.allocated (bedId : String) (d : HostelStores) : ℕ :=
  d.allocations.rows.countP fun row => row.bedId = bedId

/-! ## The requests -/

/-- What a statement meets besides: the feature, the roles of the user, whether there is the house,
and the random token. -/
structure HostelReads where
  enabled : Bool := true
  roles : List String := ["director"]
  house : Bool := true
  token : String := ""

/-- `assertManager`. -/
def managesHostel (roles : List String) : Bool :=
  roles.any fun role => role ∈ ["director", "school_admin", "it_admin", "principal",
    "head_teacher", "administrative_staff"]

structure AllocateBody where
  bedId : String
  studentId : String
  fromDate : Option String := none
  toDate : Option String := none

/-- A text is missing, or the allocation ends before it begins. -/
def AllocateBody.invalid (body : AllocateBody) : Bool :=
  body.bedId = "" || body.studentId = "" || (orNull body.toDate).any fun toDate =>
    (orNull body.fromDate).any fun fromDate => !notAfter fromDate toDate

/-- Where an allocation is: its bed was available, its row is inserted; or it is done, was
refused, or ended, before its writes or between them. -/
inductive HostelCall
  | asked (body : AllocateBody)
  | available (body : AllocateBody)
  | inserted (bedId id : String)
  | done (id : String)
  | refused (error : AcademicError)
  | died
  | lost (bedId : String)

/-- `allocate`, up to its first write. -/
def checkAllocation (reads : HostelReads) (body : AllocateBody) (d : HostelStores) : HostelCall :=
  if !reads.enabled then .refused (featureDisabled "ops.hostel")
  else if !managesHostel reads.roles then .refused (404, "Hostel management is restricted")
  else if body.invalid then .refused (400, "Allocation values are invalid")
  else
    match d.beds.find? body.bedId with
    | none => .refused (404, "Bed not found")
    | some bed =>
      if bed.status = .available then .available body else .refused (400, "Bed is not available")

/-- `INSERT INTO hostel_allocations`. -/
def insertAllocation (token : String) (body : AllocateBody) (d : HostelStores) :
    HostelCall × HostelStores :=
  match d.allocations.insert?
      { id := token, bedId := body.bedId, studentId := body.studentId
        fromDate := orNull body.fromDate, toDate := orNull body.toDate } with
  | some allocations => (.inserted body.bedId token, { d with allocations })
  | none => (.died, d)

/-- `UPDATE hostel_beds SET status = 'occupied'`. -/
def HostelStores.occupy (bedId : String) (d : HostelStores) : HostelStores :=
  { d with
    beds := d.beds.updateWhere (fun bed => bed.id = bedId)
      (fun bed => { bed with status := .occupied }) fun _ => rfl }

/-- The next statement of an allocation, unless the request ends before it. -/
def hostelStep (reads : Option HostelReads) (call : HostelCall) (d : HostelStores) :
    HostelCall × HostelStores :=
  match call, reads with
  | .asked body, some reads => (checkAllocation reads body d, d)
  | .available body, some reads => insertAllocation reads.token body d
  | .inserted bedId id, some _ => (.done id, d.occupy bedId)
  | .inserted bedId _, none => (.lost bedId, d)
  | .asked _, none => (.died, d)
  | .available _, none => (.died, d)
  | call, _ => (call, d)

/-- The body of `addBed`. -/
structure BedBody where
  houseId : String
  label : String

/-- `addBed`, under its random token. -/
def addBed (reads : HostelReads) (body : BedBody) (d : HostelStores) : HostelStores :=
  if !reads.enabled || !managesHostel reads.roles || body.houseId = "" || blank body.label
      || !reads.house then d
  else
    match d.beds.insert? { id := reads.token, houseId := body.houseId, label := body.label } with
    | some beds => { d with beds }
    | none => d

def hostelService :
    Service AllocateBody (Option HostelReads) (HostelReads × BedBody) HostelStores HostelCall where
  start := .asked
  next := hostelStep
  other change := addBed change.1 change.2

abbrev HostelState := Flight HostelStores HostelCall
abbrev HostelEvent := FlightEvent AllocateBody (Option HostelReads) (HostelReads × BedBody)

def hostelStart : HostelState := { shared := {} }

/-! ## What the beds tell -/

/-- The allocation has found its bed available. -/
def HostelCall.reserves (bedId : String) : HostelCall → Bool
  | .available body => body.bedId = bedId
  | _ => false

/-- The allocation is between its two writes, or ended there. -/
def HostelCall.halfway (bedId : String) : HostelCall → Bool
  | .inserted id _ | .lost id => id = bedId
  | _ => false

/-- What a bed says, with its allocations, the requests that found it available and those that are
halfway. -/
def Tells : Option BedStatus → ℕ → ℕ → ℕ → Prop
  | none, allocated, reserved, halfway => allocated = 0 ∧ reserved = 0 ∧ halfway = 0
  | some .available, allocated, _, halfway => allocated = halfway
  | some .occupied, allocated, _, _ => 0 < allocated

def BedsTell (s : HostelState) : Prop :=
  ∀ bedId, Tells (s.shared.status bedId) (s.shared.allocated bedId)
    (s.calls.countP (HostelCall.reserves bedId)) (s.calls.countP (HostelCall.halfway bedId))

section Steps
variable {s : HostelState} {d : HostelStores}

theorem status_occupy (bedId id : String) (d : HostelStores) :
    (d.occupy id).status bedId
      = (d.status bedId).map fun status => if id = bedId then .occupied else status := by
  rw [HostelStores.status, HostelStores.occupy, Keyed.find?_updateWhere, HostelStores.status]
  cases hbed : d.beds.find? bedId with
  | none => rfl
  | some bed =>
    have hid : bed.id = bedId := (Keyed.find?_eq_some.1 hbed).2
    by_cases hsame : id = bedId
    · simp [hid, hsame]
    · simp [hid, hsame, Ne.symm hsame]

/-- **What a statement does about a bed**: at most, it finds it available, inserts an allocation of
it, or marks it. -/
theorem hostelStep_cases (reads : Option HostelReads) (call : HostelCall) (d : HostelStores)
    (bedId : String) :
    ((hostelStep reads call d).2.status bedId = d.status bedId
        ∧ (hostelStep reads call d).2.allocated bedId = d.allocated bedId
        ∧ (hostelStep reads call d).1.halfway bedId = call.halfway bedId
        ∧ ((hostelStep reads call d).1.reserves bedId = true → call.reserves bedId = true
          ∨ d.status bedId = some .available
            ∧ ∃ body, call = .asked body ∧ body.bedId = bedId ∧ reads.isSome = true))
      ∨ (call.reserves bedId = true ∧ (hostelStep reads call d).1.reserves bedId = false
        ∧ call.halfway bedId = false ∧ (hostelStep reads call d).1.halfway bedId = true
        ∧ (hostelStep reads call d).2.status bedId = d.status bedId
        ∧ (hostelStep reads call d).2.allocated bedId = d.allocated bedId + 1)
      ∨ (call.halfway bedId = true ∧ (hostelStep reads call d).1.halfway bedId = false
        ∧ call.reserves bedId = false ∧ (hostelStep reads call d).1.reserves bedId = false
        ∧ (hostelStep reads call d).2.status bedId = (d.status bedId).map (fun _ => .occupied)
        ∧ (hostelStep reads call d).2.allocated bedId = d.allocated bedId) := by
  cases call with
  | asked body =>
    refine Or.inl ?_
    cases reads with
    | none => simp [hostelStep, HostelCall.halfway, HostelCall.reserves]
    | some reads =>
      refine ⟨rfl, rfl, ?_, ?_⟩
      · simp only [hostelStep, checkAllocation]
        repeat' split
        all_goals rfl
      simp only [hostelStep, checkAllocation]
      split
      · simp [HostelCall.reserves]
      split
      · simp [HostelCall.reserves]
      split
      · simp [HostelCall.reserves]
      split
      · simp [HostelCall.reserves]
      rename_i bed hbed
      split
      · rename_i havailable
        intro hid
        have hid : body.bedId = bedId := by simpa [HostelCall.reserves] using hid
        exact Or.inr ⟨by simp [HostelStores.status, ← hid, hbed, havailable], body, rfl, hid, rfl⟩
      · simp [HostelCall.reserves]
  | available body =>
    cases reads with
    | none => simp [hostelStep, HostelCall.halfway, HostelCall.reserves]
    | some reads =>
      simp only [hostelStep, insertAllocation]
      split
      · rename_i allocations hinsert
        by_cases hid : body.bedId = bedId
        · refine Or.inr (Or.inl ?_)
          simp [HostelCall.halfway, HostelCall.reserves, HostelStores.status,
            HostelStores.allocated, Keyed.rows_insert? hinsert, hid]
        · refine Or.inl ?_
          simp [HostelCall.halfway, HostelCall.reserves, HostelStores.status,
            HostelStores.allocated, Keyed.rows_insert? hinsert, hid]
      · simp [HostelCall.halfway, HostelCall.reserves]
  | inserted id token =>
    cases reads with
    | none => simp [hostelStep, HostelCall.halfway, HostelCall.reserves]
    | some reads =>
      have hallocated : ∀ id, (d.occupy id).allocated bedId = d.allocated bedId := fun _ => rfl
      by_cases hid : id = bedId
      · refine Or.inr (Or.inr ?_)
        simp [hostelStep, HostelCall.halfway, HostelCall.reserves, status_occupy, hallocated, hid]
      · refine Or.inl ?_
        simp [hostelStep, HostelCall.halfway, HostelCall.reserves, status_occupy, hallocated, hid]
  | done | refused | died | lost => exact Or.inl ⟨rfl, rfl, rfl, Or.inl⟩

/-- A bed that is added is available, and there was none of its id. -/
theorem addBed_cases (reads : HostelReads) (body : BedBody) (d : HostelStores) (bedId : String) :
    (addBed reads body d).allocated bedId = d.allocated bedId
      ∧ ((addBed reads body d).status bedId = d.status bedId
        ∨ d.status bedId = none ∧ (addBed reads body d).status bedId = some .available) := by
  unfold addBed
  split
  · exact ⟨rfl, Or.inl rfl⟩
  split
  · rename_i beds hinsert
    refine ⟨rfl, ?_⟩
    simp only [HostelStores.status, Keyed.find?_insert? hinsert]
    split
    · rename_i hid
      exact Or.inr ⟨by rw [← hid, (Keyed.insert?_eq_some hinsert).1]; rfl, rfl⟩
    · exact Or.inl rfl
  · exact ⟨rfl, Or.inl rfl⟩

theorem bedsTell_step (e : HostelEvent) (h : BedsTell s) :
    BedsTell (hostelService.step e s) := by
  intro bedId
  have hbed := h bedId
  cases e with
  | call body => simpa [hostelService, HostelCall.reserves, HostelCall.halfway] using hbed
  | other change =>
    obtain ⟨hallocated, hstatus⟩ := addBed_cases change.1 change.2 s.shared bedId
    change Tells ((addBed change.1 change.2 s.shared).status bedId)
      ((addBed change.1 change.2 s.shared).allocated bedId) _ _
    rw [hallocated]
    rcases hstatus with hsame | ⟨hnone, hnew⟩
    · rw [hsame]
      exact hbed
    rw [hnone] at hbed
    rw [hnew]
    exact hbed.1.trans hbed.2.2.symm
  | advance i reads =>
    cases hcall : s.calls[i]? with
    | none =>
      rw [Service.step_advance_none hcall]
      exact hbed
    | some call =>
      have hreserved := Service.countP_set_add (p := HostelCall.reserves bedId) hcall
        (hostelStep reads call s.shared).1
      have hhalfway := Service.countP_set_add (p := HostelCall.halfway bedId) hcall
        (hostelStep reads call s.shared).1
      rw [Service.step_advance hcall]
      change Tells ((hostelStep reads call s.shared).2.status bedId)
        ((hostelStep reads call s.shared).2.allocated bedId)
        ((s.calls.set i (hostelStep reads call s.shared).1).countP _)
        ((s.calls.set i (hostelStep reads call s.shared).1).countP _)
      rcases hostelStep_cases reads call s.shared bedId with ⟨hstatus, hallocated, hsame, hfound⟩
        | ⟨hwas, his, hwas', his', hstatus, hallocated⟩
        | ⟨hwas, his, hwas', his', hstatus, hallocated⟩
      · rw [hstatus, hallocated]
        rw [hsame] at hhalfway
        cases hbefore : s.shared.status bedId with
        | none =>
          rw [hbefore] at hbed hfound
          have hreserves : (hostelStep reads call s.shared).1.reserves bedId = true →
              call.reserves bedId = true := by simpa using hfound
          simp only [Tells] at hbed ⊢
          by_cases hnew : (hostelStep reads call s.shared).1.reserves bedId = true
          · rw [if_pos hnew, if_pos (hreserves hnew)] at hreserved
            omega
          · rw [if_neg hnew] at hreserved
            split at hreserved <;> omega
        | some status => cases status <;> rw [hbefore] at hbed <;> simp only [Tells] at * <;> omega
      · rw [hstatus, hallocated]
        simp only [hwas, his, hwas', his', if_true, Bool.false_eq_true, if_false]
          at hreserved hhalfway
        cases hbefore : s.shared.status bedId with
        | none => rw [hbefore] at hbed; simp only [Tells] at *; omega
        | some status => cases status <;> rw [hbefore] at hbed <;> simp only [Tells] at * <;> omega
      · rw [hstatus, hallocated]
        simp only [hwas, his, hwas', his', if_true, Bool.false_eq_true, if_false]
          at hreserved hhalfway
        cases hbefore : s.shared.status bedId with
        | none => rw [hbefore] at hbed; simp only [Tells] at *; omega
        | some status =>
          cases status <;> rw [hbefore] at hbed <;>
            simp only [Tells, Option.map_some] at * <;> omega

end Steps

theorem bedsTell_run (es : List HostelEvent) :
    BedsTell (run hostelService.step hostelStart es) := by
  refine run_invariant (fun _ e h => bedsTell_step e h) ?_ es
  exact fun _ => ⟨rfl, rfl, rfl⟩

/-- **The beds tell what is allocated**: an occupied bed is allocated, and an available one only by
requests that are between their writes, or ended there. -/
theorem beds_tell (es : List HostelEvent) (bedId : String) :
    ((run hostelService.step hostelStart es).shared.status bedId = some .available →
      (run hostelService.step hostelStart es).shared.allocated bedId
        = (run hostelService.step hostelStart es).calls.countP (HostelCall.halfway bedId))
    ∧ ((run hostelService.step hostelStart es).shared.status bedId = some .occupied →
      0 < (run hostelService.step hostelStart es).shared.allocated bedId)
    ∧ ((run hostelService.step hostelStart es).shared.status bedId = none →
      (run hostelService.step hostelStart es).shared.allocated bedId = 0) := by
  have htells := bedsTell_run es bedId
  refine ⟨fun h => ?_, fun h => ?_, fun h => ?_⟩ <;> rw [h] at htells
  · exact htells
  · exact htells
  · exact htells.1

/-! ## Beds that are allocated once -/

/-- No request reads a bed that another has found available, or is halfway with. -/
def readsAlone (s : HostelState) : HostelEvent → Bool
  | .advance i (some _) =>
    match s.calls[i]? with
    | some (.asked body) =>
      s.calls.all fun call => !call.reserves body.bedId && !call.halfway body.bedId
    | _ => true
  | _ => true

/-- A bed has one allocation, or one request that found it available. -/
def BedsOnce (s : HostelState) : Prop :=
  ∀ bedId, s.shared.allocated bedId + s.calls.countP (HostelCall.reserves bedId) ≤ 1

theorem bedsOnce_step {s : HostelState} (e : HostelEvent) (h : BedsTell s) (honce : BedsOnce s)
    (halone : readsAlone s e = true) : BedsOnce (hostelService.step e s) := by
  intro bedId
  have hbefore := honce bedId
  cases e with
  | call body => simpa [hostelService, HostelCall.reserves] using hbefore
  | other change =>
    exact (congrArg (· + _) (addBed_cases change.1 change.2 s.shared bedId).1).trans_le hbefore
  | advance i reads =>
    cases hcall : s.calls[i]? with
    | none =>
      rw [Service.step_advance_none hcall]
      exact hbefore
    | some call =>
      have hreserved := Service.countP_set_add (p := HostelCall.reserves bedId) hcall
        (hostelStep reads call s.shared).1
      rw [Service.step_advance hcall]
      change (hostelStep reads call s.shared).2.allocated bedId
        + (s.calls.set i (hostelStep reads call s.shared).1).countP _ ≤ 1
      rcases hostelStep_cases reads call s.shared bedId with ⟨-, hallocated, -, hfound⟩
        | ⟨hwas, his, -, -, -, hallocated⟩ | ⟨-, -, hwas, his, -, hallocated⟩
      · rw [hallocated]
        by_cases hnew : (hostelStep reads call s.shared).1.reserves bedId = true
        · rcases hfound hnew with hwas | ⟨havailable, body, rfl, rfl, hreads⟩
          · rw [hnew, hwas] at hreserved
            omega
          obtain ⟨reads, rfl⟩ := Option.isSome_iff_exists.1 hreads
          simp only [readsAlone, hcall, List.all_eq_true, Bool.and_eq_true,
            Bool.not_eq_true'] at halone
          have hnone : s.calls.countP (HostelCall.reserves body.bedId) = 0 :=
            List.countP_eq_zero.2 fun call hc => by simp [halone call hc]
          have hfree : s.calls.countP (HostelCall.halfway body.bedId) = 0 :=
            List.countP_eq_zero.2 fun call hc => by simp [halone call hc]
          have htells := h body.bedId
          rw [havailable] at htells
          simp only [Tells] at htells
          rw [if_pos hnew] at hreserved
          split at hreserved <;> omega
        · rw [if_neg hnew] at hreserved
          split at hreserved <;> omega
      · simp only [hwas, his, if_true, Bool.false_eq_true, if_false] at hreserved
        omega
      · simp only [hwas, his, Bool.false_eq_true, if_false] at hreserved
        omega

/-- One request has the bed, and the next finds it taken. -/
def Example.bedTaken : List HostelEvent :=
  [.other ({ token := "bed" }, { houseId := "house", label := "A1" }),
    .call { bedId := "bed", studentId := "ada" }, .advance 0 (some {}),
    .advance 0 (some { token := "first" }), .advance 0 (some {}),
    .call { bedId := "bed", studentId := "obi" }, .advance 1 (some {})]

end MultiAcademy.School
