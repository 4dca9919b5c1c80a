import MultiAcademy.Lib.Keyed
import MultiAcademy.Lib.Run

/-!
# Tutoring bookings and their payments

`tutoring-service`, `services/booking_service.py`.  A booking is requested, confirmed by its
tutor and paid; a payment is started for a booking, and settled with the reference of a provider
or of a checkout.  The two statuses are written by different requests, each of which looks at one
of them at most.  The amounts of a payment are what the service computes in floating point from
the rate of the tutor, and come with the request.
-/

namespace MultiAcademy.Tutoring

open MultiAcademy.Lib

/-! ## The tables -/

inductive TutorStatus
  | active
  | inactive
  deriving DecidableEq

/-- A row of `tutor_profiles`. -/
structure TutorProfile where
  id : String
  tenantId : String
  userId : String
  currency : String
  status : TutorStatus
  deriving DecidableEq

inductive BookingStatus
  | requested
  | confirmed
  | paid
  deriving DecidableEq

/-- A row of `tutoring_bookings`. -/
structure TutoringBooking where
  id : String
  tenantId : String
  tutorId : String
  studentId : Option String
  parentId : Option String
  externalGuestName : Option String
  subject : String
  topic : Option String
  scheduledAt : Option String
  durationMinutes : ℤ
  includeAiPrep : Bool
  status : BookingStatus
  notes : Option String
  deriving DecidableEq

inductive PaymentStatus
  | pending
  | paid
  deriving DecidableEq

structure PaymentAmounts where
  amount : ℚ
  platformFee : ℚ
  tutorPayout : ℚ
  deriving DecidableEq

/-- A row of `tutoring_payments`. -/
structure TutoringPayment where
  id : String
  bookingId : String
  tenantId : String
  amounts : PaymentAmounts
  currency : String
  status : PaymentStatus
  providerRef : String
  deriving DecidableEq

structure TutoringDb where
  tutors : Keyed TutorProfile.id
  bookings : Keyed TutoringBooking.id := .empty
  payments : Keyed TutoringPayment.id := .empty

structure RequestContext where
  tenantId : String
  actorId : String
  roles : List String

structure BookingCreateRequest where
  tutorId : String
  studentId : Option String := none
  parentId : Option String := none
  externalGuestName : Option String := none
  subject : String
  topic : Option String := none
  scheduledAt : Option String := none
  durationMinutes : ℤ := 60
  includeAiPrep : Bool := true
  notes : Option String := none

inductive BookingError
  | valueError (message : String)
  | permissionError (message : String)
  /-- `one()` finds no row. -/
  | noResultFound
  /-- A key that is in use. -/
  | integrityError
  deriving DecidableEq

/-- `a or b`, of two texts. -/
def orText (a b : Option String) : Option String := (a.filter (· ≠ "")).or b

namespace TutoringDb

/-! ## The requests -/

def tutor? (db : TutoringDb) (id : String) : Option TutorProfile := db.tutors.find? id

def booking? (db : TutoringDb) (ctx : RequestContext) (bookingId : String) :
    Option TutoringBooking :=
  (db.bookings.find? bookingId).filter fun booking => booking.tenantId = ctx.tenantId

def payment? (db : TutoringDb) (ctx : RequestContext) (paymentId : String) :
    Option TutoringPayment :=
  (db.payments.find? paymentId).filter fun payment => payment.tenantId = ctx.tenantId

/-- `create`, with the id it draws. -/
def create (ctx : RequestContext) (id : String) (payload : BookingCreateRequest)
    (db : TutoringDb) : TutoringDb × Except BookingError TutoringBooking :=
  match (db.tutor? payload.tutorId).filter fun tutor =>
      tutor.tenantId = ctx.tenantId && tutor.status = .active with
  | none => (db, .error (.valueError "Tutor not found"))
  | some tutor =>
    let booking : TutoringBooking :=
      { id, tenantId := ctx.tenantId, tutorId := tutor.id, studentId := payload.studentId
        parentId := orText payload.parentId (some ctx.actorId)
        externalGuestName := payload.externalGuestName, subject := payload.subject
        topic := payload.topic, scheduledAt := payload.scheduledAt
        durationMinutes := payload.durationMinutes, includeAiPrep := payload.includeAiPrep
        status := .requested, notes := payload.notes }
    match db.bookings.insert? booking with
    | none => (db, .error .integrityError)
    | some bookings => ({ db with bookings }, .ok booking)

def setBookingStatus (bookingId : String) (status : BookingStatus) (db : TutoringDb) :
    TutoringDb :=
  { db with
    bookings :=
      db.bookings.updateWhere (fun booking => booking.id = bookingId)
        (fun booking => { booking with status }) fun _ => rfl }

def confirm (ctx : RequestContext) (bookingId : String) (db : TutoringDb) :
    TutoringDb × Except BookingError TutoringBooking :=
  match db.booking? ctx bookingId with
  | none => (db, .error (.valueError "Booking not found"))
  | some booking =>
    match db.tutor? booking.tutorId with
    | none => (db, .error .noResultFound)
    | some tutor =>
      if tutor.userId ≠ ctx.actorId ∧ "director" ∉ ctx.roles then
        (db, .error (.permissionError "Only the assigned tutor can confirm"))
      else
        (db.setBookingStatus booking.id .confirmed,
          .ok { booking with status := .confirmed })

/-- `create_payment_intent`, with the id and the reference that it draws, the amounts that it
computes, and the currency of the tenant's policy. -/
def createPaymentIntent (ctx : RequestContext) (bookingId id ref : String)
    (amounts : PaymentAmounts) (defaultCurrency : String) (db : TutoringDb) :
    TutoringDb × Except BookingError TutoringPayment :=
  match db.booking? ctx bookingId with
  | none => (db, .error (.valueError "Booking not found"))
  | some booking =>
    match db.tutor? booking.tutorId with
    | none => (db, .error .noResultFound)
    | some tutor =>
      let payment : TutoringPayment :=
        { id, bookingId := booking.id, tenantId := ctx.tenantId, amounts
          currency := (orText (some tutor.currency) (some defaultCurrency)).getD ""
          status := .pending, providerRef := "mas-tutor-" ++ ref }
      match db.payments.insert? payment with
      | none => (db, .error .integrityError)
      | some payments => ({ db with payments }, .ok payment)

/-- A payment that is settled with a reference. -/
def markPaid (paymentId reference : String) (db : TutoringDb) : TutoringDb :=
  { db with
    payments :=
      db.payments.updateWhere (fun payment => payment.id = paymentId)
        (fun payment => { payment with providerRef := reference, status := .paid })
        fun _ => rfl }

def settlePayment (ctx : RequestContext) (paymentId : String)
    (providerReference checkoutReference : Option String) (db : TutoringDb) :
    TutoringDb × Except BookingError TutoringPayment :=
  match db.payment? ctx paymentId with
  | none => (db, .error (.valueError "Payment not found"))
  | some payment =>
    if payment.status = .paid then (db, .ok payment)
    else
      match (orText providerReference checkoutReference).filter (· ≠ "") with
      | none =>
        (db, .error (.valueError "A verified provider or checkout reference is required"))
      | some reference =>
        match db.bookings.find? payment.bookingId with
        | none => (db, .error .noResultFound)
        | some booking =>
          ((db.markPaid payment.id reference).setBookingStatus booking.id .paid,
            .ok { payment with providerRef := reference, status := .paid })

end TutoringDb

/-- A request. -/
inductive TutoringEvent
  | create (ctx : RequestContext) (id : String) (payload : BookingCreateRequest)
  | confirm (ctx : RequestContext) (bookingId : String)
  | intent (ctx : RequestContext) (bookingId id ref : String) (amounts : PaymentAmounts)
      (defaultCurrency : String)
  | settle (ctx : RequestContext) (paymentId : String)
      (providerReference checkoutReference : Option String)

def tutoringStep (e : TutoringEvent) (db : TutoringDb) : TutoringDb :=
  match e with
  | .create ctx id payload => (db.create ctx id payload).1
  | .confirm ctx bookingId => (db.confirm ctx bookingId).1
  | .intent ctx bookingId id ref amounts defaultCurrency =>
    (db.createPaymentIntent ctx bookingId id ref amounts defaultCurrency).1
  | .settle ctx paymentId providerReference checkoutReference =>
    (db.settlePayment ctx paymentId providerReference checkoutReference).1

/-! ## The law -/

/-- The step from `db` to `db'` makes nothing unpaid. -/
structure PaidKept (db db' : TutoringDb) : Prop where
  bookings : ∀ booking ∈ db.bookings.rows, booking.status = .paid →
    ∃ after, db'.bookings.find? booking.id = some after ∧ after.status = .paid
  payments : ∀ payment ∈ db.payments.rows, payment.status = .paid →
    payment ∈ db'.payments.rows

/-- No reference settles two payments, and no booking has two that are paid. -/
structure PaidOnce (db : TutoringDb) : Prop where
  references : ∀ payment ∈ db.payments.rows, ∀ other ∈ db.payments.rows,
    payment.status = .paid → other.status = .paid → payment.providerRef = other.providerRef →
      payment = other
  bookings : ∀ payment ∈ db.payments.rows, ∀ other ∈ db.payments.rows,
    payment.status = .paid → other.status = .paid → payment.bookingId = other.bookingId →
      payment = other

/-- A booking that is confirmed is not paid; a payment that is settled is for a booking without
a paid one, with a reference that has settled none. -/
def KeepsPaid (db : TutoringDb) : TutoringEvent → Prop
  | .confirm ctx bookingId =>
    ∀ booking ∈ db.booking? ctx bookingId, ∀ tutor ∈ db.tutor? booking.tutorId,
      tutor.userId = ctx.actorId ∨ "director" ∈ ctx.roles → booking.status ≠ .paid
  | .settle ctx paymentId providerReference checkoutReference =>
    ∀ payment ∈ db.payment? ctx paymentId, payment.status = .pending →
      ∀ reference ∈ (orText providerReference checkoutReference).filter (· ≠ ""),
        db.bookings.find? payment.bookingId ≠ none →
          ∀ other ∈ db.payments.rows, other.status = .paid →
            other.providerRef ≠ reference ∧ other.bookingId ≠ payment.bookingId
  | _ => True

open TutoringDb

variable {db db' : TutoringDb} {ctx : RequestContext} {bookingId paymentId reference : String}
  {payment : TutoringPayment} {booking : TutoringBooking}
  {providerReference checkoutReference : Option String}

/-! ## What each request writes -/

theorem booking?_eq_some (h : db.booking? ctx bookingId = some booking) :
    booking ∈ db.bookings.rows ∧ booking.id = bookingId :=
  Keyed.find?_eq_some.1 (Option.filter_eq_some_iff.1 h).1

theorem payment?_eq_some (h : db.payment? ctx paymentId = some payment) :
    payment ∈ db.payments.rows ∧ payment.id = paymentId :=
  Keyed.find?_eq_some.1 (Option.filter_eq_some_iff.1 h).1

/-- A confirmation goes through, or writes nothing. -/
theorem confirm_cases (ctx : RequestContext) (bookingId : String) (db : TutoringDb) :
    ((db.confirm ctx bookingId).1 = db
        ∧ ∀ booking ∈ db.booking? ctx bookingId, ∀ tutor ∈ db.tutor? booking.tutorId,
          ¬ (tutor.userId = ctx.actorId ∨ "director" ∈ ctx.roles))
      ∨ ∃ booking tutor, db.booking? ctx bookingId = some booking
        ∧ db.tutor? booking.tutorId = some tutor
        ∧ (tutor.userId = ctx.actorId ∨ "director" ∈ ctx.roles)
        ∧ (db.confirm ctx bookingId).1 = db.setBookingStatus booking.id .confirmed := by
  unfold TutoringDb.confirm
  cases hbooking : db.booking? ctx bookingId with
  | none =>
    refine Or.inl ⟨rfl, ?_⟩
    intro _ hfound
    cases hfound
  | some booking =>
    simp only
    cases htutor : db.tutor? booking.tutorId with
    | none =>
      refine Or.inl ⟨rfl, ?_⟩
      rintro _ ⟨rfl⟩ tutor hfound
      rw [htutor] at hfound
      cases hfound
    | some tutor =>
      simp only
      by_cases hallowed : tutor.userId = ctx.actorId ∨ "director" ∈ ctx.roles
      · have hnot : ¬ (tutor.userId ≠ ctx.actorId ∧ "director" ∉ ctx.roles) := by tauto
        rw [if_neg hnot]
        exact Or.inr ⟨booking, tutor, rfl, htutor, hallowed, rfl⟩
      rw [if_pos (not_or.1 hallowed)]
      refine Or.inl ⟨rfl, ?_⟩
      rintro _ ⟨rfl⟩ _ hfound
      rw [htutor] at hfound
      cases hfound
      exact hallowed

/-- A settlement goes through, or writes nothing. -/
theorem settlePayment_cases (ctx : RequestContext) (paymentId : String)
    (providerReference checkoutReference : Option String) (db : TutoringDb) :
    ((db.settlePayment ctx paymentId providerReference checkoutReference).1 = db
        ∧ ∀ payment ∈ db.payment? ctx paymentId, payment.status = .pending →
          ∀ reference ∈ (orText providerReference checkoutReference).filter (· ≠ ""),
            db.bookings.find? payment.bookingId = none)
      ∨ ∃ payment reference booking, db.payment? ctx paymentId = some payment
        ∧ payment.status = .pending
        ∧ (orText providerReference checkoutReference).filter (· ≠ "") = some reference
        ∧ db.bookings.find? payment.bookingId = some booking
        ∧ (db.settlePayment ctx paymentId providerReference checkoutReference).1
          = (db.markPaid payment.id reference).setBookingStatus booking.id .paid := by
  unfold settlePayment
  cases hpayment : db.payment? ctx paymentId with
  | none => exact Or.inl ⟨rfl, by simp⟩
  | some payment =>
    simp only
    cases hstatus : payment.status with
    | paid =>
      refine Or.inl ⟨rfl, ?_⟩
      rintro _ ⟨rfl⟩ hpending
      rw [hstatus] at hpending
      cases hpending
    | pending =>
      rw [if_neg (by decide)]
      cases hreference : (orText providerReference checkoutReference).filter (· ≠ "") with
      | none => exact Or.inl ⟨rfl, by simp⟩
      | some reference =>
        simp only
        cases hbooking : db.bookings.find? payment.bookingId with
        | none =>
          refine Or.inl ⟨rfl, ?_⟩
          rintro _ ⟨rfl⟩ _ _ _
          exact hbooking
        | some booking =>
          exact Or.inr ⟨payment, reference, booking, rfl, hstatus, rfl, hbooking, rfl⟩

theorem PaidOnce.congr (h : PaidOnce db) (hpaid : ∀ payment ∈ db'.payments.rows,
    payment.status = .paid → payment ∈ db.payments.rows) : PaidOnce db' where
  references := fun p hp q hq hpPaid hqPaid =>
    h.references p (hpaid p hp hpPaid) q (hpaid q hq hqPaid) hpPaid hqPaid
  bookings := fun p hp q hq hpPaid hqPaid =>
    h.bookings p (hpaid p hp hpPaid) q (hpaid q hq hqPaid) hpPaid hqPaid

theorem PaidKept.refl (db : TutoringDb) : PaidKept db db :=
  ⟨fun booking hbooking hpaid => ⟨booking, Keyed.find?_eq_some.2 ⟨hbooking, rfl⟩, hpaid⟩,
    fun _ hpayment _ => hpayment⟩

/-- New bookings and payments are not paid. -/
theorem create_law (h : PaidOnce db) (ctx : RequestContext) (id : String)
    (payload : BookingCreateRequest) :
    PaidOnce (db.create ctx id payload).1 ∧ PaidKept db (db.create ctx id payload).1 := by
  unfold create
  split
  · exact ⟨h, .refl db⟩
  simp only
  split
  · exact ⟨h, .refl db⟩
  rename_i bookings hinsert
  refine ⟨h.congr fun _ hpayment _ => hpayment, ⟨fun booking hbooking hpaid => ?_,
    fun _ hpayment _ => hpayment⟩⟩
  have hfind := Keyed.find?_eq_some.2
    ⟨((Keyed.insert?_eq_some hinsert).2 booking).2 (Or.inl hbooking), rfl⟩
  exact ⟨booking, hfind, hpaid⟩

theorem createPaymentIntent_law (h : PaidOnce db) (ctx : RequestContext)
    (bookingId id ref : String) (amounts : PaymentAmounts) (defaultCurrency : String) :
    PaidOnce (db.createPaymentIntent ctx bookingId id ref amounts defaultCurrency).1
      ∧ PaidKept db
        (db.createPaymentIntent ctx bookingId id ref amounts defaultCurrency).1 := by
  unfold createPaymentIntent
  split
  · exact ⟨h, .refl db⟩
  split
  · exact ⟨h, .refl db⟩
  simp only
  split
  · exact ⟨h, .refl db⟩
  rename_i payments hinsert
  have hrows := (Keyed.insert?_eq_some hinsert).2
  refine ⟨h.congr fun payment hpayment hpaid => ?_, ⟨(PaidKept.refl db).bookings,
    fun payment hpayment _ => (hrows payment).2 (Or.inl hpayment)⟩⟩
  rcases (hrows payment).1 hpayment with hold | rfl
  · exact hold
  · cases hpaid

theorem find?_setBookingStatus (bookingId : String) (status : BookingStatus) (id : String) :
    (db.setBookingStatus bookingId status).bookings.find? id
      = (db.bookings.find? id).map fun booking =>
        if booking.id = bookingId then { booking with status } else booking := by
  rw [setBookingStatus, Keyed.find?_updateWhere]
  simp

/-- A booking that is confirmed loses what it was. -/
theorem confirm_law_iff (h : PaidOnce db) (hbooking : booking ∈ db.bookings.rows) :
    PaidOnce (db.setBookingStatus booking.id .confirmed)
        ∧ PaidKept db (db.setBookingStatus booking.id .confirmed)
      ↔ booking.status ≠ .paid := by
  have hfind : db.bookings.find? booking.id = some booking :=
    Keyed.find?_eq_some.2 ⟨hbooking, rfl⟩
  constructor
  · rintro ⟨-, hkept⟩ hpaid
    obtain ⟨after, hafter, hstill⟩ := hkept.bookings booking hbooking hpaid
    rw [find?_setBookingStatus, hfind, Option.map_some, if_pos rfl] at hafter
    cases hafter
    cases hstill
  intro hunpaid
  refine ⟨h.congr fun _ hpayment _ => hpayment, ⟨fun other hother hpaid => ?_,
    fun _ hpayment _ => hpayment⟩⟩
  have hne : other.id ≠ booking.id := by
    intro hid
    rw [Keyed.eq_of_key hother hbooking hid] at hpaid
    exact hunpaid hpaid
  refine ⟨other, ?_, hpaid⟩
  rw [find?_setBookingStatus, Keyed.find?_eq_some.2 ⟨hother, rfl⟩, Option.map_some, if_neg hne]

/-- A settlement pays a booking that has no paid payment, with a new reference. -/
theorem settle_law_iff (h : PaidOnce db) (hpayment : payment ∈ db.payments.rows)
    (hpending : payment.status = .pending) (bookingId reference : String) :
    PaidOnce ((db.markPaid payment.id reference).setBookingStatus bookingId .paid)
        ∧ PaidKept db ((db.markPaid payment.id reference).setBookingStatus bookingId .paid)
      ↔ ∀ other ∈ db.payments.rows, other.status = .paid →
        other.providerRef ≠ reference ∧ other.bookingId ≠ payment.bookingId := by
  have hrow : ∀ other,
      other ∈ ((db.markPaid payment.id reference).setBookingStatus bookingId .paid).payments.rows
        ↔ (other ∈ db.payments.rows ∧ other.id ≠ payment.id)
          ∨ other = { payment with providerRef := reference, status := .paid } := by
    intro other
    simp only [setBookingStatus, markPaid, Keyed.mem_updateWhere, decide_eq_true_eq]
    constructor
    · rintro ⟨old, hold, rfl⟩
      by_cases hid : old.id = payment.id
      · rw [if_pos hid, Keyed.eq_of_key hold hpayment hid]
        exact Or.inr rfl
      rw [if_neg hid]
      exact Or.inl ⟨hold, hid⟩
    rintro (⟨hold, hid⟩ | rfl)
    · exact ⟨other, hold, if_neg hid⟩
    · exact ⟨payment, hpayment, if_pos rfl⟩
  have hother : ∀ other ∈ db.payments.rows, other.status = .paid → other.id ≠ payment.id := by
    intro other hmem hpaid hid
    rw [Keyed.eq_of_key hmem hpayment hid, hpending] at hpaid
    cases hpaid
  constructor
  · rintro ⟨honce, -⟩ other hmem hpaid
    have hid := hother other hmem hpaid
    let settled : TutoringPayment := { payment with providerRef := reference, status := .paid }
    have hold := (hrow other).2 (Or.inl ⟨hmem, hid⟩)
    have hnew := (hrow settled).2 (Or.inr rfl)
    refine ⟨fun href => hid ?_, fun hbooking => hid ?_⟩
    · have hsame := honce.references other hold settled hnew hpaid rfl href
      rw [hsame]
    have hsame := honce.bookings other hold settled hnew hpaid rfl hbooking
    rw [hsame]
  intro hnew
  refine ⟨⟨fun p hp q hq hpPaid hqPaid href => ?_, fun p hp q hq hpPaid hqPaid hbooking => ?_⟩,
    ⟨fun booking hbooking hpaid => ?_, fun other hmem hpaid => ?_⟩⟩
  · rcases (hrow p).1 hp with ⟨hp, -⟩ | rfl
    · rcases (hrow q).1 hq with ⟨hq, -⟩ | rfl
      · exact h.references p hp q hq hpPaid hqPaid href
      · exact absurd href (hnew p hp hpPaid).1
    rcases (hrow q).1 hq with ⟨hq, -⟩ | rfl
    · exact absurd href.symm (hnew q hq hqPaid).1
    · rfl
  · rcases (hrow p).1 hp with ⟨hp, -⟩ | rfl
    · rcases (hrow q).1 hq with ⟨hq, -⟩ | rfl
      · exact h.bookings p hp q hq hpPaid hqPaid hbooking
      · exact absurd hbooking (hnew p hp hpPaid).2
    rcases (hrow q).1 hq with ⟨hq, -⟩ | rfl
    · exact absurd hbooking.symm (hnew q hq hqPaid).2
    · rfl
  · have hfind : (db.markPaid payment.id reference).bookings.find? booking.id = some booking :=
      Keyed.find?_eq_some.2 ⟨hbooking, rfl⟩
    rw [find?_setBookingStatus, hfind]
    by_cases hid : booking.id = bookingId
    · exact ⟨{ booking with status := .paid }, by simp [hid], rfl⟩
    · exact ⟨booking, by simp [hid], hpaid⟩
  · exact (hrow other).2 (Or.inl ⟨hmem, hother other hmem hpaid⟩)

/-- **A request keeps what is paid exactly when it meets the condition.** -/
theorem keepsPaid_step_iff (e : TutoringEvent) (h : PaidOnce db) :
    PaidOnce (tutoringStep e db) ∧ PaidKept db (tutoringStep e db) ↔ KeepsPaid db e := by
  cases e with
  | create ctx id payload => exact iff_of_true (create_law h ctx id payload) trivial
  | confirm ctx bookingId =>
    rw [tutoringStep, KeepsPaid]
    rcases confirm_cases ctx bookingId db with ⟨hsame, hrefused⟩
      | ⟨booking, tutor, hbooking, htutor, hallowed, hwritten⟩
    · rw [hsame]
      refine iff_of_true ⟨h, .refl db⟩ fun booking hbooking tutor htutor hallowed => ?_
      exact absurd hallowed (hrefused booking hbooking tutor htutor)
    rw [hwritten, confirm_law_iff h (booking?_eq_some hbooking).1]
    simp [hbooking, htutor, hallowed]
  | intent ctx bookingId id ref amounts defaultCurrency =>
    exact iff_of_true (createPaymentIntent_law h ctx bookingId id ref amounts defaultCurrency)
      trivial
  | settle ctx paymentId providerReference checkoutReference =>
    rw [tutoringStep, KeepsPaid]
    rcases settlePayment_cases ctx paymentId providerReference checkoutReference db with
      ⟨hsame, hrefused⟩
      | ⟨payment, reference, booking, hpayment, hpending, href, hbooking, hwritten⟩
    · rw [hsame]
      refine iff_of_true ⟨h, .refl db⟩ fun payment hpayment hpending reference href hfound => ?_
      exact absurd (hrefused payment hpayment hpending reference href) hfound
    rw [hwritten, settle_law_iff h (payment?_eq_some hpayment).1 hpending]
    simp only [hpayment, href, Option.mem_some_iff, forall_eq', hpending, hbooking, ne_eq,
      reduceCtorEq, not_false_eq_true, forall_const]

/-! ## Runs -/

/-- **Nothing that is paid becomes unpaid or is paid again, exactly as long as each request
meets the condition.**  Along every run of requests of any tenants from a service without
bookings: each reference has settled one payment at most, each booking has one paid payment at
most, and no request makes a paid booking or payment unpaid, if and only if no paid booking is
confirmed, and each payment that is settled is for a booking without a paid one, with a reference
that has settled none. -/
theorem tutoring_paid_once_iff (tutors : Keyed TutorProfile.id) (es : List TutoringEvent) :
    (∀ pre, pre <+: es → PaidOnce (run tutoringStep { tutors } pre))
        ∧ Along tutoringStep (fun db e => PaidKept db (tutoringStep e db)) { tutors } es
      ↔ Along tutoringStep KeepsPaid { tutors } es := by
  have hstart : PaidOnce { tutors } := by
    refine ⟨fun payment hpayment => ?_, fun payment hpayment => ?_⟩
    · cases hpayment
    · cases hpayment
  exact along_iff_throughout_and (J := fun _ => True) (fun _ _ _ _ => trivial)
    (fun _ e h _ => keepsPaid_step_iff e h) hstart trivial

namespace Example

def tutor : RequestContext := { tenantId := "tnt", actorId := "usr_1", roles := ["teacher"] }

def oneTutor : Keyed TutorProfile.id :=
  ⟨[{ id := "tut_1", tenantId := "tnt", userId := "usr_1", currency := "NGN"
      status := .active }], by decide⟩

def confirmedLate : List TutoringEvent :=
  [.create tutor "bkg_1" { tutorId := "tut_1", subject := "Maths" },
    .intent tutor "bkg_1" "pay_1" "0" ⟨5000, 750, 4250⟩ "NGN",
    .settle tutor "pay_1" (some "ref_1") none]

/-- A second payment of the booking is settled, with the same reference. -/
def paidTwice : List TutoringEvent :=
  [.create tutor "bkg_1" { tutorId := "tut_1", subject := "Maths" },
    .intent tutor "bkg_1" "pay_1" "0" ⟨5000, 750, 4250⟩ "NGN",
    .settle tutor "pay_1" (some "ref_1") none,
    .intent tutor "bkg_1" "pay_2" "1" ⟨5000, 750, 4250⟩ "NGN",
    .settle tutor "pay_2" (some "ref_1") none]

end Example

/-- A paid booking is confirmed, and is not paid any more; a reference settles two payments of
one booking. -/
theorem not_tutoring_paid_once :
    ¬ PaidKept (run tutoringStep { tutors := Example.oneTutor } Example.confirmedLate)
        (tutoringStep (.confirm Example.tutor "bkg_1")
          (run tutoringStep { tutors := Example.oneTutor } Example.confirmedLate))
      ∧ ¬ PaidOnce (run tutoringStep { tutors := Example.oneTutor } Example.paidTwice) := by
  constructor
  · intro h
    exact absurd h.bookings (by decide)
  intro h
  exact absurd h.references (by decide)

end MultiAcademy.Tutoring
