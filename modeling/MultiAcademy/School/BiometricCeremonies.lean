import MultiAcademy.Lib.Flight

/-!
# Biometric ceremonies

`biometric/biometric.service.ts`: `beginAuthentication`, `finishAuthentication` and
`consumeAssertion`, as the steps between two awaits.  Challenges and assertions are in the
memory of the server.  A ceremony reads its challenge when it begins to finish, and deletes
whatever challenge the user has when it ends; an assertion is consumed in one step.
Challenges and assertions are numbered in the order in which they are drawn.
-/

namespace MultiAcademy.School

open MultiAcademy.Lib

/-! ## The stores -/

structure ChallengeEntry where
  challenge : ℕ
  expiresAt : ℕ
  deriving DecidableEq

structure AssertionEntry where
  tenantId : String
  userId : String
  purpose : String
  expiresAt : ℕ
  used : Bool := false
  deriving DecidableEq

/-- A row of `biometric_credentials`. -/
structure Credential where
  id : String
  userId : String
  credentialId : String
  publicKey : String
  counter : ℕ
  deriving DecidableEq

/-- The clock in milliseconds, the maps, how many challenges and assertions were drawn, and
the credentials of each tenant. -/
structure CeremonyStores where
  now : ℕ
  authChallenges : String → Option ChallengeEntry := fun _ => none
  assertions : ℕ → Option AssertionEntry := fun _ => none
  nextChallenge : ℕ := 0
  nextAssertion : ℕ := 0
  credentials : String → List Credential := fun _ => []

def challengeKey (tenantId userId : String) : String := tenantId ++ ":" ++ userId

namespace CeremonyStores

def purgeExpired (d : CeremonyStores) : CeremonyStores :=
  { d with
    authChallenges := fun key => (d.authChallenges key).filter fun entry => d.now ≤ entry.expiresAt
    assertions := fun id =>
      (d.assertions id).filter fun entry => d.now ≤ entry.expiresAt && !entry.used }

def setChallenge (key : String) (d : CeremonyStores) : CeremonyStores :=
  { d with
    nextChallenge := d.nextChallenge + 1
    authChallenges := fun k =>
      if k = key then some { challenge := d.nextChallenge, expiresAt := d.now + 5 * 60000 }
      else d.authChallenges k }

def deleteChallenge (key : String) (d : CeremonyStores) : CeremonyStores :=
  { d with authChallenges := fun k => if k = key then none else d.authChallenges k }

/-- An assertion is drawn and set, for ten minutes. -/
def issue (tenantId userId purpose : String) (d : CeremonyStores) : CeremonyStores :=
  { d with
    nextAssertion := d.nextAssertion + 1
    assertions := fun id =>
      if id = d.nextAssertion then
        some { tenantId, userId, purpose, expiresAt := d.now + 10 * 60000 }
      else d.assertions id }

def deleteAssertion (assertionId : ℕ) (d : CeremonyStores) : CeremonyStores :=
  { d with assertions := fun id => if id = assertionId then none else d.assertions id }

/-- `UPDATE biometric_credentials SET counter = ? … WHERE id = ?`. -/
def setCounter (tenantId id : String) (counter : ℕ) (d : CeremonyStores) : CeremonyStores :=
  { d with
    credentials := fun t =>
      if t = tenantId then
        (d.credentials t).map fun row => if row.id = id then { row with counter } else row
      else d.credentials t }

end CeremonyStores

/-! ## The requests -/

structure AuthenticationResponse where
  id : String
  challenge : ℕ
  counter : ℕ
  deriving DecidableEq

/-- What `verifyAuthenticationResponse` comes to. -/
inductive WebAuthnOutcome
  | threw (message : String)
  | rejected
  | verified (newCounter : ℕ)

/-- `verifyAuthenticationResponse`, of a response, the challenge that is expected and the
credential. -/
abbrev WebAuthn := AuthenticationResponse → ℕ → Credential → WebAuthnOutcome

def AcceptsOwnChallenge (webauthn : WebAuthn) : Prop :=
  ∀ response challenge credential counter,
    webauthn response challenge credential = .verified counter → response.challenge = challenge

inductive CeremonyRequest
  | begin (tenantId userId : String)
  | finish (tenantId userId : String) (response : AuthenticationResponse)
      (purpose : String := "general")
  | consume (assertionId : ℕ) (tenantId userId purpose : String)
  deriving DecidableEq

/-- Where a request is. -/
inductive CeremonyPhase
  | starting
  | loading
  | generating
  | begun (challenge : ℕ)
  | reading (challenge : ℕ)
  | updating (challenge : ℕ) (credentialId : String) (newCounter : ℕ)
  | finishing (challenge : ℕ)
  | finished (challenge assertionId expiresAt : ℕ)
  | consumed
  | failed (status : ℕ) (message : String)
  deriving DecidableEq

structure CeremonyCall where
  request : CeremonyRequest
  phase : CeremonyPhase := .starting
  deriving DecidableEq

/-- `/^[A-Za-z0-9_-]+$/`. -/
def isBase64url (text : String) : Bool :=
  text ≠ "" && text.toList.all fun c => c.isAlphanum || c = '_' || c = '-'

/-- The options of `beginAuthentication`: there are credentials, and one of them is valid. -/
def checkCredentials (rows : List Credential) : CeremonyPhase :=
  if rows = [] then
    .failed 400
      "No biometric credential enrolled. Enroll a passkey/fingerprint in Settings first."
  else if (rows.filter fun row => isBase64url row.credentialId) = [] then
    .failed 400
      "Stored biometric credentials are invalid. Remove them in Settings and enroll again."
  else .generating

/-- `finishAuthentication` from the credential it has read to the update. -/
def verifyResponse (webauthn : WebAuthn) (response : AuthenticationResponse) (challenge : ℕ) :
    Option Credential → CeremonyPhase
  | none => .failed 401 "Unknown biometric credential"
  | some credential =>
    if credential.credentialId = "" ∨ credential.publicKey = "" then
      .failed 401 "Unknown biometric credential"
    else
      match webauthn response challenge credential with
      | .threw message => .failed 401 message
      | .rejected => .failed 401 "Biometric verification failed"
      | .verified newCounter => .updating challenge credential.id newCounter

def purposeMatches (issued wanted : String) : Bool :=
  issued = wanted || issued = "general" || (wanted = "staff_attendance" && issued = "staff_login")

/-- `consumeAssertion`, after the purge. -/
def CeremonyStores.consumeAssertion (assertionId : ℕ) (tenantId userId purpose : String)
    (d : CeremonyStores) : CeremonyPhase × CeremonyStores :=
  match (d.assertions assertionId).filter fun entry => !entry.used with
  | none => (.failed 401 "Biometric assertion is invalid or already used", d)
  | some entry =>
    if entry.expiresAt < d.now then
      (.failed 401 "Biometric assertion expired", d.deleteAssertion assertionId)
    else if entry.tenantId ≠ tenantId ∨ entry.userId ≠ userId then
      (.failed 401 "Biometric assertion does not belong to this user", d)
    else if purposeMatches entry.purpose purpose = false then
      (.failed 401
        ("Biometric assertion was issued for " ++ entry.purpose ++ ", not " ++ purpose), d)
    else (.consumed, d.deleteAssertion assertionId)

section Library
variable (webauthn : WebAuthn)

def ceremonyStep (request : CeremonyRequest) (phase : CeremonyPhase) (d : CeremonyStores) :
    CeremonyPhase × CeremonyStores :=
  match request, phase with
  | .begin _ _, .starting => (.loading, d.purgeExpired)
  | .begin tenantId userId, .loading =>
    (checkCredentials ((d.credentials tenantId).filter fun row => row.userId = userId), d)
  | .begin tenantId userId, .generating =>
    (.begun d.nextChallenge, d.setChallenge (challengeKey tenantId userId))
  | .finish tenantId userId _ _, .starting =>
    match d.purgeExpired.authChallenges (challengeKey tenantId userId) with
    | none => (.failed 400 "Authentication challenge expired. Try again.", d.purgeExpired)
    | some expected => (.reading expected.challenge, d.purgeExpired)
  | .finish tenantId userId response _, .reading challenge =>
    (verifyResponse webauthn response challenge
      ((d.credentials tenantId).find? fun row =>
        row.userId = userId && row.credentialId = response.id), d)
  | .finish tenantId _ _ _, .updating challenge id newCounter =>
    (.finishing challenge, d.setCounter tenantId id newCounter)
  | .finish tenantId userId _ purpose, .finishing challenge =>
    (.finished challenge d.nextAssertion (d.now + 10 * 60000),
      (d.deleteChallenge (challengeKey tenantId userId)).issue tenantId userId purpose)
  | .consume assertionId tenantId userId purpose, .starting =>
    d.purgeExpired.consumeAssertion assertionId tenantId userId purpose
  | _, phase => (phase, d)

/-- What else happens: time goes by, another request purges, or edits the credentials. -/
inductive CeremonyOther
  | tick (milliseconds : ℕ)
  | purge
  | edit (credentials : String → List Credential)

def CeremonyOther.apply : CeremonyOther → CeremonyStores → CeremonyStores
  | .tick milliseconds, d => { d with now := d.now + milliseconds }
  | .purge, d => d.purgeExpired
  | .edit credentials, d => { d with credentials }

/-- The requests of all users. -/
def ceremonyService :
    Service CeremonyRequest Unit CeremonyOther CeremonyStores CeremonyCall where
  start request := { request }
  next _ call d :=
    let next := ceremonyStep webauthn call.request call.phase d
    ({ call with phase := next.1 }, next.2)
  other := CeremonyOther.apply

abbrev CeremonyState := Flight CeremonyStores CeremonyCall
abbrev CeremonyEvent := FlightEvent CeremonyRequest Unit CeremonyOther

/-! ## What a ceremony gives -/

def CeremonyRequest.finishKey : CeremonyRequest → Option String
  | .finish tenantId userId _ _ => some (challengeKey tenantId userId)
  | .begin _ _ | .consume _ _ _ _ => none

/-- The challenge gave an assertion to the call. -/
def CeremonyCall.yielded (challenge : ℕ) (call : CeremonyCall) : Bool :=
  match call.phase with
  | .finished n _ _ => n = challenge
  | _ => false

def CeremonyCall.consumes (assertionId : ℕ) (call : CeremonyCall) : Bool :=
  match call.request with
  | .consume id _ _ _ => id = assertionId && call.phase = .consumed
  | _ => false

def assertionsOf (challenge : ℕ) (s : CeremonyState) : ℕ :=
  s.calls.countP (CeremonyCall.yielded challenge)

def consumptions (assertionId : ℕ) (s : CeremonyState) : ℕ :=
  s.calls.countP (CeremonyCall.consumes assertionId)

/-- The call was given the assertion, for a tenant, a user and a purpose and until a time. -/
def CeremonyCall.Issued (assertionId : ℕ) (entry : AssertionEntry) (call : CeremonyCall) :
    Prop :=
  ∃ response challenge,
    call = ⟨.finish entry.tenantId entry.userId response entry.purpose,
      .finished challenge assertionId entry.expiresAt⟩

/-- A ceremony that ends discards no challenge of the user that is newer than its own. -/
def KeepsNewer (s : CeremonyState) : CeremonyEvent → Prop
  | .advance i _ =>
    ∀ call ∈ s.calls[i]?, ∀ key ∈ call.request.finishKey, ∀ challenge,
      call.phase = .finishing challenge →
        ∀ entry ∈ s.shared.authChallenges key, entry.challenge ≤ challenge
  | .call _ | .other _ => True

/-- An assertion that is consumed was issued to the same tenant and user for a purpose that
matches, and has not expired. -/
def ConsumesRightly (s : CeremonyState) : CeremonyEvent → Prop
  | .advance i _ =>
    ∀ call ∈ s.calls[i]?, ∀ assertionId tenantId userId purpose,
      call.request = .consume assertionId tenantId userId purpose → call.phase = .starting →
        (ceremonyStep webauthn call.request call.phase s.shared).1 = .consumed →
          ∃ entry : AssertionEntry, (∃ other ∈ s.calls, other.Issued assertionId entry)
            ∧ entry.tenantId = tenantId ∧ entry.userId = userId
            ∧ purposeMatches entry.purpose purpose = true ∧ s.shared.now ≤ entry.expiresAt
  | .call _ | .other _ => True

/-- A challenge that gives an assertion has given none before. -/
def YieldsFirst (s : CeremonyState) (e : CeremonyEvent) : Prop :=
  ∀ n, (ceremonyService webauthn).fires (CeremonyCall.yielded n) s e = true →
    assertionsOf n s = 0

/-- A ceremony that ends finds its own challenge, or none and no assertion that the challenge
has given. -/
def HoldsOwn (s : CeremonyState) : CeremonyEvent → Prop
  | .advance i _ =>
    ∀ call ∈ s.calls[i]?, ∀ key ∈ call.request.finishKey, ∀ challenge,
      call.phase = .finishing challenge →
        match s.shared.authChallenges key with
        | some entry => entry.challenge = challenge
        | none => assertionsOf challenge s = 0
  | .call _ | .other _ => True

variable {webauthn} {s : CeremonyState} {e : CeremonyEvent} {d d' : CeremonyStores}
  {call : CeremonyCall} {request : CeremonyRequest} {phase : CeremonyPhase}

/-! ## What a step does to the stores -/

/-- Nothing is set that was not there. -/
structure Fewer (d d' : CeremonyStores) : Prop where
  challenges : ∀ key entry, d'.authChallenges key = some entry → d.authChallenges key = some entry
  assertions : ∀ id entry, d'.assertions id = some entry → d.assertions id = some entry
  nextChallenge : d'.nextChallenge = d.nextChallenge
  nextAssertion : d'.nextAssertion = d.nextAssertion

theorem Fewer.refl (d : CeremonyStores) : Fewer d d := ⟨fun _ _ h => h, fun _ _ h => h, rfl, rfl⟩

theorem Fewer.trans {d'' : CeremonyStores} (h : Fewer d d') (h' : Fewer d' d'') : Fewer d d'' :=
  ⟨fun key entry hentry => h.challenges key entry (h'.challenges key entry hentry),
    fun id entry hentry => h.assertions id entry (h'.assertions id entry hentry),
    h'.nextChallenge.trans h.nextChallenge, h'.nextAssertion.trans h.nextAssertion⟩

theorem fewer_purgeExpired (d : CeremonyStores) : Fewer d d.purgeExpired := by
  refine ⟨?_, ?_, rfl, rfl⟩
  · intro key entry hentry
    exact (Option.filter_eq_some_iff.1 hentry).1
  intro id entry hentry
  exact (Option.filter_eq_some_iff.1 hentry).1

theorem fewer_deleteChallenge (key : String) (d : CeremonyStores) :
    Fewer d (d.deleteChallenge key) := by
  refine ⟨?_, fun _ _ h => h, rfl, rfl⟩
  intro k entry hentry
  simp only [CeremonyStores.deleteChallenge] at hentry
  split at hentry
  · cases hentry
  · exact hentry

theorem fewer_deleteAssertion (assertionId : ℕ) (d : CeremonyStores) :
    Fewer d (d.deleteAssertion assertionId) := by
  refine ⟨fun _ _ h => h, ?_, rfl, rfl⟩
  intro id entry hentry
  simp only [CeremonyStores.deleteAssertion] at hentry
  split at hentry
  · cases hentry
  · exact hentry

theorem fewer_other (other : CeremonyOther) (d : CeremonyStores) : Fewer d (other.apply d) := by
  cases other with
  | tick milliseconds => exact ⟨fun _ _ h => h, fun _ _ h => h, rfl, rfl⟩
  | purge => exact fewer_purgeExpired d
  | edit credentials => exact ⟨fun _ _ h => h, fun _ _ h => h, rfl, rfl⟩

theorem fewer_consumeAssertion (assertionId : ℕ) (tenantId userId purpose : String)
    (d : CeremonyStores) :
    Fewer d (d.consumeAssertion assertionId tenantId userId purpose).2 := by
  simp only [CeremonyStores.consumeAssertion]
  split
  · exact Fewer.refl d
  split
  · exact fewer_deleteAssertion assertionId d
  split
  · exact Fewer.refl d
  split
  · exact Fewer.refl d
  · exact fewer_deleteAssertion assertionId d

/-- **A step sets a challenge, or issues an assertion, or sets nothing.** -/
theorem ceremonyStep_stores (request : CeremonyRequest) (phase : CeremonyPhase)
    (d : CeremonyStores) :
    Fewer d (ceremonyStep webauthn request phase d).2
    ∨ (∃ key, (ceremonyStep webauthn request phase d).2 = d.setChallenge key)
    ∨ ∃ tenantId userId response purpose challenge,
      request = .finish tenantId userId response purpose ∧ phase = .finishing challenge
        ∧ (ceremonyStep webauthn request phase d).2
          = (d.deleteChallenge (challengeKey tenantId userId)).issue tenantId userId purpose := by
  cases request with
  | begin tenantId userId =>
    cases phase with
    | starting => exact Or.inl (fewer_purgeExpired d)
    | generating => exact Or.inr (Or.inl ⟨challengeKey tenantId userId, rfl⟩)
    | loading | begun | reading | updating | finishing | finished | consumed | failed =>
      exact Or.inl (Fewer.refl d)
  | finish tenantId userId response purpose =>
    cases phase with
    | starting =>
      left
      simp only [ceremonyStep]
      split
      · exact fewer_purgeExpired d
      · exact fewer_purgeExpired d
    | updating challenge id newCounter =>
      exact Or.inl ⟨fun _ _ h => h, fun _ _ h => h, rfl, rfl⟩
    | finishing challenge =>
      exact Or.inr (Or.inr ⟨tenantId, userId, response, purpose, challenge, rfl, rfl, rfl⟩)
    | loading | generating | begun | reading | finished | consumed | failed =>
      exact Or.inl (Fewer.refl d)
  | consume assertionId tenantId userId purpose =>
    cases phase with
    | starting =>
      left
      exact (fewer_purgeExpired d).trans
        (fewer_consumeAssertion assertionId tenantId userId purpose d.purgeExpired)
    | loading | generating | begun | reading | updating | finishing | finished | consumed
    | failed => exact Or.inl (Fewer.refl d)

/-! ## The invariant -/

/-- Challenges and assertions were drawn, each challenge for one key, and no assertion that is
kept was used. -/
structure StoresOk (d : CeremonyStores) : Prop where
  drawn : ∀ key entry, d.authChallenges key = some entry → entry.challenge < d.nextChallenge
  oneKey : ∀ key entry, d.authChallenges key = some entry →
    ∀ key' entry', d.authChallenges key' = some entry' → entry.challenge = entry'.challenge →
      key = key'
  issued : ∀ id entry, d.assertions id = some entry → id < d.nextAssertion ∧ entry.used = false

def CeremonyPhase.expected : CeremonyPhase → Option ℕ
  | .reading n | .updating n _ _ | .finishing n | .finished n _ _ => some n
  | .starting | .loading | .generating | .begun _ | .consumed | .failed _ _ => none

/-- A ceremony has read its own user's challenge, which is gone when it has ended, and any later
one of the user is newer.  An assertion that was consumed is gone. -/
structure CallOk (d : CeremonyStores) (call : CeremonyCall) : Prop where
  drawn : ∀ n ∈ call.phase.expected, n < d.nextChallenge
  own : ∀ n ∈ call.phase.expected, ∀ key entry, d.authChallenges key = some entry →
    entry.challenge = n → call.request.finishKey = some key
  newest : ∀ n ∈ call.phase.expected, ∀ key ∈ call.request.finishKey, ∀ entry,
    d.authChallenges key = some entry → n ≤ entry.challenge
  gone : ∀ n, call.yielded n = true → ∀ key entry, d.authChallenges key = some entry →
    entry.challenge ≠ n
  consumed : ∀ id, call.consumes id = true → id < d.nextAssertion ∧ d.assertions id = none

variable {expiresAt n : ℕ} {response : AuthenticationResponse}

theorem expected_of_yielded (h : call.yielded n = true) : n ∈ call.phase.expected := by
  simp only [CeremonyCall.yielded] at h
  split at h
  · rename_i hphase
    rw [hphase]
    exact congrArg some (of_decide_eq_true h)
  · cases h

/-- A call that expects no challenge and has consumed nothing. -/
theorem callOk_idle (hexpected : phase.expected = none) (hphase : phase ≠ .consumed) :
    CallOk d ⟨request, phase⟩ where
  drawn n hn := by rw [hexpected] at hn; cases hn
  own n hn := by rw [hexpected] at hn; cases hn
  newest n hn := by rw [hexpected] at hn; cases hn
  gone n hn := by
    have hsome : n ∈ phase.expected := expected_of_yielded hn
    rw [hexpected] at hsome
    cases hsome
  consumed id hid := by
    cases request <;> simp [CeremonyCall.consumes, hphase] at hid

/-- A ceremony that goes on, and has not ended. -/
theorem CallOk.goTo {phase' : CeremonyPhase} (h : CallOk d ⟨request, phase⟩)
    (hexpected : phase'.expected = phase.expected)
    (hyielded : ∀ n, CeremonyCall.yielded n ⟨request, phase'⟩ = false)
    (hphase : phase' ≠ .consumed) : CallOk d ⟨request, phase'⟩ where
  drawn n hn := h.drawn n (hexpected ▸ hn)
  own n hn := h.own n (hexpected ▸ hn)
  newest n hn := h.newest n (hexpected ▸ hn)
  gone n hn := by rw [hyielded n] at hn; cases hn
  consumed id hid := by
    cases request <;> simp [CeremonyCall.consumes, hphase] at hid

theorem StoresOk.fewer (h : StoresOk d) (hfewer : Fewer d d') : StoresOk d' where
  drawn key entry hentry := by
    rw [hfewer.nextChallenge]
    exact h.drawn key entry (hfewer.challenges key entry hentry)
  oneKey key entry hentry key' entry' hentry' :=
    h.oneKey key entry (hfewer.challenges key entry hentry) key' entry'
      (hfewer.challenges key' entry' hentry')
  issued id entry hentry := by
    rw [hfewer.nextAssertion]
    exact h.issued id entry (hfewer.assertions id entry hentry)

theorem CallOk.fewer (h : CallOk d call) (hfewer : Fewer d d') : CallOk d' call where
  drawn n hn := by
    rw [hfewer.nextChallenge]
    exact h.drawn n hn
  own n hn key entry hentry := h.own n hn key entry (hfewer.challenges key entry hentry)
  newest n hn key hkey entry hentry :=
    h.newest n hn key hkey entry (hfewer.challenges key entry hentry)
  gone n hn key entry hentry := h.gone n hn key entry (hfewer.challenges key entry hentry)
  consumed id hid := by
    obtain ⟨hlt, hnone⟩ := h.consumed id hid
    refine ⟨hfewer.nextAssertion ▸ hlt, ?_⟩
    cases hentry : d'.assertions id with
    | none => rfl
    | some entry =>
      rw [hfewer.assertions id entry hentry] at hnone
      cases hnone

theorem setChallenge_eq_some {key k : String} {entry : ChallengeEntry}
    (h : (d.setChallenge key).authChallenges k = some entry) :
    (k = key ∧ entry.challenge = d.nextChallenge)
      ∨ (k ≠ key ∧ d.authChallenges k = some entry) := by
  simp only [CeremonyStores.setChallenge] at h
  split at h
  · rename_i hk
    cases h
    exact Or.inl ⟨hk, rfl⟩
  rename_i hk
  exact Or.inr ⟨hk, h⟩

theorem StoresOk.setChallenge (h : StoresOk d) (key : String) : StoresOk (d.setChallenge key) where
  drawn k entry hentry := by
    change entry.challenge < d.nextChallenge + 1
    rcases setChallenge_eq_some hentry with ⟨-, hnew⟩ | ⟨-, hold⟩
    · omega
    have hlt := h.drawn k entry hold
    omega
  oneKey k entry hentry k' entry' hentry' heq := by
    rcases setChallenge_eq_some hentry with ⟨hk, hnew⟩ | ⟨-, hold⟩
    · rcases setChallenge_eq_some hentry' with ⟨hk', -⟩ | ⟨-, hold'⟩
      · rw [hk, hk']
      have hlt := h.drawn k' entry' hold'
      omega
    rcases setChallenge_eq_some hentry' with ⟨-, hnew'⟩ | ⟨-, hold'⟩
    · have hlt := h.drawn k entry hold
      omega
    · exact h.oneKey k entry hold k' entry' hold' heq
  issued := h.issued

theorem CallOk.setChallenge (h : CallOk d call) (key : String) :
    CallOk (d.setChallenge key) call where
  drawn n hn := (h.drawn n hn).trans (Nat.lt_succ_self _)
  own n hn k entry hentry heq := by
    rcases setChallenge_eq_some hentry with ⟨-, hnew⟩ | ⟨-, hold⟩
    · have hlt := h.drawn n hn
      omega
    · exact h.own n hn k entry hold heq
  newest n hn k hk entry hentry := by
    rcases setChallenge_eq_some hentry with ⟨-, hnew⟩ | ⟨-, hold⟩
    · have hlt := h.drawn n hn
      omega
    · exact h.newest n hn k hk entry hold
  gone n hn k entry hentry := by
    have hexpected : n ∈ call.phase.expected := expected_of_yielded hn
    rcases setChallenge_eq_some hentry with ⟨-, hnew⟩ | ⟨-, hold⟩
    · have hlt := h.drawn n hexpected
      omega
    · exact h.gone n hn k entry hold
  consumed := h.consumed

theorem StoresOk.issue (h : StoresOk d) (tenantId userId purpose : String) :
    StoresOk (d.issue tenantId userId purpose) where
  drawn := h.drawn
  oneKey := h.oneKey
  issued id entry hentry := by
    change id < d.nextAssertion + 1 ∧ entry.used = false
    simp only [CeremonyStores.issue] at hentry
    split at hentry
    · cases hentry
      exact ⟨by omega, rfl⟩
    obtain ⟨hlt, hused⟩ := h.issued id entry hentry
    exact ⟨by omega, hused⟩

theorem CallOk.issue (h : CallOk d call) (tenantId userId purpose : String) :
    CallOk (d.issue tenantId userId purpose) call where
  drawn := h.drawn
  own := h.own
  newest := h.newest
  gone := h.gone
  consumed id hid := by
    obtain ⟨hlt, hnone⟩ := h.consumed id hid
    refine ⟨hlt.trans (Nat.lt_succ_self _), ?_⟩
    simp only [CeremonyStores.issue]
    rw [if_neg (Nat.ne_of_lt hlt)]
    exact hnone

theorem StoresOk.step (h : StoresOk d) (request : CeremonyRequest) (phase : CeremonyPhase) :
    StoresOk (ceremonyStep webauthn request phase d).2 := by
  rcases @ceremonyStep_stores webauthn request phase d with
    hfewer | ⟨key, hset⟩ | ⟨tenantId, userId, response, purpose, challenge, -, -, hissue⟩
  · exact h.fewer hfewer
  · rw [hset]
    exact h.setChallenge key
  rw [hissue]
  exact (h.fewer (fewer_deleteChallenge _ d)).issue tenantId userId purpose

theorem CallOk.step (h : CallOk d call) (request : CeremonyRequest) (phase : CeremonyPhase) :
    CallOk (ceremonyStep webauthn request phase d).2 call := by
  rcases @ceremonyStep_stores webauthn request phase d with
    hfewer | ⟨key, hset⟩ | ⟨tenantId, userId, response, purpose, challenge, -, -, hissue⟩
  · exact h.fewer hfewer
  · rw [hset]
    exact h.setChallenge key
  rw [hissue]
  exact (h.fewer (fewer_deleteChallenge _ d)).issue tenantId userId purpose

/-- A ceremony that ends deletes the challenge of its user, its own if it is still there. -/
theorem CallOk.finished {tenantId userId purpose : String}
    {assertionId : ℕ}
    (h : CallOk d ⟨.finish tenantId userId response purpose, .finishing n⟩) :
    CallOk (d.deleteChallenge (challengeKey tenantId userId))
      ⟨.finish tenantId userId response purpose, .finished n assertionId expiresAt⟩ := by
  have hfewer := h.fewer (fewer_deleteChallenge (challengeKey tenantId userId) d)
  refine ⟨hfewer.drawn, hfewer.own, hfewer.newest, ?_, nofun⟩
  intro m hm key entry hentry heq
  obtain rfl : n = m := of_decide_eq_true hm
  have hkey := hfewer.own n rfl key entry hentry heq
  obtain rfl : challengeKey tenantId userId = key := Option.some.inj hkey
  simp [CeremonyStores.deleteChallenge] at hentry

theorem checkCredentials_idle (rows : List Credential) :
    (checkCredentials rows).expected = none ∧ checkCredentials rows ≠ .consumed := by
  simp only [checkCredentials]
  split
  · exact ⟨rfl, nofun⟩
  split
  · exact ⟨rfl, nofun⟩
  · exact ⟨rfl, nofun⟩

theorem CallOk.verifyResponse
    (h : CallOk d ⟨request, .reading n⟩) (row : Option Credential) :
    CallOk d ⟨request, School.verifyResponse webauthn response n row⟩ := by
  cases row with
  | none => exact callOk_idle rfl nofun
  | some credential =>
    simp only [School.verifyResponse]
    split
    · exact callOk_idle rfl nofun
    split
    · exact callOk_idle rfl nofun
    · exact callOk_idle rfl nofun
    · exact h.goTo rfl (fun _ => rfl) nofun

variable {assertionId : ℕ}

/-- **The assertion that a call consumes was kept, for that tenant and user and a purpose that
matches, and is kept no longer.** -/
theorem consumeAssertion_consumed {tenantId userId purpose : String}
    (h : (d.consumeAssertion assertionId tenantId userId purpose).1 = .consumed) :
    (d.consumeAssertion assertionId tenantId userId purpose).2 = d.deleteAssertion assertionId
    ∧ ∃ entry, d.assertions assertionId = some entry ∧ entry.tenantId = tenantId
      ∧ entry.userId = userId ∧ purposeMatches entry.purpose purpose = true
      ∧ d.now ≤ entry.expiresAt := by
  simp only [CeremonyStores.consumeAssertion] at h ⊢
  cases hentry : (d.assertions assertionId).filter fun entry => !entry.used with
  | none => simp [hentry] at h
  | some entry =>
    simp only [hentry] at h ⊢
    split at h
    · cases h
    rename_i hexpires
    split at h
    · cases h
    rename_i howner
    split at h
    · cases h
    rename_i hpurpose
    rw [if_neg hexpires, if_neg howner, if_neg hpurpose]
    rw [not_or, not_not, not_not] at howner
    exact ⟨rfl, entry, (Option.filter_eq_some_iff.1 hentry).1, howner.1, howner.2,
      (Bool.not_eq_false _).mp hpurpose, Nat.le_of_not_lt hexpires⟩

theorem consumeAssertion_expected (assertionId : ℕ) (tenantId userId purpose : String)
    (d : CeremonyStores) :
    (d.consumeAssertion assertionId tenantId userId purpose).1.expected = none := by
  simp only [CeremonyStores.consumeAssertion]
  split
  · rfl
  split
  · rfl
  split
  · rfl
  split
  · rfl
  · rfl

/-- The call that moves. -/
theorem CallOk.moved (h : CallOk d ⟨request, phase⟩) (hW : StoresOk d) :
    CallOk (ceremonyStep webauthn request phase d).2
      ⟨request, (ceremonyStep webauthn request phase d).1⟩ := by
  cases request with
  | begin tenantId userId =>
    cases phase with
    | starting => exact callOk_idle rfl nofun
    | loading =>
      have hidle := checkCredentials_idle
        ((d.credentials tenantId).filter fun row => row.userId = userId)
      exact callOk_idle hidle.1 hidle.2
    | generating => exact callOk_idle rfl nofun
    | begun | reading | updating | finishing | finished | consumed | failed => exact h
  | finish tenantId userId response purpose =>
    cases phase with
    | starting =>
      simp only [ceremonyStep]
      cases hread : d.purgeExpired.authChallenges (challengeKey tenantId userId) with
      | none => exact callOk_idle rfl nofun
      | some expected =>
        have hW' := hW.fewer (fewer_purgeExpired d)
        refine ⟨?_, ?_, ?_, nofun, nofun⟩
        · intro n hn
          obtain rfl : expected.challenge = n := Option.some.inj hn
          exact hW'.drawn _ expected hread
        · intro n hn key entry hentry heq
          obtain rfl : expected.challenge = n := Option.some.inj hn
          exact congrArg some (hW'.oneKey _ expected hread key entry hentry heq.symm)
        intro n hn key hkey entry hentry
        obtain rfl : expected.challenge = n := Option.some.inj hn
        obtain rfl : challengeKey tenantId userId = key := Option.some.inj hkey
        cases hread.symm.trans hentry
        exact le_rfl
    | reading n => exact h.verifyResponse _
    | updating n id newCounter =>
      have hgone : CallOk d ⟨.finish tenantId userId response purpose, .finishing n⟩ :=
        h.goTo rfl (fun _ => rfl) nofun
      exact hgone.fewer ⟨fun _ _ h => h, fun _ _ h => h, rfl, rfl⟩
    | finishing n => exact h.finished.issue tenantId userId purpose
    | loading | generating | begun | finished | consumed | failed => exact h
  | consume assertionId tenantId userId purpose =>
    cases phase with
    | starting =>
      simp only [ceremonyStep]
      have hexpected :=
        consumeAssertion_expected assertionId tenantId userId purpose d.purgeExpired
      by_cases hconsumed :
          (d.purgeExpired.consumeAssertion assertionId tenantId userId purpose).1 = .consumed
      · obtain ⟨hstores, entry, hentry, -⟩ := consumeAssertion_consumed hconsumed
        rw [hconsumed, hstores]
        refine ⟨nofun, nofun, nofun, nofun, ?_⟩
        intro id hid
        obtain rfl : assertionId = id := by simpa [CeremonyCall.consumes] using hid
        refine ⟨((hW.fewer (fewer_purgeExpired d)).issued assertionId entry hentry).1, ?_⟩
        simp [CeremonyStores.deleteAssertion]
      · exact callOk_idle hexpected hconsumed
    | loading | generating | begun | reading | updating | finishing | finished | consumed
    | failed => exact h

/-! ## What holds in every run -/

theorem Issued.next {entry : AssertionEntry} (x : Unit) (d : CeremonyStores)
    (h : call.Issued assertionId entry) :
    ((ceremonyService webauthn).next x call d).1.Issued assertionId entry := by
  obtain ⟨response, challenge, rfl⟩ := h
  exact ⟨response, challenge, rfl⟩

/-- The stores and the calls are as they should be, and every assertion was issued to a call. -/
structure CeremoniesOk (s : CeremonyState) : Prop where
  stores : StoresOk s.shared
  calls : ∀ call ∈ s.calls, CallOk s.shared call
  origin : ∀ id entry, s.shared.assertions id = some entry →
    ∃ call ∈ s.calls, call.Issued id entry

theorem origin_step (h : ∀ id entry, s.shared.assertions id = some entry →
      ∃ call ∈ s.calls, call.Issued id entry) (id : ℕ) (entry : AssertionEntry)
    (hentry : ((ceremonyService webauthn).step e s).shared.assertions id = some entry) :
    ∃ call ∈ ((ceremonyService webauthn).step e s).calls, call.Issued id entry := by
  have hkept : s.shared.assertions id = some entry →
      ∃ call ∈ ((ceremonyService webauthn).step e s).calls, call.Issued id entry :=
    fun hold => Service.exists_call_step (fun x c d hc => Issued.next x d hc) (h id entry hold)
  cases e with
  | call request => exact hkept hentry
  | other other => exact hkept ((fewer_other other s.shared).assertions id entry hentry)
  | advance i x =>
    cases hcall : s.calls[i]? with
    | none =>
      rw [Service.step_advance_none hcall] at hentry
      exact hkept hentry
    | some call =>
      rw [Service.step_advance hcall] at hentry
      rcases @ceremonyStep_stores webauthn call.request call.phase s.shared with
        hfewer | ⟨key, hset⟩ | ⟨tenantId, userId, response, purpose, n, hrequest, hphase, hissue⟩
      · exact hkept (hfewer.assertions id entry hentry)
      · change (ceremonyStep webauthn call.request call.phase s.shared).2.assertions id
          = some entry at hentry
        rw [hset] at hentry
        exact hkept hentry
      change (ceremonyStep webauthn call.request call.phase s.shared).2.assertions id
        = some entry at hentry
      rw [hissue] at hentry
      simp only [CeremonyStores.issue] at hentry
      split at hentry
      · -- the assertion is the one that this step issues
        rename_i hid
        cases hentry
        rw [Service.step_advance hcall, hid]
        refine ⟨_, List.mem_set (List.getElem?_eq_some_iff.1 hcall).1 _, response, n, ?_⟩
        simp only [ceremonyService, hrequest, hphase]
        rfl
      · exact hkept hentry

theorem CeremoniesOk.step (h : CeremoniesOk s) :
    CeremoniesOk ((ceremonyService webauthn).step e s) := by
  obtain ⟨hstores, hcalls⟩ := Service.invariant_step (S := ceremonyService webauthn) (e := e)
    (W := StoresOk) (Q := CallOk) (fun _ _ _ => callOk_idle rfl nofun)
    (fun _ c _ hW _ => hW.step c.request c.phase) (fun _ _ _ hW hQ => hQ.moved hW)
    (fun _ c _ _ _ _ hother => hother.step c.request c.phase)
    (fun y d hW => ⟨hW.fewer (fewer_other y d), fun _ hQ => hQ.fewer (fewer_other y d)⟩)
    h.stores h.calls
  exact ⟨hstores, hcalls, origin_step h.origin⟩

/-! ### Consuming -/

/-- The call that consumes an assertion has found it. -/
theorem fires_consumes
    (h : (ceremonyService webauthn).fires (CeremonyCall.consumes assertionId) s e = true) :
    ∃ entry, s.shared.assertions assertionId = some entry := by
  obtain ⟨i, x, ⟨request, phase⟩, rfl, -, hbefore, hafter⟩ := Service.exists_of_fires h
  cases request with
  | begin | finish => cases hafter
  | consume id tenantId userId purpose =>
    cases phase with
    | starting =>
      simp only [ceremonyService, ceremonyStep, CeremonyCall.consumes, Bool.and_eq_true,
        decide_eq_true_eq] at hafter
      obtain ⟨rfl, hconsumed⟩ := hafter
      obtain ⟨-, entry, hentry, -⟩ := consumeAssertion_consumed (of_decide_eq_true hconsumed)
      exact ⟨entry, (fewer_purgeExpired s.shared).assertions _ entry hentry⟩
    | loading | generating | begun | reading | updating | finishing | finished | consumed
    | failed =>
      exact absurd (hbefore.symm.trans hafter) Bool.false_ne_true

theorem consumes_next (x : Unit) (call : CeremonyCall) (d : CeremonyStores)
    (h : call.consumes assertionId = true) :
    (((ceremonyService webauthn).next x call d).1).consumes assertionId = true := by
  obtain ⟨request, phase⟩ := call
  cases request with
  | begin | finish => cases h
  | consume id tenantId userId purpose =>
    obtain rfl : phase = .consumed := by
      simp only [CeremonyCall.consumes, Bool.and_eq_true, decide_eq_true_eq] at h
      exact h.2
    exact h

/-- An assertion is consumed once. -/
theorem consumptions_step (hs : CeremoniesOk s)
    (hone : consumptions assertionId s ≤ 1) :
    consumptions assertionId ((ceremonyService webauthn).step e s) ≤ 1 := by
  have hstart : ∀ request, ((ceremonyService webauthn).start request).consumes assertionId
      = false := by
    intro request
    cases request <;> simp [ceremonyService, CeremonyCall.consumes]
  refine (Service.count_step_le_one hstart consumes_next hone).2 ?_
  intro hfires
  obtain ⟨entry, hentry⟩ := fires_consumes hfires
  rw [List.countP_eq_zero]
  intro call hcall hconsumes
  have hnone := ((hs.calls call hcall).consumed assertionId hconsumes).2
  rw [hentry] at hnone
  cases hnone

theorem consumesRightly (hs : CeremoniesOk s) (e : CeremonyEvent) :
    ConsumesRightly webauthn s e := by
  cases e with
  | call | other => trivial
  | advance i x =>
    intro call hcall assertionId tenantId userId purpose hrequest hphase hconsumed
    rw [hrequest, hphase] at hconsumed
    obtain ⟨-, entry, hentry, htenant, huser, hpurpose, hexpires⟩ :=
      consumeAssertion_consumed hconsumed
    have hbefore := (fewer_purgeExpired s.shared).assertions assertionId entry hentry
    exact ⟨entry, hs.origin assertionId entry hbefore, htenant, huser, hpurpose, hexpires⟩

/-! ### Ending -/

theorem yielded_next (x : Unit) (call : CeremonyCall) (d : CeremonyStores)
    (h : call.yielded n = true) :
    (((ceremonyService webauthn).next x call d).1).yielded n = true := by
  obtain ⟨request, phase⟩ := call
  cases phase with
  | finished => cases request <;> exact h
  | starting | loading | generating | begun | reading | updating | finishing | consumed
  | failed => cases h

theorem verifyResponse_not_finished {m assertionId : ℕ} (row : Option Credential) :
    verifyResponse webauthn response m row ≠ .finished n assertionId expiresAt := by
  cases row with
  | none => nofun
  | some credential =>
    simp only [verifyResponse]
    split
    · nofun
    · split <;> nofun

/-- A ceremony has ended already, or is about to. -/
theorem ceremonyStep_finished {assertionId : ℕ}
    (h : (ceremonyStep webauthn request phase d).1 = .finished n assertionId expiresAt) :
    phase = .finished n assertionId expiresAt
      ∨ (∃ key, request.finishKey = some key) ∧ phase = .finishing n := by
  cases request with
  | begin tenantId userId =>
    cases phase with
    | starting | generating => cases h
    | loading =>
      have hnone := (checkCredentials_idle
        ((d.credentials tenantId).filter fun row => row.userId = userId)).1
      rw [show checkCredentials _ = _ from h] at hnone
      cases hnone
    | begun | reading | updating | finishing | finished | consumed | failed => exact Or.inl h
  | finish tenantId userId response purpose =>
    cases phase with
    | starting =>
      simp only [ceremonyStep] at h
      split at h
      · cases h
      · cases h
    | reading m => exact absurd h (verifyResponse_not_finished _)
    | updating => cases h
    | finishing m =>
      cases h
      exact Or.inr ⟨⟨_, rfl⟩, rfl⟩
    | loading | generating | begun | finished | consumed | failed => exact Or.inl h
  | consume id tenantId userId purpose =>
    cases phase with
    | starting =>
      have hnone := consumeAssertion_expected id tenantId userId purpose d.purgeExpired
      rw [show (d.purgeExpired.consumeAssertion id tenantId userId purpose).1 = _ from h]
        at hnone
      cases hnone
    | loading | generating | begun | reading | updating | finishing | finished | consumed
    | failed => exact Or.inl h

theorem yielded_iff : call.yielded n = true
    ↔ ∃ assertionId expiresAt, call.phase = .finished n assertionId expiresAt := by
  simp only [CeremonyCall.yielded]
  constructor
  · intro h
    split at h
    · rename_i hphase
      obtain rfl := of_decide_eq_true h
      exact ⟨_, _, hphase⟩
    · cases h
  rintro ⟨assertionId, expiresAt, hphase⟩
  simp [hphase]

/-- A step gives the assertion of a challenge when a ceremony ends. -/
theorem yields_iff (x : Unit) (call : CeremonyCall) (d : CeremonyStores) :
    (!call.yielded n && (((ceremonyService webauthn).next x call d).1).yielded n) = true
      ↔ (∃ key, call.request.finishKey = some key) ∧ call.phase = .finishing n := by
  constructor
  · intro h
    rw [Bool.and_eq_true, Bool.not_eq_true'] at h
    obtain ⟨hbefore, hafter⟩ := h
    obtain ⟨assertionId, expiresAt, hfinished⟩ := yielded_iff.1 hafter
    rcases ceremonyStep_finished hfinished with hphase | hends
    · have hyielded := yielded_iff.2 ⟨assertionId, expiresAt, hphase⟩
      exact absurd (hbefore.symm.trans hyielded) Bool.false_ne_true
    · exact hends
  rintro ⟨⟨key, hkey⟩, hphase⟩
  obtain ⟨request, phase⟩ := call
  obtain rfl : phase = .finishing n := hphase
  cases request with
  | begin | consume => cases hkey
  | finish tenantId userId response purpose => exact decide_eq_true rfl

theorem assertionsOf_step (hone : ∀ n, assertionsOf n s ≤ 1) :
    (∀ n, assertionsOf n ((ceremonyService webauthn).step e s) ≤ 1)
      ↔ YieldsFirst webauthn s e :=
  forall_congr' fun n => Service.count_step_le_one (fun _ => rfl) yielded_next (hone n)

theorem assertionsOf_eq_zero (hs : CeremoniesOk s) {key : String} {entry : ChallengeEntry}
    (hentry : s.shared.authChallenges key = some entry) : assertionsOf entry.challenge s = 0 := by
  rw [assertionsOf, List.countP_eq_zero]
  intro call hcall hyielded
  exact (hs.calls call hcall).gone entry.challenge hyielded key entry hentry rfl

/-- **A step gives a challenge its first assertion and keeps the newer ones, exactly when the
ceremony that ends holds its own.** -/
theorem holdsOwn_iff (hs : CeremoniesOk s) (e : CeremonyEvent) :
    YieldsFirst webauthn s e ∧ KeepsNewer s e ↔ HoldsOwn s e := by
  cases e with
  | call | other => exact iff_of_true ⟨fun _ h => (nomatch h), trivial⟩ trivial
  | advance i x =>
    constructor
    · rintro ⟨hfirst, hkeeps⟩ call hcall key hkey n hphase
      cases hentry : s.shared.authChallenges key with
      | none =>
        refine hfirst n ?_
        rw [Service.fires_advance hcall]
        exact (yields_iff x call s.shared).2 ⟨⟨key, hkey⟩, hphase⟩
      | some entry =>
        refine le_antisymm (hkeeps call hcall key hkey n hphase entry hentry) ?_
        refine (hs.calls call (List.mem_of_getElem? hcall)).newest n ?_ key hkey entry hentry
        rw [hphase]
        rfl
    intro hholds
    refine ⟨?_, ?_⟩
    · intro n hfires
      obtain ⟨call, hcall, hyields⟩ := (Option.any_eq_true _ _).1 hfires
      obtain ⟨⟨key, hkey⟩, hphase⟩ := (yields_iff x call s.shared).1 hyields
      have hown := hholds call hcall key hkey n hphase
      cases hentry : s.shared.authChallenges key with
      | none =>
        rw [hentry] at hown
        exact hown
      | some entry =>
        rw [hentry] at hown
        rw [← show entry.challenge = n from hown]
        exact assertionsOf_eq_zero hs hentry
    intro call hcall key hkey n hphase entry hentry
    have hown := hholds call hcall key hkey n hphase
    rw [Option.mem_def.1 hentry] at hown
    exact le_of_eq hown

/-! ## Runs -/

/-- No challenge, no assertion and no request, at a time. -/
def ceremonyStart (now : ℕ) (credentials : String → List Credential) : CeremonyState :=
  { shared := { now, credentials } }

theorem ceremoniesOk_start (now : ℕ) (credentials : String → List Credential) :
    CeremoniesOk (ceremonyStart now credentials) where
  stores := ⟨nofun, nofun, nofun⟩
  calls := nofun
  origin := nofun

/-- **Every assertion is consumed once at most, by the user it was issued to, for a purpose
that matches and before it expires; and every challenge gives one assertion at most, and no
newer challenge is discarded, exactly when the ceremonies that end hold their own.** -/
theorem one_ceremony_one_use_iff (webauthn : WebAuthn) (now : ℕ)
    (credentials : String → List Credential) (es : List CeremonyEvent) :
    (∀ pre, pre <+: es → ∀ assertionId,
        consumptions assertionId
          (run (ceremonyService webauthn).step (ceremonyStart now credentials) pre) ≤ 1)
    ∧ Along (ceremonyService webauthn).step (ConsumesRightly webauthn)
        (ceremonyStart now credentials) es
    ∧ ((∀ pre, pre <+: es → ∀ challenge,
          assertionsOf challenge
            (run (ceremonyService webauthn).step (ceremonyStart now credentials) pre) ≤ 1)
        ∧ Along (ceremonyService webauthn).step KeepsNewer (ceremonyStart now credentials) es
        ↔ Along (ceremonyService webauthn).step HoldsOwn (ceremonyStart now credentials) es) := by
  have hstart := ceremoniesOk_start now credentials
  have hstep : ∀ (s : CeremonyState) (e : CeremonyEvent), CeremoniesOk s →
      CeremoniesOk ((ceremonyService webauthn).step e s) := fun _ _ h => h.step
  have htrue : Along (ceremonyService webauthn).step (fun _ _ => True)
      (ceremonyStart now credentials) es := along_of_forall (D := fun _ => True) fun _ _ => trivial
  refine ⟨?_, ?_, ?_⟩
  · intro pre _ assertionId
    have hconsumed : ∀ (s : CeremonyState) (e : CeremonyEvent),
        CeremoniesOk s ∧ consumptions assertionId s ≤ 1 →
          CeremoniesOk ((ceremonyService webauthn).step e s)
            ∧ consumptions assertionId ((ceremonyService webauthn).step e s) ≤ 1 :=
      fun _ _ h => ⟨h.1.step, consumptions_step h.1 h.2⟩
    exact (run_invariant hconsumed ⟨hstart, Nat.zero_le 1⟩ pre).2
  · exact Along.of_invariant (fun s e h _ => hstep s e h) (fun _ e h _ => consumesRightly h e)
      hstart htrue
  have hfirst : Along (ceremonyService webauthn).step (YieldsFirst webauthn)
        (ceremonyStart now credentials) es
      ↔ ∀ pre, pre <+: es → ∀ n, assertionsOf n
        (run (ceremonyService webauthn).step (ceremonyStart now credentials) pre) ≤ 1 :=
    along_iff_throughout_with (I := fun s => ∀ n, assertionsOf n s ≤ 1) (J := CeremoniesOk)
      (fun s e _ _ h => hstep s e h) (fun _ _ _ h _ => assertionsOf_step h) htrue
      (fun _ => Nat.zero_le 1) hstart
  rw [← hfirst, ← along_and_iff]
  exact along_congr (D := fun _ => True) (fun s e _ h => hstep s e h)
    (fun _ e _ h => holdsOwn_iff h e) (fun _ _ => trivial) hstart

end Library

/-! ## Two ceremonies that overlap -/

namespace Example

/-- An authenticator that keeps no counter. -/
def passkeys : WebAuthn := fun response challenge _ =>
  if response.challenge = challenge then .verified response.counter else .rejected

def enrolled : String → List Credential := fun _ =>
  [{ id := "cred_1", userId := "user_1", credentialId := "abc", publicKey := "key", counter := 0 }]

def signed : AuthenticationResponse := { id := "abc", challenge := 0, counter := 0 }

/-- The response is sent twice, and both requests have read the challenge before either has
ended. -/
def sentTwice : List CeremonyEvent :=
  [.call (.begin "school_a" "user_1"), .advance 0 (), .advance 0 (), .advance 0 (),
    .call (.finish "school_a" "user_1" signed "payment"),
    .call (.finish "school_a" "user_1" signed "payment"),
    .advance 1 (), .advance 2 (), .advance 1 (), .advance 2 (), .advance 1 (), .advance 2 (),
    .advance 1 (), .advance 2 ()]

end Example

/-- The challenge gives two assertions. -/
theorem not_one_ceremony_one_use :
    ¬ ∀ webauthn, AcceptsOwnChallenge webauthn →
      ∀ (now : ℕ) (credentials : String → List Credential) (es : List CeremonyEvent)
        (challenge : ℕ),
        assertionsOf challenge
          (run (ceremonyService webauthn).step (ceremonyStart now credentials) es) ≤ 1 := by
  intro h
  have hown : AcceptsOwnChallenge Example.passkeys := by
    intro response challenge credential counter hverified
    simp only [Example.passkeys] at hverified
    split at hverified
    · assumption
    · cases hverified
  have hone := h Example.passkeys hown 0 Example.enrolled Example.sentTwice 0
  revert hone
  decide

end MultiAcademy.School
