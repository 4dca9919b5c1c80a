import MultiAcademy.Control.Schema
import MultiAcademy.Lib.Keyed
import MultiAcademy.Lib.Run

/-!
# Incidents and the status page

`routers/incidents.py`.  A component's status is set when an incident that lists it is
created and when one that lists it is resolved, and at no other time.  It says whether an
unresolved incident lists the component as long as no two open incidents share a component
when one of them is resolved, and no edit changes what an open incident lists.
-/

namespace MultiAcademy.Control

open MultiAcademy.Lib

/-- `COMPONENT_STATUSES`. -/
inductive ComponentStatus
  | operational | degraded | outage | maintenance
  deriving DecidableEq

/-- `INCIDENT_STATUSES`. -/
inductive IncidentStatus
  | investigating | identified | monitoring | resolved
  deriving DecidableEq

def IncidentStatus.ofString? : String → Option IncidentStatus
  | "investigating" => some .investigating
  | "identified" => some .identified
  | "monitoring" => some .monitoring
  | "resolved" => some .resolved
  | _ => none

structure StatusComponent where
  key : String
  name : String
  description : String := ""
  status : ComponentStatus := .operational
  sortOrder : ℤ := 0
  isPublic : Bool := true
  deriving DecidableEq

/-- An entry of the `updates` column. -/
structure IncidentLogEntry where
  at_ : String
  status : IncidentStatus
  message : String
  by_ : String
  deriving DecidableEq

structure Incident where
  title : String
  status : IncidentStatus := .investigating
  impact : String := "minor"
  summary : String := ""
  affectedComponents : List String := []
  updates : List IncidentLogEntry := []
  isPublic : Bool := true
  startedAt : Time
  resolvedAt : Option Time := none
  postmortemUrl : String := ""
  createdBy : String := ""
  deriving DecidableEq

/-- The components, as a table under their keys. -/
abbrev Components := Keyed StatusComponent.key

structure StatusPage where
  components : Components
  incidents : Table Incident := []

/-! ## Components -/

namespace Components

def setStatus (components : Components) (key : String) (status : ComponentStatus) : Components :=
  components.updateWhere (fun c => c.key = key) (fun c => { c with status }) fun _ => rfl

def statusOf (components : Components) (key : String) : Option ComponentStatus :=
  (components.find? key).map (·.status)

/-- What `create_incident` sets an operational component to. -/
def degradedTo (impact : String) : ComponentStatus :=
  if impact ≠ "critical" then .degraded else .outage

/-- One round of the loop of `create_incident`. -/
def degrade (impact : String) (components : Components) (key : String) : Components :=
  if components.statusOf key = some .operational then
    components.setStatus key (degradedTo impact)
  else components

/-- One round of the loop of `update_incident`. -/
def restore (components : Components) (key : String) : Components :=
  components.setStatus key .operational

end Components

/-! ## The endpoints -/

structure IncidentCreate where
  title : String
  impact : String := "minor"
  summary : String := ""
  affectedComponents : List String := []
  isPublic : Bool := true
  initialUpdate : String := ""

structure IncidentUpdate where
  status : Option String := none
  impact : Option String := none
  summary : Option String := none
  affectedComponents : Option (List String) := none
  isPublic : Option Bool := none
  postmortemUrl : Option String := none
  updateMessage : Option String := none

/-- `POST /v1/incidents`. -/
def createIncident (now : Time) (staff : StaffContext) (body : IncidentCreate) (s : StatusPage) :
    StatusPage :=
  { components := body.affectedComponents.foldl (Components.degrade body.impact) s.components
    incidents := s.incidents.insert
      { title := body.title
        impact := body.impact
        summary := body.summary
        affectedComponents := body.affectedComponents
        isPublic := body.isPublic
        updates :=
          if body.initialUpdate = "" then []
          else [⟨isoformat now, .investigating, body.initialUpdate, staff.email⟩]
        startedAt := now
        createdBy := staff.email } }

/-- The status an update asks for; `none` when it is not one of `INCIDENT_STATUSES`. -/
def IncidentUpdate.target? (body : IncidentUpdate) (old : Incident) : Option IncidentStatus :=
  match body.status with
  | none => some old.status
  | some text => IncidentStatus.ofString? text

/-- The update sets the status to `resolved`. -/
def IncidentUpdate.resolves (body : IncidentUpdate) : Bool := body.status = some "resolved"

/-- The row after an update that asks for `status`. -/
def IncidentUpdate.apply (now : Time) (staff : StaffContext) (body : IncidentUpdate)
    (status : IncidentStatus) (incident : Incident) : Incident :=
  { incident with
    status
    resolvedAt := if body.resolves then some now else incident.resolvedAt
    impact := body.impact.getD incident.impact
    summary := body.summary.getD incident.summary
    affectedComponents := body.affectedComponents.getD incident.affectedComponents
    isPublic := body.isPublic.getD incident.isPublic
    postmortemUrl := body.postmortemUrl.getD incident.postmortemUrl
    updates :=
      match body.updateMessage with
      | none | some "" => incident.updates
      | some message => incident.updates ++ [⟨isoformat now, status, message, staff.email⟩] }

/-- `PATCH /v1/incidents/id`.  The components that are restored are those the incident
listed before the update. -/
def updateIncident (now : Time) (staff : StaffContext) (incidentId : ℕ) (body : IncidentUpdate)
    (s : StatusPage) : StatusPage × Reply :=
  match s.incidents[incidentId]? with
  | none => (s, .error 404 "Incident not found")
  | some incident =>
    match body.target? incident with
    | none =>
      (s, .error 400
        ("status must be one of ('investigating', 'identified', 'monitoring', "
          ++ "'resolved')"))
    | some status =>
      ({ components :=
          if body.resolves then
            incident.affectedComponents.foldl Components.restore s.components
          else s.components
         incidents := s.incidents.modify incidentId (body.apply now staff status) }, .ok)

/-- The loop of `public_status` over the public components, in their order. -/
def overallStatus : ComponentStatus → List StatusComponent → ComponentStatus
  | overall, [] => overall
  | overall, c :: rest =>
    if c.status = .outage then .outage
    else if (c.status = .degraded ∨ c.status = .maintenance) ∧ overall = .operational then
      overallStatus c.status rest
    else overallStatus overall rest

/-- What `GET /public/v1/status` says of the whole platform. -/
def publicStatus (s : StatusPage) : ComponentStatus :=
  overallStatus .operational
    ((s.components.rows.filter (·.isPublic)).mergeSort fun c c' => c.sortOrder ≤ c'.sortOrder)

/-- A request of the staff. -/
inductive IncidentEvent
  | create (now : Time) (staff : StaffContext) (body : IncidentCreate)
  | update (now : Time) (staff : StaffContext) (incidentId : ℕ) (body : IncidentUpdate)

def incidentStep : IncidentEvent → StatusPage → StatusPage
  | .create now staff body, s => createIncident now staff body s
  | .update now staff incidentId body, s => (updateIncident now staff incidentId body s).1

/-! ## The truth -/

def Incident.Lists (incident : Incident) (key : String) : Prop :=
  incident.status ≠ .resolved ∧ key ∈ incident.affectedComponents

instance (incident : Incident) (key : String) : Decidable (incident.Lists key) :=
  inferInstanceAs (Decidable (_ ∧ _))

namespace StatusPage

/-- An unresolved incident lists the component. -/
def Affected (s : StatusPage) (key : String) : Prop := ∃ incident ∈ s.incidents, incident.Lists key

instance (s : StatusPage) (key : String) : Decidable (s.Affected key) :=
  inferInstanceAs (Decidable (∃ incident ∈ s.incidents, incident.Lists key))

/-- An unresolved incident other than this one lists the component. -/
def AffectedBesides (s : StatusPage) (incidentId : ℕ) (key : String) : Prop :=
  ∃ (other : ℕ) (incident : Incident), other ≠ incidentId
    ∧ s.incidents[other]? = some incident ∧ incident.Lists key

/-- A component is operational exactly when no unresolved incident lists it. -/
def TellsTruth (s : StatusPage) : Prop :=
  ∀ c ∈ s.components.rows, c.status ≠ .operational ↔ s.Affected c.key

instance (s : StatusPage) : Decidable s.TellsTruth :=
  inferInstanceAs (Decidable (∀ c ∈ s.components.rows, _ ↔ _))

theorem tellsTruth_seeded {components : Components}
    (h : ∀ c ∈ components.rows, c.status = .operational) :
    TellsTruth { components } := by
  intro c hc
  simp [h c hc, Affected]

end StatusPage

def IncidentUpdate.WillList (body : IncidentUpdate) (status : IncidentStatus) (old : Incident)
    (key : String) : Prop :=
  status ≠ .resolved ∧ key ∈ body.affectedComponents.getD old.affectedComponents

/-- Where an update resolves an incident, no other unresolved one lists its components;
where it changes whether the incident is unresolved and lists a component, another
unresolved one lists it. -/
def KeepsTruth (s : StatusPage) : IncidentEvent → Prop
  | .create _ _ _ => True
  | .update _ _ incidentId body =>
    ∀ old status, s.incidents[incidentId]? = some old → body.target? old = some status →
      ∀ c ∈ s.components.rows,
        if body.resolves ∧ c.key ∈ old.affectedComponents then
          ¬ s.AffectedBesides incidentId c.key
        else
          (old.Lists c.key ↔ body.WillList status old c.key)
            ∨ s.AffectedBesides incidentId c.key

/-! ## The loops -/

namespace Components
variable {components : Components} {key key' : String} {keys : List String}

theorem statusOf_eq_some {status : ComponentStatus} :
    components.statusOf key = some status
      ↔ ∃ c ∈ components.rows, c.key = key ∧ c.status = status := by
  simp [statusOf, Keyed.find?_eq_some, and_assoc]

@[simp] theorem statusOf_setStatus (status : ComponentStatus) :
    (components.setStatus key status).statusOf key'
      = (components.statusOf key').map fun old => if key' = key then status else old := by
  simp only [statusOf, setStatus, Keyed.find?_updateWhere, Option.map_map]
  refine Option.map_congr fun c hc => ?_
  have hkey : c.key = key' := (Keyed.find?_eq_some.1 hc).2
  by_cases h : key' = key <;> simp [hkey, h]

/-- What the loop of `create_incident` does to a component. -/
theorem statusOf_degrade (impact : String) (keys : List String) (components : Components) :
    (keys.foldl (degrade impact) components).statusOf key
      = (components.statusOf key).map fun old =>
        if key ∈ keys ∧ old = .operational then degradedTo impact else old := by
  induction keys generalizing components with
  | nil => simp
  | cons k keys ih =>
    have hnext : degradedTo impact ≠ .operational := by
      unfold degradedTo
      split <;> simp
    rw [List.foldl_cons, ih, degrade]
    by_cases hop : components.statusOf k = some .operational
    · rw [if_pos hop, statusOf_setStatus, Option.map_map]
      by_cases hk : key = k
      · subst hk
        simp [hop, hnext]
      · simp [hk, Function.comp_def]
    rw [if_neg hop]
    refine Option.map_congr fun old hold => ?_
    by_cases hk : key = k
    · subst hk
      have hne : old ≠ .operational := fun h => hop (h ▸ hold)
      simp [hne]
    · simp [hk]

/-- What the loop of `update_incident` does to a component. -/
theorem statusOf_restore (keys : List String) (components : Components) :
    (keys.foldl restore components).statusOf key
      = (components.statusOf key).map fun old => if key ∈ keys then .operational else old := by
  induction keys generalizing components with
  | nil => simp
  | cons k keys ih =>
    rw [List.foldl_cons, ih, restore, statusOf_setStatus, Option.map_map]
    refine Option.map_congr fun old _ => ?_
    by_cases hk : key = k <;> simp [hk]

end Components

/-! ## What a request does to the truth -/

section Truth
variable {s : StatusPage} {incidentId : ℕ} {old : Incident}

theorem tellsTruth_iff :
    s.TellsTruth ↔ ∀ key status, s.components.statusOf key = some status →
      (status ≠ .operational ↔ s.Affected key) := by
  constructor
  · intro h key status hstatus
    obtain ⟨c, hc, rfl, rfl⟩ := Components.statusOf_eq_some.1 hstatus
    exact h c hc
  intro h c hc
  exact h c.key c.status (Components.statusOf_eq_some.2 ⟨c, hc, rfl, rfl⟩)

theorem affected_iff (hold : s.incidents[incidentId]? = some old) (key : String) :
    s.Affected key ↔ s.AffectedBesides incidentId key ∨ old.Lists key := by
  have h := Table.exists_mem_modify hold (f := id) (P := fun incident => incident.Lists key)
  rwa [List.modify_id] at h

variable (now : Time) (staff : StaffContext)

theorem affected_create (body : IncidentCreate)
    (key : String) :
    (createIncident now staff body s).Affected key
      ↔ s.Affected key ∨ key ∈ body.affectedComponents := by
  simp [StatusPage.Affected, createIncident, Table.insert, or_and_right, exists_or,
    Incident.Lists]

/-- A new incident degrades what it lists, so the page stays true. -/
theorem tellsTruth_create (body : IncidentCreate)
    (h : s.TellsTruth) : (createIncident now staff body s).TellsTruth := by
  rw [tellsTruth_iff] at h ⊢
  intro key status hstatus
  rw [affected_create]
  simp only [createIncident, Components.statusOf_degrade, Option.map_eq_some_iff] at hstatus
  obtain ⟨before, hbefore, rfl⟩ := hstatus
  have hold := h key before hbefore
  have hnext : Components.degradedTo body.impact ≠ .operational := by
    unfold Components.degradedTo
    split <;> simp
  by_cases hkey : key ∈ body.affectedComponents
  · by_cases hop : before = .operational <;> simp [hkey, hop, hnext]
  · simp [hkey, hold]

theorem affected_update (body : IncidentUpdate)
    (status : IncidentStatus) (hold : s.incidents[incidentId]? = some old)
    (components : Components) (key : String) :
    StatusPage.Affected
        ⟨components, s.incidents.modify incidentId (body.apply now staff status)⟩ key
      ↔ s.AffectedBesides incidentId key ∨ body.WillList status old key :=
  Table.exists_mem_modify hold

/-- The components after an update that goes through. -/
def IncidentUpdate.restored (body : IncidentUpdate) (old : Incident) (components : Components) :
    Components :=
  if body.resolves then old.affectedComponents.foldl Components.restore components
  else components

theorem statusOf_restored (body : IncidentUpdate) (components : Components) (key : String) :
    (body.restored old components).statusOf key
      = (components.statusOf key).map fun before =>
        if body.resolves ∧ key ∈ old.affectedComponents then .operational else before := by
  unfold IncidentUpdate.restored
  by_cases hresolves : body.resolves = true
  · simp [hresolves, Components.statusOf_restore]
  · simp [hresolves]

theorem not_willList_of_resolves {body : IncidentUpdate} {status : IncidentStatus} {key : String}
    (htarget : body.target? old = some status) (h : body.resolves = true) :
    ¬ body.WillList status old key := by
  have hstatus : body.status = some "resolved" := by simpa [IncidentUpdate.resolves] using h
  rw [IncidentUpdate.target?, hstatus] at htarget
  cases htarget
  simp [IncidentUpdate.WillList]

/-- The condition on an update that goes through, key by key. -/
theorem keepsTruth_update_iff {body : IncidentUpdate}
    {status : IncidentStatus} (hold : s.incidents[incidentId]? = some old)
    (htarget : body.target? old = some status) :
    KeepsTruth s (.update now staff incidentId body)
      ↔ ∀ key before, s.components.statusOf key = some before →
        if body.resolves ∧ key ∈ old.affectedComponents then
          ¬ s.AffectedBesides incidentId key
        else (old.Lists key ↔ body.WillList status old key)
          ∨ s.AffectedBesides incidentId key := by
  constructor
  · intro hall key before hbefore
    obtain ⟨c, hc, rfl, rfl⟩ := Components.statusOf_eq_some.1 hbefore
    exact hall old status hold htarget c hc
  intro hall old' status' hold' htarget' c hc
  cases hold.symm.trans hold'
  cases htarget.symm.trans htarget'
  exact hall c.key c.status (Components.statusOf_eq_some.2 ⟨c, hc, rfl, rfl⟩)

/-- **What an update does to the truth.** -/
theorem tellsTruth_update_iff (incidentId : ℕ)
    (body : IncidentUpdate) (h : s.TellsTruth) :
    (updateIncident now staff incidentId body s).1.TellsTruth
      ↔ KeepsTruth s (.update now staff incidentId body) := by
  cases hrow : s.incidents[incidentId]? with
  | none => simp [updateIncident, KeepsTruth, hrow, h]
  | some old =>
    cases htarget : body.target? old with
    | none =>
      have hsame : (updateIncident now staff incidentId body s).1 = s := by
        simp [updateIncident, hrow, htarget]
      rw [hsame]
      refine iff_of_true h fun old' status hold' htarget' => ?_
      cases hrow.symm.trans hold'
      cases htarget.symm.trans htarget'
    | some status =>
      have hnext : (updateIncident now staff incidentId body s).1
          = ⟨body.restored old s.components,
            s.incidents.modify incidentId (body.apply now staff status)⟩ := by
        simp [updateIncident, hrow, htarget, IncidentUpdate.restored]
      rw [hnext, keepsTruth_update_iff now staff hrow htarget, tellsTruth_iff]
      simp only [statusOf_restored, affected_update now staff body status hrow,
        Option.map_eq_some_iff, forall_exists_index, and_imp]
      refine forall_congr' fun key => ?_
      constructor
      · intro hall before hbefore
        have htrue := tellsTruth_iff.1 h key before hbefore
        rw [affected_iff hrow] at htrue
        have hafter := hall _ before hbefore rfl
        by_cases hreset : body.resolves = true ∧ key ∈ old.affectedComponents
        · rw [if_pos hreset] at hafter ⊢
          exact fun hbesides => hafter.2 (Or.inl hbesides) rfl
        rw [if_neg hreset] at hafter ⊢
        tauto
      rintro hall _ before hbefore rfl
      have htrue := tellsTruth_iff.1 h key before hbefore
      rw [affected_iff hrow] at htrue
      have hafter := hall before hbefore
      by_cases hreset : body.resolves = true ∧ key ∈ old.affectedComponents
      · rw [if_pos hreset] at hafter ⊢
        have hwill : ¬ body.WillList status old key :=
          not_willList_of_resolves htarget hreset.1
        simp [hafter, hwill]
      rw [if_neg hreset] at hafter ⊢
      tauto

/-- **One request keeps the page true exactly when it meets the condition.** -/
theorem tellsTruth_step_iff (e : IncidentEvent) (h : s.TellsTruth) :
    (incidentStep e s).TellsTruth ↔ KeepsTruth s e := by
  cases e with
  | create now staff body => exact iff_of_true (tellsTruth_create now staff body h) trivial
  | update now staff incidentId body => exact tellsTruth_update_iff now staff incidentId body h

end Truth

/-- **The status page tells the truth exactly as long as updates keep it.**  From a page that
is true, through any creations and updates of incidents: in every state on the way a component
is operational exactly when no unresolved incident lists it, if and only if each update that
resolves an incident finds no other open one on its components, and each other update
leaves what the open incidents list together as it was. -/
theorem status_page_truthful (s : StatusPage) (es : List IncidentEvent) (h0 : s.TellsTruth) :
    (∀ pre, pre <+: es → (run incidentStep s pre).TellsTruth)
      ↔ Along incidentStep KeepsTruth s es := by
  have hD : Along incidentStep (fun _ _ => True) s es := along_of_forall fun _ _ => trivial
  exact (along_iff_throughout (fun s e _ h => tellsTruth_step_iff e h) hD h0).symm

/-! ## The public page -/

theorem overallStatus_eq_operational (l : List StatusComponent) (overall : ComponentStatus) :
    overallStatus overall l = .operational
      ↔ overall = .operational ∧ ∀ c ∈ l, c.status = .operational := by
  induction l generalizing overall with
  | nil => simp [overallStatus]
  | cons c l ih =>
    rw [overallStatus]
    cases hstatus : c.status <;> cases overall <;> simp [ih, hstatus]

theorem overallStatus_eq_outage (l : List StatusComponent) {overall : ComponentStatus}
    (h : overall ≠ .outage) :
    overallStatus overall l = .outage ↔ ∃ c ∈ l, c.status = .outage := by
  induction l generalizing overall with
  | nil => simp [overallStatus, h]
  | cons c l ih =>
    rw [overallStatus]
    cases hstatus : c.status <;> cases overall <;> simp_all

/-- **The platform is shown operational exactly when no unresolved incident lists a component of
the public page**, and as out exactly when one of them is, in runs that keep the page true. -/
theorem public_status_truthful (s : StatusPage) (es : List IncidentEvent) (h0 : s.TellsTruth)
    (h : Along incidentStep KeepsTruth s es) :
    (publicStatus (run incidentStep s es) = .operational
        ↔ ∀ c ∈ (run incidentStep s es).components.rows, c.isPublic = true →
          ¬ (run incidentStep s es).Affected c.key)
      ∧ (publicStatus (run incidentStep s es) = .outage
        ↔ ∃ c ∈ (run incidentStep s es).components.rows, c.isPublic = true
          ∧ c.status = .outage) := by
  have htrue : (run incidentStep s es).TellsTruth :=
    along_invariant (fun _ e hs hkeeps => (tellsTruth_step_iff e hs).2 hkeeps) h0 h
  rw [publicStatus, overallStatus_eq_operational, overallStatus_eq_outage _ (by decide)]
  simp only [true_and, List.mem_mergeSort, List.mem_filter, and_imp, and_assoc, and_true]
  refine forall₂_congr fun c hc => forall_congr' fun _ => ?_
  rw [← htrue c hc, not_not]

namespace Example

def onCall : StaffContext :=
  { id := "3", email := "ops@platform.test", permissions := ["incidents:write"] }

def apiPage : StatusPage where
  components := ⟨[{ key := "api", name := "API" }], by decide⟩

def apiIncident (title : String) : IncidentEvent :=
  .create 0 onCall { title, affectedComponents := ["api"] }

def resolveIncident (incidentId : ℕ) : IncidentEvent :=
  .update 1 onCall incidentId { status := some "resolved" }

end Example

theorem public_status_truthful_open :
    publicStatus (run incidentStep Example.apiPage [Example.apiIncident "Slow"]) = .operational
      ↔ ∀ c ∈ (run incidentStep Example.apiPage [Example.apiIncident "Slow"]).components.rows,
        c.isPublic = true →
          ¬ (run incidentStep Example.apiPage [Example.apiIncident "Slow"]).Affected c.key :=
  (public_status_truthful Example.apiPage [Example.apiIncident "Slow"] (by decide)
    ⟨trivial, trivial⟩).1

/-- One incident, from its creation to its end. -/
theorem status_page_truthful_single :
    (run incidentStep Example.apiPage
      [Example.apiIncident "Slow", Example.resolveIncident 0]).TellsTruth := by
  refine (status_page_truthful Example.apiPage
    [Example.apiIncident "Slow", Example.resolveIncident 0] (by decide)).2 ⟨trivial, ?_, trivial⟩ _
    (List.prefix_refl _)
  intro old status _ htarget c _
  obtain rfl : status = .resolved := (Option.some.inj htarget).symm
  by_cases hlisted : c.key ∈ old.affectedComponents
  · rw [if_pos ⟨rfl, hlisted⟩]
    rintro ⟨other, incident, hne, hrow, -⟩
    -- the incident is the only one
    cases other with
    | zero => exact hne rfl
    | succ other => cases hrow
  rw [if_neg fun h => hlisted h.2]
  exact Or.inl (iff_of_false (fun h => hlisted h.2) fun h => h.1 rfl)

/-- The page is not always true: of two incidents on one component, one is resolved. -/
theorem not_status_page_truthful :
    Example.apiPage.TellsTruth ∧ ¬ (run incidentStep Example.apiPage
      [Example.apiIncident "Slow", Example.apiIncident "Down",
        Example.resolveIncident 0]).TellsTruth := by
  constructor
  · exact StatusPage.tellsTruth_seeded (by decide)
  · decide

end MultiAcademy.Control
