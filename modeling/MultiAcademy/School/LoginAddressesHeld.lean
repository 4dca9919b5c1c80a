import MultiAcademy.School.ListCacheFreshness
import MultiAcademy.School.LoginAddresses

/-!
# Whose a login address is

A slug belongs to the tenant that has its row in `public_org_branding`.  The tenant keeps it,
its page is shown and its id is resolved, until it renames or deletes the organization of the
row.  Each request keeps this up under an exact condition.
-/

namespace MultiAcademy.School

open MultiAcademy.Lib

namespace BrandingStores

/-- The cache holds the login page of a slug. -/
def cached (d : BrandingStores) (slug : String) : Bool :=
  (d.cache.entries.get? (brandingKey slug)).any fun entry => d.now < entry.expiresAt

def updatedOrg (d : BrandingStores) (tenantId id : String) (body : OrganizationUpdate) :
    Option BusinessOrg :=
  match body.checkedLogo with
  | .error _ => none
  | .ok logo =>
    if body.isEmpty then none else (d.orgs.find? (tenantId, id)).map (body.apply logo)

end BrandingStores

/-- Every slug is resolved to the tenant that has it, and its page is shown. -/
structure AddressesHeld (d : BrandingStores) : Prop where
  resolved : ∀ slug tenantId, d.holder slug = some tenantId →
    d.resolveTenantBySlug slug = d.readyTenant tenantId
  shown : ∀ slug, isValidSchoolSlug slug = true → (d.shown slug).tenantId = d.holder slug

/-- The tenant of a request. -/
def BrandingEvent.actor : BrandingEvent → Option String
  | .create tenantId _ _ => some tenantId
  | .update tenantId _ _ => some tenantId
  | .delete tenantId _ => some tenantId
  | .view _ => none
  | .pass _ => none

/-- The step renames or deletes the organization that has the slug. -/
def Releases (d : BrandingStores) (slug : String) : BrandingEvent → Prop
  | .update tenantId id body =>
    ∃ row ∈ d.branding.find? slug, row.tenantId = tenantId ∧ row.orgId = id
      ∧ ∃ org ∈ d.updatedOrg tenantId id body, org.slug ≠ slug
  | .delete tenantId id =>
    ∃ row ∈ d.branding.find? slug, row.tenantId = tenantId ∧ row.orgId = id
      ∧ d.orgs.find? (tenantId, id) ≠ none
  | _ => False

/-- The step from `d` to `d'` leaves the rows of other tenants alone; it takes a slug from a
tenant that releases it, and from no other. -/
structure OwnersKept (d d' : BrandingStores) (e : BrandingEvent) : Prop where
  frame : ∀ row ∈ d.branding.rows, e.actor ≠ some row.tenantId → row ∈ d'.branding.rows
  kept : ∀ slug tenantId, d.holder slug = some tenantId → ¬ Releases d slug e →
    d'.holder slug = some tenantId
  released : ∀ slug tenantId, d.holder slug = some tenantId → Releases d slug e →
    d'.holder slug ≠ some tenantId ∧ d'.resolveTenantBySlug slug ≠ some tenantId

/-- The organization, when it is synchronized, takes nothing from another tenant: its slug is no
other's, in either table; no slug that it gives up is the tenant's own in the control plane;
and no page of a slug that changes hands is cached. -/
structure TakesNothing (d : BrandingStores) (org : BusinessOrg) : Prop where
  others : ∀ row ∈ d.branding.rows, row.tenantId ≠ org.tenantId →
    row.orgId ≠ org.id ∧ (org.slug.length ≤ 128 → row.slug ≠ org.slug)
  own : org.slug.length ≤ 128 → ∀ other, d.slugTenant org.slug = some other →
    other = org.tenantId
  released : ∀ row ∈ d.branding.rows, row.orgId = org.id → row.slug ≠ org.slug →
    d.slugTenant row.slug ≠ some org.tenantId ∧ d.cached row.slug = false
  acquired : org.slug.length ≤ 128 → d.holder org.slug = none → d.cached org.slug = false

/-- The organization of an update takes nothing, and a deleted one has no row. -/
def KeepsAddresses (d : BrandingStores) : BrandingEvent → Prop
  | .update tenantId id body =>
    ∀ org, d.updatedOrg tenantId id body = some org → TakesNothing d org
  | .delete tenantId id =>
    d.orgs.find? (tenantId, id) ≠ none →
      ∀ row ∈ d.branding.rows, ¬ (row.tenantId = tenantId ∧ row.orgId = id)
  | _ => True

def SlugsValid (d : BrandingStores) : Prop :=
  ∀ row ∈ d.branding.rows, isValidSchoolSlug row.slug = true

variable {d d' : BrandingStores} {listTtl : Time} {slug tenantId id : String}
  {body : OrganizationUpdate}

/-! ## What is shown and resolved -/

theorem holder_eq_some :
    d.holder slug = some tenantId
      ↔ ∃ row ∈ d.branding.rows, row.slug = slug ∧ row.tenantId = tenantId := by
  simp [BrandingStores.holder, Keyed.find?_eq_some, and_assoc]

theorem holder_of_mem {row : PublicOrgBranding} (h : row ∈ d.branding.rows) :
    d.holder row.slug = some row.tenantId := holder_eq_some.2 ⟨row, h, rfl, rfl⟩

theorem load_tenantId (d : BrandingStores) (slug : String) :
    (d.loadPublicLoginBrandingBySlug slug).tenantId = d.holder slug := by
  unfold BrandingStores.loadPublicLoginBrandingBySlug BrandingStores.holder
  cases d.branding.find? slug <;> rfl

/-- A page is shown for the tenant of its slug when it is not cached for another. -/
theorem shown_tenantId_iff (hslug : isValidSchoolSlug slug = true) :
    (d.shown slug).tenantId = d.holder slug
      ↔ ∀ entry, d.cache.entries.get? (brandingKey slug) = some entry →
        d.now < entry.expiresAt → entry.value.tenantId = d.holder slug := by
  unfold BrandingStores.shown
  rw [if_pos hslug]
  cases hentry : d.cache.entries.get? (brandingKey slug) with
  | none => simp [load_tenantId]
  | some entry =>
    by_cases hlive : d.now < entry.expiresAt
    · simp [hlive]
    · simp [hlive, load_tenantId]

theorem cached_eq_true :
    d.cached slug = true
      ↔ ∃ entry, d.cache.entries.get? (brandingKey slug) = some entry
        ∧ d.now < entry.expiresAt := by
  simp [BrandingStores.cached, Option.any_eq_true]

theorem readyTenant_eq_some {other : String} (h : d.readyTenant tenantId = some other) :
    other = tenantId := by
  unfold BrandingStores.readyTenant at h
  obtain ⟨tenant, htenant, rfl⟩ := Option.map_eq_some_iff.1 h
  exact (Keyed.find?_eq_some.1 (Option.filter_eq_some_iff.1 htenant).1).2

theorem readyTenant_of_slugTenant (h : d.slugTenant slug = some tenantId) :
    d.readyTenant tenantId = some tenantId := by
  unfold BrandingStores.slugTenant at h
  obtain ⟨tenant, hfind, rfl⟩ := Option.map_eq_some_iff.1 h
  have hready := List.find?_some hfind
  rw [Bool.and_eq_true] at hready
  have hrow : d.tenants.find? tenant.id = some tenant :=
    Keyed.find?_eq_some.2 ⟨List.mem_of_find?_eq_some hfind, rfl⟩
  simp [BrandingStores.readyTenant, hrow, Option.filter_some, hready.2]

theorem resolve_of_slugTenant (hslug : isValidSchoolSlug slug = true)
    (h : d.slugTenant slug = some tenantId) :
    d.resolveTenantBySlug slug = some tenantId := by
  simp [BrandingStores.resolveTenantBySlug, hslug, h]

theorem resolve_of_none (hslug : isValidSchoolSlug slug = true) (h : d.slugTenant slug = none) :
    d.resolveTenantBySlug slug = (d.holder slug).bind d.readyTenant := by
  simp [BrandingStores.resolveTenantBySlug, hslug, h]

theorem resolve_of_holder (hslug : isValidSchoolSlug slug = true)
    (hholder : d.holder slug = some tenantId)
    (hown : ∀ other, d.slugTenant slug = some other → other = tenantId) :
    d.resolveTenantBySlug slug = d.readyTenant tenantId := by
  cases htenant : d.slugTenant slug with
  | none => rw [resolve_of_none hslug htenant, hholder, Option.bind_some]
  | some other =>
    obtain rfl := hown other htenant
    rw [resolve_of_slugTenant hslug htenant, readyTenant_of_slugTenant htenant]

theorem AddressesHeld.congr (hd : AddressesHeld d) (hnow : d'.now = d.now)
    (htenants : d'.tenants = d.tenants) (hbranding : d'.branding = d.branding)
    (hcache : d'.cache = d.cache) : AddressesHeld d' := by
  obtain ⟨now, tenants, orgs, branding, cache⟩ := d
  obtain ⟨now', tenants', orgs', branding', cache'⟩ := d'
  simp only at hnow htenants hbranding hcache
  subst hnow htenants hbranding hcache
  exact ⟨hd.resolved, hd.shown⟩

/-! ## What an update writes -/

/-- An update that goes through synchronizes the row it wrote; no other touches what a slug
leads to. -/
theorem update_eq (tenantId id : String) (body : OrganizationUpdate) (d : BrandingStores) :
    ∃ orgs, (d.updateBusinessOrganization tenantId id body).1
      = match d.updatedOrg tenantId id body with
        | none => { d with orgs }
        | some org => { d with orgs, branding := synced org d.branding } := by
  unfold BrandingStores.updateBusinessOrganization BrandingStores.updatedOrg
  cases body.checkedLogo with
  | error error => exact ⟨d.orgs, rfl⟩
  | ok logo =>
    by_cases hempty : body.isEmpty = true
    · exact ⟨d.orgs, by simp [hempty]⟩
    refine ⟨d.orgs.updateWhere (fun org => org.key = (tenantId, id)) (body.apply logo)
      (body.apply_key logo), ?_⟩
    simp only [hempty, Keyed.find?_updateWhere]
    cases hfind : d.orgs.find? (tenantId, id) with
    | none => simp
    | some org =>
      have hkey : org.key = (tenantId, id) := (Keyed.find?_eq_some.1 hfind).2
      simp [hkey, BrandingStores.syncPublicBranding]

/-- The updated organization is the one that was asked for. -/
theorem updatedOrg_key {org : BusinessOrg}
    (h : d.updatedOrg tenantId id body = some org) : org.tenantId = tenantId ∧ org.id = id := by
  unfold BrandingStores.updatedOrg at h
  cases hlogo : body.checkedLogo with
  | error error => simp [hlogo] at h
  | ok logo =>
    simp only [hlogo] at h
    split at h
    · cases h
    obtain ⟨old, hold, rfl⟩ := Option.map_eq_some_iff.1 h
    have hkey : old.key = (tenantId, id) := (Keyed.find?_eq_some.1 hold).2
    exact Prod.mk.inj hkey

/-- The row of a slug after an organization is synchronized. -/
theorem find?_synced (org : BusinessOrg) (branding : Keyed PublicOrgBranding.slug)
    (slug : String) :
    (org.slug.length ≤ 128 ∧ slug = org.slug
        ∧ ∃ row, (synced org branding).find? slug = some row ∧ row.tenantId = org.tenantId
          ∧ row.orgId = org.id)
      ∨ (¬ (org.slug.length ≤ 128 ∧ slug = org.slug)
        ∧ (synced org branding).find? slug
          = (branding.find? slug).filter fun row => row.orgId ≠ org.id) := by
  unfold synced
  by_cases hlong : 128 < org.slug.length
  · refine Or.inr ⟨fun h => absurd h.1 (by omega), ?_⟩
    rw [if_pos hlong, Keyed.find?_deleteWhere]
    simp
  rw [if_neg hlong, Keyed.find?_put, Keyed.find?_deleteWhere]
  rw [BusinessOrg.brandingRow_slug]
  by_cases hslug : org.slug = slug
  · rw [if_pos hslug]
    exact Or.inl ⟨by omega, hslug.symm, org.brandingRow, rfl, rfl, rfl⟩
  rw [if_neg hslug]
  refine Or.inr ⟨fun h => hslug h.2.symm, ?_⟩
  simp

/-- Whoever has a slug after an update. -/
theorem holder_synced {org : BusinessOrg}
    (hd : d'.branding = synced org d.branding) (slug : String) :
    d'.holder slug
      = if org.slug.length ≤ 128 ∧ slug = org.slug then some org.tenantId
        else ((d.branding.find? slug).filter fun row => row.orgId ≠ org.id).map (·.tenantId) := by
  rw [BrandingStores.holder, hd]
  rcases find?_synced org d.branding slug with
    ⟨hlong, hslug, row, hrow, htenant, -⟩ | ⟨hother, hrow⟩
  · rw [if_pos ⟨hlong, hslug⟩, hrow, Option.map_some, htenant]
  · rw [if_neg hother, hrow]

theorem mem_synced {org : BusinessOrg} {branding : Keyed PublicOrgBranding.slug}
    {row : PublicOrgBranding} :
    row ∈ (synced org branding).rows
      ↔ (row ∈ branding.rows ∧ row.orgId ≠ org.id
          ∧ (org.slug.length ≤ 128 → row.slug ≠ org.slug))
        ∨ (org.slug.length ≤ 128 ∧ row = org.brandingRow) := by
  unfold synced
  by_cases hlong : 128 < org.slug.length
  · simp [hlong]
  rw [if_neg hlong, Keyed.mem_put, Keyed.mem_deleteWhere, BusinessOrg.brandingRow_slug]
  simp [Nat.not_lt.1 hlong, and_assoc]

theorem slug_valid {org : BusinessOrg} (h : org.slug.length ≤ 128) :
    isValidSchoolSlug org.slug = true := by
  unfold BusinessOrg.slug at h ⊢
  exact isValidSchoolSlug_toOrgSlug h

/-- The step synchronizes the organization, and touches nothing else that a slug leads to. -/
structure Syncs (org : BusinessOrg) (d d' : BrandingStores) : Prop where
  now : d'.now = d.now
  tenants : d'.tenants = d.tenants
  cache : d'.cache = d.cache
  branding : d'.branding = synced org d.branding

section Syncs
variable {org : BusinessOrg}

theorem Syncs.slugTenant (h : Syncs org d d') (slug : String) :
    d'.slugTenant slug = d.slugTenant slug := by
  rw [BrandingStores.slugTenant, BrandingStores.slugTenant, h.tenants]

theorem Syncs.readyTenant (h : Syncs org d d') (tenantId : String) :
    d'.readyTenant tenantId = d.readyTenant tenantId := by
  rw [BrandingStores.readyTenant, BrandingStores.readyTenant, h.tenants]

/-- What the synchronization leaves of a slug. -/
theorem Syncs.holder_cases (h : Syncs org d d') (slug : String) :
    (org.slug.length ≤ 128 ∧ slug = org.slug ∧ d'.holder slug = some org.tenantId)
      ∨ (∃ row ∈ d.branding.rows, row.slug = slug ∧ row.orgId = org.id
        ∧ ¬ (org.slug.length ≤ 128 ∧ slug = org.slug) ∧ d'.holder slug = none)
      ∨ (¬ (org.slug.length ≤ 128 ∧ slug = org.slug) ∧ d'.holder slug = d.holder slug
        ∧ ∀ row ∈ d.branding.rows, row.slug = slug → row.orgId ≠ org.id) := by
  have hholder := holder_synced h.branding slug
  by_cases hslug : org.slug.length ≤ 128 ∧ slug = org.slug
  · rw [if_pos hslug] at hholder
    exact Or.inl ⟨hslug.1, hslug.2, hholder⟩
  rw [if_neg hslug] at hholder
  refine Or.inr ?_
  cases hrow : d.branding.find? slug with
  | none =>
    refine Or.inr ⟨hslug, ?_, fun row hrow' hkey => ?_⟩
    · rw [hholder, BrandingStores.holder, hrow]
      rfl
    · exact absurd hkey (Keyed.find?_eq_none.1 hrow row hrow')
  | some row =>
    obtain ⟨hmem, hkey⟩ := Keyed.find?_eq_some.1 hrow
    rw [hrow, Option.filter_some] at hholder
    by_cases horg : row.orgId = org.id
    · exact Or.inl ⟨row, hmem, hkey, horg, hslug, by simpa [horg] using hholder⟩
    refine Or.inr ⟨hslug, ?_, fun row' hrow' hkey' => ?_⟩
    · rw [hholder, BrandingStores.holder, hrow]
      simp [horg]
    · rwa [Keyed.eq_of_key hrow' hmem (hkey'.trans hkey.symm)]

/-- **An organization that takes nothing leaves every slug with the tenant that has it.** -/
theorem Syncs.held (h : Syncs org d d') (hd : AddressesHeld d) (hvalid : SlugsValid d)
    (hkeeps : TakesNothing d org) : AddressesHeld d' := by
  have hown : ∀ slug tenantId, d.holder slug = some tenantId → slug = org.slug →
      org.slug.length ≤ 128 → tenantId = org.tenantId := by
    intro slug tenantId hholder hslug hlong
    obtain ⟨row, hrow, hkey, rfl⟩ := holder_eq_some.1 hholder
    by_contra hother
    exact (hkeeps.others row hrow hother).2 hlong (hkey.trans hslug)
  refine ⟨fun slug tenantId hholder => ?_, fun slug hslug => ?_⟩
  · rcases h.holder_cases slug with ⟨hlong, hslug, htenant⟩ | ⟨row, -, -, -, -, hnone⟩
      | ⟨-, hsame, -⟩
    · subst hslug
      obtain rfl : org.tenantId = tenantId := Option.some.inj (htenant.symm.trans hholder)
      have hslug : isValidSchoolSlug org.slug = true := slug_valid hlong
      refine resolve_of_holder hslug htenant fun other hother => ?_
      exact hkeeps.own hlong other (h.slugTenant _ ▸ hother)
    · rw [hnone] at hholder
      cases hholder
    rw [hsame] at hholder
    have hbefore := hd.resolved slug tenantId hholder
    rw [h.readyTenant, ← hbefore, BrandingStores.resolveTenantBySlug,
      BrandingStores.resolveTenantBySlug, h.slugTenant, hsame, hholder, Option.bind_some,
      Option.bind_some, h.readyTenant]
  rw [shown_tenantId_iff hslug, h.cache, h.now]
  intro entry hentry hlive
  have hcached : d.cached slug = true := cached_eq_true.2 ⟨entry, hentry, hlive⟩
  have hbefore := (shown_tenantId_iff hslug).1 (hd.shown slug hslug) entry hentry hlive
  rw [hbefore]
  rcases h.holder_cases slug with ⟨hlong, heq, htenant⟩ | ⟨row, hrow, hkey, horg, hne, -⟩
    | ⟨-, hsame, -⟩
  · subst heq
    rw [htenant]
    cases hholder : d.holder org.slug with
    | none => simp [hkeeps.acquired hlong hholder] at hcached
    | some tenantId => rw [hown org.slug tenantId hholder rfl hlong]
  · subst hkey
    have hslugs : row.slug ≠ org.slug := by
      intro heq
      have hlength : row.slug.length ≤ 128 := by
        have hrowValid := hvalid row hrow
        simp only [isValidSchoolSlug, Bool.and_eq_true, decide_eq_true_eq] at hrowValid
        exact hrowValid.1
      exact hne ⟨heq ▸ hlength, heq⟩
    simp [(hkeeps.released row hrow horg hslugs).2] at hcached
  · exact hsame.symm

theorem length_of_valid (hvalid : SlugsValid d) {row : PublicOrgBranding}
    (hrow : row ∈ d.branding.rows) : row.slug.length ≤ 128 := by
  have h := hvalid row hrow
  simp only [isValidSchoolSlug, Bool.and_eq_true, decide_eq_true_eq] at h
  exact h.1

theorem releases_update {row : PublicOrgBranding}
    (hrow : row ∈ d.branding.rows) (hupdated : d.updatedOrg tenantId id body = some org) :
    Releases d row.slug (.update tenantId id body)
      ↔ row.tenantId = org.tenantId ∧ row.orgId = org.id ∧ org.slug ≠ row.slug := by
  obtain ⟨rfl, rfl⟩ := updatedOrg_key hupdated
  have hfind : d.branding.find? row.slug = some row := Keyed.find?_eq_some.2 ⟨hrow, rfl⟩
  simp [Releases, hfind, hupdated]

/-- **An organization that takes nothing takes a slug from no one who keeps it.** -/
theorem Syncs.kept (h : Syncs org d d') (hvalid : SlugsValid d)
    (hupdated : d.updatedOrg tenantId id body = some org) (hkeeps : TakesNothing d org) :
    OwnersKept d d' (.update tenantId id body) := by
  obtain ⟨htenant, hid⟩ := updatedOrg_key hupdated
  refine ⟨fun row hrow hactor => ?_, fun slug other hholder hkeep => ?_,
    fun slug other hholder hrelease => ?_⟩
  · have hother : row.tenantId ≠ org.tenantId := fun heq =>
      hactor (by rw [BrandingEvent.actor, heq, htenant])
    rw [h.branding, mem_synced]
    exact Or.inl ⟨hrow, hkeeps.others row hrow hother⟩
  · obtain ⟨row, hrow, rfl, rfl⟩ := holder_eq_some.1 hholder
    rw [releases_update hrow hupdated] at hkeep
    rcases h.holder_cases row.slug with ⟨hlong, hslug, hnew⟩ | ⟨row', hrow', hkey, horg, hne, -⟩
      | ⟨-, hsame, -⟩
    · rw [hnew]
      by_contra hother
      exact (hkeeps.others row hrow fun heq => hother (by rw [heq])).2 hlong hslug
    · -- the row would be of the organization, under another slug
      obtain rfl : row' = row := Keyed.eq_of_key hrow' hrow hkey
      have hown : row'.tenantId = org.tenantId := by
        by_contra hother
        exact (hkeeps.others row' hrow hother).1 horg
      refine absurd ⟨hown, horg, fun heq => hne ⟨?_, heq.symm⟩⟩ hkeep
      rw [heq]
      exact length_of_valid hvalid hrow
    · rw [hsame, hholder]
  obtain ⟨row, hrow, rfl, rfl⟩ := holder_eq_some.1 hholder
  obtain ⟨hown, horg, hslug⟩ := (releases_update hrow hupdated).1 hrelease
  have hnone : d'.holder row.slug = none := by
    rcases h.holder_cases row.slug with ⟨-, heq, -⟩ | ⟨-, -, -, -, -, hnone⟩ | ⟨-, -, hnot⟩
    · exact absurd heq.symm hslug
    · exact hnone
    · exact absurd horg (hnot row hrow rfl)
  have hfree := (hkeeps.released row hrow horg (Ne.symm hslug)).1
  refine ⟨by simp [hnone], ?_⟩
  cases hother : d.slugTenant row.slug with
  | none =>
    rw [resolve_of_none (hvalid row hrow) (h.slugTenant _ ▸ hother), hnone]
    simp
  | some other =>
    rw [resolve_of_slugTenant (hvalid row hrow) (h.slugTenant _ ▸ hother)]
    intro heq
    exact hfree (by rw [hother, heq, hown])

/-- **The other direction**: what is held and kept after the synchronization was not taken. -/
theorem Syncs.takesNothing (h : Syncs org d d') (hd : AddressesHeld d) (hvalid : SlugsValid d)
    (hupdated : d.updatedOrg tenantId id body = some org) (hd' : AddressesHeld d')
    (hkept : OwnersKept d d' (.update tenantId id body)) : TakesNothing d org := by
  obtain ⟨htenant, hid⟩ := updatedOrg_key hupdated
  have hothers : ∀ row ∈ d.branding.rows, row.tenantId ≠ org.tenantId →
      row.orgId ≠ org.id ∧ (org.slug.length ≤ 128 → row.slug ≠ org.slug) := by
    intro row hrow hother
    have hactor : (BrandingEvent.update tenantId id body).actor ≠ some row.tenantId := by
      rw [BrandingEvent.actor, ← htenant]
      exact fun heq => hother (Option.some.inj heq).symm
    have hmem := hkept.frame row hrow hactor
    rw [h.branding, mem_synced] at hmem
    rcases hmem with ⟨-, hkeep⟩ | ⟨-, rfl⟩
    · exact hkeep
    · exact absurd rfl hother
  -- what is cached shows the same tenant before and after
  have hcached : ∀ slug, isValidSchoolSlug slug = true → d.cached slug = true →
      d.holder slug = d'.holder slug := by
    intro slug hslug hlive
    obtain ⟨entry, hentry, hlive⟩ := cached_eq_true.1 hlive
    have hbefore := (shown_tenantId_iff hslug).1 (hd.shown slug hslug) entry hentry hlive
    have hafter := (shown_tenantId_iff hslug).1 (hd'.shown slug hslug) entry
      (h.cache ▸ hentry) (h.now ▸ hlive)
    exact hbefore.symm.trans hafter
  have hnew : org.slug.length ≤ 128 → d'.holder org.slug = some org.tenantId := by
    intro hlong
    rw [holder_synced h.branding, if_pos ⟨hlong, rfl⟩]
  refine ⟨hothers, fun hlong other hother => ?_, fun row hrow horg hslug => ?_,
    fun hlong hholder => ?_⟩
  · have hresolved := hd'.resolved org.slug org.tenantId (hnew hlong)
    rw [resolve_of_slugTenant (slug_valid hlong) (h.slugTenant _ ▸ hother)] at hresolved
    exact readyTenant_eq_some hresolved.symm
  · have hown : row.tenantId = org.tenantId := by
      by_contra hother
      exact (hothers row hrow hother).1 horg
    have hrelease := (releases_update hrow hupdated).2 ⟨hown, horg, Ne.symm hslug⟩
    obtain ⟨hgone, hresolve⟩ := hkept.released row.slug row.tenantId (holder_of_mem hrow) hrelease
    constructor
    · intro hother
      rw [resolve_of_slugTenant (hvalid row hrow) (h.slugTenant _ ▸ hother)] at hresolve
      exact hresolve (by rw [hown])
    by_contra hlive
    have hsame := hcached row.slug (hvalid row hrow) (by simpa using hlive)
    exact hgone (hsame ▸ holder_of_mem hrow)
  by_contra hlive
  have hsame := hcached org.slug (slug_valid hlong) (by simpa using hlive)
  rw [hholder, hnew hlong] at hsame
  cases hsame

end Syncs

/-! ## A view of a login page -/

section View
variable {α : Type} {c : ListCache α}

/-- Every entry of `c'` is one of `c`, touched or not, or the value `v` under `key`. -/
def StoresOnly (key : String) (v : α) (c c' : ListCache α) : Prop :=
  ∀ k entry, c'.entries.get? k = some entry →
    (∃ old, c.entries.get? k = some old ∧ old.value = entry.value
        ∧ old.expiresAt = entry.expiresAt)
      ∨ (k = key ∧ entry.value = v)

theorem joinOrLoad_loads (key : String) (ttl : Time) (c : ListCache α) :
    (joinOrLoad key ttl c).entries = c.entries
      ∧ ∀ load, (joinOrLoad key ttl c).loads[c.loads.length]? = some load → load.key = key := by
  unfold joinOrLoad
  cases c.inFlight.get? key with
  | some pending => exact ⟨rfl, fun load h => by simp [ListCache.give] at h⟩
  | none =>
    refine ⟨rfl, fun load h => ?_⟩
    simp only [ListCache.give, List.getElem?_concat_length, Option.some.injEq] at h
    rw [← h]

/-- A call touches entries, or takes an expired one out; a load that it starts is of its key. -/
theorem getOrLoad_stores (listTtl now : Time) (key : String) (ttlMs : Option Time) (v : α)
    (c : ListCache α) :
    StoresOnly key v c (getOrLoad listTtl now key false ttlMs c)
      ∧ ∀ load, (getOrLoad listTtl now key false ttlMs c).loads[c.loads.length]? = some load →
        load.key = key := by
  unfold getOrLoad
  simp only [Bool.false_eq_true, if_false]
  cases hcached : c.entries.get? key with
  | none =>
    obtain ⟨hentries, hloads⟩ := joinOrLoad_loads key ((ttlMs.filter (0 < ·)).getD
      (defaultTtl listTtl)) c
    refine ⟨fun k entry h => Or.inl ⟨entry, ?_, rfl, rfl⟩, hloads⟩
    rwa [hentries] at h
  | some cached =>
    simp only
    split
    · refine ⟨fun k entry h => Or.inl ?_, fun load h => ?_⟩
      · simp only [ListCache.give, OrderedMap.get?_set] at h
        by_cases hk : k = key
        · rw [if_pos hk] at h
          cases h
          exact ⟨cached, hk ▸ hcached, rfl, rfl⟩
        rw [if_neg hk] at h
        exact ⟨entry, h, rfl, rfl⟩
      · simp [ListCache.give] at h
    obtain ⟨hentries, hloads⟩ := joinOrLoad_loads key ((ttlMs.filter (0 < ·)).getD
      (defaultTtl listTtl)) { c with entries := c.entries.erase key }
    refine ⟨fun k entry h => Or.inl ⟨entry, ?_, rfl, rfl⟩, hloads⟩
    rw [hentries, OrderedMap.get?_erase] at h
    split at h
    · cases h
    · exact h

/-- A load that ends stores its own value, under its own key. -/
theorem endLoad_stores {now : Time} {request : ℕ} {load : Load} {v : α} {c c' : ListCache α}
    (h : StoresOnly load.key v c c') :
    StoresOnly load.key v c (endLoad now request load (some v) c') := by
  intro k entry hentry
  simp only [endLoad] at hentry
  split at hentry
  · simp only [ListCache.set, OrderedMap.get?_set] at hentry
    by_cases hk : k = load.key
    · rw [if_pos hk] at hentry
      cases hentry
      exact Or.inr ⟨hk, rfl⟩
    rw [if_neg hk] at hentry
    exact h k entry (get?_evictFor hentry)
  · exact h k entry hentry

theorem settle_entries (listTtl : Time) (request : ℕ) (c : ListCache α) :
    (listCacheStep listTtl (.settle request) c).entries = c.entries := by
  simp only [listCacheStep]
  split
  · split <;> rfl
  · rfl

/-- **A view stores what it loads, and nothing else.** -/
theorem view_stores (listTtl now : Time) (key : String) (ttlMs : Option Time) (v : α)
    (c : ListCache α) :
    StoresOnly key v c (run (listCacheStep listTtl) c
      [.getOrLoad key false ttlMs now, .endLoad c.loads.length (some v) now,
        .settle c.loads.length]) := by
  obtain ⟨hcall, hload⟩ := getOrLoad_stores listTtl now key ttlMs v c
  have hend : StoresOnly key v c (listCacheStep listTtl (.endLoad c.loads.length (some v) now)
      (getOrLoad listTtl now key false ttlMs c)) := by
    simp only [listCacheStep]
    cases hstarted : (getOrLoad listTtl now key false ttlMs c).loads[c.loads.length]? with
    | none => exact hcall
    | some load =>
      obtain rfl := hload load hstarted
      simp only
      split
      · exact endLoad_stores hcall
      · exact hcall
  intro k entry hentry
  refine hend k entry ?_
  rwa [run_cons, run_cons, run_cons, run_nil, settle_entries] at hentry

end View

theorem brandingKey_inj {slug slug' : String} (h : brandingKey slug = brandingKey slug') :
    slug = slug' := by
  unfold brandingKey at h
  rwa [String.append_right_inj] at h

/-! ## One step -/

theorem ownersKept_of_same {e : BrandingEvent} (hbranding : d'.branding = d.branding)
    (hno : ∀ slug, ¬ Releases d slug e) : OwnersKept d d' e := by
  have hholder : ∀ slug, d'.holder slug = d.holder slug := by
    intro slug
    rw [BrandingStores.holder, BrandingStores.holder, hbranding]
  refine ⟨fun row hrow _ => hbranding ▸ hrow, fun slug tenantId h _ => ?_,
    fun slug _ _ hrelease => absurd hrelease (hno slug)⟩
  rw [hholder, h]

/-- What is cached stays shown for the same tenant while time passes and pages are viewed. -/
theorem addressesHeld_of_cache (hd : AddressesHeld d) (htenants : d'.tenants = d.tenants)
    (hbranding : d'.branding = d.branding)
    (hcache : ∀ slug entry, isValidSchoolSlug slug = true →
      d'.cache.entries.get? (brandingKey slug) = some entry → d'.now < entry.expiresAt →
      entry.value.tenantId = d.holder slug) : AddressesHeld d' := by
  have hholder : ∀ slug, d'.holder slug = d.holder slug := by
    intro slug
    rw [BrandingStores.holder, BrandingStores.holder, hbranding]
  have hready : d'.readyTenant = d.readyTenant := by
    funext tenantId
    rw [BrandingStores.readyTenant, BrandingStores.readyTenant, htenants]
  refine ⟨fun slug tenantId h => ?_, fun slug hslug => ?_⟩
  · rw [hholder] at h
    rw [hready, ← hd.resolved slug tenantId h, BrandingStores.resolveTenantBySlug,
      BrandingStores.resolveTenantBySlug, BrandingStores.slugTenant, BrandingStores.slugTenant,
      htenants, hready, hholder]
  rw [shown_tenantId_iff hslug]
  intro entry hentry hlive
  rw [hholder]
  exact hcache slug entry hslug hentry hlive

theorem slugsValid_step (e : BrandingEvent) (h : SlugsValid d) :
    SlugsValid (brandingStep listTtl e d) := by
  cases e with
  | create tenantId id name =>
    simp only [brandingStep, BrandingStores.createBusinessOrganization]
    split <;> exact h
  | update tenantId id body =>
    obtain ⟨orgs, heq⟩ := update_eq tenantId id body d
    rw [brandingStep, heq]
    cases d.updatedOrg tenantId id body with
    | none => exact h
    | some org =>
      intro row hrow
      rcases mem_synced.1 hrow with ⟨hold, -⟩ | ⟨hlong, rfl⟩
      · exact h row hold
      rw [BusinessOrg.brandingRow_slug]
      exact slug_valid hlong
  | delete tenantId id => exact h
  | view slug =>
    simp only [brandingStep, BrandingStores.getPublicLoginBrandingBySlug]
    split <;> exact h
  | pass elapsed => exact h

/-- **A step keeps every slug with its tenant exactly when it meets the condition.** -/
theorem addressesHeld_step_iff (e : BrandingEvent) (hd : AddressesHeld d)
    (hvalid : SlugsValid d) :
    AddressesHeld (brandingStep listTtl e d) ∧ OwnersKept d (brandingStep listTtl e d) e
      ↔ KeepsAddresses d e := by
  cases e with
  | create tenantId id name =>
    refine iff_of_true ?_ trivial
    simp only [brandingStep, BrandingStores.createBusinessOrganization]
    cases d.orgs.insert? { tenantId, id, name } with
    | none => exact ⟨hd, ownersKept_of_same rfl fun _ => nofun⟩
    | some orgs =>
      exact ⟨hd.congr rfl rfl rfl rfl,
        ownersKept_of_same rfl fun _ => nofun⟩
  | update tenantId id body =>
    obtain ⟨orgs, heq⟩ := update_eq tenantId id body d
    rw [brandingStep, heq]
    cases hupdated : d.updatedOrg tenantId id body with
    | none =>
      have hno : ∀ slug, ¬ Releases d slug (.update tenantId id body) := by
        rintro slug ⟨row, -, -, -, org, horg, -⟩
        cases hupdated.symm.trans horg
      refine iff_of_true ⟨hd.congr rfl rfl rfl rfl,
        ownersKept_of_same rfl hno⟩ ?_
      intro org horg
      cases hupdated.symm.trans horg
    | some org =>
      have hsyncs : Syncs org d { d with orgs, branding := synced org d.branding } :=
        ⟨rfl, rfl, rfl, rfl⟩
      constructor
      · rintro ⟨hd', hkept⟩ org' horg'
        cases hupdated.symm.trans horg'
        exact hsyncs.takesNothing hd hvalid hupdated hd' hkept
      intro hkeeps
      have htakes := hkeeps org hupdated
      exact ⟨hsyncs.held hd hvalid htakes, hsyncs.kept hvalid hupdated htakes⟩
  | delete tenantId id =>
    have hheld : AddressesHeld (brandingStep listTtl (.delete tenantId id) d) :=
      hd.congr rfl rfl rfl rfl
    constructor
    · rintro ⟨-, hkept⟩ horg row hrow ⟨rfl, rfl⟩
      have hfind : d.branding.find? row.slug = some row := Keyed.find?_eq_some.2 ⟨hrow, rfl⟩
      have hrelease : Releases d row.slug (.delete row.tenantId row.orgId) :=
        ⟨row, hfind, rfl, rfl, horg⟩
      exact (hkept.released row.slug row.tenantId (holder_of_mem hrow) hrelease).1
        (holder_of_mem hrow)
    intro hkeeps
    refine ⟨hheld, ownersKept_of_same rfl ?_⟩
    rintro slug ⟨row, hrow, htenant, hid, horg⟩
    exact hkeeps horg row (Keyed.find?_eq_some.1 hrow).1 ⟨htenant, hid⟩
  | view slug =>
    refine iff_of_true ?_ trivial
    simp only [brandingStep, BrandingStores.getPublicLoginBrandingBySlug]
    split
    · refine ⟨addressesHeld_of_cache hd rfl rfl ?_, ownersKept_of_same rfl fun _ => nofun⟩
      intro slug' entry hslug' hentry hlive
      rcases view_stores listTtl d.now (brandingKey slug) (some brandingTtl)
        (d.loadPublicLoginBrandingBySlug slug) d.cache _ entry hentry with
        ⟨old, hold, hvalue, hexpires⟩ | ⟨hkey, hvalue⟩
      · rw [← hvalue]
        exact (shown_tenantId_iff hslug').1 (hd.shown slug' hslug') old hold (hexpires ▸ hlive)
      · rw [hvalue, brandingKey_inj hkey, load_tenantId]
    · exact ⟨hd, ownersKept_of_same rfl fun _ => nofun⟩
  | pass elapsed =>
    refine iff_of_true ⟨addressesHeld_of_cache hd rfl rfl ?_,
      ownersKept_of_same rfl fun _ => nofun⟩ trivial
    intro slug entry hslug hentry hlive
    have hearlier : d.now < entry.expiresAt := by
      have hlater : d.now + elapsed < entry.expiresAt := hlive
      simp only [Time] at *
      omega
    exact (shown_tenantId_iff hslug).1 (hd.shown slug hslug) entry hentry hearlier

/-! ## Runs -/

/-- The school server before any login page was written. -/
def brandingStart (now : Time) (tenants : Keyed TenantConfig.id) (orgs : Keyed BusinessOrg.key) :
    BrandingStores := { now, tenants, orgs }

theorem addressesHeld_start (now : Time) (tenants : Keyed TenantConfig.id)
    (orgs : Keyed BusinessOrg.key) : AddressesHeld (brandingStart now tenants orgs) := by
  refine ⟨fun slug tenantId h => (by cases h), fun slug hslug => ?_⟩
  rw [shown_tenantId_iff hslug]
  intro entry hentry
  cases hentry

/-- **A login address belongs to one school exactly as long as no organization takes one.**
Along every run of updates, deletions and views by any tenants: every slug is resolved to, and
shown for, the tenant that has it, each request leaves the rows of other tenants alone, and a
tenant loses a slug when it renames or deletes its organization and at no other time, if and
only if each request meets the condition. -/
theorem login_address_held_iff (listTtl now : Time) (tenants : Keyed TenantConfig.id)
    (orgs : Keyed BusinessOrg.key) (es : List BrandingEvent) :
    (∀ pre, pre <+: es →
        AddressesHeld (run (brandingStep listTtl) (brandingStart now tenants orgs) pre))
        ∧ Along (brandingStep listTtl) (fun d e => OwnersKept d (brandingStep listTtl e d) e)
          (brandingStart now tenants orgs) es
      ↔ Along (brandingStep listTtl) KeepsAddresses (brandingStart now tenants orgs) es :=
  along_iff_throughout_and (fun _ e _ h => slugsValid_step e h)
    (fun _ e hd hvalid => addressesHeld_step_iff e hd hvalid)
    (addressesHeld_start now tenants orgs) (by intro row hrow; cases hrow)

namespace Example

def twoTenants : Keyed TenantConfig.id :=
  ⟨[{ id := "tnt_1", slug := "one" }, { id := "tnt_2", slug := "two" }], by decide⟩

def sameName : Keyed BusinessOrg.key :=
  ⟨[{ tenantId := "tnt_1", id := "org_1", name := "Hill" },
    { tenantId := "tnt_2", id := "org_2", name := "hill!" }], by decide⟩

def bothSave : List BrandingEvent :=
  [.update "tnt_1" "org_1" { others := true }, .update "tnt_2" "org_2" { others := true }]

def hillRow : PublicOrgBranding :=
  { slug := "hill", tenantId := "tnt_1", orgId := "org_1"
    payload :=
      { slug := "hill", name := "Hill", logo := none, motto := ""
        brandColor := none, loginPageConfig := none } }

end Example

/-- A login address does not always stay with its school: a second school of the same name
writes over its row. -/
theorem not_login_address_held :
    ¬ Along (brandingStep 0) (fun d e => OwnersKept d (brandingStep 0 e d) e)
      (brandingStart 0 Example.twoTenants Example.sameName) Example.bothSave := by
  rintro ⟨-, hkept, -⟩
  have hwritten : Example.hillRow ∈ (brandingStep 0 (.update "tnt_1" "org_1" { others := true })
      (brandingStart 0 Example.twoTenants Example.sameName)).branding.rows := by
    decide +kernel
  have hmem := hkept.frame Example.hillRow hwritten (by decide)
  revert hmem
  decide +kernel

end MultiAcademy.School
