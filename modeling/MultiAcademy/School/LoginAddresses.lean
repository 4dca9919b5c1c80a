import MultiAcademy.School.ListCache
import MultiAcademy.School.Registrations

/-!
# Login addresses

The rows of `public_org_branding`, which carry a school's login page under the slug of its
name: `organizations.service.ts`, with `resolveTenantBySlug` of `control-plane.service.ts`.
An update of an organization writes the row of its slug whoever has it; a deletion leaves
the row; and the page is read through the list cache, which nothing invalidates.

The columns of `business_org` that no login page shows are left out; an update says whether
it sets any of them.
-/

namespace MultiAcademy.School

open MultiAcademy.Lib

/-! ## Slugs -/

@[irreducible] def toOrgSlug (name : String) : String :=
  let slug := generateSlugFromName name
  if slug = "" then "school" else slug

/-- `/^[a-z0-9]+(?:-[a-z0-9]+)*$/`, after a character of a word or before one. -/
def slugWords : Bool → List Char → Bool
  | inWord, [] => inWord
  | inWord, c :: cs =>
    if isSlugChar c then slugWords true cs else inWord && c = '-' && slugWords false cs

def isValidSchoolSlug (slug : String) : Bool :=
  slug.length ≤ 128 && slugWords false slug.toList

/-! ## The tables -/

/-- `login_page_config`; an absent text is empty. -/
structure LoginPageConfig where
  enabled : Bool := false
  welcomeMessage : String := ""
  subtitle : String := ""
  bgType : String := ""
  bgColor : String := ""
  bgGradientTo : String := ""
  showMotto : Option Bool := none
  footerText : String := ""
  deriving DecidableEq

/-- `text || other`. -/
def orElseText (text other : String) : String := if text = "" then other else text

/-- `parseLoginPageConfig`, of a configuration that is there. -/
def LoginPageConfig.parse (config : LoginPageConfig) : LoginPageConfig :=
  { enabled := config.enabled
    welcomeMessage := orElseText config.welcomeMessage "Welcome Back"
    subtitle := orElseText config.subtitle "Sign in to access your school portal"
    bgType := if config.bgType = "solid" then "solid" else "gradient"
    bgColor := orElseText config.bgColor "#e0f2fe"
    bgGradientTo := orElseText config.bgGradientTo "#bfdbfe"
    showMotto := some (config.showMotto ≠ some false)
    footerText := config.footerText }

/-- A row of `business_org`, and the tenant in whose database it is. -/
structure BusinessOrg where
  tenantId : String
  id : String
  name : String
  motto : Option String := none
  logo : Option String := none
  brandColor : Option String := none
  loginPageConfig : Option LoginPageConfig := none
  deriving DecidableEq

/-- The id of an organization, in the database of its tenant. -/
def BusinessOrg.key (org : BusinessOrg) : String × String := (org.tenantId, org.id)

/-- The JSON that a login page is made from. -/
structure BrandingPayload where
  slug : String
  name : String
  logo : Option String
  motto : String
  brandColor : Option String
  loginPageConfig : Option LoginPageConfig
  deriving DecidableEq

/-- A row of `public_org_branding`. -/
structure PublicOrgBranding where
  slug : String
  tenantId : String
  orgId : String
  payload : BrandingPayload
  deriving DecidableEq

/-- A row of `tenants_configs`, as far as it decides who a slug is resolved to. -/
structure TenantConfig where
  id : String
  slug : String
  status : String := "active"
  provisioningStatus : String := "ready"
  deriving DecidableEq

/-- The tenant takes sign-ins. -/
def TenantConfig.ready (tenant : TenantConfig) : Bool :=
  tenant.status = "active" && tenant.provisioningStatus = "ready"

structure LoginBranding where
  slug : String
  name : String
  logo : Option String
  motto : String
  brandColor : String
  loginPageConfig : LoginPageConfig
  deriving DecidableEq

/-- What a load of a login page gave, and the tenant whose row it read; the page is absent
when it is not found or not enabled. -/
structure PublicLogin where
  tenantId : Option String
  branding : Option LoginBranding
  deriving DecidableEq

structure BrandingStores where
  now : Time
  tenants : Keyed TenantConfig.id
  orgs : Keyed BusinessOrg.key
  branding : Keyed PublicOrgBranding.slug := .empty
  cache : ListCache PublicLogin := {}

/-- The key of a login page in the list cache. -/
def brandingKey (slug : String) : String := "public-org-branding:" ++ slug

/-- `300_000`. -/
def brandingTtl : Time := Time.seconds 300

namespace BrandingStores

variable (d : BrandingStores) (slug : String)

/-- The tenant that has a slug. -/
def holder : Option String :=
  (d.branding.find? slug).map (·.tenantId)

/-! ## What a slug leads to -/

/-- The tenant of the control plane's own slug, if it takes sign-ins. -/
def slugTenant : Option String :=
  (d.tenants.rows.find? fun tenant => tenant.slug = slug && tenant.ready).map (·.id)

/-- The tenant of an id, if it takes sign-ins. -/
def readyTenant (tenantId : String) : Option String :=
  ((d.tenants.find? tenantId).filter TenantConfig.ready).map (·.id)

/-- `resolveTenantBySlug`; `none` is its 404. -/
def resolveTenantBySlug : Option String :=
  if isValidSchoolSlug slug then
    match d.slugTenant slug with
    | some tenantId => some tenantId
    | none => (d.holder slug).bind d.readyTenant
  else none

def loadPublicLoginBrandingBySlug : PublicLogin :=
  match d.branding.find? slug with
  | none => { tenantId := none, branding := none }
  | some row =>
    let payload := row.payload
    { tenantId := some row.tenantId
      branding :=
        match payload.loginPageConfig.map LoginPageConfig.parse with
        | none => none
        | some loginPageConfig =>
          if loginPageConfig.enabled then
            some
              { slug
                name := payload.name
                logo := payload.logo
                motto := payload.motto
                brandColor := orElseText (payload.brandColor.getD "") "#4f46e5"
                loginPageConfig }
          else none }

/-- What `getPublicLoginBrandingBySlug` gives. -/
def shown : PublicLogin :=
  if isValidSchoolSlug slug then
    match d.cache.entries.get? (brandingKey slug) with
    | some entry =>
      if d.now < entry.expiresAt then entry.value else d.loadPublicLoginBrandingBySlug slug
    | none => d.loadPublicLoginBrandingBySlug slug
  else { tenantId := none, branding := none }

/-- What `getPublicLoginBrandingBySlug` leaves in the cache: the call, and the end of the load,
if it starts one. -/
def getPublicLoginBrandingBySlug (listTtl : Time) (slug : String) (d : BrandingStores) :
    BrandingStores :=
  if isValidSchoolSlug slug then
    let request := d.cache.loads.length
    { d with
      cache := run (listCacheStep listTtl) d.cache
        [.getOrLoad (brandingKey slug) false (some brandingTtl) d.now,
          .endLoad request (some (d.loadPublicLoginBrandingBySlug slug)) d.now,
          .settle request] }
  else d

end BrandingStores

/-! ## The writes -/

variable (org : BusinessOrg) (body : OrganizationUpdate)

def BusinessOrg.slug : String := toOrgSlug (orElseText org.name "school")

def BusinessOrg.brandingRow : PublicOrgBranding where
  slug := org.slug
  tenantId := org.tenantId
  orgId := org.id
  payload :=
    { slug := org.slug
      name := org.name
      logo := org.logo.filter (· ≠ "")
      motto := org.motto.getD ""
      brandColor := org.brandColor.filter (· ≠ "")
      loginPageConfig := org.loginPageConfig.map LoginPageConfig.parse }

@[simp] theorem BusinessOrg.brandingRow_slug :
    org.brandingRow.slug = org.slug := by
  simp only [BusinessOrg.brandingRow]

/-- The statements of `syncPublicBranding`: the rows of the organization go, and the row of its
slug is written, whoever has it.  The column holds 128 characters; a longer slug is an error,
and the rows are gone. -/
def synced (branding : Keyed PublicOrgBranding.slug) :
    Keyed PublicOrgBranding.slug :=
  let cleared := branding.deleteWhere fun row => row.orgId = org.id
  if 128 < org.slug.length then cleared else cleared.put org.brandingRow

abbrev BrandingError := ℕ × String

/-- The columns that an update sets; an inner `none` clears the column. -/
structure OrganizationUpdate where
  name : Option String := none
  motto : Option (Option String) := none
  logo : Option (Option String) := none
  brandColor : Option (Option String) := none
  loginPageConfig : Option (Option LoginPageConfig) := none
  /-- Another column is set. -/
  others : Bool := false

def OrganizationUpdate.isEmpty : Bool :=
  body.name.isNone && body.motto.isNone && body.logo.isNone && body.brandColor.isNone
    && body.loginPageConfig.isNone && !body.others

/-- `/^data:image\/(jpeg|jpg|png|webp|svg\+xml);base64,/i`. -/
def isLogoUrl (value : String) : Bool :=
  ["jpeg", "jpg", "png", "webp", "svg+xml"].any fun kind =>
    ("data:image/" ++ kind ++ ";base64,").toList.isPrefixOf value.toLower.toList

def assertLogo (value : Option String) : Except BrandingError (Option String) :=
  match value with
  | none | some "" => .ok none
  | some value =>
    if 400000 < value.length then
      .error (400, "School logo is too large. Use a square PNG/JPEG under ~300KB.")
    else if !isLogoUrl value then
      .error (400, "School logo must be a JPEG, PNG, WebP, or SVG data URL")
    else .ok (some value)

def OrganizationUpdate.checkedLogo :
    Except BrandingError (Option (Option String)) :=
  match body.logo with
  | none => .ok none
  | some value => (assertLogo value).map some

/-- `UPDATE business_org SET …`, of one row. -/
def OrganizationUpdate.apply (logo : Option (Option String))
    (org : BusinessOrg) : BusinessOrg :=
  { org with
    name := body.name.getD org.name
    motto := body.motto.getD org.motto
    logo := logo.getD org.logo
    brandColor := body.brandColor.getD org.brandColor
    loginPageConfig := body.loginPageConfig.getD org.loginPageConfig }

theorem OrganizationUpdate.apply_key (logo : Option (Option String))
    (org : BusinessOrg) : (body.apply logo org).key = org.key := rfl

namespace BrandingStores

def syncPublicBranding (org : BusinessOrg) (d : BrandingStores) :
    BrandingStores × Option BrandingError :=
  ({ d with branding := synced org d.branding },
    if 128 < org.slug.length then some (500, "Internal server error") else none)

def updateBusinessOrganization (tenantId id : String) (body : OrganizationUpdate)
    (d : BrandingStores) : BrandingStores × Option BrandingError :=
  match body.checkedLogo with
  | .error error => (d, some error)
  | .ok logo =>
    if body.isEmpty then (d, none)
    else
      let written :=
        { d with
          orgs := d.orgs.updateWhere (fun org => org.key = (tenantId, id)) (body.apply logo)
            (body.apply_key logo) }
      match written.orgs.find? (tenantId, id) with
      | none => (written, none)
      | some updated => written.syncPublicBranding updated

def deleteBusinessOrganization (tenantId id : String) (d : BrandingStores) : BrandingStores :=
  { d with orgs := d.orgs.deleteWhere fun org => org.key = (tenantId, id) }

/-- `createBusinessOrganization`, with the id it draws. -/
def createBusinessOrganization (tenantId id name : String) (d : BrandingStores) :
    BrandingStores :=
  match d.orgs.insert? { tenantId, id, name } with
  | none => d
  | some orgs => { d with orgs }

end BrandingStores

/-- A request of a tenant, a view of a login page, or time passes. -/
inductive BrandingEvent
  | create (tenantId id name : String)
  | update (tenantId id : String) (body : OrganizationUpdate)
  | delete (tenantId id : String)
  | view (slug : String)
  | pass (elapsed : ℕ)

def brandingStep (listTtl : Time) (e : BrandingEvent) (d : BrandingStores) : BrandingStores :=
  match e with
  | .create tenantId id name => d.createBusinessOrganization tenantId id name
  | .update tenantId id body => (d.updateBusinessOrganization tenantId id body).1
  | .delete tenantId id => d.deleteBusinessOrganization tenantId id
  | .view slug => d.getPublicLoginBrandingBySlug listTtl slug
  | .pass elapsed => { d with now := d.now + elapsed }

/-! ## The slug of a name is valid -/

section Slugs

/-- Every character is one of a slug or a dash, and no two dashes stand together. -/
def Dashed (cs : List Char) : Prop :=
  (∀ c ∈ cs, isSlugChar c = true ∨ c = '-') ∧ cs.IsChain fun c c' => c ≠ '-' ∨ c' ≠ '-'

theorem dashed_dashes (cs : List Char) : Dashed (dashes cs) := by
  induction cs with
  | nil => exact ⟨by simp [dashes], by simp [dashes]⟩
  | cons c cs ih =>
    obtain ⟨hchars, hchain⟩ := ih
    unfold dashes
    by_cases hc : isSlugChar c = true
    · have hne : c ≠ '-' := by
        rintro rfl
        exact absurd hc (by decide)
      rw [if_pos hc]
      refine ⟨by simpa [hc] using hchars, ?_⟩
      rw [List.isChain_cons]
      exact ⟨fun _ _ => Or.inl hne, hchain⟩
    rw [if_neg hc]
    split
    · rename_i rest hrest
      rw [hrest] at hchars hchain
      exact ⟨hchars, hchain⟩
    rename_i rest hne
    refine ⟨by simpa using hchars, ?_⟩
    rw [List.isChain_cons]
    refine ⟨fun c' hc' => Or.inr ?_, hchain⟩
    rintro rfl
    obtain ⟨tail, htail⟩ := List.head?_eq_some_iff.1 hc'
    exact hne tail htail

variable {cs : List Char}

theorem Dashed.reverse (h : Dashed cs) : Dashed cs.reverse := by
  refine ⟨fun c hc => h.1 c (List.mem_reverse.1 hc), ?_⟩
  rw [List.isChain_reverse]
  exact h.2.imp fun c c' hor => hor.symm

theorem Dashed.dropWhile (h : Dashed cs) (p : Char → Bool) :
    Dashed (cs.dropWhile p) :=
  ⟨fun c hc => h.1 c ((List.dropWhile_sublist p).subset hc),
    h.2.suffix (List.dropWhile_suffix p)⟩

/-- A dashed text that ends in no dash is made of words. -/
theorem slugWords_of_dashed {inWord : Bool} (h : Dashed cs)
    (hfirst : inWord = false → cs.head? ≠ some '-') (hnone : inWord = false → cs ≠ [])
    (hlast : cs.getLast? ≠ some '-') : slugWords inWord cs = true := by
  induction cs generalizing inWord with
  | nil => cases inWord with
      | true => rfl
      | false => exact absurd rfl (hnone rfl)
  | cons c cs ih =>
    obtain ⟨hchars, hchain⟩ := h
    rw [List.isChain_cons] at hchain
    have htail : Dashed cs := ⟨fun c hc => hchars c (by simp [hc]), hchain.2⟩
    have hlast' : cs.getLast? ≠ some '-' := by
      intro hdash
      cases cs with
      | nil => cases hdash
      | cons c' cs => exact hlast (by rw [List.getLast?_cons_cons]; exact hdash)
    unfold slugWords
    by_cases hc : isSlugChar c = true
    · rw [if_pos hc]
      exact ih htail nofun nofun hlast'
    have hdash : c = '-' := (hchars c (by simp)).resolve_left hc
    have hin : inWord = true := by
      by_contra hout
      exact hfirst (by simpa using hout) (by simp [hdash])
    rw [if_neg hc, hin, hdash]
    refine ih htail (fun _ hhead => ?_) (fun _ hnil => ?_) hlast'
    · have := hchain.1 '-' hhead
      simp [hdash] at this
    subst hnil
    exact hlast (by simp [hdash])

theorem head?_dropWhile_dash (cs : List Char) :
    (cs.dropWhile (· = '-')).head? ≠ some '-' := by
  intro h
  have := List.head?_dropWhile_not (p := (· = '-')) cs
  rw [h] at this
  simp at this

theorem slugWords_stripDashes (h : Dashed cs) (hne : stripDashes cs ≠ []) :
    slugWords false (stripDashes cs) = true := by
  have hshape : Dashed (stripDashes cs) := ((h.dropWhile _).reverse.dropWhile _).reverse
  refine slugWords_of_dashed hshape (fun _ => ?_) (fun _ => hne) ?_
  · -- what is dropped at the end leaves the first character
    rw [stripDashes, List.head?_reverse]
    obtain ⟨dropped, hdropped⟩ :=
      List.dropWhile_suffix (l := (cs.dropWhile (· = '-')).reverse) (· = '-')
    have hkept : (cs.dropWhile (· = '-')).reverse.dropWhile (· = '-') ≠ [] := by
      intro hnil
      exact hne (by rw [stripDashes, hnil]; rfl)
    have hlast : ((cs.dropWhile (· = '-')).reverse.dropWhile (· = '-')).getLast?
        = (cs.dropWhile (· = '-')).reverse.getLast? := by
      conv_rhs => rw [← hdropped, List.getLast?_append_of_ne_nil _ hkept]
    rw [hlast, List.getLast?_reverse]
    exact head?_dropWhile_dash cs
  rw [stripDashes, List.getLast?_reverse]
  exact head?_dropWhile_dash _

/-- The slug of a name is valid, unless it is too long. -/
theorem isValidSchoolSlug_toOrgSlug {name : String} (h : (toOrgSlug name).length ≤ 128) :
    isValidSchoolSlug (toOrgSlug name) = true := by
  have hwords : slugWords false (toOrgSlug name).toList = true := by
    unfold toOrgSlug
    by_cases hempty : generateSlugFromName name = ""
    · simp [hempty]
      decide
    simp only [hempty, if_false]
    rw [generateSlugFromName, String.toList_ofList]
    refine slugWords_stripDashes (dashed_dashes _) fun hnil => hempty ?_
    rw [generateSlugFromName, hnil]
  simp [isValidSchoolSlug, h, hwords]

end Slugs

end MultiAcademy.School
