import MultiAcademy.School.AnnouncementLoads

/-!
# Who announcements reach

A user is given the newest critical announcements that are addressed to it and that it has not
acknowledged, and the users of an audience are notified once when an announcement becomes
published.  The query does not look at the audience; a removal, and an update that sets neither
flag, leave the cached lists as they are; and an update notifies no one.
-/

namespace MultiAcademy.School

open MultiAcademy.Lib

namespace AnnouncementStores

/-! ## The law -/

/-- The list that a user should be given. -/
def duePending (s : AnnouncementStores) (user : SchoolUser) : List PendingAnnouncement :=
  (s.announcements.newest 10 fun a =>
    pendingFor s.acks user.id a && a.audience.includes user).map Announcement.pending

/-- The announcement has become published, from `s` to `s'`, and is addressed to the active
user. -/
def Informs (s s' : AnnouncementStores) (announcementId : String) (user : SchoolUser) : Bool :=
  user.isActive
    && (s'.announcements.find? announcementId).any (fun a =>
      a.isPublished && a.audience.includes user)
    && !(s.announcements.find? announcementId).any (·.isPublished)

/-- How often a user was notified of an announcement. -/
def noticesOf (s : AnnouncementStores) (announcementId userId : String) : ℕ :=
  s.notices.countP fun n => n.announcementId = announcementId && n.userId = userId

/-- Every user is given the list that is due. -/
def AllDue (s : AnnouncementStores) : Prop :=
  ∀ user ∈ s.users.rows, s.pendingCritical user.id = s.duePending user

end AnnouncementStores

/-- **Every user is given the list that is due**, the newest announcements first. -/
structure ListsDue (s : AnnouncementStores) : Prop where
  newest : NewestFirst s
  due : s.AllDue

/-- **The users that the step should notify are notified once, and the others are not.** -/
def Notified (s s' : AnnouncementStores) : Prop :=
  ∀ announcementId, ∀ user ∈ s.users.rows,
    s'.noticesOf announcementId user.id
      = s.noticesOf announcementId user.id + if s.Informs s' announcementId user then 1 else 0

/-! ## The condition -/

namespace AnnouncementStores

/-- The announcement is critical, published and not acknowledged by the user, and fewer than ten
newer ones are. -/
def Foremost (s : AnnouncementStores) (userId : String) (a : Announcement) : Prop :=
  pendingFor s.acks userId a = true
    ∧ (s.announcements.newer a.id).countP (pendingFor s.acks userId) < 10

/-- No announcement that is foremost for a user is addressed to others. -/
def Addressed (s : AnnouncementStores) : Prop :=
  ∀ user ∈ s.users.rows, ∀ a ∈ s.announcements.rows, s.Foremost user.id a →
    a.audience.includes user = true

end AnnouncementStores

/-- The step brings no announcement in front of a user that it is not addressed to; it changes
none that a list holds, unless it invalidates the lists; and only a create publishes one that is
addressed to anybody, to no more than the cap and without a failure. -/
def KeepsReach (s : AnnouncementStores) : AnnouncementEvent → Prop
  | .create id _ body _ delivers =>
    s.announcements.find? id = none →
      (body.critical = true → body.published = true → ∀ user ∈ s.users.rows,
        (id, user.id) ∉ s.acks → (body.audience.getD .all).includes user = true)
      ∧ (body.published = true → (s.targets (body.audience.getD .all)).length ≤ 200
        ∧ ∀ user ∈ s.targets (body.audience.getD .all), delivers user.id = true)
  | .update id body =>
    ∀ a ∈ s.announcements.find? id, body.isEmpty = false → body.setsNull = false →
      AnnouncementStores.Addressed { s with announcements := s.updated id body }
      ∧ (body.invalidates = false → ∀ user ∈ s.users.rows, (s.held user.id).isSome = true →
        s.Foremost user.id a → (body.apply s.now a).pending = a.pending)
      ∧ (a.isPublished = false → (body.apply s.now a).isPublished = true →
        s.targets (body.apply s.now a).audience = [])
  | .remove id =>
    AnnouncementStores.Addressed (s.remove id)
      ∧ ∀ a ∈ s.announcements.find? id, ∀ user ∈ s.users.rows,
        (s.held user.id).isSome = true → ¬ s.Foremost user.id a
  | .acknowledge userId announcementId =>
    AnnouncementStores.Addressed { s with acks := s.acks.insert (announcementId, userId) }
  | _ => True

namespace AnnouncementStores
variable {s s' : AnnouncementStores} {user : SchoolUser} {userId : String} {a : Announcement}
  {list : List PendingAnnouncement}

/-! ## What the query finds -/

theorem mem_newest_pending :
    a ∈ s.announcements.newest 10 (pendingFor s.acks userId)
      ↔ a ∈ s.announcements.rows ∧ s.Foremost userId a := Keyed.mem_newest

theorem mem_load (ha : a ∈ s.announcements.rows) (hforemost : s.Foremost userId a) :
    a.pending ∈ s.loadPending userId :=
  List.mem_map.2 ⟨a, mem_newest_pending.2 ⟨ha, hforemost⟩, rfl⟩

theorem exists_of_mem_due {p : PendingAnnouncement} (h : p ∈ s.duePending user) :
    ∃ a ∈ s.announcements.rows, a.audience.includes user = true ∧ a.pending = p := by
  obtain ⟨a, ha, hpending⟩ := List.mem_map.1 h
  obtain ⟨hrow, hkeep, -⟩ := Keyed.mem_newest.1 ha
  rw [Bool.and_eq_true] at hkeep
  exact ⟨a, hrow, hkeep.2, hpending⟩

/-- **The query finds what is due exactly when the foremost announcements are addressed to the
user.** -/
theorem due_eq_load_iff :
    s.duePending user = s.loadPending user.id
      ↔ ∀ a ∈ s.announcements.rows, s.Foremost user.id a → a.audience.includes user = true := by
  constructor
  · intro h a ha hforemost
    have hmem : a.pending ∈ s.duePending user := h ▸ mem_load ha hforemost
    obtain ⟨b, hb, hincludes, hpending⟩ := exists_of_mem_due hmem
    have hid : b.id = a.id := congrArg PendingAnnouncement.id hpending
    rwa [← Keyed.eq_of_key hb ha hid]
  intro h
  unfold duePending loadPending
  rw [Keyed.newest_filter_iff.2]
  intro a ha
  obtain ⟨hrow, hforemost⟩ := mem_newest_pending.1 ha
  exact h a hrow hforemost

theorem addressed_iff :
    s.Addressed ↔ ∀ user ∈ s.users.rows, s.duePending user = s.loadPending user.id :=
  forall₂_congr fun _ _ => due_eq_load_iff.symm

/-- The lists that are held are what the query finds, and that is what is due. -/
structure ListsFresh (s : AnnouncementStores) : Prop where
  addressed : s.Addressed
  held : ∀ user ∈ s.users.rows, ∀ list, s.held user.id = some list →
    list = s.loadPending user.id

theorem ListsFresh.due (h : ListsFresh s) (huser : user ∈ s.users.rows) :
    s.pendingCritical user.id = s.duePending user := by
  have haddressed := addressed_iff.1 h.addressed user huser
  unfold pendingCritical
  cases hheld : s.held user.id with
  | none => exact haddressed.symm
  | some list => exact (h.held user huser list hheld).trans haddressed.symm

/-- Where nothing is held, the lists are due exactly when they are addressed. -/
theorem due_iff_of_invalidated (h : ∀ userId, s.held userId = none) :
    (s.AllDue ↔ s.Addressed) ∧ (s.Addressed → ListsFresh s) := by
  have hload : ∀ userId, s.pendingCritical userId = s.loadPending userId := by
    intro userId
    rw [pendingCritical, h]
    rfl
  refine ⟨?_, fun haddressed => ⟨haddressed, fun user _ list hheld => ?_⟩⟩
  · rw [addressed_iff]
    exact forall₂_congr fun user _ => by rw [hload, eq_comm]
  rw [h] at hheld
  cases hheld

/-- **A write under lists that stay held.**  When the query finds the same list wherever all the
foremost announcements are still shown as they were, the lists are due exactly when they are
addressed and this is the case for the lists that are held. -/
theorem due_iff_of_kept (s' : AnnouncementStores) (hfresh : ListsFresh s)
    (husers : s'.users = s.users)
    (hheld : ∀ userId, s'.held userId = s.held userId)
    (hsame : ∀ user ∈ s.users.rows,
      (∀ a ∈ s.announcements.rows, s.Foremost user.id a →
        ∃ b ∈ s'.announcements.rows, b.pending = a.pending) →
      s'.loadPending user.id = s.loadPending user.id) :
    (s'.AllDue ↔ s'.Addressed ∧ ∀ user ∈ s.users.rows, (s.held user.id).isSome = true →
          ∀ a ∈ s.announcements.rows, s.Foremost user.id a →
            ∃ b ∈ s'.announcements.rows, b.pending = a.pending)
      ∧ (s'.AllDue → ListsFresh s') := by
  have hgiven : ∀ userId,
      s'.pendingCritical userId = (s.held userId).getD (s'.loadPending userId) := by
    intro userId
    rw [pendingCritical, hheld]
  -- a held list that is due shows every announcement that it showed
  have hdue : s'.AllDue → ∀ user ∈ s.users.rows, s'.duePending user = s'.loadPending user.id
        ∧ ((s.held user.id).isSome = true → ∀ a ∈ s.announcements.rows, s.Foremost user.id a →
          ∃ b ∈ s'.announcements.rows, b.pending = a.pending) := by
    intro h user huser
    have huser' := h user (husers ▸ huser)
    rw [hgiven] at huser'
    cases hlist : s.held user.id with
    | none =>
      rw [hlist] at huser'
      exact ⟨huser'.symm, nofun⟩
    | some list =>
      rw [hlist, Option.getD_some, hfresh.held user huser list hlist] at huser'
      have hkept : ∀ a ∈ s.announcements.rows, s.Foremost user.id a →
          ∃ b ∈ s'.announcements.rows, b.pending = a.pending := by
        intro a ha hforemost
        have hmem : a.pending ∈ s'.duePending user := huser' ▸ mem_load ha hforemost
        obtain ⟨b, hb, -, hpending⟩ := exists_of_mem_due hmem
        exact ⟨b, hb, hpending⟩
      exact ⟨by rw [hsame user huser hkept, huser'], fun _ => hkept⟩
  have hfresh' : s'.Addressed → (∀ user ∈ s.users.rows, (s.held user.id).isSome = true →
      ∀ a ∈ s.announcements.rows, s.Foremost user.id a →
        ∃ b ∈ s'.announcements.rows, b.pending = a.pending) → ListsFresh s' := by
    intro haddressed hkept
    refine ⟨haddressed, fun user huser list hlist => ?_⟩
    rw [husers] at huser
    rw [hheld] at hlist
    rw [hsame user huser (hkept user huser (by rw [hlist]; rfl))]
    exact hfresh.held user huser list hlist
  have haddressed : s'.AllDue → s'.Addressed := by
    intro h
    rw [addressed_iff, husers]
    exact fun user huser => (hdue h user huser).1
  refine ⟨⟨fun h => ⟨haddressed h, fun user huser => (hdue h user huser).2⟩, ?_⟩, fun h => ?_⟩
  · rintro ⟨haddressed, hkept⟩ user huser
    exact (hfresh' haddressed hkept).due huser
  · exact hfresh' (haddressed h) fun user huser => (hdue h user huser).2

/-! ## Steps that write no announcement -/

theorem loadPending_congr (hrows : s'.announcements = s.announcements) (hacks : s'.acks = s.acks) :
    s'.loadPending userId = s.loadPending userId := by
  rw [loadPending, loadPending, hrows, hacks]

theorem addressed_congr (husers : s'.users = s.users) (hrows : s'.announcements = s.announcements)
    (hacks : s'.acks = s.acks) : s'.Addressed ↔ s.Addressed := by
  unfold Addressed Foremost
  rw [husers, hrows, hacks]

theorem ListsFresh.of_read (h : ListsFresh s) (husers : s'.users = s.users)
    (hrows : s'.announcements = s.announcements) (hacks : s'.acks = s.acks)
    (hheld : ∀ userId list, s'.held userId = some list →
      s.held userId = some list ∨ list = s.loadPending userId) : ListsFresh s' := by
  refine ⟨(addressed_congr husers hrows hacks).2 h.addressed, fun user huser list hlist => ?_⟩
  rw [loadPending_congr hrows hacks]
  rcases hheld user.id list hlist with hold | hnew
  · exact h.held user (husers ▸ huser) list hold
  · exact hnew

/-- A step that publishes nothing notifies no one. -/
theorem notified_of_none (hnotices : s'.notices = s.notices)
    (hpublished : ∀ k a', s'.announcements.find? k = some a' → a'.isPublished = true →
      ∃ a, s.announcements.find? k = some a ∧ a.isPublished = true) : Notified s s' := by
  intro k user _
  have hinforms : s.Informs s' k user = false := by
    unfold Informs
    cases hfind : s'.announcements.find? k with
    | none => simp
    | some a' =>
      cases hpub : a'.isPublished with
      | false => simp [hpub]
      | true =>
        obtain ⟨a, ha, hbefore⟩ := hpublished k a' hfind hpub
        simp [ha, hbefore]
  rw [hinforms, noticesOf, noticesOf, hnotices]
  simp

/-! ## Removals and acknowledgements -/

theorem remove_lists_iff (hfresh : ListsFresh s) (id : String) :
    ((s.remove id).AllDue
        ↔ (s.remove id).Addressed ∧ ∀ a ∈ s.announcements.find? id, ∀ user ∈ s.users.rows,
          (s.held user.id).isSome = true → ¬ s.Foremost user.id a)
      ∧ ((s.remove id).AllDue → ListsFresh (s.remove id)) := by
  -- an announcement is still shown if it is another one
  have hshown : ∀ a ∈ s.announcements.rows,
      (∃ b ∈ (s.remove id).announcements.rows, b.pending = a.pending) ↔ a.id ≠ id := by
    intro a ha
    simp only [remove, Keyed.mem_deleteWhere, decide_eq_false_iff_not]
    constructor
    · rintro ⟨b, ⟨-, hb⟩, hpending⟩ rfl
      exact hb (congrArg PendingAnnouncement.id hpending)
    · exact fun hne => ⟨a, ⟨ha, hne⟩, rfl⟩
  obtain ⟨hiff, hnext⟩ := due_iff_of_kept (s.remove id) hfresh rfl (fun _ => rfl) (by
    intro user _ hkept
    unfold loadPending remove
    rw [Keyed.newest_deleteWhere]
    intro a ha
    obtain ⟨hrow, hforemost⟩ := (mem_newest_pending (s := s)).1 ha
    simpa using (hshown a hrow).1 (hkept a hrow hforemost))
  refine ⟨hiff.trans (and_congr_right fun _ => ?_), hnext⟩
  constructor
  · intro h a ha user huser hheld hforemost
    obtain ⟨hrow, hid⟩ := Keyed.find?_eq_some.1 ha
    exact (hshown a hrow).1 (h user huser hheld a hrow hforemost) hid
  intro h user huser hheld a ha hforemost
  refine (hshown a ha).2 fun hid => ?_
  exact h a (Keyed.find?_eq_some.2 ⟨ha, hid⟩) user huser hheld hforemost

theorem remove_notified (s : AnnouncementStores) (id : String) : Notified s (s.remove id) := by
  refine notified_of_none rfl fun k a' ha' hpub => ⟨a', ?_, hpub⟩
  simp only [remove, Keyed.find?_deleteWhere] at ha'
  exact (Option.filter_eq_some_iff.1 ha').1

theorem invalidated_lists_iff (s : AnnouncementStores) :
    (s.invalidateCriticalCache.AllDue ↔ s.Addressed)
      ∧ (s.Addressed → ListsFresh s.invalidateCriticalCache) :=
  due_iff_of_invalidated (s := s.invalidateCriticalCache) (held_invalidate s)

/-! ## Updates -/

section Update
variable {id : String} {body : UpdateAnnouncement}

/-- The state after the statement of an update. -/
def updatedStores (s : AnnouncementStores) (id : String) (body : UpdateAnnouncement) :
    AnnouncementStores := { s with announcements := s.updated id body }

theorem pendingFor_apply (hkeeps : body.invalidates = false) (acks : List (String × String))
    (userId : String) (now : Time) (a : Announcement) :
    pendingFor acks userId (body.apply now a) = pendingFor acks userId a := by
  simp only [UpdateAnnouncement.invalidates, Bool.or_eq_false_iff, Option.isSome_eq_false_iff,
    Option.isNone_iff_eq_none] at hkeeps
  simp [pendingFor, UpdateAnnouncement.apply, hkeeps]

theorem update_lists_iff (id : String) (hfresh : ListsFresh s) (hkeeps : body.invalidates = false) :
    ((s.updatedStores id body).AllDue
        ↔ (s.updatedStores id body).Addressed ∧ ∀ a ∈ s.announcements.find? id,
          ∀ user ∈ s.users.rows, (s.held user.id).isSome = true → s.Foremost user.id a →
            (body.apply s.now a).pending = a.pending)
      ∧ ((s.updatedStores id body).AllDue → ListsFresh (s.updatedStores id body)) := by
  -- an announcement is still shown if it is another one, or if the update does not change it
  have hshown : ∀ a ∈ s.announcements.rows,
      (∃ b ∈ (s.updatedStores id body).announcements.rows, b.pending = a.pending)
        ↔ (a.id = id → (body.apply s.now a).pending = a.pending) := by
    intro a ha
    simp only [updatedStores, updated, Keyed.exists_updateWhere, decide_eq_true_eq]
    constructor
    · rintro ⟨b, hb, hpending⟩ hid
      have hbid : b.id = a.id := by
        have := congrArg PendingAnnouncement.id hpending
        split at this <;> exact this
      rw [Keyed.eq_of_key hb ha hbid, if_pos hid] at hpending
      exact hpending
    intro h
    refine ⟨a, ha, ?_⟩
    split
    · rename_i hid
      exact h hid
    · rfl
  obtain ⟨hiff, hnext⟩ := due_iff_of_kept (s.updatedStores id body) hfresh rfl
    (fun _ => rfl) (by
      intro user _ hkept
      have hnewest : (s.updated id body).newest 10 (pendingFor s.acks user.id)
          = (s.announcements.newest 10 (pendingFor s.acks user.id)).map
            fun a => if a.id = id then body.apply s.now a else a := by
        rw [updated, Keyed.newest_updateWhere fun a _ _ => pendingFor_apply hkeeps _ _ _ a]
        simp
      unfold loadPending updatedStores
      rw [hnewest, List.map_map]
      refine List.map_congr_left fun a ha => ?_
      obtain ⟨hrow, hforemost⟩ := (mem_newest_pending (s := s)).1 ha
      rw [Function.comp_apply]
      split
      · rename_i hid
        exact (hshown a hrow).1 (hkept a hrow hforemost) hid
      · rfl)
  refine ⟨hiff.trans (and_congr_right fun _ => ?_), hnext⟩
  constructor
  · intro h a ha user huser hheld hforemost
    obtain ⟨hrow, hid⟩ := Keyed.find?_eq_some.1 ha
    exact (hshown a hrow).1 (h user huser hheld a hrow hforemost) hid
  intro h user huser hheld a ha hforemost
  refine (hshown a ha).2 fun hid => ?_
  exact h a (Keyed.find?_eq_some.2 ⟨ha, hid⟩) user huser hheld hforemost

/-- An update notifies as it should exactly when it publishes for nobody. -/
theorem update_notified_iff (s' : AnnouncementStores) (body : UpdateAnnouncement)
    (ha : s.announcements.find? id = some a)
    (hrows : s'.announcements = s.updated id body) (hnotices : s'.notices = s.notices) :
    Notified s s'
      ↔ (a.isPublished = false → (body.apply s.now a).isPublished = true →
        s.targets (body.apply s.now a).audience = []) := by
  have hafter : s'.announcements.find? id = some (body.apply s.now a) := by
    rw [hrows, updated, Keyed.find?_updateWhere, ha]
    simp [(Keyed.find?_eq_some.1 ha).2]
  have hother : ∀ k, k ≠ id → s'.announcements.find? k = s.announcements.find? k := by
    intro k hk
    rw [hrows, updated, Keyed.find?_updateWhere]
    cases hfind : s.announcements.find? k with
    | none => rfl
    | some b =>
      have hb : b.id ≠ id := (Keyed.find?_eq_some.1 hfind).2 ▸ hk
      simp [hb]
  constructor
  · intro h hbefore hnow
    by_contra hsome
    obtain ⟨user, huser⟩ := List.exists_mem_of_ne_nil _ hsome
    obtain ⟨hrow, htarget⟩ := List.mem_filter.1 huser
    have hcount := h id user hrow
    have hinforms : s.Informs s' id user = true := by
      rw [Bool.and_eq_true] at htarget
      simp [Informs, hafter, ha, hbefore, hnow, htarget.1, htarget.2]
    rw [hinforms, noticesOf, noticesOf, hnotices] at hcount
    simp at hcount
  intro h k user huser
  have hinforms : s.Informs s' k user = false := by
    by_cases hk : k = id
    · subst hk
      by_contra hinforms
      simp only [Informs, hafter, ha, Option.any_some, Bool.not_eq_false, Bool.and_eq_true,
        Bool.not_eq_true'] at hinforms
      obtain ⟨⟨hactive, hnow, hincludes⟩, hbefore⟩ := hinforms
      have htarget : user ∈ s.targets (body.apply s.now a).audience :=
        List.mem_filter.2 ⟨huser, by rw [hactive, hincludes]; rfl⟩
      rw [h hbefore hnow] at htarget
      cases htarget
    rw [Informs, hother k hk]
    cases hfind : s.announcements.find? k with
    | none => simp
    | some b => cases hpub : b.isPublished <;> simp [hpub]
  rw [hinforms, noticesOf, noticesOf, hnotices]
  simp

end Update

/-! ## Creation -/

section Create
variable {id creator : String} {body : CreateAnnouncement} {worker : Bool}
  {delivers : String → Bool} {t : Keyed Announcement.id} {targets : List SchoolUser}

theorem reached_sublist : (reached worker delivers targets).Sublist targets := by
  unfold reached
  cases worker with
  | true => exact List.filter_sublist.trans (List.take_sublist 200 targets)
  | false => exact (List.takeWhile_sublist _).trans (List.take_sublist 200 targets)

/-- Every target is reached when they are not too many, and nothing fails. -/
theorem reached_all_iff (worker : Bool) (delivers : String → Bool) (hnodup : targets.Nodup) :
    (∀ user ∈ targets, user ∈ reached worker delivers targets)
      ↔ targets.length ≤ 200 ∧ ∀ user ∈ targets, delivers user.id = true := by
  constructor
  · intro h
    have hlength : targets.length ≤ (reached worker delivers targets).length :=
      (List.subperm_of_subset hnodup h).length_le
    have hcap : (reached worker delivers targets).length ≤ 200 := by
      have htake : (targets.take 200).length ≤ 200 := List.length_take_le 200 targets
      unfold reached
      cases worker with
      | true => exact (List.length_filter_le _ _).trans htake
      | false => exact (List.takeWhile_sublist _).length_le.trans htake
    refine ⟨hlength.trans hcap, fun user huser => ?_⟩
    have hreached := h user huser
    unfold reached at hreached
    cases worker with
    | true => exact (List.mem_filter.1 hreached).2
    | false =>
      have hdelivers := List.mem_takeWhile_imp hreached
      exact hdelivers
  rintro ⟨hlength, hdelivers⟩ user huser
  unfold reached
  rw [List.take_of_length_le hlength]
  cases worker with
  | true => exact List.mem_filter.2 ⟨huser, hdelivers user huser⟩
  | false =>
    rw [if_neg Bool.false_ne_true, List.takeWhile_eq_self_iff.2 hdelivers]
    exact huser

/-- A user is notified once, if it is reached. -/
theorem count_notifyAudience (huser : user ∈ s.users.rows) (audience : Audience)
    (title k : String) :
    (s.notifyAudience worker delivers audience title id).countP
        (fun n => n.announcementId = k && n.userId = user.id)
      = if k = id ∧ user ∈ reached worker delivers (s.targets audience) then 1 else 0 := by
  have hsublist : (reached worker delivers (s.targets audience)).Sublist s.users.rows :=
    reached_sublist.trans List.filter_sublist
  rw [notifyAudience, List.countP_map]
  by_cases hk : k = id
  · subst hk
    have hids : ((reached worker delivers (s.targets audience)).map SchoolUser.id).Nodup :=
      s.users.nodup.sublist (hsublist.map _)
    have hmem : user.id ∈ (reached worker delivers (s.targets audience)).map SchoolUser.id
        ↔ user ∈ reached worker delivers (s.targets audience) := by
      refine ⟨fun h => ?_, fun h => List.mem_map.2 ⟨user, h, rfl⟩⟩
      obtain ⟨other, hother, hid⟩ := List.mem_map.1 h
      rwa [← Keyed.eq_of_key (hsublist.subset hother) huser hid]
    have hcountP : (reached worker delivers (s.targets audience)).countP
          ((fun n : AnnouncementNotice => n.announcementId = k && n.userId = user.id)
            ∘ notice k title)
        = ((reached worker delivers (s.targets audience)).map SchoolUser.id).count user.id := by
      rw [List.count, List.countP_map]
      refine List.countP_congr fun other _ => ?_
      simp only [Function.comp_apply, notice, decide_true, Bool.true_and, beq_iff_eq]
      exact decide_eq_true_iff
    rw [hcountP]
    by_cases hreached : user ∈ reached worker delivers (s.targets audience)
    · rw [if_pos ⟨rfl, hreached⟩]
      exact List.count_eq_one_of_mem hids (hmem.2 hreached)
    rw [if_neg fun h => hreached h.2]
    exact List.count_eq_zero_of_not_mem fun h => hreached (hmem.1 h)
  have hk' : id ≠ k := fun h => hk h.symm
  simp [Function.comp_def, notice, hk, hk']

/-- What a create writes, if its id is new. -/
theorem create_eq (ht : s.announcements.push? (body.row id creator s.now) = some t) :
    s.create id creator body worker delivers
      = if body.critical then
          invalidateCriticalCache
            { s with
              announcements := t
              notices := s.notices ++
                if body.published then
                  s.notifyAudience worker delivers (body.audience.getD .all) body.title id
                else [] }
        else
          { s with
            announcements := t
            notices := s.notices ++
              if body.published then
                s.notifyAudience worker delivers (body.audience.getD .all) body.title id
              else [] } := by
  unfold create
  rw [ht]

theorem create_notified_iff
    (ht : s.announcements.push? (body.row id creator s.now) = some t) :
    Notified s (s.create id creator body worker delivers)
      ↔ (body.published = true → (s.targets (body.audience.getD .all)).length ≤ 200
        ∧ ∀ user ∈ s.targets (body.audience.getD .all), delivers user.id = true) := by
  have hrows : (s.create id creator body worker delivers).announcements = t := by
    rw [create_eq ht]
    split <;> rfl
  have hnotices : (s.create id creator body worker delivers).notices = s.notices ++
      if body.published then
        s.notifyAudience worker delivers (body.audience.getD .all) body.title id
      else [] := by
    rw [create_eq ht]
    split <;> rfl
  have hnew : s.announcements.find? id = none :=
    Keyed.find?_eq_none.2 fun a ha => (Keyed.push?_eq_some ht).1 a ha
  have hinforms : ∀ k, ∀ user ∈ s.users.rows,
      s.Informs (s.create id creator body worker delivers) k user = true
        ↔ k = id ∧ body.published = true ∧ user ∈ s.targets (body.audience.getD .all) := by
    intro k user huser
    have htarget : user ∈ s.targets (body.audience.getD .all)
        ↔ (user.isActive && (body.audience.getD .all).includes user) = true := by
      simp [targets, List.mem_filter, huser]
    rw [Informs, hrows, Keyed.find?_push? ht, htarget]
    by_cases hk : k = id
    · subst hk
      have hrow : (body.row k creator s.now).id = k := rfl
      rw [if_pos hrow, hnew]
      simp [CreateAnnouncement.row]
      tauto
    have hk' : (body.row id creator s.now).id ≠ k := fun h => hk h.symm
    rw [if_neg hk']
    cases hfind : s.announcements.find? k with
    | none => simp [hk]
    | some a => cases hpub : a.isPublished <;> simp [hpub, hk]
  have hnodup : (s.targets (body.audience.getD .all)).Nodup :=
    List.Nodup.of_map SchoolUser.id (s.users.nodup.sublist (List.filter_sublist.map _))
  cases hpublished : body.published with
  | false =>
    refine iff_of_true (fun k user huser => ?_) nofun
    have hno : s.Informs (s.create id creator body worker delivers) k user = false := by
      rw [← Bool.not_eq_true, hinforms k user huser, hpublished]
      simp
    rw [hno, noticesOf, noticesOf, hnotices, hpublished]
    simp
  | true =>
    have hcount : ∀ k, ∀ user ∈ s.users.rows,
        (s.create id creator body worker delivers).noticesOf k user.id
          = s.noticesOf k user.id + if k = id
            ∧ user ∈ reached worker delivers (s.targets (body.audience.getD .all))
            then 1 else 0 := by
      intro k user huser
      rw [noticesOf, hnotices, hpublished, if_pos rfl, List.countP_append,
        count_notifyAudience huser]
      rfl
    rw [forall_prop_of_true rfl, ← reached_all_iff worker delivers hnodup]
    constructor
    · intro h user huser
      have hrow : user ∈ s.users.rows := (List.mem_filter.1 huser).1
      have hone := h id user hrow
      rw [hcount id user hrow, (hinforms id user hrow).2 ⟨rfl, hpublished, huser⟩] at hone
      by_contra hmissed
      simp [hmissed] at hone
    intro h k user huser
    rw [hcount k user huser]
    congr 1
    by_cases hboth : k = id ∧ user ∈ s.targets (body.audience.getD .all)
    · rw [if_pos ⟨hboth.1, h user hboth.2⟩,
        (hinforms k user huser).2 ⟨hboth.1, hpublished, hboth.2⟩]
      rfl
    rw [if_neg fun hr => hboth ⟨hr.1, reached_sublist.subset hr.2⟩]
    have hno : s.Informs (s.create id creator body worker delivers) k user = false := by
      rw [← Bool.not_eq_true, hinforms k user huser]
      exact fun hi => hboth ⟨hi.1, hi.2.2⟩
    rw [hno]
    rfl

/-- A new announcement comes in front of the users that have not acknowledged it. -/
theorem addressed_push_iff (h : s.Addressed)
    (ht : s.announcements.push? (body.row id creator s.now) = some t)
    (notices : List AnnouncementNotice) :
    AnnouncementStores.Addressed { s with announcements := t, notices }
      ↔ (body.critical = true → body.published = true → ∀ user ∈ s.users.rows,
        (id, user.id) ∉ s.acks → (body.audience.getD .all).includes user = true) := by
  obtain ⟨hother, hrows⟩ := Keyed.push?_eq_some ht
  have hpending : ∀ userId, pendingFor s.acks userId (body.row id creator s.now) = true
      ↔ body.critical = true ∧ body.published = true ∧ (id, userId) ∉ s.acks := by
    intro userId
    simp [pendingFor, CreateAnnouncement.row, and_assoc]
  constructor
  · intro haddressed hcritical hpublished user huser hack
    have hforemost : Foremost { s with announcements := t, notices } user.id
        (body.row id creator s.now) := by
      refine ⟨(hpending user.id).2 ⟨hcritical, hpublished, hack⟩, ?_⟩
      have hnewer := Keyed.newer_push?_self ht
      simp [hnewer]
    have hmem : body.row id creator s.now ∈ t.rows := by
      rw [hrows]
      exact List.mem_cons_self
    exact haddressed user huser _ hmem hforemost
  intro hnew user huser a ha hforemost
  have ha' : a ∈ t.rows := ha
  rw [hrows] at ha'
  rcases List.mem_cons.1 ha' with rfl | hold
  · obtain ⟨hcritical, hpublished, hack⟩ := (hpending user.id).1 hforemost.1
    exact hnew hcritical hpublished user huser hack
  -- an older announcement has moved back, if at all
  refine h user huser a hold ⟨hforemost.1, ?_⟩
  have hfew := hforemost.2
  have hkey : (body.row id creator s.now).id ≠ a.id := fun heq => hother a hold heq.symm
  simp only [Keyed.newer_push? ht hkey, List.countP_cons] at hfew
  omega

theorem create_lists_iff (worker : Bool) (delivers : String → Bool) (hfresh : ListsFresh s)
    (ht : s.announcements.push? (body.row id creator s.now) = some t) :
    ((s.create id creator body worker delivers).AllDue
        ↔ (body.critical = true → body.published = true → ∀ user ∈ s.users.rows,
          (id, user.id) ∉ s.acks → (body.audience.getD .all).includes user = true))
      ∧ ((s.create id creator body worker delivers).AllDue →
        ListsFresh (s.create id creator body worker delivers)) := by
  rw [create_eq ht, ← addressed_push_iff hfresh.addressed ht]
  split
  · obtain ⟨hiff, hnext⟩ := invalidated_lists_iff { s with announcements := t, notices := _ }
    exact ⟨hiff, fun h => hnext (hiff.1 h)⟩
  rename_i hcritical
  obtain ⟨-, hrows⟩ := Keyed.push?_eq_some ht
  have hkept : ∀ a ∈ s.announcements.rows, ∃ b ∈ t.rows, b.pending = a.pending := by
    intro a ha
    exact ⟨a, by rw [hrows]; exact List.mem_cons_of_mem _ ha, rfl⟩
  have hrow : ∀ userId, pendingFor s.acks userId (body.row id creator s.now) = false := by
    intro userId
    simp [pendingFor, CreateAnnouncement.row, hcritical]
  obtain ⟨hiff, hnext⟩ := due_iff_of_kept (s := s)
    { s with announcements := t, notices := _ } hfresh rfl (fun _ => rfl) (by
      intro user _ _
      unfold loadPending
      rw [Keyed.newest_push? ht, hrow, if_neg Bool.false_ne_true])
  refine ⟨hiff.trans ?_, hnext⟩
  exact and_iff_left fun user _ _ a ha _ => hkept a ha

end Create

end AnnouncementStores
end MultiAcademy.School
