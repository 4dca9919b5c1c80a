import MultiAcademy.School.AnnouncementReach

/-!
# Runs of the announcements

Every step keeps the order of the announcements and the books of the cache; it keeps the law
exactly when it meets the condition.
-/

namespace MultiAcademy.School

open MultiAcademy.Lib AnnouncementStores

variable {s s' : AnnouncementStores}

/-- What the state of a run keeps besides the law. -/
structure AnnouncementsKept (s : AnnouncementStores) : Prop where
  newest : NewestFirst s
  tracked : LoadsTracked s
  fresh : s.AllDue → ListsFresh s

theorem newestFirst_congr (h : NewestFirst s) (hrows : s'.announcements = s.announcements)
    (hnow : s.now ≤ s'.now) : NewestFirst s' := by
  refine ⟨hrows ▸ h.sorted, fun a ha => ?_⟩
  rw [hrows] at ha
  exact (h.past a ha).trans hnow

/-! ## Steps that write no announcement -/

/-- The step writes no announcement; what it leaves held was held, or is read now. -/
structure OnlyReads (s s' : AnnouncementStores) : Prop where
  users : s'.users = s.users
  rows : s'.announcements = s.announcements
  acks : s'.acks = s.acks
  notices : s'.notices = s.notices
  now : s.now ≤ s'.now
  tracked : LoadsTracked s'
  held : ∀ userId list, s'.held userId = some list →
    s.held userId = some list ∨ list = s.loadPending userId

theorem OnlyReads.refl (h : LoadsTracked s) : OnlyReads s s :=
  ⟨rfl, rfl, rfl, rfl, le_rfl, h, fun _ _ hlist => Or.inl hlist⟩

theorem OnlyReads.law (h : OnlyReads s s') (hkept : AnnouncementsKept s) (hdue : s.AllDue) :
    AnnouncementsKept s' ∧ s'.AllDue ∧ Notified s s' := by
  have hfresh : ListsFresh s' :=
    (hkept.fresh hdue).of_read h.users h.rows h.acks h.held
  refine ⟨⟨newestFirst_congr hkept.newest h.rows h.now, h.tracked, fun _ => hfresh⟩,
    fun user huser => hfresh.due huser, notified_of_none h.notices fun k a ha hpub => ?_⟩
  rw [h.rows] at ha
  exact ⟨a, ha, hpub⟩

/-- A call, a part of a load, or time that passes. -/
def AnnouncementEvent.reads : AnnouncementEvent → Bool
  | .pendingCritical _ | .query _ _ | .answer _ | .fail _ | .pass _ => true
  | _ => false

theorem runQuery_reads (h : LoadsTracked s) (userId : String) (load : ℕ) :
    OnlyReads s (s.runQuery userId load) := by
  obtain ⟨read, hread⟩ : ∃ read, s.runQuery userId load = { s with read } := by
    unfold runQuery
    split
    · split
      · exact ⟨_, rfl⟩
      · exact ⟨s.read, rfl⟩
    · exact ⟨s.read, rfl⟩
  have htracked := runQuery_tracked h userId load
  have hheld : ∀ userId' list, (s.runQuery userId load).held userId' = some list →
      s.held userId' = some list ∨ list = s.loadPending userId' :=
    fun _ _ => held_query h userId load
  rw [hread] at htracked hheld ⊢
  exact ⟨rfl, rfl, rfl, rfl, le_rfl, htracked, hheld⟩

theorem pass_reads (h : LoadsTracked s) (elapsed : ℕ) :
    OnlyReads s { s with now := s.now + elapsed } := by
  have htracked : LoadsTracked { s with now := s.now + elapsed } :=
    ⟨h.slots, h.unread, h.stored⟩
  have hnow : s.now ≤ s.now + elapsed := by simp
  refine ⟨rfl, rfl, rfl, rfl, hnow, htracked, fun userId list hlist => ?_⟩
  rw [held_eq_some htracked] at hlist
  left
  rw [held_eq_some h]
  rcases hlist with ⟨entry, hentry, hlive, hvalue⟩ | hread
  · exact Or.inl ⟨entry, hentry, hnow.trans_lt hlive, hvalue⟩
  · exact Or.inr hread

theorem onlyReads_step (h : LoadsTracked s) (listTtl : Time) {e : AnnouncementEvent}
    (he : e.reads = true) : OnlyReads s (announcementStep listTtl e s) := by
  cases e with
  | pendingCritical userId =>
    exact ⟨rfl, rfl, rfl, rfl, le_rfl, callPendingCritical_tracked h listTtl userId,
      fun _ _ hlist => Or.inl (held_call h listTtl userId hlist)⟩
  | query userId load => exact runQuery_reads h userId load
  | answer load =>
    simp only [announcementStep]
    rcases answerLoad_cases s load with hsame | ⟨l, list, hpending, hread, hend⟩
    · rw [hsame]
      exact .refl h
    have hresult : ∀ list', some list = some list' → s.read load = some list' := by
      rintro _ ⟨rfl⟩
      exact hread
    rw [hend]
    exact ⟨rfl, rfl, rfl, rfl, le_rfl, endQuery_tracked h hpending hresult,
      fun _ _ hlist => Or.inl (held_end h hpending hresult hlist)⟩
  | fail load =>
    simp only [announcementStep]
    rcases failLoad_cases s load with hsame | ⟨l, hpending, hend⟩
    · rw [hsame]
      exact .refl h
    have hresult : ∀ list, none = some list → s.read load = some list := by
      intro list hnone
      cases hnone
    rw [hend]
    exact ⟨rfl, rfl, rfl, rfl, le_rfl, endQuery_tracked h hpending hresult,
      fun _ _ hlist => Or.inl (held_end h hpending hresult hlist)⟩
  | pass elapsed => exact pass_reads h elapsed
  | create id userId body worker delivers => cases he
  | update id body => cases he
  | remove id => cases he
  | acknowledge userId announcementId => cases he

/-! ## Requests -/

theorem create_law (hkept : AnnouncementsKept s) (hdue : s.AllDue) (id userId : String)
    (body : CreateAnnouncement) (worker : Bool) (delivers : String → Bool) :
    AnnouncementsKept (s.create id userId body worker delivers)
      ∧ ((s.create id userId body worker delivers).AllDue
          ∧ Notified s (s.create id userId body worker delivers)
        ↔ KeepsReach s (.create id userId body worker delivers)) := by
  cases ht : s.announcements.push? (body.row id userId s.now) with
  | none =>
    have hsame : s.create id userId body worker delivers = s := by
      unfold create
      rw [ht]
    obtain ⟨a, ha, hid⟩ := Keyed.push?_eq_none ht
    rw [hsame]
    refine ⟨hkept, iff_of_true (OnlyReads.refl hkept.tracked |>.law hkept hdue).2 fun hnew => ?_⟩
    exact absurd hid (Keyed.find?_eq_none.1 hnew a ha)
  | some t =>
    obtain ⟨hnew, hpush⟩ := Keyed.push?_eq_some ht
    obtain ⟨hlists, hfresh⟩ := create_lists_iff worker delivers
      (hkept.fresh hdue) ht
    have hstored : (s.create id userId body worker delivers).announcements = t
        ∧ (s.create id userId body worker delivers).now = s.now
        ∧ LoadsTracked (s.create id userId body worker delivers) := by
      rw [create_eq ht]
      split
      · exact ⟨rfl, rfl, invalidate_tracked
          ⟨hkept.tracked.slots, hkept.tracked.unread, hkept.tracked.stored⟩⟩
      · exact ⟨rfl, rfl, hkept.tracked.slots, hkept.tracked.unread, hkept.tracked.stored⟩
    obtain ⟨hrows, hnow, htracked⟩ := hstored
    refine ⟨⟨⟨?_, fun a ha => ?_⟩, htracked, hfresh⟩, ?_⟩
    · rw [hrows, hpush, List.pairwise_cons]
      exact ⟨fun a ha => hkept.newest.past a ha, hkept.newest.sorted⟩
    · rw [hrows, hpush] at ha
      rw [hnow]
      rcases List.mem_cons.1 ha with rfl | hold
      · exact le_rfl
      · exact hkept.newest.past a hold
    have hfind : s.announcements.find? id = none := Keyed.find?_eq_none.2 hnew
    rw [hlists, create_notified_iff ht, KeepsReach, forall_prop_of_true hfind]

/-- An update leaves the announcements in their order. -/
theorem updated_newestFirst {id : String} {body : UpdateAnnouncement} (h : NewestFirst s) :
    NewestFirst (s.updatedStores id body) := by
  have hcreated : ∀ a : Announcement,
      (if a.id = id then body.apply s.now a else a).createdAt = a.createdAt := by
    intro a
    split <;> rfl
  refine ⟨?_, fun a ha => ?_⟩
  · simpa [updatedStores, updated, Keyed.updateWhere, List.pairwise_map, hcreated] using h.sorted
  simp only [updatedStores, updated, Keyed.mem_updateWhere, decide_eq_true_eq] at ha ⊢
  obtain ⟨old, hold, rfl⟩ := ha
  rw [hcreated]
  exact h.past old hold

/-- An update either writes nothing, or the row that it found. -/
theorem updateAnnouncement_cases (id : String) (body : UpdateAnnouncement)
    (s : AnnouncementStores) :
    ((s.update id body).1 = s
        ∧ ∀ a ∈ s.announcements.find? id, ¬ (body.isEmpty = false ∧ body.setsNull = false))
      ∨ ∃ a, s.announcements.find? id = some a ∧ body.isEmpty = false ∧ body.setsNull = false
        ∧ (s.update id body).1
          = if body.invalidates then (s.updatedStores id body).invalidateCriticalCache
            else s.updatedStores id body := by
  unfold AnnouncementStores.update
  cases hfind : s.announcements.find? id with
  | none => exact Or.inl ⟨rfl, nofun⟩
  | some a =>
    simp only
    split
    · rename_i hempty
      exact Or.inl ⟨rfl, fun _ _ h => by simp [hempty] at h⟩
    rename_i hempty
    split
    · rename_i hnull
      exact Or.inl ⟨rfl, fun _ _ h => by simp [hnull] at h⟩
    rename_i hnull
    exact Or.inr ⟨a, rfl, by simpa using hempty, by simpa using hnull, rfl⟩

theorem update_law (hkept : AnnouncementsKept s) (hdue : s.AllDue) (id : String)
    (body : UpdateAnnouncement) :
    AnnouncementsKept (s.update id body).1
      ∧ ((s.update id body).1.AllDue ∧ Notified s (s.update id body).1
        ↔ KeepsReach s (.update id body)) := by
  rcases updateAnnouncement_cases id body s with ⟨hsame, hrefused⟩ | ⟨a, ha, hset, hnull, hwritten⟩
  · rw [hsame]
    refine ⟨hkept, iff_of_true (OnlyReads.refl hkept.tracked |>.law hkept hdue).2 ?_⟩
    exact fun a ha hset hnull => absurd ⟨hset, hnull⟩ (hrefused a ha)
  have hkeeps : KeepsReach s (.update id body)
      ↔ (s.updatedStores id body).Addressed
        ∧ (body.invalidates = false → ∀ user ∈ s.users.rows,
          (s.held user.id).isSome = true → s.Foremost user.id a →
            (body.apply s.now a).pending = a.pending)
        ∧ (a.isPublished = false → (body.apply s.now a).isPublished = true →
          s.targets (body.apply s.now a).audience = []) := by
    simp [KeepsReach, ha, hset, hnull, updatedStores]
  have hnewest : NewestFirst (s.updatedStores id body) := updated_newestFirst hkept.newest
  have htracked : LoadsTracked (s.updatedStores id body) :=
    ⟨hkept.tracked.slots, hkept.tracked.unread, hkept.tracked.stored⟩
  rw [hwritten, hkeeps]
  cases hinvalidates : body.invalidates with
  | true =>
    rw [if_pos rfl]
    obtain ⟨hlists, hfresh⟩ := invalidated_lists_iff (s.updatedStores id body)
    refine ⟨⟨newestFirst_congr hnewest rfl le_rfl, invalidate_tracked htracked,
      fun h => hfresh (hlists.1 h)⟩, ?_⟩
    have hnotified := update_notified_iff (s.updatedStores id body).invalidateCriticalCache
      body ha rfl rfl
    rw [hlists, hnotified]
    simp
  | false =>
    rw [if_neg Bool.false_ne_true]
    obtain ⟨hlists, hfresh⟩ := update_lists_iff id (hkept.fresh hdue) hinvalidates
    refine ⟨⟨hnewest, htracked, hfresh⟩, ?_⟩
    have hnotified := update_notified_iff (s.updatedStores id body) body ha rfl rfl
    rw [hlists, hnotified]
    simp [ha, and_assoc]

theorem remove_law (hkept : AnnouncementsKept s) (hdue : s.AllDue) (id : String) :
    AnnouncementsKept (s.remove id)
      ∧ ((s.remove id).AllDue ∧ Notified s (s.remove id) ↔ KeepsReach s (.remove id)) := by
  obtain ⟨hlists, hfresh⟩ := remove_lists_iff (hkept.fresh hdue) id
  refine ⟨⟨⟨hkept.newest.sorted.sublist List.filter_sublist, fun a ha => ?_⟩,
    ⟨hkept.tracked.slots, hkept.tracked.unread, hkept.tracked.stored⟩, hfresh⟩, ?_⟩
  · exact hkept.newest.past a (Keyed.mem_deleteWhere.1 ha).1
  · rw [hlists, and_iff_left (remove_notified s id), KeepsReach]

theorem acknowledge_law (hkept : AnnouncementsKept s) (userId announcementId : String) :
    AnnouncementsKept (s.acknowledge userId announcementId)
      ∧ ((s.acknowledge userId announcementId).AllDue
          ∧ Notified s (s.acknowledge userId announcementId)
        ↔ KeepsReach s (.acknowledge userId announcementId)) := by
  obtain ⟨hlists, hfresh⟩ := invalidated_lists_iff
    { s with acks := s.acks.insert (announcementId, userId) }
  have hnotified : Notified s (s.acknowledge userId announcementId) :=
    notified_of_none rfl fun k a ha hpub => ⟨a, ha, hpub⟩
  refine ⟨⟨newestFirst_congr hkept.newest rfl le_rfl, invalidate_tracked
    ⟨hkept.tracked.slots, hkept.tracked.unread, hkept.tracked.stored⟩,
    fun h => hfresh (hlists.1 h)⟩, ?_⟩
  rw [and_iff_left hnotified, KeepsReach]
  exact hlists

/-- **A step keeps the law exactly when it meets the condition.** -/
theorem announcements_step_iff (hkept : AnnouncementsKept s) (hdue : s.AllDue) (listTtl : Time)
    (e : AnnouncementEvent) :
    AnnouncementsKept (announcementStep listTtl e s)
      ∧ ((announcementStep listTtl e s).AllDue ∧ Notified s (announcementStep listTtl e s)
        ↔ KeepsReach s e) := by
  have hreads : e.reads = true → KeepsReach s e →
      AnnouncementsKept (announcementStep listTtl e s)
        ∧ ((announcementStep listTtl e s).AllDue ∧ Notified s (announcementStep listTtl e s)
          ↔ KeepsReach s e) := by
    intro he hkeeps
    obtain ⟨hkept', hlaw⟩ := (onlyReads_step hkept.tracked listTtl he).law hkept hdue
    exact ⟨hkept', iff_of_true hlaw hkeeps⟩
  cases e with
  | create id userId body worker delivers => exact create_law hkept hdue _ _ _ _ _
  | update id body => exact update_law hkept hdue id body
  | remove id => exact remove_law hkept hdue id
  | acknowledge userId announcementId => exact acknowledge_law hkept userId announcementId
  | pendingCritical userId => exact hreads rfl trivial
  | query userId load => exact hreads rfl trivial
  | answer load => exact hreads rfl trivial
  | fail load => exact hreads rfl trivial
  | pass elapsed => exact hreads rfl trivial

/-! ## Runs -/

/-- A school before its first announcement. -/
def announcementStart (tenantId : String) (now : Time) (users : Keyed SchoolUser.id) :
    AnnouncementStores := { tenantId, now, users }

theorem announcementStart_kept (tenantId : String) (now : Time) (users : Keyed SchoolUser.id) :
    AnnouncementsKept (announcementStart tenantId now users)
      ∧ (announcementStart tenantId now users).AllDue := by
  have hfresh : ListsFresh (announcementStart tenantId now users) :=
    ⟨fun user _ a ha => (by cases ha), fun user _ list hlist => (by cases hlist)⟩
  refine ⟨⟨⟨List.Pairwise.nil, fun a ha => (by cases ha)⟩, ⟨slotsPending_empty, fun _ _ => rfl,
    fun key entry hentry => (by cases hentry)⟩, fun _ => hfresh⟩,
    fun user huser => hfresh.due huser⟩

/-- **Announcements reach their audience exactly as long as each step meets the condition.**
Along every run of requests, calls, loads and time: every user is given the newest ten of the
critical announcements that are published, addressed to the user and not acknowledged, as they
are now, and every step notifies the active users of an announcement that it publishes once and
no one else, if and only if each step meets the condition. -/
theorem announcements_reach_iff (listTtl : Time) (tenantId : String) (now : Time)
    (users : Keyed SchoolUser.id) (es : List AnnouncementEvent) :
    (∀ pre, pre <+: es →
        ListsDue (run (announcementStep listTtl) (announcementStart tenantId now users) pre))
        ∧ Along (announcementStep listTtl) (fun s e => Notified s (announcementStep listTtl e s))
          (announcementStart tenantId now users) es
      ↔ Along (announcementStep listTtl) KeepsReach (announcementStart tenantId now users) es := by
  obtain ⟨hkept, hdue⟩ := announcementStart_kept tenantId now users
  refine along_iff_throughout_and (J := AnnouncementsKept) (fun s e hlists hkept => ?_)
    (fun s e hlists hkept => ?_) ⟨hkept.newest, hdue⟩ hkept
  · exact (announcements_step_iff hkept hlists.due listTtl e).1
  obtain ⟨hkept', hiff⟩ := announcements_step_iff hkept hlists.due listTtl e
  rw [← hiff]
  exact and_congr_left fun _ => ⟨fun h => h.due, fun h => ⟨hkept'.newest, h⟩⟩

namespace Example

/-- A student of the school. -/
def pupil : Keyed SchoolUser.id := ⟨[{ id := "usr_1", roles := some [.student] }], by decide⟩

def takenBack : List AnnouncementEvent :=
  [.create "ann_1" "usr_0" { title := "Closed", body := "No lessons.", isCritical := some true }
      false (fun _ => true),
    .pendingCritical "usr_1", .query "usr_1" 0, .answer 0, .remove "ann_1"]

end Example

/-- The student is still given the announcement that was taken back. -/
theorem not_announcements_reach :
    ¬ ∀ (listTtl : Time) (tenantId : String) (now : Time) (users : Keyed SchoolUser.id)
        (es : List AnnouncementEvent),
      (∀ pre, pre <+: es →
        ListsDue (run (announcementStep listTtl) (announcementStart tenantId now users) pre))
      ∧ Along (announcementStep listTtl) (fun s e => Notified s (announcementStep listTtl e s))
        (announcementStart tenantId now users) es := by
  intro h
  have hdue := ((h (Time.seconds 45) "tnt" 0 Example.pupil Example.takenBack).1 _
    (List.prefix_refl _)).due
  have hall : ∀ user ∈ Example.pupil.rows,
      (run (announcementStep (Time.seconds 45)) (announcementStart "tnt" 0 Example.pupil)
          Example.takenBack).pendingCritical user.id
        = (run (announcementStep (Time.seconds 45)) (announcementStart "tnt" 0 Example.pupil)
          Example.takenBack).duePending user := hdue
  exact absurd hall (by decide)

end MultiAcademy.School
