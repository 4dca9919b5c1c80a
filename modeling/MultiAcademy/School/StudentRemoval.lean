import MultiAcademy.Lib.Pruning
import MultiAcademy.School.TenantLogins

/-!
# Removing a student

`deleteTenantUser` of `users/users.service.ts` once more, for what the removal of a student
does to everybody else.  Each linked account without an active child has its mappings given up,
and is archived when `"parent"` is among its roles, whatever its other roles are.
-/

namespace MultiAcademy.School

open MultiAcademy.Lib

def TenantUser.onlyParent (row : TenantUser) : Bool :=
  "parent" ∈ row.roles && row.roles.all fun role => role = "parent"

/-- A parent and nothing else, linked to the student, with no child who is active once the
student has left. -/
def dependsOn (id : String) (links : List ParentLink) (users : UserTable) (row : TenantUser) :
    Bool :=
  row.id ∈ parentsOf id links && row.onlyParent
    && !hasActiveChild row.id links (deactivateUser id users)

def LoginStores.activeMappings (tenantId userId : String) (d : LoginStores) :
    List UserTenantMapping :=
  d.mappings.rows.filter fun m => m.tenantId = tenantId && m.userId = userId && m.isActive

/-- The account is archived, and no mapping of it is active. -/
structure AccountClosed (tenantId : String) (row : TenantUser) (after : LoginStores) : Prop where
  archived : row.archived ∈ (after.users tenantId).rows
  unmapped : after.activeMappings tenantId row.id = []

structure AccountKept (tenantId : String) (row : TenantUser) (before after : LoginStores) :
    Prop where
  present : row ∈ (after.users tenantId).rows
  mapped : after.activeMappings tenantId row.id = before.activeMappings tenantId row.id

/-- **The removal of a student removes only what belongs to the student.** -/
structure RemovesOnlyStudent (tenantId id : String) (d after : LoginStores) : Prop where
  /-- The student, and the parents who were there for the student alone. -/
  closed : ∀ row ∈ (d.users tenantId).rows,
    row.id = id ∨ dependsOn id (d.links tenantId) (d.users tenantId) row = true →
      AccountClosed tenantId row after
  kept : ∀ row ∈ (d.users tenantId).rows, row.id ≠ id →
    dependsOn id (d.links tenantId) (d.users tenantId) row = false →
      AccountKept tenantId row d after
  /-- An account with a role of the staff is kept in particular. -/
  staff : ∀ row ∈ (d.users tenantId).rows, row.id ≠ id →
    (∃ role ∈ row.roles, role ≠ "parent" ∧ role ≠ "student") → AccountKept tenantId row d after
  elsewhere : ∀ key, key ≠ tenantId → after.users key = d.users key
  links : after.links = d.links

/-- The account can lose something in the loop: its active flag, with the role of a parent, or
an active mapping. -/
def canLose (tenantId : String) (d : LoginStores) (row : TenantUser) : Bool :=
  (row.isActive && "parent" ∈ row.roles) || d.activeMappings tenantId row.id ≠ []

/-- An account other than the student's that can lose something has this id. -/
def losesBy (tenantId id : String) (d : LoginStores) (parentId : String) : Bool :=
  parentId ≠ id && (d.users tenantId).rows.any fun row =>
    row.id = parentId && canLose tenantId d row

/-- The account of this id depends on the student. -/
def dueWith (tenantId id : String) (d : LoginStores) (parentId : String) : Bool :=
  ((d.users tenantId).find? parentId).any (dependsOn id (d.links tenantId) (d.users tenantId))

/-- A linked account without an active child. -/
def childless (links : List ParentLink) (users : UserTable) (parentId : String) : Bool :=
  !hasActiveChild parentId links users

/-- **Only dependents are found childless**: in the order in which the linked accounts are
looked at, and with the dependents before it archived, an account that can lose something has an
active child unless it is itself a dependent. -/
def OnlyDependentsChildless (tenantId id : String) (d : LoginStores) : Prop :=
  Along (dropDue deactivateParent (dueWith tenantId id d))
    (fun users parentId => losesBy tenantId id d parentId = true →
      childless (d.links tenantId) users parentId = true → dueWith tenantId id d parentId = true)
    (deactivateUser id (d.users tenantId)) (parentsOf id (d.links tenantId))

instance (tenantId id : String) (d : LoginStores) :
    Decidable (OnlyDependentsChildless tenantId id d) :=
  Along.decidable _ _ _ _

section Removal
variable {tenantId id parentId userId : String} {d : LoginStores} {users : UserTable}
  {row : TenantUser} {links : List ParentLink} {ids : List String}

/-! ## The users -/

theorem archived_archived (row : TenantUser) : row.archived.archived = row.archived := rfl

/-- Whoever has no active child has none after somebody was archived. -/
theorem childless_deactivateParent (parent : String) (h : childless links users userId = true) :
    childless links (deactivateParent parent users) userId = true := by
  simp only [childless, Bool.not_eq_true', hasActiveChild, List.any_eq_false, Bool.and_eq_true,
    not_and, Bool.not_eq_true] at h ⊢
  intro link hlink hparent
  have hchild := h link hlink hparent
  rw [deactivateParent, Keyed.find?_updateWhere]
  cases hfind : users.find? link.studentId with
  | none => rfl
  | some child =>
    rw [hfind, Option.any_some] at hchild
    rw [Option.map_some, Option.any_some]
    split
    · rfl
    · exact hchild

/-- A row after some parents were archived. -/
theorem mem_run_deactivateParent (hrow : row ∈ users.rows) :
    (if row.id ∈ ids ∧ "parent" ∈ row.roles then row.archived else row)
      ∈ (run deactivateParent users ids).rows := by
  induction ids generalizing users row with
  | nil => simpa using hrow
  | cons parent ids ih =>
    have hstep : (if row.id = parent ∧ "parent" ∈ row.roles then row.archived else row)
        ∈ (deactivateParent parent users).rows := by
      refine (Keyed.mem_updateWhere _).2 ⟨row, hrow, ?_⟩
      simp
    have hrest := ih hstep
    rw [run_cons]
    by_cases hparent : "parent" ∈ row.roles
    · by_cases hid : row.id = parent
      · simp only [hid, hparent, and_self, if_true, TenantUser.archived_id,
          archived_archived, ite_self, List.mem_cons, true_or] at hrest ⊢
        simpa [TenantUser.archived] using hrest
      · simpa [hid, hparent] using hrest
    · simpa [hparent] using hrest

/-! ## The mappings -/

/-- A user's mappings after those of a user were given up. -/
theorem activeMappings_unmap :
    (d.unmap tenantId parentId).activeMappings tenantId userId
      = if userId = parentId then [] else d.activeMappings tenantId userId := by
  simp only [LoginStores.activeMappings, LoginStores.unmap, Keyed.updateWhere]
  split
  · rename_i hsame
    rw [List.filter_eq_nil_iff]
    intro m hm
    obtain ⟨old, -, rfl⟩ := List.mem_map.1 hm
    by_cases hmine : old.tenantId = tenantId ∧ old.userId = parentId
    · simp [hmine, UserTenantMapping.released]
    simp only [Bool.and_eq_true, decide_eq_true_eq, if_neg hmine, hsame]
    exact fun h => hmine h.1
  rename_i hother
  induction d.mappings.rows with
  | nil => rfl
  | cons m ms ih =>
    rw [List.map_cons, List.filter_cons, List.filter_cons, ih]
    by_cases hgone : m.tenantId = tenantId ∧ m.userId = parentId
    · have hne : parentId ≠ userId := fun h => hother h.symm
      simp [hgone, UserTenantMapping.released, hne]
    · simp [hgone]

/-! ## The loop -/

/-- The loop over the linked accounts, as a pass over the users. -/
structure ParentsArchived (tenantId : String) (parents : List String) (d after : LoginStores) :
    Prop where
  users : after.users tenantId
    = run (prune (childless (d.links tenantId)) deactivateParent) (d.users tenantId) parents
  mapped : ∀ userId, after.activeMappings tenantId userId
    = if userId ∈ pruned (childless (d.links tenantId)) deactivateParent parents (d.users tenantId)
      then [] else d.activeMappings tenantId userId
  elsewhere : ∀ key, key ≠ tenantId → after.users key = d.users key
  links : after.links = d.links

/-- One linked account. -/
theorem parentsArchived_one (tenantId parentId : String) (d : LoginStores) :
    ParentsArchived tenantId [parentId] d (archiveMappedParent tenantId parentId d) := by
  rw [archiveMappedParent]
  by_cases hchild : hasActiveChild parentId (d.links tenantId) (d.users tenantId) = true
  · rw [if_pos hchild]
    refine ⟨?_, ?_, fun _ _ => rfl, rfl⟩ <;> simp [prune, pruned, childless, hchild]
  rw [if_neg hchild]
  refine ⟨?_, ?_, fun key hkey => setUsers_of_ne hkey, rfl⟩
  · simp only [run_cons, run_nil, prune, childless, hchild, Bool.not_false, if_true]
    exact setUsers_self
  intro userId
  rw [activeMappings_unmap]
  simp only [pruned, childless, hchild, Bool.not_false, if_true, List.mem_singleton]
  rfl

/-- The loop archives whom it finds childless, and gives up their mappings. -/
theorem foldl_archiveMappedParent (parents : List String) (d : LoginStores) :
    ParentsArchived tenantId parents d
      (parents.foldl (fun d parentId => archiveMappedParent tenantId parentId d) d) := by
  induction parents generalizing d with
  | nil => exact ⟨rfl, fun _ => by simp [pruned], fun _ _ => rfl, rfl⟩
  | cons parentId parents ih =>
    have hone := parentsArchived_one tenantId parentId d
    have hrest := ih (archiveMappedParent tenantId parentId d)
    rw [List.foldl_cons]
    refine ⟨?_, ?_, ?_, hrest.links.trans hone.links⟩
    · rw [hrest.users, hone.links, hone.users, run_cons, run_cons, run_nil]
    · intro userId
      rw [hrest.mapped, hone.mapped, hone.links, hone.users, run_cons, run_nil]
      by_cases hchildless : childless (d.links tenantId) (d.users tenantId) parentId = true
      · by_cases hid : userId = parentId <;> simp [prune, pruned, hchildless, hid]
      · simp [prune, pruned, hchildless]
    intro key hkey
    rw [hrest.elsewhere key hkey, hone.elsewhere key hkey]

/-! ## The removal -/

/-- The accounts that the loop finds childless. -/
def goneWith (tenantId id : String) (d : LoginStores) : List String :=
  pruned (childless (d.links tenantId)) deactivateParent (parentsOf id (d.links tenantId))
    (deactivateUser id (d.users tenantId))

structure StudentRemoved (tenantId id : String) (d after : LoginStores) : Prop where
  users : after.users tenantId
    = run deactivateParent (deactivateUser id (d.users tenantId)) (goneWith tenantId id d)
  mapped : ∀ userId, after.activeMappings tenantId userId
    = if userId = id ∨ userId ∈ goneWith tenantId id d then []
      else d.activeMappings tenantId userId
  elsewhere : ∀ key, key ≠ tenantId → after.users key = d.users key
  links : after.links = d.links

theorem deleteMappedUser_student {existing : TenantUser}
    (hfind : (d.users tenantId).find? id = some existing) (hstudent : "student" ∈ existing.roles) :
    StudentRemoved tenantId id d (deleteMappedUser tenantId id d).2 := by
  have hloop : ParentsArchived tenantId _ _ _ := foldl_archiveMappedParent
    (parentsOf id (d.links tenantId)) (d.setUsers tenantId (deactivateUser id (d.users tenantId)))
  have husers := hloop.users
  have hmapped := hloop.mapped
  rw [setUsers_self] at husers hmapped
  simp only [deleteMappedUser, hfind, if_pos hstudent]
  refine ⟨husers.trans run_prune, ?_, ?_, hloop.links⟩
  · intro userId
    rw [activeMappings_unmap]
    by_cases hid : userId = id
    · simp [hid]
    simp only [hid, if_false, false_or]
    exact hmapped userId
  intro key hkey
  exact (hloop.elsewhere key hkey).trans (setUsers_of_ne hkey)

/-- The student's account is closed. -/
theorem StudentRemoved.student {after : LoginStores} (h : StudentRemoved tenantId id d after)
    (hrow : row ∈ (d.users tenantId).rows) (hid : row.id = id) :
    AccountClosed tenantId row after := by
  have harchived : row.archived ∈ (deactivateUser id (d.users tenantId)).rows :=
    (Keyed.mem_updateWhere _).2 ⟨row, hrow, by simp [hid]⟩
  have hafter : (if row.id ∈ goneWith tenantId id d ∧ "parent" ∈ row.roles
      then row.archived.archived else row.archived) ∈ _ := mem_run_deactivateParent harchived
  rw [archived_archived, ite_self, ← h.users] at hafter
  refine ⟨hafter, ?_⟩
  rw [h.mapped, if_pos (Or.inl hid)]

theorem StudentRemoved.other {after : LoginStores} (h : StudentRemoved tenantId id d after)
    (hrow : row ∈ (d.users tenantId).rows) (hid : row.id ≠ id) :
    (if row.id ∈ goneWith tenantId id d ∧ "parent" ∈ row.roles then row.archived else row)
      ∈ (after.users tenantId).rows := by
  have hkept : row ∈ (deactivateUser id (d.users tenantId)).rows :=
    (Keyed.mem_updateWhere _).2 ⟨row, hrow, by simp [hid]⟩
  rw [h.users]
  exact mem_run_deactivateParent hkept

/-- An account that the loop finds childless has lost what it could lose. -/
theorem StudentRemoved.kept_iff {after : LoginStores} (h : StudentRemoved tenantId id d after)
    (hrow : row ∈ (d.users tenantId).rows) (hid : row.id ≠ id) :
    AccountKept tenantId row d after
      ↔ (row.id ∈ goneWith tenantId id d → canLose tenantId d row = false) := by
  have hother := h.other hrow hid
  have hmapped := h.mapped row.id
  by_cases hgone : row.id ∈ goneWith tenantId id d
  · rw [if_pos (Or.inr hgone)] at hmapped
    simp only [hgone, true_and, forall_const] at hother ⊢
    constructor
    · rintro ⟨hpresent, hsame⟩
      have hnone : d.activeMappings tenantId row.id = [] := hsame.symm.trans hmapped
      simp only [canLose, hnone, ne_eq, not_true, decide_false, Bool.or_false]
      by_cases hparent : "parent" ∈ row.roles
      · rw [if_pos hparent] at hother
        have heq : row.archived = row := Keyed.eq_of_key hother hpresent rfl
        have hinactive : row.isActive = false := by
          rw [← heq]
          rfl
        simp [hinactive]
      · simp [hparent]
    intro hnothing
    simp only [canLose, Bool.or_eq_false_iff, Bool.and_eq_false_iff, decide_eq_false_iff_not,
      ne_eq, not_not] at hnothing
    refine ⟨?_, hmapped.trans hnothing.2.symm⟩
    split at hother
    · rename_i hparent
      have hinactive : row.isActive = false :=
        hnothing.1.resolve_right fun hnot => hnot hparent
      have hsame : row.archived = row := by
        simp only [TenantUser.archived, ← hinactive]
      rwa [hsame] at hother
    · exact hother
  have hne : ¬ (row.id = id ∨ row.id ∈ goneWith tenantId id d) := by simp [hid, hgone]
  rw [if_neg hne] at hmapped
  simp only [hgone, false_and, if_false] at hother
  exact iff_of_true ⟨hother, hmapped⟩ fun hin => absurd hin hgone

/-! ## The order of the loop -/

/-- The users as the loop may have left them: roles stay, and nobody is made active. -/
def LeftBy (id : String) (before users : UserTable) : Prop :=
  ∀ row ∈ users.rows, ∃ row₀ ∈ before.rows, row₀.id = row.id ∧ row₀.roles = row.roles
    ∧ (row.isActive = true → row₀.isActive = true ∧ row.id ≠ id)

theorem leftBy_deactivateUser (id : String) (users : UserTable) :
    LeftBy id users (deactivateUser id users) := by
  intro row hrow
  obtain ⟨row₀, hrow₀, rfl⟩ := (Keyed.mem_updateWhere _).1 hrow
  by_cases hid : row₀.id = id
  · refine ⟨row₀, hrow₀, ?_⟩
    simp [hid, TenantUser.archived]
  refine ⟨row₀, hrow₀, ?_⟩
  simp [hid]

theorem LeftBy.deactivateParent {before : UserTable} (h : LeftBy id before users)
    (parentId : String) : LeftBy id before (deactivateParent parentId users) := by
  intro row hrow
  obtain ⟨row₁, hrow₁, rfl⟩ := (Keyed.mem_updateWhere _).1 hrow
  obtain ⟨row₀, hrow₀, hid, hroles, hactive⟩ := h row₁ hrow₁
  refine ⟨row₀, hrow₀, ?_⟩
  split
  · exact ⟨hid, hroles, nofun⟩
  · exact ⟨hid, hroles, hactive⟩

/-- An account that cannot lose anything is left as it is. -/
theorem deactivateParent_of_not_losesBy (h : LeftBy id (d.users tenantId) users)
    (hnot : ¬ losesBy tenantId id d parentId = true) : deactivateParent parentId users = users := by
  refine Keyed.updateWhere_eq_self_of_fixed fun row hrow hp => ?_
  simp only [Bool.and_eq_true, decide_eq_true_eq] at hp
  have hinactive : row.isActive = false := by
    by_contra hactive
    rw [Bool.not_eq_false] at hactive
    obtain ⟨row₀, hrow₀, hid, hroles, hboth⟩ := h row hrow
    refine hnot ?_
    simp only [losesBy, Bool.and_eq_true, decide_eq_true_eq, List.any_eq_true]
    refine ⟨hp.1 ▸ (hboth hactive).2, row₀, hrow₀, hid.trans hp.1, ?_⟩
    simp [canLose, (hboth hactive).1, hroles, hp.2]
  simp only [TenantUser.archived, ← hinactive]

theorem dueWith_of_mem (hrow : row ∈ (d.users tenantId).rows) :
    dueWith tenantId id d row.id = dependsOn id (d.links tenantId) (d.users tenantId) row := by
  rw [dueWith, Keyed.find?_eq_some.2 ⟨hrow, rfl⟩, Option.any_some]

/-- Whom the loop finds childless is a dependent, of the accounts that can lose anything,
exactly when only dependents are. -/
theorem goneWith_due_iff :
    (∀ row ∈ (d.users tenantId).rows, row.id ≠ id → row.id ∈ goneWith tenantId id d →
        canLose tenantId d row = true →
        dependsOn id (d.links tenantId) (d.users tenantId) row = true)
      ↔ OnlyDependentsChildless tenantId id d := by
  have hdue : ∀ parentId, dueWith tenantId id d parentId = true →
      childless (d.links tenantId) (deactivateUser id (d.users tenantId)) parentId = true := by
    intro parentId h
    obtain ⟨row, hfind, hrow⟩ := (Option.any_eq_true _ _).1 h
    obtain ⟨-, rfl⟩ := Keyed.find?_eq_some.1 hfind
    simp only [dependsOn, Bool.and_eq_true] at hrow
    exact hrow.2
  rw [OnlyDependentsChildless, ← pruned_due_iff
    (I := LeftBy id (d.users tenantId)) (fun _ _ _ => childless_deactivateParent _)
    (fun _ parentId h => h.deactivateParent parentId)
    (fun _ _ h hnot => deactivateParent_of_not_losesBy h hnot) hdue (leftBy_deactivateUser _ _)]
  constructor
  · intro h parentId hgone hloses
    simp only [losesBy, Bool.and_eq_true, decide_eq_true_eq, List.any_eq_true] at hloses
    obtain ⟨hne, row, hrow, rfl, hlose⟩ := hloses
    rw [dueWith_of_mem hrow]
    exact h row hrow hne hgone hlose
  intro h row hrow hne hgone hlose
  rw [← dueWith_of_mem hrow]
  refine h row.id hgone ?_
  simp only [losesBy, Bool.and_eq_true, decide_eq_true_eq, List.any_eq_true]
  exact ⟨hne, row, hrow, rfl, hlose⟩

theorem mem_goneWith (h : dependsOn id (d.links tenantId) (d.users tenantId) row = true) :
    row.id ∈ goneWith tenantId id d := by
  simp only [dependsOn, Bool.and_eq_true, decide_eq_true_eq] at h
  exact mem_pruned_of_orphan (fun _ _ parent => childless_deactivateParent parent) h.2 h.1.1

end Removal

/-- **When the removal of a student removes only what belongs to the student**: for every set of
users, roles and parent links, exactly when only dependents are found childless. -/
theorem removes_only_student_iff (tenantId id : String) (d : LoginStores) (existing : TenantUser)
    (hfind : (d.users tenantId).find? id = some existing) (hstudent : "student" ∈ existing.roles) :
    RemovesOnlyStudent tenantId id d (deleteMappedUser tenantId id d).2
      ↔ OnlyDependentsChildless tenantId id d := by
  have hremoved := deleteMappedUser_student hfind hstudent
  rw [← goneWith_due_iff]
  constructor
  · intro h row hrow hne hgone hlose
    by_contra hnot
    have hkept := h.kept row hrow hne (Bool.not_eq_true _ ▸ hnot)
    have hnothing := (hremoved.kept_iff hrow hne).1 hkept hgone
    exact absurd hlose (by simp [hnothing])
  intro h
  have hkept : ∀ row ∈ (d.users tenantId).rows, row.id ≠ id →
      dependsOn id (d.links tenantId) (d.users tenantId) row = false →
        AccountKept tenantId row d (deleteMappedUser tenantId id d).2 := by
    intro row hrow hne hnot
    rw [hremoved.kept_iff hrow hne]
    intro hgone
    by_contra hlose
    have hdepends := h row hrow hne hgone (by simpa using hlose)
    exact absurd hdepends (by simp [hnot])
  refine ⟨?_, hkept, ?_, hremoved.elsewhere, hremoved.links⟩
  · intro row hrow hwhich
    by_cases hid : row.id = id
    · exact hremoved.student hrow hid
    have hdepends := hwhich.resolve_left hid
    have hgone := mem_goneWith hdepends
    have hother := hremoved.other hrow hid
    simp only [dependsOn, TenantUser.onlyParent, Bool.and_eq_true, decide_eq_true_eq]
      at hdepends
    rw [if_pos ⟨hgone, hdepends.1.2.1⟩] at hother
    refine ⟨hother, ?_⟩
    rw [hremoved.mapped, if_pos (Or.inr hgone)]
  intro row hrow hne hstaff
  refine hkept row hrow hne ?_
  obtain ⟨role, hrole, hother, -⟩ := hstaff
  have hnot : row.onlyParent = false := by
    rw [TenantUser.onlyParent, Bool.and_eq_false_iff, List.all_eq_false]
    exact Or.inr ⟨role, hrole, by simpa using hother⟩
  simp [dependsOn, hnot]

namespace Example

/-- A school with a child, and an account linked to the child that has these roles. -/
def family (roles : List String) : LoginStores where
  users := fun _ =>
    { rows := [{ id := "child", email := "child@school.test", roles := ["student"] },
               { id := "mother", email := "mother@school.test", roles }]
      nodup := by simp }
  links := fun _ => [⟨"mother", "child"⟩]
  mappings :=
    { rows := [{ id := "m", userId := "mother", tenantId := "t", email := "mother@school.test"
                 isPrimaryTenant := true, isActive := true }]
      nodup := by simp }

end Example

/-- A mother who is nothing else at the school leaves with her child. -/
theorem removes_only_student_iff_example :
    RemovesOnlyStudent "t" "child" (Example.family ["parent"])
      (deleteMappedUser "t" "child" (Example.family ["parent"])).2 := by
  have hfind : ((Example.family ["parent"]).users "t").find? "child"
      = some { id := "child", email := "child@school.test", roles := ["student"] } := by
    decide
  exact (removes_only_student_iff "t" "child" (Example.family ["parent"]) _ hfind
    (by decide)).2 (by decide)

/-- A mother who teaches at the school is shut out with her child. -/
theorem not_removes_only_student :
    ¬ ∀ (tenantId id : String) (d : LoginStores) (existing : TenantUser),
      (d.users tenantId).find? id = some existing → "student" ∈ existing.roles →
        RemovesOnlyStudent tenantId id d (deleteMappedUser tenantId id d).2 := by
  intro h
  have hfind : ((Example.family ["parent", "class_teacher"]).users "t").find? "child"
      = some { id := "child", email := "child@school.test", roles := ["student"] } := by
    decide
  have hkept := (h "t" "child" _ _ hfind (by decide)).staff
    { id := "mother", email := "mother@school.test", roles := ["parent", "class_teacher"] }
    (by decide) (by decide) (by decide)
  have hgone : ({ id := "mother", email := "mother@school.test"
                  roles := ["parent", "class_teacher"] } : TenantUser)
      ∉ ((deleteMappedUser "t" "child" (Example.family ["parent", "class_teacher"])).2.users
        "t").rows := by
    decide
  exact hgone hkept.present

end MultiAcademy.School
