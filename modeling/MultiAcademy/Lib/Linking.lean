import MultiAcademy.Lib.Keyed

/-!
# Links from owners to targets

A table of links, each once.  The targets of an owner can be set by dropping its links and
inserting the ones that are wanted, or by inserting those that are missing and dropping those that
are too many; where both go through, they leave the same links.
-/

namespace MultiAcademy.Lib

variable {τ o : Type} [DecidableEq τ] [DecidableEq o]

/-- A table of links; no pair is in it twice. -/
abbrev Links (τ o : Type) : Type := Keyed (fun link : τ × o => link)

/-- Link one target after the other, until one is refused: for a reason of the database, or as a
link that there is already. -/
def linkEach (refused : τ → Bool) (owner : o) : List τ → Links τ o → Links τ o × Bool
  | [], links => (links, true)
  | target :: rest, links =>
    if refused target then (links, false)
    else
      match links.insert? (target, owner) with
      | none => (links, false)
      | some links' => linkEach refused owner rest links'

/-- Drop the links of an owner and insert the ones that are wanted; `none` if one is refused. -/
def replaceLinks (refused : τ → Bool) (owner : o) (wanted : List τ) (links : Links τ o) :
    Option (Links τ o) :=
  match linkEach refused owner wanted (links.deleteWhere fun link => link.2 = owner) with
  | (links', true) => some links'
  | (_, false) => none

/-- The targets of an owner. -/
def targetsOf (owner : o) (links : Links τ o) : List τ :=
  (links.rows.filter fun link => link.2 = owner).map (·.1)

/-- Insert the links that are missing, then drop those that are too many. -/
def reconcileLinks (refused : τ → Bool) (owner : o) (wanted : List τ) (links : Links τ o) :
    Links τ o × Bool :=
  match linkEach refused owner (wanted.filter fun target => target ∉ targetsOf owner links)
      links with
  | (links', false) => (links', false)
  | (links', true) =>
    (links'.deleteWhere fun link =>
        link.2 = owner ∧ link.1 ∈ targetsOf owner links ∧ link.1 ∉ wanted, true)

section Linking
variable {refused : τ → Bool} {owner : o} {wanted : List τ} {links links' : Links τ o}

theorem nodup_eraseDups (l : List τ) : l.eraseDups.Nodup := by
  induction h : l.length using Nat.strongRecOn generalizing l with
  | ind n ih =>
    cases l with
    | nil => exact List.nodup_nil
    | cons a rest =>
      rw [List.eraseDups_cons, List.nodup_cons]
      constructor
      · rw [List.mem_eraseDups, List.mem_filter]
        simp
      refine ih _ ?_ _ rfl
      rw [← h, List.length_cons]
      exact Nat.lt_succ_of_le (List.length_filter_le _ _)

omit [DecidableEq τ] in
theorem mem_targetsOf {target : τ} :
    target ∈ targetsOf owner links ↔ (target, owner) ∈ links.rows := by
  simp only [targetsOf, List.mem_map, List.mem_filter, decide_eq_true_iff]
  constructor
  · rintro ⟨⟨target', owner'⟩, ⟨hmem, rfl⟩, rfl⟩
    exact hmem
  · exact fun h => ⟨_, ⟨h, rfl⟩, rfl⟩

/-- Insertions that all go through leave the links there were and the new ones. -/
theorem mem_linkEach (h : linkEach refused owner wanted links = (links', true)) (link : τ × o) :
    link ∈ links'.rows ↔ link ∈ links.rows ∨ link.2 = owner ∧ link.1 ∈ wanted := by
  induction wanted generalizing links with
  | nil =>
    cases h
    simp
  | cons target rest ih =>
    rw [linkEach] at h
    by_cases hrefused : refused target = true
    · rw [if_pos hrefused] at h
      cases h
    rw [if_neg hrefused] at h
    cases hinsert : links.insert? (target, owner) with
    | none =>
      rw [hinsert] at h
      cases h
    | some next =>
      rw [hinsert] at h
      rw [ih h, (Keyed.insert?_eq_some hinsert).2, List.mem_cons, Prod.ext_iff]
      tauto

/-- New links go through when the database refuses none. -/
theorem linkEach_ok_iff (hnodup : wanted.Nodup)
    (hnew : ∀ target ∈ wanted, (target, owner) ∉ links.rows) :
    (linkEach refused owner wanted links).2 = true
      ↔ ∀ target ∈ wanted, refused target = false := by
  induction wanted generalizing links with
  | nil => simp [linkEach]
  | cons target rest ih =>
    rw [List.forall_mem_cons] at hnew ⊢
    rw [List.nodup_cons] at hnodup
    rw [linkEach]
    by_cases hrefused : refused target = true
    · simp [hrefused]
    rw [if_neg hrefused]
    cases hinsert : links.insert? (target, owner) with
    | none =>
      refine absurd (Keyed.find?_eq_none.2 fun link hlink heq => ?_)
        (Keyed.insert?_eq_none hinsert)
      rw [heq] at hlink
      exact hnew.1 hlink
    | some next =>
      have hnext : ∀ target' ∈ rest, (target', owner) ∉ next.rows := by
        intro target' htarget'
        rw [(Keyed.insert?_eq_some hinsert).2, not_or, Prod.mk.injEq]
        exact ⟨hnew.2 target' htarget', fun heq => hnodup.1 (heq.1 ▸ htarget')⟩
      rw [ih hnodup.2 hnext, Bool.eq_false_iff.2 hrefused, eq_self_iff_true, true_and]

/-- **The links of an owner are replaced** when the database refuses none: the owner has the
targets that are wanted, and every other owner has its own. -/
theorem replaceLinks_iff (hnodup : wanted.Nodup) :
    (replaceLinks refused owner wanted links).isSome
      ↔ ∀ target ∈ wanted, refused target = false := by
  have hnew : ∀ target ∈ wanted,
      (target, owner) ∉ (links.deleteWhere fun link => link.2 = owner).rows := fun target _ => by
    simp
  rw [← linkEach_ok_iff hnodup hnew, replaceLinks]
  rcases linkEach refused owner wanted _ with ⟨links', _ | _⟩ <;> simp

theorem mem_replaceLinks (h : replaceLinks refused owner wanted links = some links')
    (link : τ × o) :
    link ∈ links'.rows ↔ if link.2 = owner then link.1 ∈ wanted else link ∈ links.rows := by
  rw [replaceLinks] at h
  split at h
  · rename_i next hnext
    cases h
    rw [mem_linkEach hnext, Keyed.mem_deleteWhere]
    by_cases howner : link.2 = owner <;> simp [howner]
  · cases h

theorem mem_reconcileLinks (h : reconcileLinks refused owner wanted links = (links', true))
    (link : τ × o) :
    link ∈ links'.rows ↔ if link.2 = owner then link.1 ∈ wanted else link ∈ links.rows := by
  rw [reconcileLinks] at h
  split at h
  · cases h
  rename_i next hnext
  cases h
  rw [Keyed.mem_deleteWhere, mem_linkEach hnext]
  obtain ⟨target, owner'⟩ := link
  by_cases howner : owner' = owner
  · subst howner
    by_cases hold : (target, owner') ∈ links.rows <;> simp [mem_targetsOf, hold]
  · simp [howner]

end Linking

end MultiAcademy.Lib
