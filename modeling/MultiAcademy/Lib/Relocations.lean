import MultiAcademy.Lib.Exclusion
import MultiAcademy.Lib.Run

/-!
# Rows that are moved one after another

A move rewrites the row of one key.  A list of moves with distinct keys can be carried
out at once, and the outcome does not depend on the list's order; carried out one after
another, each checked against the rows as they are by then, it can be refused halfway
though the outcome would be clear of conflicts.
-/

namespace MultiAcademy.Lib

universe u v w
variable {ρ : Type u} {κ : Type v} {ε : Type w}

/-- Moves of the rows of a table. -/
structure Relocation (ε : Type w) (key : ρ → κ) where
  target : ε → κ
  place : ε → ρ → ρ
  key_place : ∀ e r, key (place e r) = key r

namespace Relocation
variable [DecidableEq κ] {key : ρ → κ} (m : Relocation ε key)

/-- Carry out one move. -/
def apply (e : ε) (t : Keyed key) : Keyed key :=
  t.updateWhere (fun r => key r = m.target e) (m.place e) (m.key_place e)

/-- The row after the move that is about it, if there is one. -/
def moved (es : List ε) (r : ρ) : ρ :=
  (es.find? fun e => m.target e = key r).elim r fun e => m.place e r

theorem key_moved (es : List ε) (r : ρ) : key (m.moved es r) = key r := by
  rw [moved]
  cases es.find? fun e => m.target e = key r with
  | none => rfl
  | some e => exact m.key_place e r

/-- Carry out all moves at once. -/
def joint (es : List ε) (t : Keyed key) : Keyed key :=
  t.updateWhere (fun _ => true) (m.moved es) (m.key_moved es)

/-- No other row is in conflict with the moved one. -/
def Fits (conflict : ρ → ρ → Prop) (t : Keyed key) (e : ε) : Prop :=
  ∀ r ∈ t.find? (m.target e), ∀ r' ∈ t.rows, key r' ≠ m.target e → ¬ conflict (m.place e r) r'

/-- The row that the move `b` is about, where it stands now, is in conflict with the row
that the move `a` moves. -/
def InTheWay (conflict : ρ → ρ → Prop) (t : Keyed key) (a b : ε) : Prop :=
  ∃ r ∈ t.find? (m.target a), ∃ r' ∈ t.find? (m.target b), conflict (m.place a r) r'

variable {m} {conflict : ρ → ρ → Prop} {t : Keyed key} {e : ε} {es es' : List ε} {r : ρ} {k : κ}

/-! ## At once -/

/-- A move leaves the other rows. -/
theorem find?_apply_of_ne (h : k ≠ m.target e) : (m.apply e t).find? k = t.find? k := by
  rw [apply, Keyed.find?_updateWhere]
  cases hfind : t.find? k with
  | none => rfl
  | some r => simp [(Keyed.find?_eq_some.1 hfind).2, h]

theorem moved_of_not_mem (h : key r ∉ es.map m.target) : m.moved es r = r := by
  have hnone : (es.find? fun e => m.target e = key r) = none := by
    rw [List.find?_eq_none]
    intro e he heq
    exact h (List.mem_map.2 ⟨e, he, of_decide_eq_true heq⟩)
  rw [moved, hnone, Option.elim_none]

/-- A row that no move is about stays. -/
theorem mem_joint_of_not_mem (hr : r ∈ t.rows) (h : key r ∉ es.map m.target) :
    r ∈ (m.joint es t).rows :=
  (Keyed.mem_updateWhere _).2 ⟨r, hr, by rw [if_pos rfl, moved_of_not_mem h]⟩

/-- The first move may be carried out first. -/
theorem joint_cons (h : m.target e ∉ es.map m.target) :
    m.joint (e :: es) t = m.joint es (m.apply e t) := by
  have hrow : ∀ r, m.moved (e :: es) r
      = m.moved es (if key r = m.target e then m.place e r else r) := by
    intro r
    by_cases hk : key r = m.target e
    · have hnew : key (m.place e r) ∉ es.map m.target := by
        rw [m.key_place, hk]
        exact h
      rw [if_pos hk, moved_of_not_mem hnew, moved, List.find?_cons_of_pos (by simp [hk]),
        Option.elim_some]
    · rw [if_neg hk, moved, List.find?_cons_of_neg (by simpa using Ne.symm hk), moved]
  simp [joint, apply, Keyed.updateWhere, hrow, Function.comp_def]

theorem joint_nil : m.joint [] t = t := by
  simp [joint, Keyed.updateWhere, moved]

/-- Moves of distinct keys come to the same one after another. -/
theorem run_apply (hd : (es.map m.target).Nodup) : run m.apply t es = m.joint es t := by
  induction es generalizing t with
  | nil => exact joint_nil.symm
  | cons e es ih =>
    rw [List.map_cons, List.nodup_cons] at hd
    rw [run_cons, ih hd.2, joint_cons hd.1]

/-- Their outcome does not depend on the order of the list. -/
theorem joint_perm (hd : (es.map m.target).Nodup) (h : es'.Perm es) :
    m.joint es' t = m.joint es t := by
  have hd' : (es'.map m.target).Nodup := (h.map m.target).nodup_iff.2 hd
  have hmoved : m.moved es' = m.moved es := by
    funext r
    have hfind : (es'.find? fun e => m.target e = key r)
        = es.find? fun e => m.target e = key r := by
      -- the moves are themselves a table with the rows' keys
      apply Option.ext
      intro e
      exact (Keyed.find?_eq_some (t := ⟨es', hd'⟩)).trans
        ((and_congr_left fun _ => h.mem_iff).trans (Keyed.find?_eq_some (t := ⟨es, hd⟩)).symm)
    rw [moved, moved, hfind]
  simp only [joint, hmoved]

/-! ## One after another -/

/-- What is in the way of the later moves stays so when another row is moved. -/
theorem inTheWay_apply_iff {a b : ε} (ha : m.target a ≠ m.target e)
    (hb : m.target b ≠ m.target e) :
    m.InTheWay conflict (m.apply e t) a b ↔ m.InTheWay conflict t a b := by
  rw [InTheWay, InTheWay, find?_apply_of_ne ha, find?_apply_of_ne hb]

/-- The first of some moves fits exactly when no later one is in its way, as their outcome
is clear. -/
theorem fits_iff (h : m.target e ∉ es.map m.target)
    (hclear : Keyed.Clear conflict (m.joint (e :: es) t)) :
    m.Fits conflict t e ↔ ∀ b ∈ es, ¬ m.InTheWay conflict t e b := by
  constructor
  · rintro hfits b hb ⟨r, hr, r', hr', hconflict⟩
    obtain ⟨hmem, hkey⟩ := Keyed.find?_eq_some.1 hr'
    refine hfits r hr r' hmem ?_ hconflict
    intro heq
    exact h (List.mem_map.2 ⟨b, hb, hkey.symm.trans heq⟩)
  intro hway r hr r' hr' hne hconflict
  by_cases hlater : key r' ∈ es.map m.target
  · obtain ⟨b, hb, hkey⟩ := List.mem_map.1 hlater
    exact hway b hb ⟨r, hr, r', Keyed.find?_eq_some.2 ⟨hr', hkey.symm⟩, hconflict⟩
  -- neither row is moved afterwards
  obtain ⟨hmem, hkey⟩ := Keyed.find?_eq_some.1 hr
  have hplaced : m.place e r ∈ (m.apply e t).rows :=
    (Keyed.mem_updateWhere _).2 ⟨r, hmem, by simp [hkey]⟩
  have hkept : r' ∈ (m.apply e t).rows :=
    (Keyed.mem_updateWhere _).2 ⟨r', hr', by simp [hne]⟩
  have hplace : key (m.place e r) = m.target e := (m.key_place e r).trans hkey
  rw [joint_cons h] at hclear
  refine hclear _ (mem_joint_of_not_mem hplaced (hplace ▸ h)) r'
    (mem_joint_of_not_mem hkept hlater) ?_ hconflict
  rw [hplace]
  exact hne.symm

/-- **An order of moves goes through**, when their outcome is clear, exactly when no move
comes before one whose row is in its way. -/
theorem along_fits_iff (hd : (es.map m.target).Nodup)
    (hclear : Keyed.Clear conflict (m.joint es t)) :
    Along m.apply (m.Fits conflict) t es
      ↔ es.Pairwise fun a b => ¬ m.InTheWay conflict t a b := by
  induction es generalizing t with
  | nil => simp
  | cons e es ih =>
    rw [List.map_cons, List.nodup_cons] at hd
    have hne : ∀ b ∈ es, m.target b ≠ m.target e := by
      intro b hb heq
      exact hd.1 (List.mem_map.2 ⟨b, hb, heq⟩)
    have hrest := ih hd.2 (joint_cons hd.1 ▸ hclear)
    rw [along_cons, List.pairwise_cons, fits_iff hd.1 hclear, hrest]
    refine and_congr_right fun _ => List.Pairwise.iff_of_mem fun ha hb => ?_
    rw [inTheWay_apply_iff (hne _ ha) (hne _ hb)]

/-- **Every order goes through** exactly when no move is in the way of another. -/
theorem forall_order_fits_iff (hd : (es.map m.target).Nodup)
    (hclear : Keyed.Clear conflict (m.joint es t)) :
    (∀ order, order.Perm es → Along m.apply (m.Fits conflict) t order)
      ↔ ∀ a ∈ es, ∀ b ∈ es, m.target a ≠ m.target b → ¬ m.InTheWay conflict t a b := by
  have horder : ∀ order, order.Perm es → (Along m.apply (m.Fits conflict) t order
      ↔ order.Pairwise fun a b => ¬ m.InTheWay conflict t a b) := by
    intro order hperm
    exact along_fits_iff ((hperm.map m.target).nodup_iff.2 hd) (joint_perm hd hperm ▸ hclear)
  constructor
  · intro h a ha b hb hne
    obtain ⟨before, after, rfl⟩ := List.append_of_mem ha
    -- the order that begins with `a`
    have hfirst : (a :: (before ++ after)).Perm (before ++ a :: after) := List.perm_middle.symm
    have hpairs := (horder _ hfirst).1 (h _ hfirst)
    refine List.rel_of_pairwise_cons hpairs ?_
    rcases List.mem_cons.1 (hfirst.mem_iff.2 hb) with rfl | hrest
    · exact absurd rfl hne
    · exact hrest
  intro h order hperm
  rw [horder order hperm]
  have hdistinct : order.Pairwise fun a b => m.target a ≠ m.target b :=
    List.pairwise_map.1 ((hperm.map m.target).nodup_iff.2 hd)
  exact hdistinct.imp_of_mem fun ha hb hne =>
    h _ (hperm.mem_iff.1 ha) _ (hperm.mem_iff.1 hb) hne

end Relocation
end MultiAcademy.Lib
