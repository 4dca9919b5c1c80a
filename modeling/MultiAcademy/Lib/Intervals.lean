import Mathlib

/-!
# Lists of closed intervals

An interval is a pair of its ends.  Intervals that lie apart share no point, so a point is
in at most one of them.  On a dense order they leave a gap: the only way to cover a closed
interval with closed intervals that lie apart is by one.
-/

namespace MultiAcademy.Lib.Intervals

universe u
variable {α : Type u} [LinearOrder α] {l : List (α × α)} {x lo hi : α}

/-- The closed interval holds the point. -/
def contains (x : α) (iv : α × α) : Bool := iv.1 ≤ x && x ≤ iv.2

theorem contains_iff {iv : α × α} : contains x iv = true ↔ iv.1 ≤ x ∧ x ≤ iv.2 := by
  simp [contains]

/-- Any two of the intervals lie apart. -/
def Apart (l : List (α × α)) : Prop := l.Pairwise fun a b => a.2 < b.1 ∨ b.2 < a.1

/-- Intervals each above the one before it lie apart. -/
theorem apart_of_isChain (hends : ∀ iv ∈ l, iv.1 ≤ iv.2) (h : l.IsChain fun a b => a.2 < b.1) :
    Apart l := by
  have hascending : l.Pairwise fun a b => a.2 < b.1 := by
    induction l with
    | nil => exact List.Pairwise.nil
    | cons a l ih =>
      cases l with
      | nil => exact List.pairwise_singleton _ a
      | cons b l =>
        rw [List.isChain_cons_cons] at h
        have htail := ih (fun iv hiv => hends iv (List.mem_cons_of_mem a hiv)) h.2
        refine List.Pairwise.cons ?_ htail
        intro c hc
        rcases List.mem_cons.1 hc with rfl | hc
        · exact h.1
        have hb : b.1 ≤ b.2 := hends b (List.mem_cons_of_mem a List.mem_cons_self)
        exact (h.1.trans_le hb).trans ((List.pairwise_cons.1 htail).1 c hc)
  exact hascending.imp Or.inl

theorem Apart.of_ne (h : Apart l) {a b : α × α} (ha : a ∈ l) (hb : b ∈ l) (hne : a ≠ b) :
    a.2 < b.1 ∨ b.2 < a.1 := by
  have hsymm : Std.Symm fun a b : α × α => a.2 < b.1 ∨ b.2 < a.1 := ⟨fun _ _ => Or.symm⟩
  exact List.Pairwise.forall h ha hb hne

theorem Apart.perm {l' : List (α × α)} (h : Apart l) (hp : l.Perm l') : Apart l' :=
  hp.pairwise h fun hab => hab.symm

/-- **A point is in at most one of the intervals.** -/
theorem Apart.countP_le_one (h : Apart l) (x : α) : l.countP (contains x) ≤ 1 := by
  induction l with
  | nil => simp
  | cons a l ih =>
    obtain ⟨hfirst, htail⟩ := List.pairwise_cons.1 h
    rw [List.countP_cons]
    by_cases ha : contains x a = true
    · have hnone : l.countP (contains x) = 0 := by
        rw [List.countP_eq_zero]
        intro b hb hx
        rw [contains_iff] at ha hx
        rcases hfirst b hb with hab | hba
        · exact absurd (ha.2.trans_lt hab) (not_lt.2 hx.1)
        · exact absurd (hx.2.trans_lt hba) (not_lt.2 ha.1)
      have hone : l.countP (contains x) + (if contains x a = true then 1 else 0) = 1 := by
        rw [hnone, if_pos ha]
      exact Nat.le_of_eq hone
    rw [if_neg ha]
    exact ih htail

/-- Above `a` there is room before the next of some points. -/
theorem exists_next (points : List α) {a : α} (h : a < hi) :
    ∃ z, a < z ∧ z ≤ hi ∧ ∀ b ∈ points, a < b → z ≤ b := by
  induction points with
  | nil => exact ⟨hi, h, le_refl hi, fun _ hb => absurd hb List.not_mem_nil⟩
  | cons b points ih =>
    obtain ⟨z, haz, hzhi, hz⟩ := ih
    by_cases hab : a < b
    · refine ⟨min z b, lt_min haz hab, (min_le_left z b).trans hzhi, ?_⟩
      intro c hc hac
      rcases List.mem_cons.1 hc with rfl | hc
      · exact min_le_right z c
      · exact (min_le_left z b).trans (hz c hc hac)
    refine ⟨z, haz, hzhi, ?_⟩
    intro c hc hac
    rcases List.mem_cons.1 hc with rfl | hc
    · exact absurd hac hab
    · exact hz c hc hac

/-- **Intervals that lie apart cover a closed interval only as that interval itself.** -/
theorem covers_iff_single [DenselyOrdered α] (hapart : Apart l)
    (hends : ∀ iv ∈ l, lo ≤ iv.1 ∧ iv.1 ≤ iv.2 ∧ iv.2 ≤ hi) (hlo : lo ≤ hi) :
    (∀ x, lo ≤ x → x ≤ hi → ∃ iv ∈ l, contains x iv = true) ↔ l = [(lo, hi)] := by
  constructor
  · intro hcovers
    obtain ⟨first, hfirst, hcontains⟩ := hcovers lo (le_refl lo) hlo
    have hstart : first.1 = lo :=
      le_antisymm (contains_iff.1 hcontains).1 (hends first hfirst).1
    have hother : ∀ iv ∈ l, iv ≠ first → first.2 < iv.1 := by
      intro iv hiv hne
      rcases hapart.of_ne hiv hfirst hne with hbefore | hafter
      · -- nothing lies below the interval that starts first
        have hle : lo ≤ iv.2 := (hends iv hiv).1.trans (hends iv hiv).2.1
        exact absurd (hstart ▸ hbefore) (not_lt.2 hle)
      · exact hafter
    have hend : first.2 = hi := by
      by_contra hne
      have hlt : first.2 < hi := lt_of_le_of_ne (hends first hfirst).2.2 hne
      obtain ⟨z, hz, hzhi, hnext⟩ := exists_next (l.map Prod.fst) hlt
      obtain ⟨y, hfy, hyz⟩ := exists_between hz
      have hloy : lo ≤ y := ((hends first hfirst).1.trans (hends first hfirst).2.1).trans hfy.le
      obtain ⟨iv, hiv, hy⟩ := hcovers y hloy (hyz.le.trans hzhi)
      rw [contains_iff] at hy
      by_cases hsame : iv = first
      · rw [hsame] at hy
        exact absurd hfy (not_lt.2 hy.2)
      have hzle : z ≤ iv.1 :=
        hnext iv.1 (List.mem_map_of_mem hiv) (hother iv hiv hsame)
      exact absurd (hzle.trans hy.1) (not_le.2 hyz)
    have hall : ∀ iv ∈ l, iv = first := by
      intro iv hiv
      by_contra hne
      have habove : hi < iv.1 := hend ▸ hother iv hiv hne
      exact absurd ((hends iv hiv).2.1.trans (hends iv hiv).2.2) (not_le.2 habove)
    have hsingle : l = [first] := by
      have hcount : l.countP (contains lo) = l.length := by
        rw [List.countP_eq_length]
        intro iv hiv
        rw [hall iv hiv]
        exact hcontains
      have hlength : l.length ≤ 1 := hcount ▸ hapart.countP_le_one lo
      obtain ⟨iv, rfl⟩ := List.length_eq_one_iff.1
        (Nat.le_antisymm hlength (List.length_pos_of_mem hfirst))
      rw [hall iv (List.mem_singleton_self iv)]
    rw [hsingle, ← hstart, ← hend]
  rintro rfl x hx hx'
  exact ⟨(lo, hi), List.mem_singleton_self _, contains_iff.2 ⟨hx, hx'⟩⟩

end MultiAcademy.Lib.Intervals
