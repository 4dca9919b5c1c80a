import Mathlib

/-!
# Lists that are taken in item by item

A reader passes over some items of a list, skips others and reports their numbers, and takes
something from the rest.  What was taken and which numbers were skipped tell how each item was
read.
-/

namespace MultiAcademy.Lib

universe u v
variable {α : Type u} {β : Type v}

inductive Reading (β : Type v)
  | passed
  | skipped
  | taken (b : β)
  deriving DecidableEq

namespace Reading

def taken? : Reading β → Option β
  | taken b => some b
  | _ => none

def isSkipped : Reading β → Bool
  | skipped => true
  | _ => false

end Reading

/-- What was taken of the items, in their order. -/
def takenOf (read : α → Reading β) (items : List α) : List β :=
  items.filterMap fun a => (read a).taken?

/-- The numbers of the items that were skipped, where the first has the number `n`. -/
def skippedOf (read : α → Reading β) : ℕ → List α → List ℕ
  | _, [] => []
  | n, a :: items =>
    if (read a).isSkipped then n :: skippedOf read (n + 1) items
    else skippedOf read (n + 1) items

section Readings
variable {read read' : α → Reading β} {a : α} {items : List α} {n : ℕ}

theorem takenOf_cons (read : α → Reading β) (a : α) (items : List α) :
    takenOf read (a :: items) = (read a).taken?.toList ++ takenOf read items := by
  unfold takenOf
  cases h : (read a).taken? <;> simp [h]

theorem le_of_mem_skippedOf {m : ℕ} (h : m ∈ skippedOf read n items) : n ≤ m := by
  induction items generalizing n with
  | nil => cases h
  | cons a items ih =>
    rw [skippedOf] at h
    split at h
    · rcases List.mem_cons.1 h with rfl | h
      · exact Nat.le_refl _
      · exact Nat.le_trans (Nat.le_succ n) (ih h)
    · exact Nat.le_trans (Nat.le_succ n) (ih h)

theorem not_mem_skippedOf_succ : n ∉ skippedOf read (n + 1) items := fun h =>
  absurd (le_of_mem_skippedOf h) (Nat.not_succ_le_self n)

/-- Whether the first item was skipped shows in the numbers. -/
theorem mem_skippedOf_cons : n ∈ skippedOf read n (a :: items) ↔ (read a).isSkipped = true := by
  rw [skippedOf]
  split
  · rename_i h
    simp [h]
  rename_i h
  simp [h, not_mem_skippedOf_succ]

theorem skippedOf_eq_nil_iff :
    skippedOf read n items = [] ↔ ∀ a ∈ items, (read a).isSkipped = false := by
  induction items generalizing n with
  | nil => simp [skippedOf]
  | cons a items ih =>
    rw [skippedOf]
    cases h : (read a).isSkipped <;> simp [h, ih]

/-- **What was taken and which numbers were skipped tell how each item was read.** -/
theorem readings_eq_iff (hpassed : ∀ a ∈ items, read a = .passed ↔ read' a = .passed) :
    (takenOf read items = takenOf read' items
        ∧ skippedOf read n items = skippedOf read' n items)
      ↔ ∀ a ∈ items, read a = read' a := by
  induction items generalizing n with
  | nil => simp [takenOf, skippedOf]
  | cons a items ih =>
    rw [List.forall_mem_cons] at hpassed
    rw [List.forall_mem_cons, ← ih (n := n + 1) hpassed.2, takenOf_cons, takenOf_cons]
    constructor
    · rintro ⟨htaken, hskipped⟩
      have hskip : (read a).isSkipped = true ↔ (read' a).isSkipped = true := by
        rw [← mem_skippedOf_cons, hskipped, mem_skippedOf_cons]
      have hrest : skippedOf read (n + 1) items = skippedOf read' (n + 1) items := by
        rw [skippedOf, skippedOf] at hskipped
        cases hfirst : (read a).isSkipped with
        | true =>
          rw [if_pos hfirst, if_pos (hskip.1 hfirst)] at hskipped
          exact (List.cons.inj hskipped).2
        | false =>
          have hnot : ¬ (read' a).isSkipped = true := by
            rw [← hskip, hfirst]
            exact Bool.false_ne_true
          rw [if_neg (by rw [hfirst]; exact Bool.false_ne_true), if_neg hnot] at hskipped
          exact hskipped
      cases hread : read a with
      | passed =>
        rw [hread, hpassed.1.1 hread] at htaken
        exact ⟨(hpassed.1.1 hread).symm, htaken, hrest⟩
      | skipped =>
        have hother : read' a = .skipped := by
          have h := hskip.1 (by rw [hread]; rfl)
          cases hread' : read' a with
          | skipped => rfl
          | passed => rw [hread'] at h; cases h
          | taken b => rw [hread'] at h; cases h
        rw [hread, hother] at htaken
        exact ⟨hother.symm, htaken, hrest⟩
      | taken b =>
        cases hread' : read' a with
        | passed =>
          have h := hpassed.1.2 hread'
          rw [hread] at h
          cases h
        | skipped =>
          have h := hskip.2 (by rw [hread']; rfl)
          rw [hread] at h
          cases h
        | taken b' =>
          rw [hread, hread'] at htaken
          obtain ⟨rfl, hsame⟩ := List.cons.inj htaken
          exact ⟨rfl, hsame, hrest⟩
    rintro ⟨hfirst, htaken, hrest⟩
    rw [hfirst, htaken, skippedOf, skippedOf, hfirst, hrest]
    exact ⟨rfl, rfl⟩

end Readings

end MultiAcademy.Lib
