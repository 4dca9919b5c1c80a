import Mathlib

/-!
# What an operation writes and what a query reads

A store made of parts.  An operation writes some of them and leaves the others as they are; a
query reads some of them and gives the same on two stores that agree on these.  An operation
that writes nothing a query reads does not change what the query gives.
-/

namespace MultiAcademy.Lib

universe u v w
variable {ρ : Type u} {σ : Type v} {α : Type w}

/-- The operation leaves every part that is not among these as it is. -/
def Writes (same : ρ → σ → σ → Prop) (f : σ → σ) (parts : List ρ) : Prop :=
  ∀ part ∉ parts, ∀ s, same part (f s) s

/-- The query gives the same on stores that agree on these parts. -/
def Reads (same : ρ → σ → σ → Prop) (q : σ → α) (parts : List ρ) : Prop :=
  ∀ s s', (∀ part ∈ parts, same part s s') → q s = q s'

/-- Some part is among both. -/
def overlap [DecidableEq ρ] (written read : List ρ) : Bool := written.any fun part => part ∈ read

variable {same : ρ → σ → σ → Prop} {f : σ → σ} {q : σ → α} {written read : List ρ}

/-- **An operation that writes nothing the query reads does not change what it gives.** -/
theorem Reads.unchanged [DecidableEq ρ] (hread : Reads same q read)
    (hwritten : Writes same f written) (hapart : overlap written read = false) (s : σ) :
    q (f s) = q s := by
  apply hread
  intro part hpart
  refine hwritten part ?_ s
  intro hmem
  have hoverlap : overlap written read = true :=
    List.any_eq_true.2 ⟨part, hmem, by simpa using hpart⟩
  exact absurd (hapart.symm.trans hoverlap) Bool.false_ne_true

end MultiAcademy.Lib
