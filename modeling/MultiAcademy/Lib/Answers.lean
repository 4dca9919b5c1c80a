import Mathlib

/-!
# Questions and their answers

A log of questions that are put and answers that are taken, each under a key; the newest entry
comes first.  An answer that follows a question with nothing between them under the key answers
that question, and no question is answered twice.
-/

namespace MultiAcademy.Lib

universe u v

/-- A question that is put, or an answer to one. -/
inductive LogEntry (κ : Type u) (α : Type v)
  | asked (key : κ) (question : α)
  | answered (key : κ) (question : α)
  deriving DecidableEq

variable {κ : Type u} {α : Type v}

namespace LogEntry

def key : LogEntry κ α → κ
  | .asked k _ | .answered k _ => k

def question : LogEntry κ α → α
  | .asked _ a | .answered _ a => a

def isAsked : LogEntry κ α → Bool
  | .asked _ _ => true
  | .answered _ _ => false

@[simp] theorem key_asked (k : κ) (a : α) : (asked k a).key = k := rfl
@[simp] theorem key_answered (k : κ) (a : α) : (answered k a).key = k := rfl
@[simp] theorem isAsked_asked (k : κ) (a : α) : (asked k a).isAsked = true := rfl
@[simp] theorem isAsked_answered (k : κ) (a : α) : (answered k a).isAsked = false := rfl
@[simp] theorem question_asked (k : κ) (a : α) : (asked k a).question = a := rfl
@[simp] theorem question_answered (k : κ) (a : α) : (answered k a).question = a := rfl

end LogEntry

variable [DecidableEq κ]

/-- The newest entry of a key. -/
def latest? (k : κ) (log : List (LogEntry κ α)) : Option (LogEntry κ α) :=
  log.find? fun e => e.key = k

/-- The newest question of a key. -/
def lastAsked (k : κ) (log : List (LogEntry κ α)) : Option α :=
  (log.find? fun e => e.isAsked && e.key = k).map (·.question)

/-- How many questions were put under a key. -/
def askedCount (k : κ) (log : List (LogEntry κ α)) : ℕ :=
  log.countP fun e => e.isAsked && e.key = k

/-- How many answers were taken under a key. -/
def answeredCount (k : κ) (log : List (LogEntry κ α)) : ℕ :=
  log.countP fun e => !e.isAsked && e.key = k

/-- **Every answer is to the newest question of its key**, which has no other answer. -/
def Paired (log : List (LogEntry κ α)) : Prop :=
  ∀ newer older k a, log = newer ++ .answered k a :: older → latest? k older = some (.asked k a)

variable {log : List (LogEntry κ α)} {e : LogEntry κ α} {k : κ} {a : α}

theorem paired_nil : Paired ([] : List (LogEntry κ α)) := by
  intro newer older k a h
  simp at h

/-- A log is paired when it was before, and a new answer is to the newest question. -/
theorem paired_cons :
    Paired (e :: log)
      ↔ Paired log ∧ ∀ k a, e = .answered k a → latest? k log = some (.asked k a) := by
  constructor
  · intro h
    refine ⟨fun newer older k a hlog => ?_, fun k a he => ?_⟩
    · exact h (e :: newer) older k a (by rw [hlog, List.cons_append])
    · exact h [] log k a (by rw [he, List.nil_append])
  rintro ⟨hlog, hnew⟩ newer older k a heq
  cases newer with
  | nil =>
    injection heq with he hold
    rw [← hold]
    exact hnew k a he
  | cons e' newer =>
    injection heq with _ hold
    exact hlog newer older k a hold

theorem paired_asked : Paired (.asked k a :: log) ↔ Paired log := by
  rw [paired_cons, and_iff_left]
  rintro _ _ ⟨⟩

theorem paired_answered :
    Paired (.answered k a :: log) ↔ Paired log ∧ latest? k log = some (.asked k a) := by
  rw [paired_cons]
  refine and_congr_right fun _ => ⟨fun h => h k a rfl, ?_⟩
  rintro h _ _ ⟨⟩
  exact h

theorem latest?_cons : latest? k (e :: log) = if e.key = k then some e else latest? k log := by
  rw [latest?, List.find?_cons]
  by_cases hk : e.key = k
  · simp [hk]
  · simp [hk, latest?]

theorem lastAsked_cons :
    lastAsked k (e :: log) = if e.isAsked = true ∧ e.key = k then some e.question
      else lastAsked k log := by
  rw [lastAsked, List.find?_cons]
  by_cases hk : e.isAsked = true ∧ e.key = k
  · simp [hk.1, hk.2]
  have hkey : (e.isAsked && e.key = k) = false := by
    rw [Bool.eq_false_iff, ne_eq, Bool.and_eq_true, decide_eq_true_eq]
    exact hk
  rw [hkey, if_neg hk, lastAsked]

/-- The newest question of a key is its newest entry unless that is an answer. -/
theorem latest?_of_lastAsked (h : lastAsked k log = some a) :
    latest? k log = some (.asked k a) ↔ (latest? k log).any LogEntry.isAsked = true := by
  induction log with
  | nil => cases h
  | cons e log ih =>
    rw [latest?_cons]
    by_cases hk : e.key = k
    · rw [if_pos hk]
      rw [lastAsked_cons] at h
      cases e with
      | asked k' a' =>
        rw [if_pos ⟨rfl, hk⟩] at h
        have hkey : k' = k := hk
        cases h
        simp [hkey]
      | answered k' a' => simp
    rw [if_neg hk]
    refine ih ?_
    rw [lastAsked_cons, if_neg fun hboth => hk hboth.2] at h
    exact h

/-- **A key has at most as many answers as questions**, and fewer while its newest entry is a
question. -/
theorem Paired.answered_lt (h : Paired log) (k : κ) :
    answeredCount k log ≤ askedCount k log
      ∧ ((latest? k log).any LogEntry.isAsked = true → answeredCount k log < askedCount k log) := by
  induction log with
  | nil => simp [answeredCount, askedCount, latest?]
  | cons e log ih =>
    obtain ⟨hlog, hnew⟩ := paired_cons.1 h
    obtain ⟨hle, hlt⟩ := ih hlog
    simp only [answeredCount, askedCount] at hle hlt ⊢
    rw [List.countP_cons, List.countP_cons, latest?_cons]
    by_cases hk : e.key = k
    · cases e with
      | asked k' a' =>
        have hkey : k' = k := hk
        simp only [LogEntry.isAsked_asked, LogEntry.key_asked, hkey, decide_true, Bool.and_self,
          Bool.not_true, Bool.false_and, if_true, Bool.false_eq_true, if_false]
        omega
      | answered k' a' =>
        have hkey : k' = k := hk
        subst hkey
        have hlatest := hnew k' a' rfl
        have hfewer := hlt (by rw [hlatest]; rfl)
        simp only [LogEntry.isAsked_answered, LogEntry.key_answered, decide_true,
          Bool.and_self, Bool.not_false, Bool.false_and, if_true, Option.any_some,
          Bool.false_eq_true, if_false, false_implies, and_true]
        omega
    simp only [hk, decide_false, Bool.and_false, Bool.false_eq_true, if_false, Nat.add_zero]
    exact ⟨hle, hlt⟩

end MultiAcademy.Lib
