import MultiAcademy.Lib.Run

/-!
# Transactions that lock one row

Every caller runs one transaction of the same kind: it takes the lock of a row, reads the
row, decides on what it read and on what is committed, and then commits, still holding the
lock, or aborts and leaves nothing behind.  A schedule is a list of callers, each with the
time of its next step.

When a decision commits only on an open row and closes it, and no write touches the rows
of other keys, every key sees at most one commit, whatever the schedule.
-/

namespace MultiAcademy.Lib.Locked

universe u
variable {ι κ τ ρ σ α : Type u}

/-- What a decision comes to. -/
inductive Act (σ α : Type u)
  | abort (answer : α)
  | commit (write : σ → σ) (answer : α)

/-- A family of transactions over a store `σ` that lock one row each. -/
structure Protocol (ι κ τ ρ σ α : Type u) where
  /-- The key of the row a caller locks. -/
  key : ι → κ
  /-- The row of a key. -/
  read : κ → σ → Option ρ
  /-- The answer of a caller whose row does not exist. -/
  missing : α
  /-- The decision of a caller at a time, on the row it holds and what is committed. -/
  act : ι → τ → ρ → σ → Act σ α

/-- A decision that commits. -/
structure Commit (ι τ ρ α : Type u) where
  call : ι
  time : τ
  row : ρ
  answer : α

/-- Where a caller is. -/
inductive Phase (ι τ ρ σ α : Type u)
  | waiting
  | holding (row : ρ)
  | committing (entry : Commit ι τ ρ α) (write : σ → σ)
  | answered (answer : α)

/-- The row a caller holds. -/
def Phase.row? : Phase ι τ ρ σ α → Option ρ
  | .holding row => some row
  | .committing entry _ => some entry.row
  | .waiting | .answered _ => none

/-- The committed store, who holds each lock, where each caller is, and the commits made
so far. -/
structure State (ι κ τ ρ σ α : Type u) where
  db : σ
  holder : κ → Option ι
  phase : ι → Phase ι τ ρ σ α
  log : List (Commit ι τ ρ α)

/-- Nobody has started. -/
def State.start (db : σ) : State ι κ τ ρ σ α :=
  { db, holder := fun _ => none, phase := fun _ => .waiting, log := [] }

namespace Protocol

/-- A commit closes the open row it was decided on, and writes no row of another key. -/
structure Lawful (P : Protocol ι κ τ ρ σ α) (isOpen : ρ → Prop) : Prop where
  opens : ∀ {i t row db write answer}, P.act i t row db = .commit write answer → isOpen row
  closes : ∀ {i t row db write answer}, P.act i t row db = .commit write answer →
    ∀ db', P.read (P.key i) db' = some row →
      ∀ row', P.read (P.key i) (write db') = some row' → ¬ isOpen row'
  frame : ∀ {i t row db write answer}, P.act i t row db = .commit write answer →
    ∀ db' k, k ≠ P.key i → P.read k (write db') = P.read k db'

/-- The entry and the write are those of a decision to commit. -/
def Decided (P : Protocol ι κ τ ρ σ α) (entry : Commit ι τ ρ α) (write : σ → σ) : Prop :=
  ∃ db, P.act entry.call entry.time entry.row db = .commit write entry.answer

/-- The locks are respected: who holds a row holds its lock, and the row as committed. -/
structure Held (P : Protocol ι κ τ ρ σ α) (s : State ι κ τ ρ σ α) : Prop where
  lock : ∀ i row, (s.phase i).row? = some row →
    s.holder (P.key i) = some i ∧ P.read (P.key i) s.db = some row
  decided : ∀ i entry write, s.phase i = .committing entry write →
    entry.call = i ∧ P.Decided entry write

/-- What is committed, against the store at the start. -/
structure Orderly (P : Protocol ι κ τ ρ σ α) (isOpen : ρ → Prop) (start : σ)
    (s : State ι κ τ ρ σ α) : Prop where
  /-- Every commit was decided on the row its key had at the start. -/
  made : ∀ entry ∈ s.log, P.read (P.key entry.call) start = some entry.row
    ∧ ∃ write, P.Decided entry write
  closed : ∀ entry ∈ s.log, ∀ row, P.read (P.key entry.call) s.db = some row → ¬ isOpen row
  untouched : ∀ k, (∀ entry ∈ s.log, P.key entry.call ≠ k) → P.read k s.db = P.read k start
  once : s.log.Pairwise fun a b => P.key a.call ≠ P.key b.call
  answered : ∀ entry ∈ s.log, s.phase entry.call = .answered entry.answer

variable {P : Protocol ι κ τ ρ σ α} {isOpen : ρ → Prop} {start : σ} {s s' : State ι κ τ ρ σ α}

theorem held_start (P : Protocol ι κ τ ρ σ α) (db : σ) : P.Held (State.start db) := by
  refine ⟨?_, ?_⟩
  · intro i row h
    cases h
  intro i entry write h
  cases h

theorem orderly_start (P : Protocol ι κ τ ρ σ α) (db : σ) :
    P.Orderly isOpen db (State.start db) := by
  refine ⟨?_, ?_, fun _ _ => rfl, List.Pairwise.nil, ?_⟩ <;>
    · intro entry h
      cases h

/-- Two callers that hold rows of one key are the same caller. -/
theorem Held.unique (h : P.Held s) {i j : ι} {row row' : ρ} (hi : (s.phase i).row? = some row)
    (hj : (s.phase j).row? = some row') (hkey : P.key i = P.key j) : i = j := by
  have hholder := (h.lock i row hi).1
  rw [hkey, (h.lock j row' hj).1] at hholder
  exact (Option.some.inj hholder).symm

/-- A caller that is about to commit holds an open row. -/
theorem Held.row_of_committing (hP : P.Lawful isOpen) (h : P.Held s) {i : ι}
    {entry : Commit ι τ ρ α} {write : σ → σ} (hphase : s.phase i = .committing entry write) :
    P.read (P.key i) s.db = some entry.row ∧ isOpen entry.row := by
  refine ⟨(h.lock i entry.row (by rw [hphase]; rfl)).2, ?_⟩
  obtain ⟨-, db, hact⟩ := h.decided i entry write hphase
  exact hP.opens hact

/-- **An open row has not moved since the start.** -/
theorem Orderly.start_of_open (h : P.Orderly isOpen start s) {k : κ} {row : ρ}
    (hread : P.read k s.db = some row) (hopen : isOpen row) :
    P.read k start = some row ∧ ∀ entry ∈ s.log, P.key entry.call ≠ k := by
  have hfresh : ∀ entry ∈ s.log, P.key entry.call ≠ k := by
    rintro entry hmem rfl
    exact h.closed entry hmem row hread hopen
  exact ⟨h.untouched k hfresh ▸ hread, hfresh⟩

/-- A key sees at most one commit. -/
theorem Orderly.length_le_one (h : P.Orderly isOpen start s) {k : κ}
    {p : Commit ι τ ρ α → Bool} (hp : ∀ entry, p entry = true → P.key entry.call = k) :
    (s.log.filter p).length ≤ 1 := by
  have honce := h.once.filter p
  have hkey : ∀ entry ∈ s.log.filter p, P.key entry.call = k :=
    fun entry hmem => hp entry (List.mem_filter.1 hmem).2
  generalize s.log.filter p = entries at honce hkey
  match entries with
  | [] => exact Nat.zero_le 1
  | [entry] => exact Nat.le_refl 1
  | a :: b :: rest =>
    have hne : P.key a.call ≠ P.key b.call :=
      (List.pairwise_cons.1 honce).1 b List.mem_cons_self
    have ha : P.key a.call = k := hkey a List.mem_cons_self
    have hb : P.key b.call = k := hkey b (List.mem_cons_of_mem a List.mem_cons_self)
    exact absurd (ha.trans hb.symm) hne

/-! ## The steps -/

variable [DecidableEq ι] [DecidableEq κ] {e : ι × τ}

/-- The next step of caller `e.1`, at time `e.2`. -/
def step (P : Protocol ι κ τ ρ σ α) (e : ι × τ) (s : State ι κ τ ρ σ α) : State ι κ τ ρ σ α :=
  let goto := Function.update s.phase e.1
  let release := Function.update s.holder (P.key e.1) none
  match s.phase e.1 with
  | .waiting =>
    match P.read (P.key e.1) s.db, s.holder (P.key e.1) with
    | none, _ => { s with phase := goto (.answered P.missing) }
    | some row, none =>
      { s with
        holder := Function.update s.holder (P.key e.1) (some e.1)
        phase := goto (.holding row) }
    | some _, some _ => s
  | .holding row =>
    match P.act e.1 e.2 row s.db with
    | .abort answer => { s with holder := release, phase := goto (.answered answer) }
    | .commit write answer =>
      { s with phase := goto (.committing ⟨e.1, e.2, row, answer⟩ write) }
  | .committing entry write =>
    { db := write s.db, holder := release, phase := goto (.answered entry.answer)
      log := s.log ++ [entry] }
  | .answered _ => s

/-- **What one step can do.** -/
inductive Step (P : Protocol ι κ τ ρ σ α) (e : ι × τ) (s : State ι κ τ ρ σ α) :
    State ι κ τ ρ σ α → Prop
  /-- Blocked at the lock, or done. -/
  | idle : Step P e s s
  | missing : s.phase e.1 = .waiting →
      Step P e s { s with phase := Function.update s.phase e.1 (.answered P.missing) }
  | take (row : ρ) : s.phase e.1 = .waiting → P.read (P.key e.1) s.db = some row →
      s.holder (P.key e.1) = none →
      Step P e s
        { s with
          holder := Function.update s.holder (P.key e.1) (some e.1)
          phase := Function.update s.phase e.1 (.holding row) }
  | abort (row : ρ) (answer : α) : s.phase e.1 = .holding row →
      P.act e.1 e.2 row s.db = .abort answer →
      Step P e s
        { s with
          holder := Function.update s.holder (P.key e.1) none
          phase := Function.update s.phase e.1 (.answered answer) }
  | decide (row : ρ) (write : σ → σ) (answer : α) : s.phase e.1 = .holding row →
      P.act e.1 e.2 row s.db = .commit write answer →
      Step P e s
        { s with
          phase := Function.update s.phase e.1 (.committing ⟨e.1, e.2, row, answer⟩ write) }
  | commit (entry : Commit ι τ ρ α) (write : σ → σ) : s.phase e.1 = .committing entry write →
      Step P e s
        { db := write s.db
          holder := Function.update s.holder (P.key e.1) none
          phase := Function.update s.phase e.1 (.answered entry.answer)
          log := s.log ++ [entry] }

theorem step_spec (P : Protocol ι κ τ ρ σ α) (e : ι × τ) (s : State ι κ τ ρ σ α) :
    P.Step e s (P.step e s) := by
  unfold step
  cases hphase : s.phase e.1 with
  | waiting =>
    cases hread : P.read (P.key e.1) s.db with
    | none => exact .missing hphase
    | some row =>
      cases hholder : s.holder (P.key e.1) with
      | none => exact .take row hphase hread hholder
      | some i => exact .idle
  | holding row =>
    cases hact : P.act e.1 e.2 row s.db with
    | abort answer =>
      simp only [hact]
      exact .abort row answer hphase hact
    | commit write answer =>
      simp only [hact]
      exact .decide row write answer hphase hact
  | committing entry write => exact .commit entry write hphase
  | answered answer => exact .idle

/-! ## The locks -/

/-- A caller that holds a row releases its lock, and writes no row of another key. -/
theorem Held.release (h : P.Held s) {i : ι} {row : ρ} (hi : (s.phase i).row? = some row)
    {db : σ} (hdb : ∀ k, k ≠ P.key i → P.read k db = P.read k s.db) (answer : α)
    (log : List (Commit ι τ ρ α)) :
    P.Held ⟨db, Function.update s.holder (P.key i) none,
      Function.update s.phase i (.answered answer), log⟩ := by
  refine ⟨?_, ?_⟩
  · intro j row' hj
    simp only [Function.update_apply] at hj ⊢
    by_cases hji : j = i
    · rw [if_pos hji] at hj
      cases hj
    rw [if_neg hji] at hj
    have hkey : P.key j ≠ P.key i := fun hkey => hji (h.unique hj hi hkey)
    rw [if_neg hkey, hdb _ hkey]
    exact h.lock j row' hj
  intro j entry write hj
  simp only [Function.update_apply] at hj
  by_cases hji : j = i
  · rw [if_pos hji] at hj
    cases hj
  rw [if_neg hji] at hj
  exact h.decided j entry write hj

theorem Held.step (hP : P.Lawful isOpen) (h : P.Held s) (hstep : P.Step e s s') : P.Held s' := by
  cases hstep with
  | idle => exact h
  | missing hphase =>
    refine ⟨?_, ?_⟩
    · intro i row hi
      simp only [Function.update_apply] at hi ⊢
      split at hi
      · cases hi
      · exact h.lock i row hi
    intro i entry write hi
    simp only [Function.update_apply] at hi
    split at hi
    · cases hi
    · exact h.decided i entry write hi
  | take row hphase hread hfree =>
    refine ⟨?_, ?_⟩
    · intro i row' hi
      simp only [Function.update_apply] at hi ⊢
      by_cases hie : i = e.1
      · subst hie
        rw [if_pos rfl] at hi
        cases hi
        exact ⟨if_pos rfl, hread⟩
      rw [if_neg hie] at hi
      obtain ⟨hholder, hrow⟩ := h.lock i row' hi
      -- the lock was free, so nobody held a row of this key
      have hkey : P.key i ≠ P.key e.1 := by
        intro hkey
        rw [hkey, hfree] at hholder
        cases hholder
      rw [if_neg hkey]
      exact ⟨hholder, hrow⟩
    intro i entry write hi
    simp only [Function.update_apply] at hi
    split at hi
    · cases hi
    · exact h.decided i entry write hi
  | abort row answer hphase hact =>
    exact h.release (by rw [hphase]; rfl) (fun _ _ => rfl) answer s.log
  | decide row write answer hphase hact =>
    refine ⟨?_, ?_⟩
    · intro i row' hi
      simp only [Function.update_apply] at hi ⊢
      by_cases hie : i = e.1
      · subst hie
        rw [if_pos rfl] at hi
        cases hi
        exact h.lock e.1 row (by rw [hphase]; rfl)
      rw [if_neg hie] at hi
      exact h.lock i row' hi
    intro i entry write' hi
    simp only [Function.update_apply] at hi
    by_cases hie : i = e.1
    · rw [if_pos hie] at hi
      cases hi
      exact ⟨hie.symm, s.db, hact⟩
    rw [if_neg hie] at hi
    exact h.decided i entry write' hi
  | commit entry write hphase =>
    obtain ⟨hcall, db, hact⟩ := h.decided e.1 entry write hphase
    rw [hcall] at hact
    exact h.release (by rw [hphase]; rfl) (fun k hk => hP.frame hact s.db k hk) entry.answer _

/-! ## The commits -/

omit [DecidableEq κ] in
/-- A step that commits nothing keeps the record of the commits. -/
theorem Orderly.goto (h : P.Orderly isOpen start s)
    (hphase : ∀ answer, s.phase e.1 ≠ .answered answer) (holder : κ → Option ι)
    (phase : Phase ι τ ρ σ α) :
    P.Orderly isOpen start ⟨s.db, holder, Function.update s.phase e.1 phase, s.log⟩ := by
  refine ⟨h.made, h.closed, h.untouched, h.once, ?_⟩
  intro entry hmem
  have hanswered := h.answered entry hmem
  have hne : entry.call ≠ e.1 := by
    intro heq
    exact hphase entry.answer (heq ▸ hanswered)
  exact (Function.update_of_ne hne _ _).trans hanswered

omit [DecidableEq κ] in
theorem Orderly.commit (hP : P.Lawful isOpen) (hheld : P.Held s) (h : P.Orderly isOpen start s)
    {i : ι} {entry : Commit ι τ ρ α} {write : σ → σ} (hphase : s.phase i = .committing entry write)
    (holder : κ → Option ι) :
    P.Orderly isOpen start
      ⟨write s.db, holder, Function.update s.phase i (.answered entry.answer),
        s.log ++ [entry]⟩ := by
  obtain ⟨hread, hopen⟩ := hheld.row_of_committing hP hphase
  obtain ⟨hstart, hfresh⟩ := h.start_of_open hread hopen
  obtain ⟨rfl, hdecided⟩ := hheld.decided i entry write hphase
  obtain ⟨db, hact⟩ := hdecided
  refine ⟨?_, ?_, ?_, ?_, ?_⟩
  · intro entry' hmem
    rcases List.mem_append.1 hmem with hmem | hmem
    · exact h.made entry' hmem
    cases List.mem_singleton.1 hmem
    exact ⟨hstart, write, db, hact⟩
  · intro entry' hmem row hrow
    rcases List.mem_append.1 hmem with hmem | hmem
    · rw [hP.frame hact _ _ (hfresh entry' hmem)] at hrow
      exact h.closed entry' hmem row hrow
    cases List.mem_singleton.1 hmem
    exact hP.closes hact s.db hread row hrow
  · intro k hk
    rw [hP.frame hact _ _ fun heq => hk entry (by simp) heq.symm]
    exact h.untouched k fun entry' hmem => hk entry' (List.mem_append_left _ hmem)
  · rw [List.pairwise_append]
    refine ⟨h.once, List.pairwise_singleton _ _, ?_⟩
    intro a ha b hb
    cases List.mem_singleton.1 hb
    exact hfresh a ha
  intro entry' hmem
  rcases List.mem_append.1 hmem with hmem | hmem
  · have hne : entry'.call ≠ entry.call := fun heq => hfresh entry' hmem (by rw [heq])
    exact (Function.update_of_ne hne _ _).trans (h.answered entry' hmem)
  cases List.mem_singleton.1 hmem
  exact Function.update_self _ _ _

theorem Orderly.step (hP : P.Lawful isOpen) (hheld : P.Held s) (h : P.Orderly isOpen start s)
    (hstep : P.Step e s s') : P.Orderly isOpen start s' := by
  cases hstep with
  | idle => exact h
  | missing hphase => exact h.goto (by simp [hphase]) _ _
  | take row hphase hread hfree => exact h.goto (by simp [hphase]) _ _
  | abort row answer hphase hact => exact h.goto (by simp [hphase]) _ _
  | decide row write answer hphase hact => exact h.goto (by simp [hphase]) _ _
  | commit entry write hphase => exact h.commit hP hheld hphase _

/-! ## Every schedule -/

/-- **Every schedule is orderly.** -/
theorem orderly_run (hP : P.Lawful isOpen) (db : σ) (es : List (ι × τ)) :
    P.Held (run P.step (State.start db) es)
      ∧ P.Orderly isOpen db (run P.step (State.start db) es) := by
  refine run_invariant (I := fun s => P.Held s ∧ P.Orderly isOpen db s) ?_
    ⟨held_start P db, orderly_start P db⟩ es
  rintro s e ⟨hheld, horderly⟩
  exact ⟨hheld.step hP (P.step_spec e s), horderly.step hP hheld (P.step_spec e s)⟩

/-- A step writes what is committed only by a commit of its caller, which it records. -/
theorem Step.db_or_commit (hheld : P.Held s) (hstep : P.Step e s s') :
    (s'.db = s.db ∧ s'.log = s.log)
      ∨ ∃ entry, entry.call = e.1 ∧ s'.log = s.log ++ [entry] := by
  cases hstep with
  | commit entry write hphase => exact Or.inr ⟨entry, (hheld.decided _ _ _ hphase).1, rfl⟩
  | _ => exact Or.inl ⟨rfl, rfl⟩

theorem log_prefix_step (P : Protocol ι κ τ ρ σ α) (e : ι × τ) (s : State ι κ τ ρ σ α) :
    s.log <+: (P.step e s).log := by
  have hstep := P.step_spec e s
  revert hstep
  generalize P.step e s = s'
  intro hstep
  cases hstep with
  | commit entry write hphase => exact List.prefix_append _ _
  | _ => exact List.prefix_refl _

/-- Commits are never undone. -/
theorem log_prefix_run (P : Protocol ι κ τ ρ σ α) (s : State ι κ τ ρ σ α) (es : List (ι × τ)) :
    s.log <+: (run P.step s es).log := by
  refine run_invariant (I := fun s' : State ι κ τ ρ σ α => s.log <+: s'.log) ?_
    (List.prefix_refl _) es
  intro s' e h
  exact h.trans (log_prefix_step P e s')

/-- **A caller whose transaction did not commit wrote nothing**, at any of its steps. -/
theorem db_step_of_not_logged (hP : P.Lawful isOpen) (db : σ) (pre post : List (ι × τ)) (e : ι × τ)
    (hnot : ∀ entry ∈ (run P.step (State.start db) (pre ++ e :: post)).log, entry.call ≠ e.1) :
    (P.step e (run P.step (State.start db) pre)).db = (run P.step (State.start db) pre).db := by
  obtain ⟨hheld, -⟩ := orderly_run hP db pre
  rcases (P.step_spec e _).db_or_commit hheld with ⟨h, -⟩ | ⟨entry, hcall, hlog⟩
  · exact h
  have hmem : entry ∈ (run P.step (State.start db) (pre ++ e :: post)).log := by
    rw [run_append, run_cons]
    refine (log_prefix_run P _ post).subset ?_
    rw [hlog]
    exact List.mem_append_right _ (List.mem_singleton_self entry)
  exact absurd hcall (hnot entry hmem)

/-- **A closed row stays as it is**: once it is, its key sees no further commit. -/
theorem not_logged_of_closed (hP : P.Lawful isOpen) (db : σ) (pre post : List (ι × τ)) {k : κ}
    {row : ρ} (hread : P.read k (run P.step (State.start db) pre).db = some row)
    (hclosed : ¬ isOpen row) :
    ∃ more, (run P.step (State.start db) (pre ++ post)).log
        = (run P.step (State.start db) pre).log ++ more
      ∧ ∀ entry ∈ more, P.key entry.call ≠ k := by
  obtain ⟨-, hpre⟩ := orderly_run hP db pre
  obtain ⟨-, hend⟩ := orderly_run hP db (pre ++ post)
  obtain ⟨more, hmore⟩ : (run P.step (State.start db) pre).log
      <+: (run P.step (State.start db) (pre ++ post)).log := by
    rw [run_append]
    exact log_prefix_run P _ post
  refine ⟨more, hmore.symm, ?_⟩
  rintro entry hmem rfl
  have honce := hend.once
  have hlogged := hend.made entry
  rw [← hmore, List.pairwise_append] at honce
  rw [← hmore] at hlogged
  -- no earlier commit is of this key, so the row is the one of the start
  have hstart : P.read (P.key entry.call) db = some row := by
    rw [← hpre.untouched _ fun earlier hearlier => honce.2.2 earlier hearlier entry hmem]
    exact hread
  obtain ⟨hmade, write, db', hact⟩ := hlogged (List.mem_append_right _ hmem)
  rw [hstart] at hmade
  cases hmade
  exact hclosed (hP.opens hact)

end Protocol
end MultiAcademy.Lib.Locked
