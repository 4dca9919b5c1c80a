import MultiAcademy.Control.ServiceEffects

/-!
# What the worker promises a tenant that is late

Two promises the billing code makes: a tenant keeps working while the grace window of
its subscription runs, and while a courtesy unlock runs.  Dunning keeps the first and
the courtesy pass keeps the second; the unsubscribed pass reads neither, and dunning
does not read the unlock.
-/

namespace MultiAcademy.Control

open MultiAcademy.Lib

/-! ## Runs of the worker -/

def workerStep (cfg : Settings) (e : Time × Stage) (db : Db) : Db := runStage cfg e.1 e.2 db

def passStages (clock : Stage → Time) : List (Time × Stage) :=
  Stage.order.map fun stage => (clock stage, stage)

theorem Reach.workerStep {cfg : Settings} {db : Db} (h : Reach cfg db) (e : Time × Stage) :
    Reach cfg (workerStep cfg e db) := by
  obtain ⟨es, rfl⟩ := h
  exact ⟨es ++ [.stage e.1 e.2], by rw [run_append]; rfl⟩

variable {cfg : Settings} {now : Time} {t : ℕ} {db : Db}

/-- The step takes the tenant from active to suspended. -/
def Suspends (cfg : Settings) (t : ℕ) (db : Db) (e : Time × Stage) : Prop :=
  statusOf db t = some .active ∧ statusOf (workerStep cfg e db) t = some .suspended

instance Suspends.decidable (cfg : Settings) (t : ℕ) (db : Db) (e : Time × Stage) :
    Decidable (Suspends cfg t db e) :=
  inferInstanceAs (Decidable (_ ∧ _))

def stageSuspends (cfg : Settings) (now : Time) (stage : Stage) (t : ℕ) (db : Db) : Bool :=
  match stage with
  | .unsubscribed => unsubscribedHit now (workerGraceDays cfg) t db
  | .courtesyExpiry => courtesyHit now t db
  | .dunning => dunningHit now t db
  | .trial | .generateDue | .wipes => false

/-- The status a stage leaves an active tenant with. -/
theorem stageEffect_status (stage : Stage) {tenant : Tenant} (hactive : tenant.status = .active) :
    (stageEffect cfg now stage t db tenant).status = .suspended
      ↔ stageSuspends cfg now stage t db = true := by
  cases stage with
  | trial =>
    simp only [stageEffect, stageSuspends]
    split <;> simp [restrictIfActive, restrictAtTrialEnd, hactive]
  | generateDue => simp [stageEffect, stageSuspends, hactive]
  | unsubscribed =>
    simp only [stageEffect, stageSuspends]
    split
    · simp [graceExpired, *]
    · simp [*]
  | courtesyExpiry =>
    simp only [stageEffect, stageSuspends]
    split
    · simp [expireCourtesyUnlock_status, *]
    · split <;> simp [clearCourtesyUnlock, *]
  | dunning =>
    simp only [stageEffect, stageSuspends]
    split
    · simp [dunningSuspend, *]
    · simp [*]
  | wipes => simp [stageEffect, stageSuspends, hactive]

/-- **When a stage suspends an active tenant.** -/
theorem suspends_iff {e : Time × Stage} :
    Suspends cfg t db e
      ↔ statusOf db t = some .active ∧ stageSuspends cfg e.1 e.2 t db = true := by
  unfold Suspends
  refine and_congr_right fun hactive => ?_
  obtain ⟨tenant, htenant, hstatus⟩ := statusOf_eq_some.1 hactive
  rw [← stageEffect_status e.2 hstatus, workerStep, statusOf, runStage_tenant, htenant]
  simp

/-! ## The grace window -/

/-- The grace window of the tenant's current subscription runs at `now`. -/
def inGrace (now : Time) (t : ℕ) (db : Db) : Bool :=
  db.subscriptions.existsRow fun sub =>
    isCurrentOf t sub && sub.graceUntil.any fun graceUntil => now < graceUntil

/-- The stages that suspend an active tenant without a look at its grace window. -/
def ignoresGrace (cfg : Settings) (t : ℕ) (db : Db) (e : Time × Stage) : Bool :=
  match e.2 with
  | .unsubscribed => unsubscribedHit e.1 (workerGraceDays cfg) t db
  | .courtesyExpiry => courtesyHit e.1 t db
  | .dunning | .trial | .generateDue | .wipes => false

/-- Dunning that is past its warnings and may still advance is in its grace step, with
the window over. -/
theorem graceUntil_passed {sub : Subscription} (hd : dunnable now sub = true)
    (hw : pastWarnings sub = true) : sub.graceUntil.any (fun gu => now < gu) = false := by
  simp only [pastWarnings, dunnable, Bool.and_eq_true, Bool.or_eq_true, decide_eq_true_eq,
    Bool.not_eq_true', Bool.and_eq_false_iff] at hd hw
  obtain ⟨⟨hnone, hpast⟩, hactive⟩ := hw
  obtain ⟨((hstep | hstep) | hstep) | hstep, hgrace⟩ := hd
  · simp [hstep, DunningStep.orNone] at hnone
  · simp [hstep, DunningStep.orNone] at hpast
  · simpa [hstep] using hgrace
  · exact absurd hstep hactive

/-- **Dunning honours the grace window** of the tenant's one current subscription. -/
theorem dunningHit_of_inGrace (hw : WellFormed db) (hgrace : inGrace now t db = true) :
    dunningHit now t db = false := by
  by_contra hhit
  rw [Bool.not_eq_false] at hhit
  simp only [dunningHit, Table.existsRow_iff, suspendsTenant, Bool.and_eq_true,
    Option.any_eq_true] at hhit
  obtain ⟨i, inv, -, -, -, s, -, sub, hsub, hsuspends⟩ := hhit
  simp only [suspendedByDunning, Bool.and_eq_true, decide_eq_true_eq] at hsuspends
  obtain ⟨⟨⟨ht, hc⟩, hd⟩, hwarn⟩ := hsuspends
  simp only [inGrace, Table.existsRow_iff, Bool.and_eq_true, isCurrentOf,
    Bool.decide_and, decide_eq_true_eq, Bool.decide_eq_true] at hgrace
  obtain ⟨s', sub', hsub', ⟨ht', hc'⟩, hrunning⟩ := hgrace
  -- a tenant has one current subscription, so this is the same one
  have hs : s' = s := hw.current s sub hsub hc s' sub' hsub' hc' (ht'.trans ht.symm)
  subst hs
  rw [hsub] at hsub'
  cases hsub'
  rw [graceUntil_passed hd hwarn] at hrunning
  exact Bool.false_ne_true hrunning

/-- **The worker honours grace exactly along the runs** in which no stage that ignores
the window finds the tenant active inside it. -/
theorem grace_honoured_iff (cfg : Settings) (db : Db) (t : ℕ) (es : List (Time × Stage))
    (hreach : Reach cfg db) :
    Along (workerStep cfg)
        (fun db e => inGrace e.1 t db = true → ¬ Suspends cfg t db e) db es
      ↔ Along (workerStep cfg)
        (fun db e => inGrace e.1 t db = true → statusOf db t = some .active →
          ignoresGrace cfg t db e = false) db es := by
  refine along_congr (I := Reach cfg) (D := fun _ => True) (fun _ e _ h => h.workerStep e) ?_
    (fun _ _ => trivial) hreach
  intro db e _ hreach
  refine imp_congr_right fun hgrace => ?_
  rw [suspends_iff, not_and, Bool.not_eq_true]
  refine imp_congr_right fun _ => ?_
  obtain ⟨now, stage⟩ := e
  cases stage with
  | dunning =>
    simp [stageSuspends, ignoresGrace, dunningHit_of_inGrace hreach.books.wellFormed hgrace]
  | _ => rfl

/-- The passes of days 20 and 21, after the invoice fell due on day 14. -/
def Example.twoPasses : List (Time × Stage) :=
  passStages (fun _ => day 20) ++ passStages fun _ => day 21

/-- The equivalence at the example school, over two passes. -/
theorem grace_honoured_iff_example :
    Along (workerStep Example.settings)
        (fun db e => inGrace e.1 0 db = true → ¬ Suspends Example.settings 0 db e)
        (run (step Example.settings) {} Example.opened) Example.twoPasses
      ↔ Along (workerStep Example.settings)
        (fun db e => inGrace e.1 0 db = true → statusOf db 0 = some .active →
          ignoresGrace Example.settings 0 db e = false)
        (run (step Example.settings) {} Example.opened) Example.twoPasses :=
  grace_honoured_iff Example.settings _ 0 Example.twoPasses ⟨Example.opened, rfl⟩

/-- Grace is not always honoured: the pass after the one that opens the window suspends
the tenant inside it. -/
theorem not_grace_honoured :
    ¬ ∀ (cfg : Settings) (db : Db) (t : ℕ) (times : List Time), Reach cfg db →
      times.Pairwise (· ≤ ·) →
      Along (workerStep cfg) (fun db e => inGrace e.1 t db = true → ¬ Suspends cfg t db e) db
        (times.flatMap fun now => passStages fun _ => now) := by
  intro h
  have hkept := h Example.settings (run (step Example.settings) {} Example.opened) 0
    [Example.day 20, Example.day 21] ⟨Example.opened, rfl⟩ (by decide)
  revert hkept
  decide

/-! ## The courtesy unlock -/

/-- The stages that suspend an active tenant without a look at its courtesy unlock. -/
def ignoresUnlock (cfg : Settings) (t : ℕ) (db : Db) (e : Time × Stage) : Bool :=
  match e.2 with
  | .unsubscribed => unsubscribedHit e.1 (workerGraceDays cfg) t db
  | .dunning => dunningHit e.1 t db
  | .courtesyExpiry | .trial | .generateDue | .wipes => false

/-- The tenant's courtesy unlock runs until `ends`. -/
abbrev unlockedUntil (ends : Time) (t : ℕ) (db : Db) : Prop :=
  (db.tenants[t]?).map (·.courtesyUnlockUntil) = some (some ends)

theorem courtesyUnlockEnded_of_unlocked {ends : Time} (h : unlockedUntil ends t db)
    (hnow : now < ends) : (db.tenants[t]?).any (courtesyUnlockEnded now) = false := by
  simp only [unlockedUntil, Option.map_eq_some_iff] at h
  obtain ⟨tenant, htenant, hends⟩ := h
  simp [htenant, courtesyUnlockEnded, hends, hnow]

/-- No stage touches an unlock that still runs. -/
theorem unlockedUntil_step {ends : Time} {e : Time × Stage} (hnow : e.1 < ends)
    (h : unlockedUntil ends t db) : unlockedUntil ends t (workerStep cfg e db) := by
  have hended := courtesyUnlockEnded_of_unlocked h hnow
  have hkeeps : ∀ tenant, (stageEffect cfg e.1 e.2 t db tenant).courtesyUnlockUntil
      = tenant.courtesyUnlockUntil := by
    intro tenant
    cases hstage : e.2 with
    | courtesyExpiry => simp [stageEffect, courtesyHit, unlockCleared, hended]
    | trial =>
      simp only [stageEffect]
      split
      · unfold restrictIfActive
        split <;> rfl
      · rfl
    | unsubscribed => simp only [stageEffect]; split <;> rfl
    | dunning => simp only [stageEffect]; split <;> rfl
    | generateDue => rfl
    | wipes => rfl
  simp only [unlockedUntil, workerStep, runStage_tenant, Option.map_map, Function.comp_def,
    hkeeps]
  exact h

/-- **The worker honours a courtesy unlock exactly along the runs** in which no stage
that ignores the unlock finds the tenant active. -/
theorem unlock_honoured_iff (cfg : Settings) (db : Db) (t : ℕ) (ends : Time)
    (es : List (Time × Stage)) (hends : unlockedUntil ends t db) (htimes : ∀ e ∈ es, e.1 < ends) :
    Along (workerStep cfg) (fun db e => ¬ Suspends cfg t db e) db es
      ↔ Along (workerStep cfg)
        (fun db e => statusOf db t = some .active → ignoresUnlock cfg t db e = false) db es := by
  refine along_congr (I := unlockedUntil ends t) (D := fun e => e.1 < ends)
    (fun _ _ hnow h => unlockedUntil_step hnow h) ?_ htimes hends
  intro db e hnow h
  rw [suspends_iff, not_and, Bool.not_eq_true]
  refine imp_congr_right fun _ => ?_
  have hended := courtesyUnlockEnded_of_unlocked h hnow
  obtain ⟨now, stage⟩ := e
  cases stage with
  | courtesyExpiry => simp [stageSuspends, ignoresUnlock, courtesyHit, hended]
  | _ => rfl

/-- The example school after the two passes: suspended on day 21. -/
def Example.suspendedRun : List Event := opened ++ twoPasses.map fun e => .stage e.1 e.2

def Example.suspended : Db := run (step settings) {} suspendedRun

/-- The school is unlocked on day 22, for three days. -/
def Example.unlockedRun : List Event :=
  suspendedRun ++ [.staff (day 22) operator (.courtesyUnlock goodwill)]

def Example.unlocked : Db := run (step settings) {} unlockedRun

/-- The equivalence at the unlocked school, over the next pass. -/
theorem unlock_honoured_iff_example :
    Along (workerStep Example.settings) (fun db e => ¬ Suspends Example.settings 0 db e)
        Example.unlocked (passStages fun _ => Example.day 23)
      ↔ Along (workerStep Example.settings)
        (fun db e => statusOf db 0 = some .active → ignoresUnlock Example.settings 0 db e = false)
        Example.unlocked (passStages fun _ => Example.day 23) :=
  unlock_honoured_iff Example.settings Example.unlocked 0 (Example.day 25) _
    (by decide) (by decide)

/-- A courtesy unlock is not always honoured: the next pass of the worker suspends the
tenant again. -/
theorem not_unlock_honoured :
    ¬ ∀ (cfg : Settings) (db : Db) (t : ℕ) (ends : Time) (times : List Time), Reach cfg db →
      unlockedUntil ends t db → (∀ now ∈ times, now < ends) → times.Pairwise (· ≤ ·) →
      Along (workerStep cfg) (fun db e => ¬ Suspends cfg t db e) db
        (times.flatMap fun now => passStages fun _ => now) := by
  intro h
  have hkept := h Example.settings Example.unlocked 0 (Example.day 25) [Example.day 23]
    ⟨Example.unlockedRun, rfl⟩ (by decide +kernel) (by decide) (by decide)
  revert hkept
  decide +kernel

end MultiAcademy.Control
