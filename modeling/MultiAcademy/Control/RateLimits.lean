import MultiAcademy.Lib.OrderedMap
import MultiAcademy.Lib.Run

/-!
# Two sliding windows

`services/rate_limit.py`.  A process keeps, for each key, the times of the requests it has let
through; Redis keeps those of all that were made.
-/

namespace MultiAcademy.Control.RateLimit

open MultiAcademy.Lib

/-! ## The limiters -/

/-- The buckets of a process, and when it last looked for idle ones. -/
structure Buckets where
  windows : OrderedMap String (List ℚ) := .empty
  lastSweep : ℚ := 0

/-- The times under a key; a key that is not there has an empty deque. -/
def Buckets.window (b : Buckets) (key : String) : List ℚ := (b.windows.get? key).getD []

def prune (now windowSeconds : ℚ) (window : List ℚ) : List ℚ :=
  window.dropWhile fun t => t < now - windowSeconds

/-- Drop the buckets with no recent activity. -/
def sweep (now windowSeconds : ℚ) (b : Buckets) : Buckets :=
  if now - b.lastSweep < 120 ∧ b.windows.size < 50000 then b
  else
    { lastSweep := now
      windows := b.windows.removeWhere fun key =>
        (b.window key).getLast?.all fun t => t < now - windowSeconds }

/-- A request that is counted, with the identity of the pipeline that counts it; Redis may fail to
answer. -/
structure LimitRequest where
  bucketKey : String
  now : ℚ
  pipe : ℕ := 0
  fails : Bool := false

/-- The member of the sorted set, with its score. -/
def LimitRequest.member (r : LimitRequest) : ℚ × ℕ := (r.now, r.pipe)

abbrev SortedSets := String → Finset (ℚ × ℕ)

def checkMemory (windowSeconds : ℚ) (r : LimitRequest) (limit : ℤ) (b : Buckets) :
    (Bool × ℤ) × Buckets :=
  let b := sweep r.now windowSeconds b
  let window := prune r.now windowSeconds (b.window r.bucketKey)
  if limit ≤ window.length then
    ((false, 0), { b with windows := b.windows.set r.bucketKey window })
  else
    ((true, max 0 (limit - (window ++ [r.now]).length)),
      { b with windows := b.windows.set r.bucketKey (window ++ [r.now]) })

def checkRedis (windowSeconds : ℚ) (r : LimitRequest) (limit : ℤ) (sets : SortedSets) :
    (Bool × ℤ) × SortedSets :=
  if r.fails then ((true, limit), sets)
  else
    let kept := (sets r.bucketKey).filter fun m => ¬ (0 ≤ m.1 ∧ m.1 ≤ r.now - windowSeconds)
    let entries := insert r.member kept
    (if limit < entries.card then (false, 0) else (true, max 0 (limit - entries.card)),
      fun key => if key = r.bucketKey then entries else sets key)

/-- A limit that is not positive lets everything through. -/
def checkRateLimit {σ : Type} (check : ℤ → σ → (Bool × ℤ) × σ) (limit : ℤ) (s : σ) :
    (Bool × ℤ) × σ :=
  if limit ≤ 0 then ((true, 0), s) else check limit s

/-! ## Both limiters side by side -/

structure LimitAnswer where
  request : LimitRequest
  memory : Bool
  redis : Bool

structure Limiters where
  buckets : Buckets := {}
  sets : SortedSets := fun _ => ∅
  log : List LimitAnswer := []

/-- Both are asked; the limit is that of the key's budget. -/
def limitStep (limit : String → ℤ) (windowSeconds : ℚ) (r : LimitRequest) (s : Limiters) :
    Limiters :=
  let memory := checkRateLimit (checkMemory windowSeconds r) (limit r.bucketKey) s.buckets
  let redis := checkRateLimit (checkRedis windowSeconds r) (limit r.bucketKey) s.sets
  { buckets := memory.2, sets := redis.2, log := s.log ++ [⟨r, memory.1.1, redis.1.1⟩] }

/-- The times of the requests of a key that the memory has let through. -/
def admitted (key : String) (log : List LimitAnswer) : List ℚ :=
  (log.filter fun a => a.request.bucketKey = key && a.memory).map fun a => a.request.now

/-- The requests of a key that were made. -/
def asked (key : String) (log : List LimitAnswer) : Finset (ℚ × ℕ) :=
  ((log.filter fun a => a.request.bucketKey = key).map fun a => a.request.member).toFinset

/-- No window of the length has more requests let through than the limit. -/
def Bounded (limit : String → ℤ) (windowSeconds : ℚ) (s : Limiters) : Prop :=
  ∀ key, 0 < limit key → ∀ t,
    (((admitted key s.log).countP fun now => t ≤ now ∧ now ≤ t + windowSeconds : ℕ) : ℤ)
      ≤ limit key

def Agree (s : Limiters) : Prop := ∀ a ∈ s.log, a.memory = a.redis

/-- The clock does not go back, and Redis answers. -/
def Regular (s : Limiters) (r : LimitRequest) : Prop :=
  0 ≤ r.now ∧ r.fails = false ∧ ∀ a ∈ s.log, a.request.now ≤ r.now

/-- With the request, those made after the window began are within the limit exactly when those let
through since then leave room for one. -/
def Counted (limit : String → ℤ) (windowSeconds : ℚ) (s : Limiters) (r : LimitRequest) : Prop :=
  0 < limit r.bucketKey →
    (((insert r.member ((asked r.bucketKey s.log).filter fun m => r.now - windowSeconds < m.1)).card
        : ℤ) ≤ limit r.bucketKey
      ↔ (((admitted r.bucketKey s.log).countP fun now => r.now - windowSeconds ≤ now : ℕ) : ℤ)
        < limit r.bucketKey)

/-! ## What the limiters remember -/

variable {limit : String → ℤ} {w : ℚ} {s : Limiters} {r : LimitRequest}

/-- The memory has dropped of the requests let through only what some request found too old, and
so has Redis of those made. -/
structure Tracked (limit : String → ℤ) (w : ℚ) (s : Limiters) : Prop where
  ordered : s.log.Pairwise fun a b => a.request.now ≤ b.request.now
  positive : ∀ a ∈ s.log, 0 ≤ a.request.now
  letThrough : ∀ key, 0 < limit key → ∃ old, admitted key s.log = old ++ s.buckets.window key
    ∧ ∀ t ∈ old, ∃ a ∈ s.log, t < a.request.now - w
  made : ∀ key, 0 < limit key → s.sets key ⊆ asked key s.log
  gone : ∀ key, 0 < limit key → ∀ m ∈ asked key s.log,
    m ∈ s.sets key ∨ ∃ a ∈ s.log, m.1 ≤ a.request.now - w

theorem mem_asked {key : String} {log : List LimitAnswer} {m : ℚ × ℕ} :
    m ∈ asked key log ↔ ∃ a ∈ log, a.request.bucketKey = key ∧ a.request.member = m := by
  simp [asked, and_assoc]

theorem Tracked.sorted (h : Tracked limit w s) {key : String} (hlimit : 0 < limit key) :
    (s.buckets.window key).Pairwise (· ≤ ·) := by
  obtain ⟨old, hsplit, -⟩ := h.letThrough key hlimit
  have hall : (admitted key s.log).Pairwise (· ≤ ·) :=
    (h.ordered.sublist List.filter_sublist).map _ fun _ _ hle => hle
  rw [hsplit] at hall
  exact (List.pairwise_append.1 hall).2.1

/-- A sweep leaves a bucket, or takes one whose times are all too old. -/
theorem window_sweep (w now : ℚ) {b : Buckets} {key : String}
    (hsorted : (b.window key).Pairwise (· ≤ ·)) :
    ∃ old, b.window key = old ++ (sweep now w b).window key ∧ ∀ t ∈ old, t < now - w := by
  unfold sweep
  split
  · exact ⟨[], rfl, by simp⟩
  rw [Buckets.window, Buckets.window, OrderedMap.get?_removeWhere]
  split
  · rename_i hstale
    refine ⟨b.window key, (List.append_nil _).symm, fun t ht => ?_⟩
    obtain ⟨pre, last, hlast⟩ := List.eq_nil_or_concat' (b.window key) |>.resolve_left
      (List.ne_nil_of_mem ht)
    rw [hlast] at hstale hsorted ht
    have hold : last < now - w := by simpa using hstale
    rcases List.mem_append.1 ht with ht | ht
    · exact lt_of_le_of_lt ((List.pairwise_append.1 hsorted).2.2 t ht last (by simp)) hold
    rw [List.mem_singleton.1 ht]
    exact hold
  · exact ⟨[], rfl, by simp⟩

theorem countP_old {old : List ℚ} {since : ℚ} (h : ∀ t ∈ old, t < since) :
    old.countP (fun now => since ≤ now) = 0 :=
  List.countP_eq_zero.2 fun t ht => by simpa using h t ht

/-- To prune is to take what is too old. -/
theorem prune_spec (w now : ℚ) {window : List ℚ} (hsorted : window.Pairwise (· ≤ ·)) :
    ∃ old, window = old ++ prune now w window ∧ (∀ t ∈ old, t < now - w)
      ∧ ∀ t ∈ prune now w window, now - w ≤ t := by
  induction window with
  | nil => exact ⟨[], rfl, by simp, by simp [prune]⟩
  | cons first rest ih =>
    obtain ⟨hfirst, hrest⟩ := List.pairwise_cons.1 hsorted
    by_cases hold : first < now - w
    · obtain ⟨old, hsplit, hbefore, hafter⟩ := ih hrest
      have hdrop : prune now w (first :: rest) = prune now w rest := by simp [prune, hold]
      rw [hdrop]
      exact ⟨first :: old, congrArg (first :: ·) hsplit, by simpa [hold] using hbefore, hafter⟩
    have hkeep : prune now w (first :: rest) = first :: rest := by simp [prune, hold]
    rw [hkeep]
    refine ⟨[], rfl, by simp, fun t ht => ?_⟩
    rcases List.mem_cons.1 ht with rfl | ht
    · exact not_lt.1 hold
    · exact (not_lt.1 hold).trans (hfirst t ht)

/-- The memory lets a request through when those of its key that were let through since the window
began leave room, and drops what is too old only. -/
theorem checkMemory_spec {b : Buckets}
    (hsorted : ∀ key, 0 < limit key → (b.window key).Pairwise (· ≤ ·))
    (hlimit : 0 < limit r.bucketKey) :
    ((checkMemory w r (limit r.bucketKey) b).1.1 = true
        ↔ (((b.window r.bucketKey).countP fun now => r.now - w ≤ now : ℕ) : ℤ)
          < limit r.bucketKey)
      ∧ ∀ key, 0 < limit key → ∃ old,
        b.window key ++ (if r.bucketKey = key ∧ (checkMemory w r (limit r.bucketKey) b).1.1 = true
            then [r.now] else [])
          = old ++ (checkMemory w r (limit r.bucketKey) b).2.window key
        ∧ ∀ t ∈ old, t < r.now - w := by
  obtain ⟨old, hsplit, hold, hrecent⟩ : ∃ old, b.window r.bucketKey
      = old ++ prune r.now w ((sweep r.now w b).window r.bucketKey)
        ∧ (∀ t ∈ old, t < r.now - w)
        ∧ ∀ t ∈ prune r.now w ((sweep r.now w b).window r.bucketKey), r.now - w ≤ t := by
    obtain ⟨swept, hswept, hsweptOld⟩ := window_sweep w r.now (hsorted _ hlimit)
    have hall := hsorted _ hlimit
    rw [hswept] at hall
    obtain ⟨pruned, hpruned, hprunedOld, hrecent⟩ :=
      prune_spec w r.now (List.pairwise_append.1 hall).2.1
    refine ⟨swept ++ pruned, ?_, List.forall_mem_append.2 ⟨hsweptOld, hprunedOld⟩, hrecent⟩
    rw [List.append_assoc, ← hpruned, ← hswept]
  have hset : ∀ (key : String) (window : List ℚ),
      Buckets.window { sweep r.now w b with
        windows := (sweep r.now w b).windows.set r.bucketKey window } key
      = if r.bucketKey = key then window else (sweep r.now w b).window key := by
    intro key window
    simp only [Buckets.window, OrderedMap.get?_set, eq_comm (a := key)]
    split <;> rfl
  rw [hsplit, List.countP_append, countP_old hold,
    List.countP_eq_length.2 (by simpa using hrecent), Nat.zero_add]
  simp only [checkMemory]
  split
  · rename_i hfull
    refine ⟨iff_of_false Bool.false_ne_true (not_lt.2 hfull), fun key hkey => ?_⟩
    rw [hset, if_neg fun h => Bool.false_ne_true h.2, List.append_nil]
    split
    · rename_i heq
      exact ⟨old, heq ▸ hsplit, hold⟩
    · exact window_sweep w r.now (hsorted key hkey)
  rename_i hroom
  refine ⟨iff_of_true rfl (not_le.1 hroom), fun key hkey => ?_⟩
  rw [hset]
  by_cases heq : r.bucketKey = key
  · rw [if_pos ⟨heq, rfl⟩, if_pos heq, ← heq, hsplit, List.append_assoc]
    exact ⟨old, rfl, hold⟩
  rw [if_neg fun h => heq h.1, if_neg heq, List.append_nil]
  exact window_sweep w r.now (hsorted key hkey)

/-- Redis lets a request through when those of its key that it knows of, with the request, are
within the limit, and drops what is too old only. -/
theorem checkRedis_spec {sets : SortedSets} (hfails : r.fails = false)
    (hpositive : ∀ m ∈ sets r.bucketKey, 0 ≤ m.1) :
    ((checkRedis w r (limit r.bucketKey) sets).1.1 = true
        ↔ ((insert r.member ((sets r.bucketKey).filter fun m => r.now - w < m.1)).card : ℤ)
          ≤ limit r.bucketKey)
      ∧ ∀ key, (checkRedis w r (limit r.bucketKey) sets).2 key
        = if key = r.bucketKey then
            insert r.member ((sets r.bucketKey).filter fun m => r.now - w < m.1)
          else sets key := by
  have hkept : (sets r.bucketKey).filter (fun m => ¬ (0 ≤ m.1 ∧ m.1 ≤ r.now - w))
      = (sets r.bucketKey).filter fun m => r.now - w < m.1 := by
    refine Finset.filter_congr fun m hm => ?_
    rw [not_and, not_le]
    exact ⟨fun h => h (hpositive m hm), fun h _ => h⟩
  simp only [checkRedis, hfails, Bool.false_eq_true, if_false, hkept]
  refine ⟨?_, fun _ => trivial⟩
  split
  · rename_i hover
    exact iff_of_false Bool.false_ne_true (not_le.2 hover)
  rename_i hwithin
  exact iff_of_true rfl (not_lt.1 hwithin)

theorem admitted_append (key : String) (log : List LimitAnswer) (a : LimitAnswer) :
    admitted key (log ++ [a]) = admitted key log
      ++ if a.request.bucketKey = key ∧ a.memory = true then [a.request.now] else [] := by
  rw [admitted, List.filter_append, List.map_append, admitted]
  by_cases h : a.request.bucketKey = key ∧ a.memory = true
  · simp [h]
  · simp [h]

theorem Tracked.scores (h : Tracked limit w s) {key : String} (hlimit : 0 < limit key) :
    ∀ m ∈ s.sets key, 0 ≤ m.1 := by
  intro m hm
  obtain ⟨a, ha, -, rfl⟩ := mem_asked.1 (h.made key hlimit hm)
  exact h.positive a ha

theorem Regular.old (hr : Regular s r) {a : LimitAnswer} (ha : a ∈ s.log) :
    a.request.now - w ≤ r.now - w := sub_le_sub_right (hr.2.2 a ha) w

/-- The verdicts, by what was let through and what was made. -/
theorem Tracked.verdicts (h : Tracked limit w s) (hr : Regular s r)
    (hlimit : 0 < limit r.bucketKey) :
    ((checkMemory w r (limit r.bucketKey) s.buckets).1.1 = true
        ↔ (((admitted r.bucketKey s.log).countP fun now => r.now - w ≤ now : ℕ) : ℤ)
          < limit r.bucketKey)
      ∧ ((checkRedis w r (limit r.bucketKey) s.sets).1.1 = true
        ↔ ((insert r.member
          ((asked r.bucketKey s.log).filter fun m => r.now - w < m.1)).card : ℤ)
          ≤ limit r.bucketKey) := by
  constructor
  · obtain ⟨old, hsplit, hold⟩ := h.letThrough _ hlimit
    have hcount : old.countP (fun now => r.now - w ≤ now) = 0 := by
      refine countP_old fun t ht => ?_
      obtain ⟨a, ha, hlt⟩ := hold t ht
      exact hlt.trans_le (hr.old ha)
    rw [hsplit, List.countP_append, hcount, Nat.zero_add]
    exact (checkMemory_spec (fun _ => h.sorted) hlimit).1
  have hset : (s.sets r.bucketKey).filter (fun m => r.now - w < m.1)
      = (asked r.bucketKey s.log).filter fun m => r.now - w < m.1 := by
    ext m
    rw [Finset.mem_filter, Finset.mem_filter]
    refine and_congr_left fun hrecent => ⟨fun hm => h.made _ hlimit hm, fun hm => ?_⟩
    rcases h.gone _ hlimit m hm with hstill | ⟨a, ha, hgone⟩
    · exact hstill
    · exact absurd hrecent (not_lt.2 (hgone.trans (hr.old ha)))
  rw [← hset]
  exact (checkRedis_spec hr.2.1 (h.scores hlimit)).1

/-- What an answer must leave of what is remembered. -/
theorem Tracked.answered (h : Tracked limit w s) (hr : Regular s r) {answer : LimitAnswer}
    {buckets : Buckets} {sets : SortedSets} (hrequest : answer.request = r)
    (hbuckets : ∀ key, 0 < limit key → ∃ old,
      s.buckets.window key ++ (if r.bucketKey = key ∧ answer.memory = true then [r.now] else [])
        = old ++ buckets.window key ∧ ∀ t ∈ old, t < r.now - w)
    (hmade : ∀ key, 0 < limit key → ∀ m ∈ sets key,
      m ∈ s.sets key ∨ r.bucketKey = key ∧ r.member = m)
    (hgone : ∀ key, 0 < limit key → ∀ m, (m ∈ s.sets key ∨ r.bucketKey = key ∧ r.member = m) →
      m ∈ sets key ∨ m.1 ≤ r.now - w) :
    Tracked limit w { buckets, sets, log := s.log ++ [answer] } := by
  subst hrequest
  have hlate : ∀ {P : LimitAnswer → Prop}, (∃ a ∈ s.log, P a) → ∃ a ∈ s.log ++ [answer], P a :=
    fun ⟨a, ha, hP⟩ => ⟨a, List.mem_append_left _ ha, hP⟩
  have hnew : answer ∈ s.log ++ [answer] := List.mem_append_right _ List.mem_cons_self
  have hasked : ∀ key m, m ∈ asked key (s.log ++ [answer])
      ↔ m ∈ asked key s.log ∨ answer.request.bucketKey = key ∧ answer.request.member = m := by
    intro key m
    simp [mem_asked, or_and_right, exists_or]
  refine ⟨?_, ?_, fun key hkey => ?_, fun key hkey m hm => ?_, fun key hkey m hm => ?_⟩
  · refine List.pairwise_append.2 ⟨h.ordered, List.pairwise_singleton _ _, fun a ha b hb => ?_⟩
    rw [List.mem_singleton.1 hb]
    exact hr.2.2 a ha
  · exact List.forall_mem_append.2 ⟨h.positive, List.forall_mem_singleton.2 hr.1⟩
  · obtain ⟨old, hsplit, hold⟩ := h.letThrough key hkey
    obtain ⟨dropped, hwindow, hdropped⟩ := hbuckets key hkey
    rw [admitted_append, hsplit, List.append_assoc, hwindow, ← List.append_assoc]
    refine ⟨old ++ dropped, rfl, List.forall_mem_append.2 ⟨fun t ht => hlate (hold t ht), ?_⟩⟩
    exact fun t ht => ⟨answer, hnew, hdropped t ht⟩
  · exact (hasked key m).2 ((hmade key hkey m hm).imp_left fun hold => h.made key hkey hold)
  have hkept : m ∈ s.sets key ∨ answer.request.bucketKey = key ∧ answer.request.member = m →
      m ∈ sets key ∨ ∃ a ∈ s.log ++ [answer], m.1 ≤ a.request.now - w :=
    fun hbefore => (hgone key hkey m hbefore).imp_right fun hold => ⟨answer, hnew, hold⟩
  rcases (hasked key m).1 hm with hold | hthis
  · rcases h.gone key hkey m hold with hstill | hdropped
    · exact hkept (Or.inl hstill)
    · exact Or.inr (hlate hdropped)
  · exact hkept (Or.inr hthis)

/-- **What the limiters remember is kept by every request.** -/
theorem tracked_step (h : Tracked limit w s) (hr : Regular s r) :
    Tracked limit w (limitStep limit w r s) := by
  unfold limitStep checkRateLimit
  by_cases hlimit : limit r.bucketKey ≤ 0
  · have hne : ∀ {key}, 0 < limit key → r.bucketKey ≠ key :=
      fun hkey heq => not_lt.2 hlimit (heq ▸ hkey)
    simp only [if_pos hlimit]
    refine h.answered hr rfl (fun key hkey => ⟨[], ?_, by simp⟩) (fun _ _ _ hm => Or.inl hm)
      fun key hkey m hm => Or.inl (hm.resolve_right fun heq => hne hkey heq.1)
    rw [if_neg fun heq => hne hkey heq.1, List.append_nil]
    rfl
  simp only [if_neg hlimit]
  have hlimit' := not_le.1 hlimit
  have hsets := (@checkRedis_spec limit w r s.sets hr.2.1 (h.scores hlimit')).2
  refine h.answered hr rfl (checkMemory_spec (fun _ => h.sorted) hlimit').2 ?_ ?_
  · intro key hkey m hm
    rw [hsets] at hm
    split at hm
    · rename_i heq
      rcases Finset.mem_insert.1 hm with rfl | hm
      · exact Or.inr ⟨heq.symm, rfl⟩
      · exact Or.inl (heq ▸ (Finset.mem_filter.1 hm).1)
    · exact Or.inl hm
  intro key hkey m hm
  rw [hsets]
  split
  · rename_i heq
    rcases hm with hm | ⟨-, rfl⟩
    · by_cases hrecent : r.now - w < m.1
      · exact Or.inl (Finset.mem_insert_of_mem (Finset.mem_filter.2 ⟨heq ▸ hm, hrecent⟩))
      · exact Or.inr (not_lt.1 hrecent)
    · exact Or.inl (Finset.mem_insert_self _ _)
  rename_i hne
  exact Or.inl (hm.resolve_right fun heq => hne heq.1.symm)

/-- **The limiters agree on a request exactly when it is counted.** -/
theorem agree_step_iff (h : Tracked limit w s) (hr : Regular s r) (hagree : Agree s) :
    Agree (limitStep limit w r s) ↔ Counted limit w s r := by
  have hlast : Agree (limitStep limit w r s)
      ↔ (checkRateLimit (checkMemory w r) (limit r.bucketKey) s.buckets).1.1
        = (checkRateLimit (checkRedis w r) (limit r.bucketKey) s.sets).1.1 := by
    constructor
    · exact fun hall => hall _ (List.mem_append_right _ List.mem_cons_self)
    · exact fun heq => List.forall_mem_append.2 ⟨hagree, List.forall_mem_singleton.2 heq⟩
  rw [hlast, Counted]
  unfold checkRateLimit
  by_cases hlimit : limit r.bucketKey ≤ 0
  · simp only [if_pos hlimit]
    exact iff_of_true trivial fun hpositive => absurd hlimit (not_le.2 hpositive)
  obtain ⟨hmemory, hredis⟩ := h.verdicts hr (not_le.1 hlimit)
  simp only [if_neg hlimit]
  rw [Bool.eq_iff_iff, hmemory, hredis, forall_prop_of_true (not_le.1 hlimit)]
  exact Iff.comm

/-- A request that is let through finds room in every window it is in. -/
theorem bounded_step (h : Tracked limit w s) (hr : Regular s r) (hbounded : Bounded limit w s) :
    Bounded limit w (limitStep limit w r s) := by
  intro key hkey t
  have hbefore := hbounded key hkey t
  have hlog : admitted key (limitStep limit w r s).log = admitted key s.log
      ++ if r.bucketKey = key
          ∧ (checkRateLimit (checkMemory w r) (limit r.bucketKey) s.buckets).1.1 = true
        then [r.now] else [] := admitted_append key s.log _
  rw [hlog, List.countP_append]
  split
  · rename_i hthrough
    obtain ⟨rfl, hthrough⟩ := hthrough
    rw [checkRateLimit, if_neg (not_le.2 hkey)] at hthrough
    have hroom := (h.verdicts hr hkey).1.1 hthrough
    by_cases hin : t ≤ r.now ∧ r.now ≤ t + w
    · have hmono : (admitted r.bucketKey s.log).countP (fun now => t ≤ now ∧ now ≤ t + w)
          ≤ (admitted r.bucketKey s.log).countP fun now => r.now - w ≤ now := by
        refine List.countP_mono_left fun now _ hnow => ?_
        rw [decide_eq_true_eq] at hnow ⊢
        exact (sub_le_iff_le_add.2 hin.2).trans hnow.1
      rw [List.countP_singleton, if_pos (decide_eq_true hin)]
      omega
    rw [List.countP_singleton, if_neg (by simpa using hin), Nat.add_zero]
    exact hbefore
  · simpa using hbefore

theorem tracked_start : Tracked limit w {} where
  ordered := List.Pairwise.nil
  positive := by simp
  letThrough := fun _ _ => ⟨[], rfl, by simp⟩
  made := fun _ _ => Finset.empty_subset _
  gone := fun _ _ m hm => by simp [asked] at hm

/-- While the clock does not go back and Redis answers, the memory lets no more through than the
limit in any window, and the limiters agree exactly when at every request those of its key that
were made and those let through say the same of the window. -/
theorem rate_limits_agree_iff (limit : String → ℤ) (windowSeconds : ℚ) (es : List LimitRequest)
    (h : Along (limitStep limit windowSeconds) Regular {} es) :
    (∀ pre, pre <+: es → Bounded limit windowSeconds (run (limitStep limit windowSeconds) {} pre))
      ∧ ((∀ pre, pre <+: es → Agree (run (limitStep limit windowSeconds) {} pre))
        ↔ Along (limitStep limit windowSeconds) (Counted limit windowSeconds) {} es) := by
  constructor
  · intro pre hpre
    refine (along_invariant_throughout (I := fun s => Tracked limit windowSeconds s
      ∧ Bounded limit windowSeconds s) ?_ ⟨tracked_start, ?_⟩ h hpre).2
    · exact fun s r hI hr => ⟨tracked_step hI.1 hr, bounded_step hI.1 hr hI.2⟩
    intro key hkey t
    simpa [admitted] using hkey.le
  refine (along_iff_throughout_with (J := Tracked limit windowSeconds) ?_ ?_ h ?_
    tracked_start).symm
  · exact fun s r hr _ hs => tracked_step hs hr
  · exact fun s r hr hagree hs => agree_step_iff hs hr hagree
  intro a ha
  cases ha

namespace Example

/-- Requests of one address, at the given seconds. -/
def requests : List ℚ → List LimitRequest :=
  List.map fun now => { bucketKey := "auth:10.0.0.1", now }

end Example

theorem rate_limits_agree_iff_pair :
    Bounded (fun _ => 1) 60 (run (limitStep (fun _ => 1) 60) {} (Example.requests [0, 30])) :=
  (rate_limits_agree_iff (fun _ => 1) 60 (Example.requests [0, 30]) (by
    unfold Regular
    decide +kernel)).1 _ List.prefix_rfl

/-- A request that was refused counts against the next. -/
theorem not_rate_limits_agree :
    Along (limitStep (fun _ => 1) 60) Regular {} (Example.requests [0, 30, 61])
      ∧ ¬ Agree (run (limitStep (fun _ => 1) 60) {} (Example.requests [0, 30, 61])) := by
  unfold Regular Agree
  decide +kernel

end MultiAcademy.Control.RateLimit
