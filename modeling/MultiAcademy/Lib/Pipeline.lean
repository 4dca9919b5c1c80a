import MultiAcademy.Lib.OrderedMap

/-!
# A key-value store behind a pipeline of commands

A client sends commands over one connection and does not wait for them: the store executes
them in the order they were sent, and each one may be lost on the way.  What a read returns
is what the writes sent before it leave, whichever of them arrive.
-/

namespace MultiAcademy.Lib

universe u v w
variable {ι : Type u} {κ : Type v} {α : Type w} [DecidableEq κ]

/-- A read on behalf of a caller, a write or a deletion. -/
inductive Command (ι : Type u) (κ : Type v) (α : Type w)
  | get (caller : ι) (k : κ)
  | set (k : κ) (v : α)
  | del (k : κ)

/-- The store and the commands that are on their way, the next one first. -/
structure Pipeline (ι : Type u) (κ : Type v) (α : Type w) where
  server : OrderedMap κ α
  queue : List (Command ι κ α) := []

/-- What a read of `k` may return after some commands, when it might return `values`
before them. -/
def visible (k : κ) (queue : List (Command ι κ α)) (values : List α) : List α :=
  queue.foldl (fun values command =>
    match command with
    | .get _ _ => values
    | .set k' v => if k' = k then v :: values else values
    | .del k' => if k' = k then [] else values) values

@[simp] theorem visible_nil (k : κ) (values : List α) :
    visible k ([] : List (Command ι κ α)) values = values := rfl

theorem visible_append (k : κ) (queue queue' : List (Command ι κ α)) (values : List α) :
    visible k (queue ++ queue') values = visible k queue' (visible k queue values) :=
  List.foldl_append

theorem visible_mono (k : κ) {queue : List (Command ι κ α)} {values values' : List α}
    (h : values ⊆ values') : visible k queue values ⊆ visible k queue values' := by
  induction queue generalizing values values' with
  | nil => exact h
  | cons command queue ih =>
    refine ih ?_
    cases command with
    | get caller k' => exact h
    | set k' v =>
      by_cases hk : k' = k
      · simpa only [if_pos hk] using List.cons_subset_cons v h
      · simpa only [if_neg hk] using h
    | del k' =>
      by_cases hk : k' = k
      · simp only [if_pos hk]
        exact List.Subset.refl _
      · simpa only [if_neg hk] using h

namespace Pipeline
variable {p : Pipeline ι κ α}

/-- Send a command. -/
def send (p : Pipeline ι κ α) (command : Command ι κ α) : Pipeline ι κ α :=
  { p with queue := p.queue ++ [command] }

/-- The next command arrives, or is lost; the answer of a read. -/
def exec (arrives : Bool) (p : Pipeline ι κ α) : Option (ι × Option α) × Pipeline ι κ α :=
  match p.queue with
  | [] => (none, p)
  | .get caller k :: queue =>
    (some (caller, if arrives then p.server.get? k else none), { p with queue })
  | .set k v :: queue =>
    (none, { server := if arrives then p.server.set k v else p.server, queue })
  | .del k :: queue =>
    (none, { server := if arrives then p.server.erase k else p.server, queue })

/-- What a read of `k` sent now may return. -/
def candidates (p : Pipeline ι κ α) (k : κ) : List α :=
  visible k p.queue (p.server.get? k).toList

/-- What a read that is on its way may return. -/
def MayReturn (p : Pipeline ι κ α) (caller : ι) (k : κ) (v : α) : Prop :=
  ∃ before after, p.queue = before ++ .get caller k :: after
    ∧ v ∈ visible k before (p.server.get? k).toList

/-- A deletion is not lost while its key is in the store. -/
def Delivers (arrives : Bool) (p : Pipeline ι κ α) : Prop :=
  ∀ k queue, p.queue = .del k :: queue → arrives = false → p.server.get? k = none

/-! ## Sending -/

@[simp] theorem candidates_send_get (p : Pipeline ι κ α) (caller : ι) (k k' : κ) :
    (p.send (.get caller k')).candidates k = p.candidates k := by
  rw [candidates, send, visible_append]
  rfl

theorem candidates_send_set (p : Pipeline ι κ α) (k k' : κ) (v : α) :
    (p.send (.set k' v)).candidates k
      = if k' = k then v :: p.candidates k else p.candidates k := by
  rw [candidates, send, visible_append]
  rfl

theorem candidates_send_del (p : Pipeline ι κ α) (k k' : κ) :
    (p.send (.del k')).candidates k = if k' = k then [] else p.candidates k := by
  rw [candidates, send, visible_append]
  rfl

/-- Sending a command does not bear on the reads sent before it. -/
theorem MayReturn.of_send {command : Command ι κ α} {caller : ι} {k : κ} {v : α}
    (h : (p.send command).MayReturn caller k v) :
    p.MayReturn caller k v ∨ (command = .get caller k ∧ v ∈ p.candidates k) := by
  obtain ⟨before, after, hqueue, hv⟩ := h
  rw [send] at hqueue
  rcases List.eq_nil_or_concat after with rfl | ⟨rest, last, rfl⟩
  · obtain ⟨hbefore, hlast⟩ := List.append_inj' hqueue rfl
    refine Or.inr ⟨List.singleton_inj.1 hlast, ?_⟩
    rw [candidates, hbefore]
    exact hv
  rw [List.concat_eq_append, ← List.cons_append, ← List.append_assoc] at hqueue
  obtain ⟨hbefore, -⟩ := List.append_inj' hqueue rfl
  exact Or.inl ⟨before, rest, hbefore, hv⟩

/-! ## Executing -/

/-- The store without a key shows fewer values. -/
theorem toList_erase_subset (server : OrderedMap κ α) (k k' : κ) :
    ((server.erase k').get? k).toList ⊆ (server.get? k).toList := by
  rw [OrderedMap.get?_erase]
  split
  · exact List.nil_subset _
  · exact List.Subset.refl _

variable {arrives : Bool}

/-- What is seen once the next command is executed was seen before, unless a deletion
is lost. -/
theorem visible_exec (h : p.Delivers arrives) (k : κ)
    {command : Command ι κ α} {queue : List (Command ι κ α)} (hqueue : p.queue = command :: queue)
    (before : List (Command ι κ α)) :
    visible k before ((exec arrives p).2.server.get? k).toList
      ⊆ visible k (command :: before) (p.server.get? k).toList := by
  refine visible_mono k ?_
  cases command with
  | get caller k' =>
    simp only [exec, hqueue]
    exact List.Subset.refl _
  | set k' v =>
    simp only [exec, hqueue]
    by_cases hk : k' = k
    · subst hk
      cases arrives with
      | true =>
        simp only [if_true, OrderedMap.get?_set]
        intro x hx
        rw [Option.mem_toList] at hx
        cases hx
        exact List.mem_cons_self
      | false => simp
    cases arrives with
    | true =>
      simp only [if_true, OrderedMap.get?_set, if_neg hk, if_neg (Ne.symm hk)]
      exact List.Subset.refl _
    | false =>
      simp only [Bool.false_eq_true, if_false, if_neg hk]
      exact List.Subset.refl _
  | del k' =>
    simp only [exec, hqueue]
    by_cases hk : k' = k
    · subst hk
      cases arrives with
      | true => simp [OrderedMap.get?_erase]
      | false =>
        -- nothing is lost: the key is not in the store
        simp [h k' queue hqueue rfl]
    cases arrives with
    | true =>
      simp only [if_true, OrderedMap.get?_erase, if_neg hk, if_neg (Ne.symm hk)]
      exact List.Subset.refl _
    | false =>
      simp only [Bool.false_eq_true, if_false, if_neg hk]
      exact List.Subset.refl _

@[simp] theorem queue_exec (arrives : Bool) (p : Pipeline ι κ α) :
    (exec arrives p).2.queue = p.queue.tail := by
  unfold exec
  split <;> simp [*]

theorem candidates_exec (h : p.Delivers arrives) (k : κ) :
    (exec arrives p).2.candidates k ⊆ p.candidates k := by
  rw [candidates, candidates, queue_exec]
  cases hqueue : p.queue with
  | nil =>
    simp only [exec, hqueue]
    exact List.Subset.refl _
  | cons command queue => exact visible_exec h k hqueue queue

/-- A read on its way sees no more once the next command is executed. -/
theorem MayReturn.of_exec (h : p.Delivers arrives) {caller : ι} {k : κ} {v : α}
    (hmay : (exec arrives p).2.MayReturn caller k v) : p.MayReturn caller k v := by
  obtain ⟨before, after, hrest, hv⟩ := hmay
  rw [queue_exec] at hrest
  cases hqueue : p.queue with
  | nil => simp [hqueue] at hrest
  | cons command queue =>
    rw [hqueue, List.tail_cons] at hrest
    exact ⟨command :: before, after, by rw [hqueue, hrest]; rfl,
      visible_exec h k hqueue before hv⟩

/-- An answer is what the read might return. -/
theorem mayReturn_of_answer {caller : ι} {v : α}
    (h : (exec arrives p).1 = some (caller, some v)) :
    ∃ k queue, p.queue = .get caller k :: queue ∧ p.MayReturn caller k v := by
  unfold exec at h
  split at h
  · cases h
  · rename_i caller' k queue hqueue
    simp only [Option.some.injEq, Prod.mk.injEq] at h
    obtain ⟨rfl, hv⟩ := h
    refine ⟨k, queue, hqueue, [], queue, hqueue, ?_⟩
    split at hv
    · simp [hv]
    · cases hv
  · cases h
  · cases h

/-! ## Expiry -/

/-- The store drops a key by itself. -/
def expire (k : κ) (p : Pipeline ι κ α) : Pipeline ι κ α :=
  { p with server := p.server.erase k }

theorem candidates_expire (k k' : κ) : (p.expire k').candidates k ⊆ p.candidates k :=
  visible_mono k (toList_erase_subset p.server k k')

theorem MayReturn.of_expire {caller : ι} {k k' : κ} {v : α}
    (h : (p.expire k').MayReturn caller k v) : p.MayReturn caller k v := by
  obtain ⟨before, after, hqueue, hv⟩ := h
  exact ⟨before, after, hqueue, visible_mono k (toList_erase_subset p.server k k') hv⟩

end Pipeline
end MultiAcademy.Lib
