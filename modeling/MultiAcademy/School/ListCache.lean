import MultiAcademy.Lib.Calendar
import MultiAcademy.Lib.OrderedMap
import MultiAcademy.Lib.Run

/-!
# The list cache of the school server

`common/cache/list-cache.service.ts`, as the steps the process takes between two awaits: a
call of `getOrLoad`, the end of a load, the `finally` after it, `invalidate` and `clear`.
Values are cloned on the way in and out, so they are plain data here.

A load remembers whether an invalidation has covered its key since it started, and a call
whether the load it is given was such a one when the call started.
-/

namespace MultiAcademy.School

open MultiAcademy.Lib

variable {α : Type}

/-! ## The service -/

/-- `CacheEntry`, with the load it comes from. -/
structure ListEntry (α : Type) where
  value : α
  touchedAt : Time
  expiresAt : Time
  load : ℕ

/-- Where a load is: its loader runs, its `then` has run, its `finally` has run. -/
inductive LoadPhase
  | pending
  | ended
  | settled
  deriving DecidableEq

/-- A load, with the generation it started in; it is outdated once an invalidation covers
its key. -/
structure Load where
  key : String
  generation : ℕ
  ttl : Time
  phase : LoadPhase := .pending
  outdated : Bool := false

/-- The load whose result a call is given, and whether it was outdated when the call
started. -/
structure Given where
  load : ℕ
  outdated : Bool

structure ListCache (α : Type) where
  entries : OrderedMap String (ListEntry α) := .empty
  inFlight : OrderedMap String ℕ := .empty
  generations : String → ℕ := fun _ => 0
  loads : List Load := []
  given : List Given := []

/-- `defaultTtlMs`; `listTtl` is `LIST_CACHE_TTL_MS`, or 45 seconds. -/
def defaultTtl (listTtl : Time) : Time := max (Time.seconds 1) listTtl

variable (c : ListCache α)

def ListCache.keyOf (load : ℕ) : Option String := (c.loads[load]?).map (·.key)

def ListCache.outdated (load : ℕ) : Bool := (c.loads[load]?).any (·.outdated)

/-- A call is given the result of a load. -/
def ListCache.give (load : ℕ) : ListCache α :=
  { c with given := c.given ++ [⟨load, c.outdated load⟩] }

/-- The end of `getOrLoad`: join the load in flight, or start one. -/
def joinOrLoad (key : String) (ttl : Time) (c : ListCache α) : ListCache α :=
  match c.inFlight.get? key with
  | some pending => c.give pending
  | none =>
    let request := c.loads.length
    let started : ListCache α :=
      { c with
        loads := c.loads ++ [{ key, generation := c.generations key, ttl }]
        inFlight := c.inFlight.set key request }
    started.give request

/-- `getOrLoad` up to its await. -/
def getOrLoad (listTtl now : Time) (key : String) (force : Bool) (ttlMs : Option Time)
    (c : ListCache α) : ListCache α :=
  let ttl := (ttlMs.filter (0 < ·)).getD (defaultTtl listTtl)
  if force then joinOrLoad key ttl c
  else
    match c.entries.get? key with
    | none => joinOrLoad key ttl c
    | some cached =>
      if now < cached.expiresAt then
        let touched : ListCache α :=
          { c with entries := c.entries.set key { cached with touchedAt := now } }
        touched.give cached.load
      else joinOrLoad key ttl { c with entries := c.entries.erase key }

/-- The entry that was touched first. -/
def oldestKey (entries : OrderedMap String (ListEntry α)) : Option String :=
  (entries.entries.foldl (fun (kept : Option (String × ListEntry α)) e =>
    match kept with
    | none => some e
    | some k => if e.2.touchedAt < k.2.touchedAt then some e else some k) none).map Prod.fst

/-- `set` makes room for a new key; `if (oldestKey)` takes the empty key for none. -/
def evictFor (key : String) (entries : OrderedMap String (ListEntry α)) :
    OrderedMap String (ListEntry α) :=
  if 5000 ≤ entries.size ∧ (entries.get? key).isNone then
    match oldestKey entries with
    | some oldest => if oldest ≠ "" then entries.erase oldest else entries
    | none => entries
  else entries

/-- `set`, of the result of a load. -/
def ListCache.set (now : Time) (key : String) (value : α) (ttl : Time)
    (load : ℕ) : ListCache α :=
  { c with
    entries := (evictFor key c.entries).set key
      { value, touchedAt := now, expiresAt := now + max (Time.seconds 1) ttl, load } }

/-- The `then` of a load: its result is stored if its key is in the generation it started
in. -/
def endLoad (now : Time) (request : ℕ) (load : Load) (result : Option α) (c : ListCache α) :
    ListCache α :=
  let ended := { c with loads := c.loads.set request { load with phase := .ended } }
  match result with
  | none => ended
  | some value =>
    if c.generations load.key = load.generation then
      ended.set now load.key value load.ttl request
    else ended

/-- The `finally` of a load: clear its own slot. -/
def settleLoad (request : ℕ) (load : Load) (c : ListCache α) : ListCache α :=
  { c with
    loads := c.loads.set request { load with phase := .settled }
    inFlight := if c.inFlight.get? load.key = some request then c.inFlight.erase load.key
      else c.inFlight }

/-- `key.startsWith(family)`. -/
def under (family key : String) : Bool := family.toList.isPrefixOf key.toList

/-- `invalidate`; the loads of the family are outdated from now on. -/
def invalidateList (family : String) (c : ListCache α) : ListCache α :=
  { c with
    entries := c.entries.removeWhere (under family)
    inFlight := c.inFlight.removeWhere (under family)
    generations := fun key =>
      if under family key && (c.inFlight.get? key).isSome then c.generations key + 1
      else c.generations key
    loads := c.loads.map fun load =>
      if under family load.key then { load with outdated := true } else load }

/-- `invalidateTenant`. -/
def invalidateTenantLists (tenantId : String) (c : ListCache α) : ListCache α :=
  invalidateList ("tenant:" ++ tenantId ++ ":") c

/-- `clear`. -/
def clearLists : ListCache α :=
  { c with entries := .empty, inFlight := .empty, generations := fun _ => 0 }

/-- What can happen; a load ends with a value, or with an error. -/
inductive ListCacheEvent (α : Type)
  | getOrLoad (key : String) (force : Bool) (ttlMs : Option Time) (now : Time)
  | endLoad (request : ℕ) (result : Option α) (now : Time)
  | settle (request : ℕ)
  | invalidate (family : String)
  | clear

def listCacheStep (listTtl : Time) (e : ListCacheEvent α) (c : ListCache α) : ListCache α :=
  match e with
  | .getOrLoad key force ttlMs now => getOrLoad listTtl now key force ttlMs c
  | .endLoad request result now =>
    match c.loads[request]? with
    | some load => if load.phase = .pending then endLoad now request load result c else c
    | none => c
  | .settle request =>
    match c.loads[request]? with
    | some load => if load.phase = .ended then settleLoad request load c else c
    | none => c
  | .invalidate family => invalidateList family c
  | .clear => clearLists c

end MultiAcademy.School
