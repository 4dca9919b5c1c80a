import MultiAcademy.Lib.OrderedMap
import MultiAcademy.School.PolicySnapshot

/-!
# The features of a tenant, one and all

`FeatureFlagService` answers for one feature with `resolveFromConfig`, and gives the portal all of
them at once.  The second writes a map, layer on layer: the defaults, what the config says, the
kill switches, the freezes.
-/

namespace MultiAcademy.School

open MultiAcademy.Lib

/-! ## The map -/

/-- `features[key] = false`; the name of the prototype is assigned only where it is a key. -/
def switchOff (features : OrderedMap String Bool) (key : String) : OrderedMap String Bool :=
  if key = "__proto__" ∧ features.get? key = none then features else features.set key false

/-- `freeze.endsWith('*')`, and `key.startsWith(freeze.slice(0, -1))`. -/
def isWildcard (freeze : String) : Bool := freeze.toList.getLast? = some '*'

def startsLike (freeze key : String) : Bool := freeze.toList.dropLast.isPrefixOf key.toList

/-- The keys that there are, or the one that is named. -/
def applyFreeze (features : OrderedMap String Bool) (freeze : String) : OrderedMap String Bool :=
  if isWildcard freeze then
    (features.entries.map Prod.fst).foldl (fun features key =>
      if startsLike freeze key then switchOff features key else features) features
  else switchOff features freeze

/-- What `getEffectiveFeatures` returns, without the subscription and the maintenance. -/
structure EffectiveFeatures where
  features : OrderedMap String Bool
  status : String
  providers : List (String × String)
  enforcement : ConfigEnforcement
  configVersion : ℕ

/-- `getEffectiveFeatures`, of the config that is fetched. -/
def getEffectiveFeatures (config : RuntimeConfig) : EffectiveFeatures :=
  let defaults : OrderedMap String Bool :=
    OrderedMap.setRows id (fun _ => true) foundationDefaultsOn .empty
  let spread := OrderedMap.setRows Prod.fst
    (fun entry => (config.features.lookup entry.1).getD entry.2) config.features defaults
  let switched := config.killSwitches.foldl switchOff spread
  { features := config.enforcement.capabilityFreezes.foldl applyFreeze switched
    status := config.status
    providers := config.providers
    enforcement := config.enforcement
    configVersion := config.configVersion }

def isOn (features : OrderedMap String Bool) (key : String) : Bool :=
  (features.get? key).getD false

/-! ## What is on -/

section Map
variable (features : OrderedMap String Bool) (key : String)

theorem isOn_switchOff (off : String) :
    isOn (switchOff features off) key = (isOn features key && off ≠ key) := by
  unfold switchOff
  split
  · rename_i hproto
    by_cases hkey : off = key
    · simp [isOn, ← hkey, hproto.2]
    · simp [hkey]
  by_cases hkey : key = off
  · simp [isOn, OrderedMap.get?_set, hkey]
  · simp [isOn, OrderedMap.get?_set, hkey, Ne.symm hkey]

theorem isOn_killSwitches (switches : List String) :
    isOn (switches.foldl switchOff features) key = (isOn features key && !switches.contains key) := by
  induction switches generalizing features with
  | nil => simp
  | cons off switches ih =>
    rw [List.foldl_cons, ih, isOn_switchOff, List.contains_cons]
    by_cases hkey : off = key
    · simp [hkey]
    · simp [hkey, beq_false_of_ne (Ne.symm hkey)]

theorem isOn_keys (freeze : String) (keys : List String) :
    isOn (keys.foldl (fun features key =>
        if startsLike freeze key then switchOff features key else features) features) key
      = (isOn features key && !(startsLike freeze key && keys.contains key)) := by
  induction keys generalizing features with
  | nil => simp
  | cons off keys ih =>
    rw [List.foldl_cons, ih, List.contains_cons]
    by_cases hkey : off = key
    · subst hkey
      split <;> simp_all [isOn_switchOff]
    · split <;> simp [isOn_switchOff, hkey, beq_false_of_ne (Ne.symm hkey)]

/-- A freeze switches off the features it names, whether they are there or not. -/
theorem isOn_applyFreeze (freeze : String) :
    isOn (applyFreeze features freeze) key = (isOn features key
      && !if isWildcard freeze then startsLike freeze key else freeze = key) := by
  unfold applyFreeze
  split
  · rw [isOn_keys]
    cases hget : features.get? key with
    | none => simp [isOn, hget]
    | some on =>
      have hkeys : (features.entries.map Prod.fst).contains key = true :=
        List.contains_iff_mem.2 (OrderedMap.mem_keys_iff.2 (by rw [hget]; rfl))
      rw [hkeys, Bool.and_true]
  rw [isOn_switchOff]
  simp

theorem isOn_freezes (freezes : List String) :
    isOn (freezes.foldl applyFreeze features) key = (isOn features key
      && !freezes.any fun freeze =>
        if isWildcard freeze then startsLike freeze key else freeze = key) := by
  induction freezes generalizing features with
  | nil => simp
  | cons freeze freezes ih =>
    rw [List.foldl_cons, ih, isOn_applyFreeze, List.any_cons, Bool.not_or, Bool.and_assoc]

end Map

/-- A feature is frozen by its name or by a wildcard. -/
theorem frozen_iff (freezes : List String) (key : String) :
    (freezes.any fun freeze => if isWildcard freeze then startsLike freeze key else freeze = key)
      = (freezes.contains key || freezes.any fun freeze =>
        isWildcard freeze && startsLike freeze key) := by
  rw [Bool.eq_iff_iff]
  simp only [Bool.or_eq_true, List.any_eq_true, List.contains_iff_mem, Bool.and_eq_true]
  constructor
  · rintro ⟨freeze, hfreeze, hmatch⟩
    split at hmatch
    · exact Or.inr ⟨freeze, hfreeze, ‹_›, hmatch⟩
    · exact Or.inl (of_decide_eq_true hmatch ▸ hfreeze)
  rintro (hkey | ⟨freeze, hfreeze, hwild, hlike⟩)
  · refine ⟨key, hkey, ?_⟩
    split
    · exact List.isPrefixOf_iff_prefix.2 (List.dropLast_prefix _)
    · exact decide_eq_true rfl
  · exact ⟨freeze, hfreeze, by rw [if_pos hwild]; exact hlike⟩

theorem get?_defaults (names : List String) (key : String) :
    (OrderedMap.setRows id (fun _ => true) names .empty).get? key
      = if names.contains key then some true else none := by
  rw [OrderedMap.get?_setRows]
  cases hfind : names.reverse.find? fun name => id name = key with
  | some name =>
    obtain rfl : name = key := by simpa using List.find?_some hfind
    simp [List.mem_reverse.1 (List.mem_of_find?_eq_some hfind)]
  | none =>
    have hnot : key ∉ names := fun hmem =>
      List.find?_eq_none.1 hfind key (List.mem_reverse.2 hmem) (decide_eq_true rfl)
    simp [hnot]

/-- What is spread over a map. -/
theorem get?_spread (entries : List (String × Bool)) (m : OrderedMap String Bool) (key : String) :
    (OrderedMap.setRows Prod.fst (fun entry => (entries.lookup entry.1).getD entry.2) entries m).get?
      key = (entries.lookup key).or (m.get? key) := by
  rw [OrderedMap.get?_setRows]
  cases hfind : entries.reverse.find? fun entry => entry.1 = key with
  | some entry =>
    obtain rfl : entry.1 = key := by simpa using List.find?_some hfind
    have hmem := List.mem_reverse.1 (List.mem_of_find?_eq_some hfind)
    cases hlookup : entries.lookup entry.1 with
    | none => simpa using List.lookup_eq_none_iff.1 hlookup entry hmem
    | some on => simp [hlookup]
  | none =>
    have hlookup : entries.lookup key = none := by
      refine List.lookup_eq_none_iff.2 fun entry hentry => ?_
      have hne := List.find?_eq_none.1 hfind entry (List.mem_reverse.2 hentry)
      exact bne_iff_ne.2 fun heq => hne (decide_eq_true heq.symm)
    rw [hlookup, Option.map_none]

/-- **One feature and all of them agree.** -/
theorem features_agree (config : RuntimeConfig) (featureKey : String) :
    resolveFromConfig featureKey config
      = isOn (getEffectiveFeatures config).features featureKey := by
  simp only [getEffectiveFeatures, isOn_freezes, isOn_killSwitches, frozen_iff]
  rw [isOn, get?_spread, get?_defaults, resolveFromConfig]
  generalize foundationDefaultsOn.contains featureKey = default
  cases config.killSwitches.contains featureKey with
  | true => simp
  | false =>
    cases config.enforcement.capabilityFreezes.contains featureKey with
    | true => simp
    | false =>
      simp only [isWildcard, startsLike]
      cases config.enforcement.capabilityFreezes.any _ with
      | true => simp
      | false => cases config.features.lookup featureKey <;> cases default <;> simp

end MultiAcademy.School
