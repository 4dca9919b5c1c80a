import MultiAcademy.Lib.Intervals

/-!
# Grading

`academic/grading-matrix.service.ts` and the grade helpers of `academic.service.ts`.  A
school's grading bands are closed ranges of totals; a total is given the grade of the first
band that holds it, and `F` when none does.  The bands may come from a file, so a bound is a
number or nothing, where `Number` gives none.
-/

namespace MultiAcademy.School

open MultiAcademy.Lib

/-- A grading band, as it is read; a bound that is not a finite number is `none`. -/
structure GradeBand where
  gradeTitle : String
  gradeName : String
  min : Option ℚ
  max : Option ℚ
  deriving DecidableEq

def defaultGradeBands : List GradeBand :=
  [ { gradeTitle := "A", gradeName := "Distinction", min := some 70, max := some 100 },
    { gradeTitle := "B", gradeName := "Very Good", min := some 60, max := some 69 },
    { gradeTitle := "C", gradeName := "Credit", min := some 50, max := some 59 },
    { gradeTitle := "D", gradeName := "Poor", min := some 40, max := some 49 },
    { gradeTitle := "E", gradeName := "Very Poor", min := some 30, max := some 39 },
    { gradeTitle := "F", gradeName := "Failed", min := some 20, max := some 29 } ]

structure GradingMatrix where
  caWeight : ℚ
  examWeight : ℚ
  gradeBands : List GradeBand

def defaultGradingMatrix : GradingMatrix :=
  { caWeight := 40, examWeight := 60, gradeBands := defaultGradeBands }

/-! ## The validator -/

/-- The characters `trim` removes. -/
def isSpace (c : Char) : Bool :=
  c.toNat ∈ [0x9, 0xA, 0xB, 0xC, 0xD, 0x20, 0xA0, 0x1680, 0x2028, 0x2029, 0x202F, 0x205F,
    0x3000, 0xFEFF] || (0x2000 ≤ c.toNat && c.toNat ≤ 0x200A)

def trim (text : String) : String :=
  String.ofList ((text.toList.dropWhile isSpace).reverse.dropWhile isSpace).reverse

/-- `text.length`, in UTF-16 code units. -/
def utf16Length (text : String) : ℕ :=
  (text.toList.map fun c => if c.toNat < 0x10000 then 1 else 2).sum

/-- `!text.trim()`. -/
def blank (text : String) : Bool := text.toList.all isSpace

def GradeBand.inRange (band : GradeBand) : Bool :=
  match band.min, band.max with
  | some lo, some hi => 0 ≤ lo && hi ≤ 100 && lo ≤ hi
  | _, _ => false

/-- The bounds of a band, once they are known to be numbers. -/
def GradeBand.range (band : GradeBand) : ℚ × ℚ := (band.min.getD 0, band.max.getD 0)

/-- `[...normalized].sort((a, b) => a.min - b.min)`. -/
def sortedBands (bands : List GradeBand) : List GradeBand :=
  bands.insertionSort fun a b => a.range.1 ≤ b.range.1

/-- Each band starts above the end of the one before it. -/
def ascending (bands : List GradeBand) : Prop := bands.IsChain fun a b => a.range.2 < b.range.1

instance (bands : List GradeBand) : Decidable (ascending bands) :=
  inferInstanceAs (Decidable (List.IsChain _ _))

def validateGradingBands (bands : List GradeBand) : Except (ℕ × String) Unit :=
  if bands = [] then .error (400, "At least one grading band is required")
  else if bands.all GradeBand.inRange = false then
    .error (400, "Grade band ranges must be between 0 and 100")
  else if ¬ (bands.map fun band => band.range.1).Nodup then
    .error (400, "Grade band minimums must be unique")
  else if bands.any fun band => blank band.gradeTitle || blank band.gradeName then
    .error (400, "Every grading band needs a title and name")
  else if ¬ ascending (sortedBands bands) then
    .error (400, "Grade band ranges must not overlap")
  else .ok ()

/-! ## Grades -/

/-- `score >= band.min && score <= band.max`. -/
def GradeBand.holds (score : ℚ) (band : GradeBand) : Bool :=
  band.min.any (· ≤ score) && band.max.any (score ≤ ·)

/-- The first band that holds the score. -/
def gradeBand (score : ℚ) (bands : List GradeBand) : Option GradeBand :=
  bands.find? (GradeBand.holds score)

/-- The grade of a total; `F`, when the matrix has it, where no band holds the total. -/
def letter (score : ℚ) (bands : List GradeBand) : Option String :=
  match gradeBand score bands with
  | some band => some band.gradeTitle
  | none => (bands.find? fun band => band.gradeTitle = "F").map (·.gradeTitle)

/-- `Math.round(x * 100) / 100`. -/
def roundCents (x : ℚ) : ℚ := (⌊x * 100 + 1 / 2⌋ : ℚ) / 100

/-- `computeTotal`; `matrix` is the tenant's, when the feature is on. -/
def computeTotal (matrix : Option GradingMatrix) (caScore examScore : Option ℚ) :
    Option ℚ × Option String :=
  match caScore, examScore with
  | some ca, some exam =>
    match matrix with
    | none => (some (ca + exam), letter (ca + exam) defaultGradeBands)
    | some m =>
      let total := ca * m.caWeight / 100 + exam * m.examWeight / 100
      (some (roundCents total), letter total m.gradeBands)
  | _, _ => (none, none)

/-- The grade given under one band is as good as that given under another: a band further
up is better, and `F` for no band is worst. -/
def AsGood : Option GradeBand → Option GradeBand → Prop
  | none, _ => True
  | some _, none => False
  | some a, some b => a.range.1 ≤ b.range.1

instance AsGood.decidable : ∀ a b, Decidable (AsGood a b)
  | none, _ => inferInstanceAs (Decidable True)
  | some _, none => inferInstanceAs (Decidable False)
  | some a, some b => inferInstanceAs (Decidable (a.range.1 ≤ b.range.1))

variable {bands : List GradeBand} {band : GradeBand} {x y : ℚ}

/-! ## Accepted matrices -/

structure Accepted (bands : List GradeBand) : Prop where
  inRange : ∀ band ∈ bands, band.inRange = true
  apart : Intervals.Apart (bands.map GradeBand.range)

theorem inRange_iff : band.inRange = true ↔
    ∃ lo hi, band.min = some lo ∧ band.max = some hi ∧ 0 ≤ lo ∧ hi ≤ 100 ∧ lo ≤ hi := by
  unfold GradeBand.inRange
  cases band.min with
  | none => simp
  | some lo =>
    cases band.max with
    | none => simp
    | some hi => simp [and_assoc]

/-- **Accepted bands lie apart.** -/
theorem accepted_of_validate (h : validateGradingBands bands = .ok ()) : Accepted bands := by
  unfold validateGradingBands at h
  split at h
  · cases h
  split at h
  · cases h
  rename_i hrange
  split at h
  · cases h
  split at h
  · cases h
  split at h
  · cases h
  rename_i hascending
  have hinRange : ∀ band ∈ bands, band.inRange = true := by
    simpa using hrange
  refine ⟨hinRange, ?_⟩
  have hperm : (sortedBands bands).Perm bands := List.perm_insertionSort _ bands
  have hsorted : Intervals.Apart ((sortedBands bands).map GradeBand.range) := by
    refine Intervals.apart_of_isChain ?_ ?_
    · intro iv hiv
      obtain ⟨band, hband, rfl⟩ := List.mem_map.1 hiv
      obtain ⟨lo, hi, hlo, hhi, -, -, hle⟩ :=
        inRange_iff.1 (hinRange band (hperm.mem_iff.1 hband))
      simpa [GradeBand.range, hlo, hhi] using hle
    rw [List.isChain_map]
    exact not_not.1 hascending
  exact hsorted.perm (hperm.map _)

theorem holds_eq (h : band.inRange = true) (x : ℚ) :
    band.holds x = Intervals.contains x band.range := by
  obtain ⟨lo, hi, hlo, hhi, -⟩ := inRange_iff.1 h
  simp [GradeBand.holds, Intervals.contains, GradeBand.range, hlo, hhi]

/-- **A total falls in at most one band of an accepted matrix.** -/
theorem Accepted.countP_le_one (h : Accepted bands) (x : ℚ) :
    bands.countP (GradeBand.holds x) ≤ 1 := by
  have hcount : bands.countP (GradeBand.holds x)
      = (bands.map GradeBand.range).countP (Intervals.contains x) := by
    rw [List.countP_map]
    exact List.countP_congr fun band hband => by
      rw [holds_eq (h.inRange band hband)]
      rfl
  rw [hcount]
  exact h.apart.countP_le_one x

theorem Accepted.countP_eq_one (h : Accepted bands) :
    bands.countP (GradeBand.holds x) = 1 ↔ ∃ band ∈ bands, band.holds x = true := by
  rw [← List.countP_pos_iff]
  have hle : bands.countP (GradeBand.holds x) ≤ 1 := h.countP_le_one x
  omega

/-- Of two totals in bands, the higher is in the same band or in one further up. -/
theorem Accepted.asGood (h : Accepted bands) (hxy : x ≤ y)
    (hx : ∃ band ∈ bands, band.holds x = true) (hy : ∃ band ∈ bands, band.holds y = true) :
    AsGood (gradeBand x bands) (gradeBand y bands) := by
  obtain ⟨a, ha⟩ := Option.isSome_iff_exists.1 (List.find?_isSome.2 hx)
  obtain ⟨b, hb⟩ := Option.isSome_iff_exists.1 (List.find?_isSome.2 hy)
  rw [gradeBand, gradeBand, ha, hb]
  have hamem := List.mem_of_find?_eq_some ha
  have hbmem := List.mem_of_find?_eq_some hb
  have hax : a.range.1 ≤ x ∧ x ≤ a.range.2 := by
    rw [← Intervals.contains_iff, ← holds_eq (h.inRange a hamem)]
    exact List.find?_some ha
  have hby : b.range.1 ≤ y ∧ y ≤ b.range.2 := by
    rw [← Intervals.contains_iff, ← holds_eq (h.inRange b hbmem)]
    exact List.find?_some hb
  change a.range.1 ≤ b.range.1
  by_cases hsame : a.range = b.range
  · rw [hsame]
  rcases h.apart.of_ne (List.mem_map_of_mem hamem) (List.mem_map_of_mem hbmem) hsame with
    hbelow | habove
  · exact ((hax.1.trans hax.2).trans_lt hbelow).le
  · exact absurd ((hby.2.trans_lt habove).trans_le hax.1) (not_lt.2 hxy)

/-! ## Totals -/

/-- Two totals fall in exactly one band each, and the higher has a grade as good. -/
def Graded (bands : List GradeBand) (x y : ℚ) : Prop :=
  bands.countP (GradeBand.holds x) = 1 ∧ bands.countP (GradeBand.holds y) = 1
    ∧ AsGood (gradeBand x bands) (gradeBand y bands)

theorem Accepted.graded_pair_iff (h : Accepted bands) (hxy : x ≤ y) :
    Graded bands x y
      ↔ (∃ band ∈ bands, band.holds x = true) ∧ ∃ band ∈ bands, band.holds y = true := by
  rw [Graded, h.countP_eq_one, h.countP_eq_one]
  constructor
  · rintro ⟨hx, hy, -⟩
    exact ⟨hx, hy⟩
  rintro ⟨hx, hy⟩
  exact ⟨hx, hy, h.asGood hxy hx hy⟩

/-- Every total is in a band only under a single band from 0 to 100. -/
theorem Accepted.total_iff (h : Accepted bands) :
    (∀ x, 0 ≤ x → x ≤ 100 → ∃ band ∈ bands, band.holds x = true)
      ↔ ∃ band, bands = [band] ∧ band.min = some 0 ∧ band.max = some 100 := by
  have hends : ∀ iv ∈ bands.map GradeBand.range, 0 ≤ iv.1 ∧ iv.1 ≤ iv.2 ∧ iv.2 ≤ 100 := by
    intro iv hiv
    obtain ⟨band, hband, rfl⟩ := List.mem_map.1 hiv
    obtain ⟨lo, hi, hlo, hhi, hzero, hhundred, hle⟩ := inRange_iff.1 (h.inRange band hband)
    simpa [GradeBand.range, hlo, hhi] using ⟨hzero, hle, hhundred⟩
  have hcovers := Intervals.covers_iff_single h.apart hends (by norm_num)
  have hholds : ∀ x, (∃ band ∈ bands, band.holds x = true)
      ↔ ∃ iv ∈ bands.map GradeBand.range, Intervals.contains x iv = true := by
    intro x
    constructor
    · rintro ⟨band, hband, hx⟩
      exact ⟨band.range, List.mem_map_of_mem hband, holds_eq (h.inRange band hband) x ▸ hx⟩
    rintro ⟨iv, hiv, hx⟩
    obtain ⟨band, hband, rfl⟩ := List.mem_map.1 hiv
    exact ⟨band, hband, (holds_eq (h.inRange band hband) x).trans hx⟩
  simp only [hholds, hcovers]
  constructor
  · intro hsingle
    obtain ⟨band, rfl, hrange⟩ := List.map_eq_singleton_iff.1 hsingle
    obtain ⟨lo, hi, hlo, hhi, -⟩ := inRange_iff.1 (h.inRange band (List.mem_singleton_self band))
    rw [GradeBand.range, hlo, hhi, Option.getD_some, Option.getD_some, Prod.mk.injEq] at hrange
    exact ⟨band, rfl, hrange.1 ▸ hlo, hrange.2 ▸ hhi⟩
  rintro ⟨band, rfl, hlo, hhi⟩
  simp [GradeBand.range, hlo, hhi]

theorem validate_default : validateGradingBands defaultGradeBands = .ok () := by decide +kernel

end MultiAcademy.School
