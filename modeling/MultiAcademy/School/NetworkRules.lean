import MultiAcademy.Lib.Rounding
import MultiAcademy.School.Grading
import MultiAcademy.School.PolicySnapshot

/-!
# The networks that are blocked

`platform-config/enforcement.service.ts`: `ipBlocked` reads the octets and the prefix of a rule
with `Number`, which makes a number of more than decimal digits, and of an empty text zero.
-/

namespace MultiAcademy.School

open MultiAcademy.Lib

/-! ## Numbers -/

def digitValue (c : Char) : ℕ :=
  if '0' ≤ c ∧ c ≤ '9' then c.toNat - '0'.toNat
  else if 'a' ≤ c ∧ c ≤ 'f' then c.toNat - 'a'.toNat + 10
  else if 'A' ≤ c ∧ c ≤ 'F' then c.toNat - 'A'.toNat + 10
  else 16

def digitsIn (base : ℕ) (cs : List Char) : Option ℕ :=
  if cs ≠ [] ∧ (cs.all fun c => digitValue c < base) = true then
    some (cs.foldl (fun n c => base * n + digitValue c) 0)
  else none

def isDecimal (c : Char) : Bool := digitValue c < 10

/-- What may follow the digits of a decimal literal. -/
def exponentOf : List Char → Option ℤ
  | [] => some 0
  | e :: rest =>
    if e ≠ 'e' ∧ e ≠ 'E' then none
    else
      match rest with
      | '-' :: ds => (digitsIn 10 ds).map fun n => -(n : ℤ)
      | '+' :: ds => (digitsIn 10 ds).map Int.ofNat
      | ds => (digitsIn 10 ds).map Int.ofNat

def decimalLiteral (cs : List Char) : Option ℚ :=
  let tail := cs.dropWhile isDecimal
  let (fraction, rest) :=
    if tail.head? = some '.' then (tail.tail.takeWhile isDecimal, tail.tail.dropWhile isDecimal)
    else ([], tail)
  (digitsIn 10 (cs.takeWhile isDecimal ++ fraction)).bind fun n =>
    (exponentOf rest).map fun e => (n : ℚ) * 10 ^ (e - (fraction.length : ℤ))

/-- The number that a trimmed text is, as it is written. -/
def literal : List Char → Option ℚ
  | [] => some 0
  | '-' :: cs => (decimalLiteral cs).map (- ·)
  | '+' :: cs => decimalLiteral cs
  | [c] => decimalLiteral [c]
  | c :: d :: cs =>
    if c = '0' ∧ (d = 'x' ∨ d = 'X') then (digitsIn 16 cs).map (↑)
    else if c = '0' ∧ (d = 'o' ∨ d = 'O') then (digitsIn 8 cs).map (↑)
    else if c = '0' ∧ (d = 'b' ∨ d = 'B') then (digitsIn 2 cs).map (↑)
    else decimalLiteral (c :: d :: cs)

/-- `Number(text)`, when it is an integer. -/
def numberOf (rules : FloatRules) (text : String) : Option ℤ :=
  ((literal (trim text).toList).bind rules.near).bind fun x =>
    if x.den = 1 then some x.num else none

/-! ## Well-formed rules -/

/-- Decimal digits, of at most a bound. -/
def decimalUpTo (bound : ℕ) (cs : List Char) : Option ℕ := (digitsIn 10 cs).filter (· ≤ bound)

def dottedQuad (cs : List Char) : Option (BitVec 32) :=
  match (cs.splitOn '.').map (decimalUpTo 255) with
  | [some a, some b, some c, some d] =>
    some (BitVec.ofInt 32 ((((a : ℤ) * 256 + b) * 256 + c) * 256 + d))
  | _ => none

/-- The first `p` bits of two addresses. -/
def AgreeOn (p : ℕ) (a b : BitVec 32) : Prop := ∀ i < p, a.getMsbD i = b.getMsbD i

/-- The rule is a quad and a prefix, and the address is in that network. -/
def Names (rule ip : String) : Prop :=
  ∃ range bits p a r, rule.toList.splitOn '/' = [range, bits] ∧ decimalUpTo 32 bits = some p
    ∧ dottedQuad ip.toList = some a ∧ dottedQuad range = some r ∧ AgreeOn p a r

/-- A rule is the address, or names a network it is in. -/
def Blocks (ip : String) (cidrs : List String) : Prop := ip ∈ cidrs ∨ ∃ rule ∈ cidrs, Names rule ip

/-- The texts of the rule and of the address that are compared. -/
structure Parts where
  range : List Char
  bits : List Char
  more : List (List Char)

def Parts.ofRule (rule : String) : Option Parts :=
  match rule.toList.splitOn '/' with
  | range :: bits :: more => some ⟨range, bits, more⟩
  | _ => none

/-- The rule is a quad and a prefix, and the address is a quad. -/
def Parts.WellFormed (parts : Parts) (ip : String) : Prop :=
  parts.more = [] ∧ (decimalUpTo 32 parts.bits).isSome = true
    ∧ (dottedQuad ip.toList).isSome = true ∧ (dottedQuad parts.range).isSome = true

/-- With the numbers that the texts are read as, the address is in the network. -/
def Parts.Covers (platform : Platform) (parts : Parts) (ip : String) : Prop :=
  ∃ a r, ∃ bits : ℤ, toInt platform ip = some a
    ∧ toInt platform (String.ofList parts.range) = some r
    ∧ platform.number (String.ofList parts.bits) = some bits ∧ 0 ≤ bits ∧ bits ≤ 32
    ∧ AgreeOn bits.toNat a r

/-- The rule or the address is not well formed, and is read as one that is. -/
def Misread (platform : Platform) (rule ip : String) : Prop :=
  ∃ parts, Parts.ofRule rule = some parts ∧ parts.Covers platform ip ∧ ¬ parts.WellFormed ip

/-! ## The comparison -/

/-- **A mask compares the first bits.** -/
theorem and_mask_iff (a b : BitVec 32) {p : ℕ} (hp : p ≤ 32) :
    a &&& BitVec.allOnes 32 <<< (32 - p) = b &&& BitVec.allOnes 32 <<< (32 - p)
      ↔ AgreeOn p a b := by
  have hbit : ∀ (x : BitVec 32) (i : ℕ),
      (x &&& BitVec.allOnes 32 <<< (32 - p)).getMsbD i = (x.getMsbD i && decide (i < p)) := by
    intro x i
    have hlt : i + (32 - p) < 32 ↔ i < p := by omega
    rw [BitVec.getMsbD_and, BitVec.getMsbD_shiftLeft, BitVec.getMsbD_allOnes,
      decide_eq_decide.2 hlt]
  constructor
  · intro heq i hi
    have hbits := congrArg (BitVec.getMsbD · i) heq
    simpa only [hbit, hi, decide_true, Bool.and_true] using hbits
  · intro hagree
    refine BitVec.eq_of_getMsbD_eq fun i _ => ?_
    rw [hbit, hbit]
    by_cases hi : i < p
    · rw [hagree i hi]
    · simp [hi]

theorem ipv4InCidr_iff {platform : Platform} {ip cidr : String} :
    ipv4InCidr platform ip cidr = true
      ↔ ∃ parts, Parts.ofRule cidr = some parts ∧ parts.Covers platform ip := by
  unfold ipv4InCidr Parts.ofRule Parts.Covers
  have hmask : ∀ {bits : ℤ} {a r : BitVec 32}, 0 ≤ bits → bits ≤ 32 →
      ((a &&& if bits = 0 then 0 else BitVec.allOnes 32 <<< (32 - bits.toNat))
          = (r &&& if bits = 0 then 0 else BitVec.allOnes 32 <<< (32 - bits.toNat))
        ↔ AgreeOn bits.toNat a r) := by
    intro bits a r hlow hhigh
    split
    · rename_i hzero
      subst hzero
      simp [AgreeOn]
    · exact and_mask_iff a r (by omega)
  rcases cidr.toList.splitOn '/' with _ | ⟨range, _ | ⟨bitsRaw, more⟩⟩
  · simp
  · simp
  simp only [Option.some.injEq, exists_eq_left']
  constructor
  · intro h
    split at h
    · rename_i a r bits ha hr hbits
      split at h
      · cases h
      rename_i hin
      rw [not_or, not_lt, not_lt] at hin
      exact ⟨a, r, bits, ha, hr, hbits, hin.1, hin.2,
        (hmask hin.1 hin.2).1 (of_decide_eq_true h)⟩
    · cases h
  · rintro ⟨a, r, bits, ha, hr, hbits, hlow, hhigh, hagree⟩
    rw [ha, hr, hbits]
    dsimp only
    rw [if_neg (by omega)]
    exact decide_eq_true ((hmask hlow hhigh).2 hagree)

/-! ## Decimal digits -/

section Digits
variable {rules : FloatRules} {base bound n : ℕ} {cs : List Char}

theorem digitsIn_eq_some (h : digitsIn base cs = some n) :
    cs ≠ [] ∧ ∀ c ∈ cs, digitValue c < base := by
  unfold digitsIn at h
  split at h
  · rename_i hdigits
    exact ⟨hdigits.1, by simpa using hdigits.2⟩
  · cases h

/-- Decimal digits are no space. -/
theorem not_isSpace {c : Char} (h : digitValue c < 10) : isSpace c = false := by
  have hrange : 48 ≤ c.toNat ∧ c.toNat ≤ 57 := by
    unfold digitValue at h
    split at h
    · rename_i hdigit
      exact ⟨hdigit.1, hdigit.2⟩
    split at h
    · omega
    split at h <;> omega
  simp [isSpace]
  omega

theorem decimalLiteral_of_digits (h : digitsIn 10 cs = some n) :
    decimalLiteral cs = some (n : ℚ) := by
  have hall : ∀ c ∈ cs, isDecimal c = true :=
    fun c hc => decide_eq_true ((digitsIn_eq_some h).2 c hc)
  have htail : cs.dropWhile isDecimal = [] := List.dropWhile_eq_nil_iff.2 hall
  have hwhole : cs.takeWhile isDecimal = cs := List.takeWhile_eq_self_iff.2 hall
  simp [decimalLiteral, htail, hwhole, h, exponentOf]

theorem literal_of_digits (h : digitsIn 10 cs = some n) : literal cs = some (n : ℚ) := by
  obtain ⟨hne, hdigits⟩ := digitsIn_eq_some h
  have hnot : ∀ c ∈ cs, ∀ letter, ¬ digitValue letter < 10 → c ≠ letter := by
    rintro c hc _ hletter rfl
    exact hletter (hdigits c hc)
  unfold literal
  split
  · exact absurd rfl hne
  · exact absurd rfl (hnot '-' List.mem_cons_self '-' (by decide))
  · exact absurd rfl (hnot '+' List.mem_cons_self '+' (by decide))
  · exact decimalLiteral_of_digits h
  · rename_i c d rest _ _
    have hd : ∀ letter, ¬ digitValue letter < 10 → d ≠ letter :=
      hnot d (List.mem_cons_of_mem _ List.mem_cons_self)
    rw [if_neg fun hx => hx.2.elim (hd 'x' (by decide)) (hd 'X' (by decide)),
      if_neg fun ho => ho.2.elim (hd 'o' (by decide)) (hd 'O' (by decide)),
      if_neg fun hb => hb.2.elim (hd 'b' (by decide)) (hd 'B' (by decide))]
    exact decimalLiteral_of_digits h

theorem decimalUpTo_le (h : decimalUpTo bound cs = some n) : n ≤ bound :=
  of_decide_eq_true (Option.filter_eq_some_iff.1 h).2

/-- **Decimal digits are read as the number they are.** -/
theorem numberOf_of_digits (h : decimalUpTo bound cs = some n) (hbound : bound ≤ 255) :
    numberOf rules (String.ofList cs) = some (n : ℤ) := by
  have hdigits := (Option.filter_eq_some_iff.1 h).1
  have hkeep : ∀ l : List Char, (∀ c ∈ l, c ∈ cs) → l.dropWhile isSpace = l := by
    intro l hl
    cases l with
    | nil => rfl
    | cons c rest =>
      have hc := not_isSpace ((digitsIn_eq_some hdigits).2 c (hl c List.mem_cons_self))
      rw [List.dropWhile_cons_of_neg (by rw [hc]; exact Bool.false_ne_true)]
  have htrim : trim (String.ofList cs) = String.ofList cs := by
    rw [trim, String.toList_ofList, hkeep cs fun _ hc => hc,
      hkeep cs.reverse fun _ hc => List.mem_reverse.1 hc, List.reverse_reverse]
  have hnear : rules.near (n : ℚ) = some (n : ℚ) := by
    have hn : n ≤ 255 := (decimalUpTo_le h).trans hbound
    have hcast := @FloatRules.near_int rules n (by
      rw [Nat.abs_cast]
      norm_num
      omega)
    exact_mod_cast hcast
  rw [numberOf, htrim, String.toList_ofList, literal_of_digits hdigits, Option.bind_some, hnear]
  simp

theorem toInt_of_dottedQuad {a : BitVec 32} {platform : Platform}
    (hnumber : platform.number = numberOf rules) (h : dottedQuad cs = some a) :
    toInt platform (String.ofList cs) = some a := by
  unfold dottedQuad at h
  split at h
  · rename_i w x y z hparts
    simp only [List.map_eq_cons_iff, List.map_eq_nil_iff] at hparts
    obtain ⟨_, _, hsplit, hw, _, _, rfl, hx, _, _, rfl, hy, _, _, rfl, hz, rfl⟩ := hparts
    have hin : ¬ [(w : ℤ), x, y, z].any (fun part => part < 0 ∨ 255 < part) = true := by
      have := decimalUpTo_le hw
      have := decimalUpTo_le hx
      have := decimalUpTo_le hy
      have := decimalUpTo_le hz
      simp
      omega
    rw [toInt, String.toList_ofList, hsplit, hnumber]
    simp only [List.map_cons, List.map_nil, numberOf_of_digits hw le_rfl,
      numberOf_of_digits hx le_rfl, numberOf_of_digits hy le_rfl, numberOf_of_digits hz le_rfl]
    rw [if_neg hin]
    exact h
  · cases h

end Digits

/-! ## The rules -/

section Rules
variable {platform : Platform} {rules : FloatRules} {ip rule : String} {cidrs : List String}

theorem ofRule_eq_some {parts : Parts} :
    Parts.ofRule rule = some parts
      ↔ rule.toList.splitOn '/' = parts.range :: parts.bits :: parts.more := by
  unfold Parts.ofRule
  rcases rule.toList.splitOn '/' with _ | ⟨range, _ | ⟨bits, more⟩⟩
  · simp
  · simp
  obtain ⟨range', bits', more'⟩ := parts
  simp

/-- **A rule names a network of the address exactly when it covers it, and all is well formed.** -/
theorem names_iff (hnumber : platform.number = numberOf rules) :
    Names rule ip ↔ ∃ parts, Parts.ofRule rule = some parts ∧ parts.Covers platform ip
      ∧ parts.WellFormed ip := by
  have hip : ∀ {a}, dottedQuad ip.toList = some a → toInt platform ip = some a := by
    intro a ha
    have hread := toInt_of_dottedQuad hnumber ha
    rwa [String.ofList_toList] at hread
  constructor
  · rintro ⟨range, bits, p, a, r, hsplit, hbits, ha, hr, hagree⟩
    have hnum : platform.number (String.ofList bits) = some (p : ℤ) := by
      rw [hnumber]
      exact numberOf_of_digits hbits (by decide)
    have hp := decimalUpTo_le hbits
    refine ⟨⟨range, bits, []⟩, ofRule_eq_some.2 hsplit, ⟨a, r, p, hip ha,
      toInt_of_dottedQuad hnumber hr, hnum, by omega, by omega, hagree⟩, rfl, ?_, ?_, ?_⟩
    · rw [hbits]
      rfl
    · rw [ha]
      rfl
    · rw [hr]
      rfl
  · rintro ⟨⟨range, bits, more⟩, hrule, ⟨a, r, number, ha, hr, hnum, -, -, hagree⟩,
      rfl, hbits, hquad, hrange⟩
    obtain ⟨p, hp⟩ := Option.isSome_iff_exists.1 hbits
    obtain ⟨a', ha'⟩ := Option.isSome_iff_exists.1 hquad
    obtain ⟨r', hr'⟩ := Option.isSome_iff_exists.1 hrange
    rw [hip ha', Option.some.injEq] at ha
    rw [toInt_of_dottedQuad hnumber hr', Option.some.injEq] at hr
    rw [hnumber, numberOf_of_digits hp (by decide), Option.some.injEq] at hnum
    subst ha hr hnum
    exact ⟨range, bits, p, a', r', ofRule_eq_some.1 hrule, hp, ha', hr', hagree⟩

/-- The list blocks an address that its rules name, and one that a rule is misread to cover. -/
theorem ipBlocked_iff (hnumber : platform.number = numberOf rules) :
    ipBlocked platform ip cidrs = true
      ↔ Blocks ip cidrs ∨ ∃ rule ∈ cidrs, Misread platform rule ip := by
  have hcovers : ∀ rule, ipv4InCidr platform ip rule = true
      ↔ Names rule ip ∨ Misread platform rule ip := by
    intro rule
    rw [ipv4InCidr_iff, names_iff hnumber, Misread, ← exists_or]
    refine exists_congr fun parts => ?_
    rw [← and_or_left, ← and_or_left, and_iff_left (em _)]
  simp only [ipBlocked, Bool.or_eq_true, List.contains_iff_mem, List.any_eq_true, hcovers, Blocks,
    and_or_left, exists_or, or_assoc]

end Rules

/-- The list blocks exactly what its rules name when they name the address, or none is misread as a
network that it is in. -/
theorem blocks_named_iff (rules : FloatRules) (featuresDigest : ℕ → List String → String)
    (ip : String) (cidrs : List String) :
    (ipBlocked ⟨numberOf rules, featuresDigest⟩ ip cidrs = true ↔ Blocks ip cidrs)
      ↔ Blocks ip cidrs
        ∨ ∀ rule ∈ cidrs, ¬ Misread ⟨numberOf rules, featuresDigest⟩ rule ip := by
  rw [@ipBlocked_iff ⟨numberOf rules, featuresDigest⟩ rules ip cidrs rfl]
  by_cases hnamed : Blocks ip cidrs
  · simp [hnamed]
  · simp [hnamed]

/-- A rule without its prefix blocks every address. -/
theorem not_blocks_named :
    ipBlocked ⟨numberOf .exact, fun _ _ => ""⟩ "192.168.0.1" ["10.0.0.0/"] = true
      ∧ ¬ Blocks "192.168.0.1" ["10.0.0.0/"] := by
  have hsplit : "10.0.0.0/".toList.splitOn '/' = ["10.0.0.0".toList, []] := by decide
  have hread : ∀ (text : String) (a : BitVec 32), dottedQuad text.toList = some a →
      toInt ⟨numberOf .exact, fun _ _ => ""⟩ text = some a := by
    intro text a ha
    have htext : toInt ⟨numberOf .exact, fun _ _ => ""⟩ (String.ofList text.toList) = some a :=
      toInt_of_dottedQuad rfl ha
    rwa [String.ofList_toList] at htext
  constructor
  · have hcovers : ipv4InCidr ⟨numberOf .exact, fun _ _ => ""⟩ "192.168.0.1" "10.0.0.0/" = true :=
      ipv4InCidr_iff.2 ⟨⟨_, _, []⟩, ofRule_eq_some.2 hsplit, 0xC0A80001, 0x0A000000, 0,
        hread _ _ (by decide), hread _ _ (by decide), by decide, by decide,
        by decide, nofun⟩
    rw [ipBlocked, Bool.or_eq_true, List.any_eq_true]
    exact Or.inr ⟨_, List.mem_singleton_self _, hcovers⟩
  rintro (hsame | ⟨rule, hrule, range, bits, p, a, r, hparts, hbits, -⟩)
  · exact absurd (List.mem_singleton.1 hsame) (by decide)
  · rw [List.mem_singleton.1 hrule, hsplit] at hparts
    cases hparts
    cases hbits

end MultiAcademy.School
