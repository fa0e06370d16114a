import Mathlib.Data.List.DropRight
import Mathlib.Data.Nat.Digits

/-!
VsphereCsi.Go.Strings — the parts of Go's standard library that the
modelled code runs on strings: `RegisterVolume` on an in-tree volume path,
the feature-state services on the values of a ConfigMap, and the Windows
mounter on paths and disk numbers.

* `trimLeft`, `trimRight`, `trim` — `strings.TrimLeft`, `strings.TrimRight`
  and `strings.Trim`. The second argument is a CUTSET: every leading and
  trailing rune that occurs anywhere in it is dropped. `Trim` trims the
  right end first (`trimLeftUnicode(trimRightUnicode(s, cutset), cutset)`).
* `isSpace`, `trimSpace` — `unicode.IsSpace` (the Latin-1 switch and the
  `White_Space` table above it) and `strings.TrimSpace`.
* `parseBool` — `strconv.ParseBool`, with `none` for its error.
* `replaceRune`, `hasPrefix` — `strings.Replace(s, old, new, -1)` for
  one-rune `old` and `new`, and `strings.HasPrefix`.
* `atoi`, `formatUint` — `strconv.Atoi` on a 64-bit platform, with `none`
  for its error, and `strconv.FormatUint(n, 10)`.
* `findBracketed` — the leftmost match of the regular expression
  `\[([^\[\]]*)\]`, which is `FindAllString(s, -1)[0]`; `none` is
  `MatchString(s) == false`.

The regular expression is modelled by its match, not by an automaton. Its
starred class excludes both brackets, so from a `[` the greedy run stops at
the first bracket after it, and backtracking into a shorter run cannot meet
a `]` (the character after a shorter run is inside the class). A match thus
starts at a `[` exactly when the first bracket after it is a `]`, and there
it is unique; leftmost-first semantics takes the first such `[`.

Strings are Lean `String`s, whose `data` is the rune list; Go's byte-level
fast paths (ASCII cutsets, a one-byte cutset) compute the same result and
are not modelled separately.
-/

namespace VsphereCsi.Go

/-- Is the rune in the cutset? -/
def inCutset (cutset : String) (c : Char) : Bool := decide (c ∈ cutset.data)

/-- `strings.TrimLeft(s, cutset)`. -/
def trimLeft (s cutset : String) : String := ⟨s.data.dropWhile (inCutset cutset)⟩

/-- `strings.TrimRight(s, cutset)`. -/
def trimRight (s cutset : String) : String := ⟨s.data.rdropWhile (inCutset cutset)⟩

/-- `strings.Trim(s, cutset)`. -/
def trim (s cutset : String) : String := trimLeft (trimRight s cutset) cutset

/-- `unicode.IsSpace`. -/
def isSpace (c : Char) : Bool :=
  let n := c.toNat
  if n ≤ 0xFF then
    n == 0x09 || n == 0x0A || n == 0x0B || n == 0x0C || n == 0x0D || n == 0x20 ||
      n == 0x85 || n == 0xA0
  else
    n == 0x1680 || (0x2000 ≤ n && n ≤ 0x200A) || n == 0x2028 || n == 0x2029 ||
      n == 0x202F || n == 0x205F || n == 0x3000

/-- `strings.TrimSpace(s)`. -/
def trimSpace (s : String) : String := ⟨(s.data.dropWhile isSpace).rdropWhile isSpace⟩

/-- After a `[`: the run of `[^\[\]]*` up to a closing `]`, when the first
bracket after the `[` is a `]`. -/
def bracketBody : List Char → Option (List Char)
  | [] => none
  | c :: cs =>
    if c = ']' then some []
    else if c = '[' then none
    else (bracketBody cs).map (c :: ·)

/-- The leftmost match of `\[([^\[\]]*)\]`. -/
def findBracketed : List Char → Option (List Char)
  | [] => none
  | c :: cs =>
    if c = '[' then
      match bracketBody cs with
      | some body => some ('[' :: body ++ [']'])
      | none => findBracketed cs
    else findBracketed cs

/-- `strconv.ParseBool(str)`: `none` is its error. -/
def parseBool (str : String) : Option Bool :=
  if ["1", "t", "T", "TRUE", "true", "True"].contains str then some true
  else if ["0", "f", "F", "FALSE", "false", "False"].contains str then some false
  else none

/-- `strings.Replace(s, string(old), string(new), -1)`. -/
def replaceRune (s : String) (old new : Char) : String :=
  ⟨s.data.map fun c => if c = old then new else c⟩

/-- `strings.HasPrefix(s, prefix)`. -/
def hasPrefix (s pre : String) : Bool := pre.data.isPrefixOf s.data

/-- The value of decimal digits read most significant first, from `acc`. -/
def digitsValue (acc : Nat) : List Char → Option Nat
  | [] => some acc
  | c :: cs => if c.isDigit then digitsValue (acc * 10 + (c.toNat - '0'.toNat)) cs else none

/-- The sign `Atoi` reads, and the runes after it: is it negative? -/
def splitSign : List Char → Bool × List Char
  | '-' :: ds => (true, ds)
  | '+' :: ds => (false, ds)
  | ds => (false, ds)

/-- `strconv.Atoi(s)` with a 64-bit `int`: an optional sign, then at least one
decimal digit, with the value in the range of `int64`. -/
def atoi (s : String) : Option Int :=
  let (neg, digits) := splitSign s.data
  if digits = [] then none
  else
    match digitsValue 0 digits with
    | none => none
    | some v =>
      let n : Int := if neg then -(v : Int) else v
      if -2 ^ 63 ≤ n ∧ n < 2 ^ 63 then some n else none

/-- The rune of a decimal digit. -/
def digitChar (d : Nat) : Char := Char.ofNat ('0'.toNat + d)

/-- `strconv.FormatUint(n, 10)`. -/
def formatUint (n : Nat) : String :=
  if n = 0 then "0" else ⟨((Nat.digits 10 n).reverse).map digitChar⟩

/-! ## Equations -/

/-- A bracket-free run closed by `]` is the body. -/
theorem bracketBody_append {body : List Char} (h : ∀ c ∈ body, c ≠ '[' ∧ c ≠ ']')
    (rest : List Char) : bracketBody (body ++ ']' :: rest) = some body := by
  induction body with
  | nil => simp [bracketBody]
  | cons c cs ih =>
    have hc := h c (List.mem_cons_self c cs)
    simp [bracketBody, hc.1, hc.2, ih fun d hd => h d (List.mem_cons_of_mem c hd)]

/-- A path that opens with a bracketed, bracket-free name matches at once. -/
theorem findBracketed_open {body : List Char} (h : ∀ c ∈ body, c ≠ '[' ∧ c ≠ ']')
    (rest : List Char) :
    findBracketed ('[' :: body ++ ']' :: rest) = some ('[' :: body ++ [']']) := by
  simp [findBracketed, bracketBody_append h rest]

theorem trimLeft_data (s cutset : String) :
    (trimLeft s cutset).data = s.data.dropWhile (inCutset cutset) := rfl

theorem trimRight_data (s cutset : String) :
    (trimRight s cutset).data = s.data.rdropWhile (inCutset cutset) := rfl

theorem trimSpace_data (s : String) :
    (trimSpace s).data = (s.data.dropWhile isSpace).rdropWhile isSpace := rfl

theorem digitsValue_append (acc : Nat) (l₁ l₂ : List Char) :
    digitsValue acc (l₁ ++ l₂) = (digitsValue acc l₁).bind (digitsValue · l₂) := by
  induction l₁ generalizing acc with
  | nil => rfl
  | cons c cs ih => simp only [List.cons_append, digitsValue]; split <;> simp [ih]

theorem digitChar_spec : ∀ d < 10, (digitChar d).isDigit = true ∧
    (digitChar d).toNat - '0'.toNat = d := by
  decide

/-- Digits written most significant first read back as their value. -/
theorem digitsValue_digits (l : List Nat) (hl : ∀ d ∈ l, d < 10) :
    digitsValue 0 (l.reverse.map digitChar) = some (Nat.ofDigits 10 l) := by
  induction l with
  | nil => rfl
  | cons d ds ih =>
    have hd := digitChar_spec d (hl d (List.mem_cons_self _ _))
    rw [List.reverse_cons, List.map_append, digitsValue_append,
      ih fun x hx => hl x (List.mem_cons_of_mem _ hx)]
    simp only [List.map_cons, List.map_nil, Option.some_bind, digitsValue, hd.1, if_true, hd.2,
      Nat.ofDigits_cons]
    congr 1
    omega

theorem splitSign_of_isDigit {c : Char} (h : c.isDigit = true) (cs : List Char) :
    splitSign (c :: cs) = (false, c :: cs) := by
  unfold splitSign
  split
  · next heq => cases heq; exact absurd h (by decide)
  · next heq => cases heq; exact absurd h (by decide)
  · rfl

/-- **`Atoi` reads back what `FormatUint` writes**, for every value of
`int64`. -/
theorem atoi_formatUint {n : Nat} (h : n < 2 ^ 63) : atoi (formatUint n) = some (n : Int) := by
  by_cases h0 : n = 0
  · subst h0; decide
  have hl : ∀ d ∈ Nat.digits 10 n, d < 10 := fun d hd => Nat.digits_lt_base (by norm_num) hd
  obtain ⟨c, cs, hcs⟩ := List.exists_cons_of_ne_nil
    (by simpa [Nat.digits_ne_nil_iff_ne_zero] using h0 :
      (Nat.digits 10 n).reverse.map digitChar ≠ [])
  have hc : c.isDigit = true := by
    have hmem : c ∈ (Nat.digits 10 n).reverse.map digitChar := hcs ▸ List.mem_cons_self c cs
    obtain ⟨d, hd, rfl⟩ := List.mem_map.1 hmem
    exact (digitChar_spec d (hl d (List.mem_reverse.1 hd))).1
  have hv := digitsValue_digits _ hl
  rw [Nat.ofDigits_digits, hcs] at hv
  simp only [atoi, formatUint, h0, if_false, hcs, splitSign_of_isDigit hc, reduceCtorEq, hv,
    Bool.false_eq_true]
  rw [if_pos ⟨by omega, by omega⟩]

end VsphereCsi.Go
