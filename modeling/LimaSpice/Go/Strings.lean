import Mathlib.Data.List.DropRight
import Mathlib.Data.List.Infix
import Mathlib.Data.List.Basic
import LimaSpice.Go.Unicode

/-!
# Go's `strings` package, as the SPICE code uses it

A Go `string` is modelled by the Lean `String` of its runes. Every function below works rune by
rune or looks for an ASCII separator, and UTF-8 never puts an ASCII byte inside a multi-byte rune,
so on valid UTF-8 text the byte functions of Go and these rune functions agree.

* `hasPrefix`, `trimPrefix`, `split`, `splitN2`, `trimSpace`, `fields`, `toLower`, `contains`,
  `join`: `strings.HasPrefix`, `strings.TrimPrefix`, `strings.Split` and `strings.SplitN(s, sep, 2)`
  for a one-rune separator, `strings.TrimSpace` and `strings.Fields` (with `unicode.IsSpace`),
  `strings.ToLower`, `strings.Contains`, `strings.Join`; `parseInt` is `strconv.ParseInt` in base
  10 for 64 bits, and `quote` is `strconv.Quote`, the `%q` of `fmt`;
* a Go result `(T, error)` is an `Except String T`, the error given by its `Error()` text; `%w`
  wraps an error by prefixing its text.
-/

namespace LimaSpice.Go

instance instDecidableEqExcept {ε α : Type} [DecidableEq ε] [DecidableEq α] :
    DecidableEq (Except ε α)
  | .error a, .error b => decidable_of_iff (a = b) (by simp)
  | .ok a, .ok b => decidable_of_iff (a = b) (by simp)
  | .error _, .ok _ => isFalse (by simp)
  | .ok _, .error _ => isFalse (by simp)

/-! ### Prefixes -/

/-- `strings.HasPrefix(s, prefix)`. -/
def hasPrefix (s pre : String) : Bool := pre.data.isPrefixOf s.data

/-- `strings.TrimPrefix(s, prefix)`: `s` without `prefix` when it starts with it, else `s`. -/
def trimPrefix (s pre : String) : String :=
  if hasPrefix s pre then ⟨s.data.drop pre.data.length⟩ else s

theorem hasPrefix_iff {s pre : String} : hasPrefix s pre = true ↔ pre.data <+: s.data :=
  List.isPrefixOf_iff_prefix

@[simp] theorem hasPrefix_append (pre t : String) : hasPrefix (pre ++ t) pre = true :=
  hasPrefix_iff.2 (List.prefix_append _ _)

@[simp] theorem trimPrefix_append (pre t : String) : trimPrefix (pre ++ t) pre = t := by
  simp [trimPrefix]

theorem hasPrefix_trans {s p q : String} (hpq : p.data <+: q.data) (h : hasPrefix s q = true) :
    hasPrefix s p = true :=
  hasPrefix_iff.2 (hpq.trans (hasPrefix_iff.1 h))

/-! ### Splitting -/

/-- `strings.Split(s, sep)` for a one-rune `sep`: the pieces between the separators, one more
than there are separators (`Split("", ",")` is `[""]`). -/
def split (s : String) (sep : Char) : List String := (s.data.splitOn sep).map String.mk

/-- `strings.SplitN(s, sep, 2)` for a one-rune `sep`: `[s]` when `sep` does not occur, otherwise
the text before the first `sep` and the text after it. -/
def splitN2 (s : String) (sep : Char) : List String :=
  match s.data.dropWhile (· != sep) with
  | [] => [s]
  | _ :: after => [⟨s.data.takeWhile (· != sep)⟩, ⟨after⟩]

theorem prefix_splitOn_head (sep : Char) :
    ∀ {pre l : List Char}, sep ∉ pre → pre <+: l → ∃ t rest, l.splitOn sep = t :: rest ∧ pre <+: t
  | [], l, _, _ => by
    obtain ⟨t, rest, h⟩ := List.exists_cons_of_ne_nil (List.splitOnP_ne_nil (· == sep) l)
    exact ⟨t, rest, h, List.nil_prefix⟩
  | c :: pre, l, hsep, ⟨r, hr⟩ => by
    subst hr
    obtain ⟨t, rest, ht, hp⟩ := prefix_splitOn_head sep (l := pre ++ r) (fun h => hsep (.tail _ h))
      (List.prefix_append _ _)
    have hc : (c == sep) = false := by
      simp only [beq_eq_false_iff_ne, ne_eq]; rintro rfl; exact hsep (.head _)
    refine ⟨c :: t, rest, ?_, List.cons_prefix_cons.2 ⟨rfl, hp⟩⟩
    simpa [List.splitOn, hc] using congrArg (List.modifyHead (c :: ·)) ht

theorem splitN2_append {k v : List Char} {sep : Char} (h : sep ∉ k) :
    splitN2 ⟨k ++ sep :: v⟩ sep = [⟨k⟩, ⟨v⟩] := by
  have hk : ∀ c ∈ k, (c != sep) = true := fun c hc => by
    simp only [bne_iff_ne, ne_eq]; rintro rfl; exact h hc
  simp [splitN2, List.dropWhile_append_of_pos hk, List.takeWhile_append_of_pos hk]

/-- The two pieces of `SplitN(s, sep, 2)`, when there are two: the text before the first `sep`
(which has no `sep`) and the rest. -/
theorem splitN2_eq_pair {s k v : String} {sep : Char} (h : splitN2 s sep = [k, v]) :
    s.data = k.data ++ sep :: v.data ∧ sep ∉ k.data := by
  unfold splitN2 at h
  split at h
  · simp at h
  · rename_i c after hd
    simp only [List.cons.injEq, and_true] at h
    obtain ⟨rfl, rfl⟩ := h
    have hc : c = sep := by simpa [hd] using List.head?_dropWhile_not (· != sep) s.data
    refine ⟨?_, fun hm => by simpa using List.mem_takeWhile_imp hm⟩
    conv_lhs => rw [← List.takeWhile_append_dropWhile (· != sep) s.data, hd, hc]

theorem append_cons_cancel {x₁ x₂ z₁ z₂ : List Char} {sep : Char} (h₁ : sep ∉ x₁) (h₂ : sep ∉ x₂)
    (h : x₁ ++ sep :: z₁ = x₂ ++ sep :: z₂) : x₁ = x₂ ∧ z₁ = z₂ := by
  have := (splitN2_append (v := z₁) h₁).symm.trans ((congrArg (splitN2 ⟨·⟩ sep) h).trans
    (splitN2_append h₂))
  simpa [String.ext_iff] using this

/-! ### Pieces of a text -/

theorem splitOnP_pieces (p : Char → Bool) :
    ∀ l : List Char, (∀ t ∈ l.splitOnP p, t <:+: l) ∧ ∀ t ∈ (l.splitOnP p).head?, t <+: l
  | [] => by simp [List.splitOnP_nil]
  | c :: l => by
    obtain ⟨ih, ihh⟩ := splitOnP_pieces p l
    obtain ⟨t, rest, ht⟩ := List.exists_cons_of_ne_nil (List.splitOnP_ne_nil p l)
    have hl : l <:+: c :: l := (List.suffix_cons c l).isInfix
    rw [List.splitOnP_cons, ht]
    rw [ht] at ih ihh
    have htl : t <+: l := ihh t rfl
    split
    · simp only [List.forall_mem_cons, List.head?_cons, Option.mem_def, Option.some.injEq]
      exact ⟨⟨List.nil_infix, htl.isInfix.trans hl, fun u hu => (ih u (.tail _ hu)).trans hl⟩,
        fun u hu => hu ▸ List.nil_prefix⟩
    · simp only [List.modifyHead_cons, List.forall_mem_cons, List.head?_cons, Option.mem_def,
        Option.some.injEq, forall_eq']
      have hct : c :: t <+: c :: l := List.cons_prefix_cons.2 ⟨rfl, htl⟩
      exact ⟨⟨hct.isInfix, fun u hu => (ih u (.tail _ hu)).trans hl⟩, hct⟩

theorem infix_of_mem_split {s t : String} {sep : Char} (h : t ∈ split s sep) : t.data <:+: s.data := by
  obtain ⟨t, ht, rfl⟩ := List.mem_map.1 h
  exact (splitOnP_pieces _ s.data).1 t ht

theorem prefix_of_split_head {s t : String} {sep : Char} (h : t ∈ (split s sep).head?) :
    t.data <+: s.data := by
  simp only [split, List.head?_map, Option.mem_def, Option.map_eq_some'] at h
  obtain ⟨t, ht, rfl⟩ := h
  exact (splitOnP_pieces _ s.data).2 t ht

/-! ### Trimming white space -/

/-- `unicode.IsSpace`: the Latin-1 spaces `\t \n \v \f \r`, space, U+0085 and U+00A0, and above
Latin-1 the runes of Unicode's `White_Space` property. -/
def isSpace (c : Char) : Bool :=
  let n := c.toNat
  n = 0x09 || n = 0x0A || n = 0x0B || n = 0x0C || n = 0x0D || n = 0x20 || n = 0x85 || n = 0xA0 ||
  n = 0x1680 || (0x2000 ≤ n && n ≤ 0x200A) || n = 0x2028 || n = 0x2029 || n = 0x202F ||
  n = 0x205F || n = 0x3000

/-- `strings.TrimSpace`: `s` without its leading and trailing white space. -/
def trimSpace (s : String) : String := ⟨(s.data.dropWhile isSpace).rdropWhile isSpace⟩

/-- `strings.Fields`: the pieces of `s` between runs of white space, none of them empty. -/
def fields (s : String) : List String :=
  ((s.data.splitOnP isSpace).filter (!·.isEmpty)).map String.mk

theorem infix_of_mem_fields {s t : String} (h : t ∈ fields s) : t.data <:+: s.data := by
  obtain ⟨t, ht, rfl⟩ := List.mem_map.1 h
  exact (splitOnP_pieces _ s.data).1 t (List.mem_of_mem_filter ht)

theorem trimSpace_cons {c : Char} (l : List Char) (hc : isSpace c = false) :
    ∃ r, (trimSpace ⟨c :: l⟩).data = c :: r := by
  have hne : (c :: l).rdropWhile isSpace ≠ [] := fun h =>
    by simpa [hc] using List.rdropWhile_eq_nil_iff.1 h c (.head _)
  obtain ⟨u, hu⟩ := List.rdropWhile_prefix (p := isSpace) (l := c :: l)
  obtain ⟨d, r, hdr⟩ := List.exists_cons_of_ne_nil hne
  rw [hdr, List.cons_append, List.cons.injEq] at hu
  exact ⟨r, by simp [trimSpace, List.dropWhile_cons, hc, hdr, hu.1]⟩

/-! ### Case and containment -/

/-- `unicode.ToLower` on the runes an ASCII pattern can see: `A`–`Z`, and the two capitals
outside ASCII whose lower case is ASCII (U+0130 to `i`, the Kelvin sign U+212A to `k`). Go maps
every other rune to a rune outside ASCII, or to itself; here it is kept as it is, which no ASCII
pattern given to `strings.Contains` can tell apart. -/
def lowerRune (c : Char) : Char :=
  if 'A' ≤ c ∧ c ≤ 'Z' then Char.ofNat (c.toNat + 32)
  else if c.toNat = 0x130 then 'i'
  else if c.toNat = 0x212A then 'k'
  else c

/-- `strings.ToLower`. -/
def toLower (s : String) : String := ⟨s.data.map lowerRune⟩

/-- `strings.Contains(s, substr)`. -/
def contains (s substr : String) : Bool := decide (substr.data <:+: s.data)

/-- `strings.Join(elems, sep)`. -/
def join (elems : List String) (sep : String) : String := sep.intercalate elems

/-- `strconv.ParseInt(s, 10, 64)`: an optional sign, then one or more decimal digits, the value
within 64 bits; `none` for the error. -/
def parseInt (s : String) : Option Int :=
  let (neg, digits) : Bool × List Char := match s.data with
    | '-' :: ds => (true, ds)
    | '+' :: ds => (false, ds)
    | ds => (false, ds)
  if digits.isEmpty || !digits.all Char.isDigit then none
  else
    let n : Nat := digits.foldl (fun acc c => 10 * acc + (c.toNat - '0'.toNat)) 0
    let v : Int := if neg then -n else n
    if -9223372036854775808 ≤ v ∧ v < 9223372036854775808 then some v else none

/-- A digit of a lower-case hexadecimal numeral. -/
def hexDigit (n : Nat) : Char := if n < 10 then Char.ofNat (48 + n) else Char.ofNat (87 + n)

/-- The last `width` hexadecimal digits of `n`, most significant first. -/
def hexDigits (width n : Nat) : List Char :=
  (List.range width).reverse.map fun i => hexDigit ((n >>> (4 * i)) % 16)

/-- One rune as `strconv.Quote` writes it: `"` and `\` escaped, a printable rune as it is, the
escapes `\a \b \f \n \r \t \v`, another ASCII control or DEL as `\xHH`, any other rune as
`\uHHHH`, or as `\UHHHHHHHH` above U+FFFF. -/
def quoteRune (c : Char) : List Char :=
  if c = '"' ∨ c = '\\' then ['\\', c]
  else if isPrint c then [c]
  else match c.toNat with
    | 0x07 => ['\\', 'a']
    | 0x08 => ['\\', 'b']
    | 0x0C => ['\\', 'f']
    | 0x0A => ['\\', 'n']
    | 0x0D => ['\\', 'r']
    | 0x09 => ['\\', 't']
    | 0x0B => ['\\', 'v']
    | n =>
      if n < 0x20 ∨ n = 0x7F then '\\' :: 'x' :: hexDigits 2 n
      else if n < 0x10000 then '\\' :: 'u' :: hexDigits 4 n
      else '\\' :: 'U' :: hexDigits 8 n

/-- `strconv.Quote`, which `fmt` uses for `%q` on a string. -/
def quote (s : String) : String := "\"" ++ ⟨s.data.flatMap quoteRune⟩ ++ "\""

@[simp] theorem toLower_append (s t : String) : toLower (s ++ t) = toLower s ++ toLower t := by
  simp [toLower, String.ext_iff]

end LimaSpice.Go
