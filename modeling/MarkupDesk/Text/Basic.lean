/-
`Text/Basic.lean` -- text as a list of characters, and the handful of searches
and cuts that the rest of the library is built from.

A text is a `List Char`, so that every function below is a recursion on the
data and every position is a count of characters. `breakOn?` is the only
search: it finds the *first* occurrence, and `breakOn?_eq_some` says that its two
parts and the needle put the text together again. Everything that cuts at a
needle (`splitOnce?`, `replaceAll`) goes through it.
-/

set_option autoImplicit false

namespace MarkupDesk

/-- A text: its characters from left to right. Positions in a text are counts of
characters. -/
abbrev Text := List Char

instance : Coe String Text := ⟨String.toList⟩

namespace Text

/-! ## 1. Decimal digits and joining -/

/-- The decimal digits of a natural number, without leading zeros. -/
def ofNat (n : Nat) : Text := Nat.toDigits 10 n

/-- `n` in at least `width` digits, filled with zeros from the left. -/
def ofNatPadded (width n : Nat) : Text :=
  let digits := ofNat n
  List.replicate (width - digits.length) '0' ++ digits

/-- The decimal text of an integer; only a negative one carries a sign. -/
def ofInt (z : Int) : Text :=
  if z < 0 then '-' :: ofNat z.natAbs else ofNat z.natAbs

/-- The texts one after the other with `separator` between neighbours. -/
def join (separator : Text) (parts : List Text) : Text :=
  List.intercalate separator parts

/-- `count` spaces. -/
def spaces (count : Nat) : Text := List.replicate count ' '

/-- The text filled with spaces on the right to at least `width` characters. -/
def padRight (width : Nat) (t : Text) : Text := t ++ spaces (width - t.length)

/-! ## 2. Bytes

Where a length or a column is counted in bytes, it is the size of the UTF-8 form. -/

/-- The number of bytes of the UTF-8 form. -/
def byteLength : Text → Nat
  | [] => 0
  | c :: rest => c.utf8Size + byteLength rest

/-! ## 3. Searching -/

/-- The text before and the text behind the first occurrence of `needle`. -/
def breakOn? (needle : Text) : Text → Option (Text × Text)
  | [] => if needle.isEmpty then some ([], []) else none
  | c :: rest =>
    match needle.isPrefixOf? (c :: rest) with
    | some behind => some ([], behind)
    | none => (breakOn? needle rest).map fun (before, behind) => (c :: before, behind)

theorem isPrefixOf?_cons (n c : Char) (needle t : Text) :
    (n :: needle).isPrefixOf? (c :: t) = if n == c then needle.isPrefixOf? t else none := rfl

theorem eq_append_of_isPrefixOf? {needle t behind : Text}
    (h : needle.isPrefixOf? t = some behind) : t = needle ++ behind := by
  induction needle generalizing t with
  | nil =>
    cases t <;> exact Option.some.inj h
  | cons n needle ih =>
    cases t with
    | nil => cases h
    | cons c t =>
      rw [isPrefixOf?_cons] at h
      by_cases hc : (n == c) = true
      · rw [if_pos hc] at h
        rw [ih h, eq_of_beq hc, List.cons_append]
      · rw [if_neg hc] at h
        cases h

/-- The two parts of a break and the needle between them are the whole text. -/
theorem breakOn?_eq_some {needle t before behind : Text}
    (h : breakOn? needle t = some (before, behind)) : t = before ++ needle ++ behind := by
  induction t generalizing before with
  | nil =>
    cases needle with
    | nil => simp [breakOn?] at h; simp [h]
    | cons n needle => simp [breakOn?] at h
  | cons c rest ih =>
    simp only [breakOn?] at h
    split at h
    next found hfound =>
      obtain ⟨rfl, rfl⟩ : before = [] ∧ behind = found := by simpa [eq_comm] using h
      simpa using eq_append_of_isPrefixOf? hfound
    next =>
      obtain ⟨⟨b, r⟩, hb, heq⟩ := Option.map_eq_some_iff.1 h
      obtain ⟨rfl, rfl⟩ : before = c :: b ∧ behind = r := by simpa [eq_comm] using heq
      simp [ih hb]

/-- What stands behind an occurrence is shorter than the text, unless the needle is empty. -/
theorem length_of_breakOn? {needle t before behind : Text}
    (h : breakOn? needle t = some (before, behind)) :
    t.length = before.length + needle.length + behind.length := by
  rw [breakOn?_eq_some h]
  simp only [List.length_append]

/-- The text before and the text behind the first `c`. -/
def splitOnce? (c : Char) (t : Text) : Option (Text × Text) := breakOn? [c] t

/-- Is `c` one of the characters? -/
def contains (t : Text) (c : Char) : Bool := t.elem c

/-- Does the text begin with `start`? -/
def startsWith (t start : Text) : Bool := start.isPrefixOf t

/-- Does the text end with `ending`? -/
def endsWith (t ending : Text) : Bool := ending.isSuffixOf t

/-! ## 4. Replacing and cutting -/

/-- Every occurrence of `needle`, found from left to right and without overlap,
replaced by `replacement`. What is put in is not searched again. An empty needle
occurs nowhere. -/
def replaceAll (needle replacement t : Text) : Text :=
  if _hn : needle = [] then t
  else
    match _h : breakOn? needle t with
    | none => t
    | some (before, behind) => before ++ replacement ++ replaceAll needle replacement behind
termination_by t.length
decreasing_by
  have := length_of_breakOn? _h
  have : 0 < needle.length := List.length_pos_iff.2 _hn
  omega

/-- The pieces between the occurrences of `c`; a text without `c` is one piece. -/
def splitOn (c : Char) : Text → List Text
  | [] => [[]]
  | x :: rest =>
    if x = c then [] :: splitOn c rest
    else
      match splitOn c rest with
      | [] => [[x]]
      | piece :: pieces => (x :: piece) :: pieces

/-- The text without the longest ending whose characters all satisfy `p`. -/
def dropEndWhile (p : Char → Bool) (t : Text) : Text := (t.reverse.dropWhile p).reverse

/-- Each character of `t` that satisfies `p` replaced by `c`. -/
def maskWith (p : Char → Bool) (c : Char) (t : Text) : Text :=
  t.map fun x => if p x then c else x

end Text

end MarkupDesk
