/-
`Files/Listing.lean` -- the order in which a directory lists what it holds.

The order is neither that of the names nor that of their making. A directory keeps
its entries by a hash of their names, which is half of MD4: three rounds of eight
steps on blocks of eight words, from the usual start. Of the four words that come
out the second one decides, without its lowest bit, and then the third.

A tree is listed from the top: a directory, then all below it, then the entry after
it. So two locations compare as the first names compare in which they differ
(`listedLe`).
-/
import MarkupDesk.Files.Disk

set_option autoImplicit false

namespace MarkupDesk.Files

/-! ## 1. The hash of a name -/

/-- The four words of the hash. -/
structure HashWords where
  a : UInt32
  b : UInt32
  c : UInt32
  d : UInt32
  deriving DecidableEq, Repr

namespace HashWords

/-- The words before the first block. -/
def start : HashWords := ⟨0x67452301, 0xEFCDAB89, 0x98BADCFE, 0x10325476⟩

/-- The word with its bits moved up, those that leave it entering below. -/
def rotate (w amount : UInt32) : UInt32 := (w <<< amount) ||| (w >>> (32 - amount))

/-- The bits of `y` where `x` has a one, and those of `z` elsewhere. -/
def choose (x y z : UInt32) : UInt32 := z ^^^ (x &&& (y ^^^ z))

/-- The bits that two of the words have. -/
def majority (x y z : UInt32) : UInt32 := (x &&& y) + ((x ^^^ y) &&& z)

/-- The bits that one or all of the words have. -/
def parity (x y z : UInt32) : UInt32 := x ^^^ y ^^^ z

/-- One step: the first word takes in the others and a word of the block, and each
word moves on by one place. -/
def step (mix : UInt32 → UInt32 → UInt32 → UInt32) (h : HashWords) (input amount : UInt32) :
    HashWords :=
  ⟨h.d, rotate (h.a + mix h.b h.c h.d + input) amount, h.b, h.c⟩

/-- Steps with the words of a block that stand at these places; the amounts are for four
steps and serve twice. -/
def round (mix : UInt32 → UInt32 → UInt32 → UInt32) (constant : UInt32) (places : List Nat)
    (amounts : List UInt32) (block : List UInt32) (h : HashWords) : HashWords :=
  (places.zip (amounts ++ amounts)).foldl
    (fun h (place, amount) => h.step mix (block.getD place 0 + constant) amount) h

/-- The words after a block. -/
def absorb (h : HashWords) (block : List UInt32) : HashWords :=
  let first := round choose 0 [0, 1, 2, 3, 4, 5, 6, 7] [3, 7, 11, 19] block h
  let second := round majority 0x5A827999 [1, 3, 5, 7, 0, 2, 4, 6] [3, 5, 9, 13] block first
  let third := round parity 0x6ED9EBA1 [3, 7, 2, 6, 1, 5, 0, 4] [3, 9, 11, 15] block second
  ⟨h.a + third.a, h.b + third.b, h.c + third.c, h.d + third.d⟩

end HashWords

/-- The number of bytes of a block. -/
def hashBlockBytes : Nat := 32

/-- A byte as a word, its highest bit being its sign. -/
def signedWord (byte : UInt8) : UInt32 := byte.toInt8.toInt32.toUInt32

/-- The word of up to four bytes behind a filling. -/
def packWord (filling : UInt32) (bytes : List UInt8) : UInt32 :=
  bytes.foldl (fun word byte => signedWord byte + (word <<< 8)) filling

/-- The block at the start of the bytes. What they leave empty is filled with their
number. -/
def hashBlock (bytes : List UInt8) : List UInt32 :=
  let filling := UInt32.ofNat bytes.length * 0x01010101
  (List.range 8).map fun i => packWord filling ((bytes.drop (4 * i)).take 4)

/-- The words after all bytes. -/
def hashBytes (h : HashWords) (bytes : List UInt8) : HashWords :=
  if bytes.isEmpty then h
  else hashBytes (h.absorb (hashBlock bytes)) (bytes.drop hashBlockBytes)
termination_by bytes.length
decreasing_by
  cases bytes with
  | nil => contradiction
  | cons byte rest =>
    rw [List.length_drop]
    exact Nat.sub_lt (Nat.succ_pos rest.length) (by decide)

/-- What a directory keeps a name by. -/
def nameHash (name : Text) : UInt32 × UInt32 :=
  let h := hashBytes HashWords.start (name.flatMap String.utf8EncodeChar)
  (h.b &&& 0xFFFFFFFE, h.c)

/-! ## 2. The order -/

/-- Is the first name listed before the second? -/
def listedBefore (name other : Text) : Bool :=
  let h := nameHash name
  let k := nameHash other
  h.1 < k.1 || (h.1 == k.1 && h.2 < k.2)

/-- Is the first location listed before the second, or are they the same? -/
def listedLe : Location → Location → Bool
  | [], _ => true
  | _ :: _, [] => false
  | name :: names, other :: others =>
    if name = other then listedLe names others else listedBefore name other

end MarkupDesk.Files
