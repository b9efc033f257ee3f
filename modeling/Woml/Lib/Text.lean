import Mathlib

/-!
# Text

String operations with the meaning they have on UTF-8 text in the source language, over the list
of characters, so that they compute inside proofs. Byte lengths are `String.utf8ByteSize`; a test
"every byte is an ASCII letter/digit" is the same test over the characters. Long texts are tested
over `bytes`, which computes faster.
-/

namespace Text

/-- The rest of `s` after the prefix `p`. -/
def dropChars {α : Type} [DecidableEq α] : List α → List α → Option (List α)
  | [], s => some s
  | _ :: _, [] => none
  | c :: p, d :: s => if c = d then dropChars p s else none

def stripPrefix (p s : String) : Option String := (dropChars p.toList s.toList).map String.ofList

def stripSuffix (p s : String) : Option String :=
  (dropChars p.toList.reverse s.toList.reverse).map fun r => String.ofList r.reverse

def startsWith (p s : String) : Bool := (dropChars p.toList s.toList).isSome

/-- The parts of a text between the characters that satisfy `sep`; at least one part. -/
def splitChars (sep : Char → Bool) : List Char → List (List Char)
  | [] => [[]]
  | c :: s =>
    if sep c then [] :: splitChars sep s
    else
      match splitChars sep s with
      | [] => [[c]]
      | part :: parts => (c :: part) :: parts

def split (sep : Char → Bool) (s : String) : List (List Char) := splitChars sep s.toList

/-- The two sides of the first occurrence of `p`. -/
def splitOnceChars (p : List Char) : List Char → Option (List Char × List Char)
  | [] => if p = [] then some ([], []) else none
  | c :: s =>
    match dropChars p (c :: s) with
    | some rest => some ([], rest)
    | none => (splitOnceChars p s).map fun (l, r) => (c :: l, r)

def splitOnce (p s : String) : Option (String × String) :=
  (splitOnceChars p.toList s.toList).map fun (l, r) => (String.ofList l, String.ofList r)

/-- Unicode `White_Space`. -/
def isWhiteSpace (c : Char) : Bool :=
  let n := c.toNat
  (0x9 ≤ n && n ≤ 0xd) || n = 0x20 || n = 0x85 || n = 0xa0 || n = 0x1680 ||
    (0x2000 ≤ n && n ≤ 0x200a) || n = 0x2028 || n = 0x2029 || n = 0x202f || n = 0x205f ||
    n = 0x3000

/-- `s.trim() == s`. -/
def isTrimmed (s : String) : Bool :=
  !(s.toList.head?.any isWhiteSpace) && !(s.toList.getLast?.any isWhiteSpace)

/-- Unicode general category `Cc`. -/
def isControl (c : Char) : Bool := c.toNat < 0x20 || (0x7f ≤ c.toNat && c.toNat < 0xa0)

def bytes (s : String) : List UInt8 := s.toByteArray.data.toList

def isLowerHex (byte : UInt8) : Bool :=
  (48 ≤ byte.toNat && byte.toNat ≤ 57) || (97 ≤ byte.toNat && byte.toNat ≤ 102)

def isLowerOrDigit (c : Char) : Bool := c.isLower || c.isDigit

def isUpperDigitOrUnderscore (c : Char) : Bool := c.isUpper || c.isDigit || c = '_'

def isWordOrDash (c : Char) : Bool := c.isAlphanum || c = '_' || c = '-'

def all (p : Char → Bool) (s : String) : Bool := s.toList.all p

/-- The number that a decimal text denotes, `none` on the empty text or another character. -/
def parseNat (s : String) : Option Nat :=
  if s.toList ≠ [] ∧ all Char.isDigit s then
    some (s.toList.foldl (fun n c => 10 * n + (c.toNat - '0'.toNat)) 0)
  else none

/-- The number of a machine type of `bits` bits: a decimal text with an optional plus sign. -/
def parseUnsigned (bits : Nat) (s : String) : Option Nat :=
  (parseNat ((stripPrefix "+" s).getD s)).filter (· < 2 ^ bits)

def contains (p s : String) : Bool := (splitOnce p s).isSome

def endsWith (p s : String) : Bool := (stripSuffix p s).isSome

/-- Every occurrence of `p`, which is not empty, replaced by `r`, from left to right; the fuel
bounds the number of occurrences. -/
def replaceChars (p r : List Char) : Nat → List Char → List Char
  | 0, s => s
  | fuel + 1, s =>
    match splitOnceChars p s with
    | none => s
    | some (before, after) => before ++ r ++ replaceChars p r fuel after

def replace (p r s : String) : String :=
  String.ofList (replaceChars p.toList r.toList s.toList.length s.toList)

def toAsciiLower (s : String) : String := String.ofList (s.toList.map Char.toLower)

/-- A text as the source's `:?` formatting prints it (printable text: only the quote, the
backslash and the named control characters are escaped). -/
def quote (s : String) : String :=
  "\"" ++ String.ofList (s.toList.flatMap fun c =>
    if c = '"' then ['\\', '"'] else if c = '\\' then ['\\', '\\']
    else if c = '\n' then ['\\', 'n'] else if c = '\t' then ['\\', 't']
    else if c = '\r' then ['\\', 'r'] else [c]) ++ "\""

def hexDigit (n : Nat) : Char := "0123456789abcdef".toList.getD n '0'

/-- A text as a JSON string literal. -/
def jsonString (s : String) : String :=
  "\"" ++ String.ofList (s.toList.flatMap fun c =>
    if c = '"' then ['\\', '"'] else if c = '\\' then ['\\', '\\']
    else if c = '\n' then ['\\', 'n'] else if c = '\t' then ['\\', 't']
    else if c = '\r' then ['\\', 'r'] else if c.toNat = 8 then ['\\', 'b']
    else if c.toNat = 12 then ['\\', 'f']
    else if c.toNat < 32 then
      ['\\', 'u', '0', '0', hexDigit (c.toNat / 16), hexDigit (c.toNat % 16)]
    else [c]) ++ "\""

/-! ## Separators and decimal numbers -/

/-- What stands before the first separator, and after it. -/
theorem append_cons_inj {α : Type} {a : α} {x y u v : List α} (hx : a ∉ x) (hy : a ∉ y)
    (h : x ++ a :: u = y ++ a :: v) : x = y ∧ u = v := by
  obtain ⟨l, rfl, he⟩ | ⟨l, rfl, he⟩ := List.append_eq_append_iff.1 h <;> cases l <;> grind

theorem isDigit_repr (n : Nat) : ∀ c ∈ n.repr.toList, c.isDigit = true := fun _ h =>
  Nat.isDigit_of_mem_toDigits (by decide) (by decide) (Nat.toList_repr ▸ h)

theorem repr_injective : Function.Injective Nat.repr := fun m n h => by
  simpa using congrArg (fun s : String => Nat.ofDigitChars 10 s.toList 0) h

end Text
