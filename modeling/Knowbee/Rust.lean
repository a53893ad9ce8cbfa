import Mathlib.Data.String.Basic
import Mathlib.Algebra.Group.Int.Defs
import Mathlib.Algebra.GroupWithZero.Nat

/-!
# Values of the Rust node

Unsigned words as natural numbers, and the string operations the validators of
the node are written with, over the characters of a string: `str::trim` by the
Unicode white space property, `str::strip_prefix`, `is_ascii_hexdigit`, and the
length in UTF-8 bytes.  SHA-256 itself stays a parameter, a function from bytes
to a hexadecimal digest.
-/

namespace Knowbee

open String

def u32Max : Nat := 2 ^ 32 - 1

def u64Max : Nat := 2 ^ 64 - 1

/-- `u64` addition of a release build, which wraps. -/
def u64Add (left right : Nat) : Nat := (left + right) % 2 ^ 64

def u64CheckedAdd (left right : Nat) : Option Nat :=
  if left + right ≤ u64Max then some (left + right) else none

/-- The Unicode property `White_Space`, which `str::trim` removes. -/
def isWhiteSpace (c : Char) : Bool :=
  let n := c.toNat
  (9 ≤ n && n ≤ 13) || n == 32 || n == 0x85 || n == 0xA0 || n == 0x1680 ||
    (0x2000 ≤ n && n ≤ 0x200A) || n == 0x2028 || n == 0x2029 || n == 0x202F ||
    n == 0x205F || n == 0x3000

/-- `char::is_control`: the general category `Cc`. -/
def isControl (c : Char) : Bool := c.toNat < 32 || (127 ≤ c.toNat && c.toNat < 160)

/-- `u8::is_ascii_hexdigit`, in either case. -/
def isAsciiHexdigit (c : Char) : Bool :=
  (48 ≤ c.toNat && c.toNat ≤ 57) || (65 ≤ c.toNat && c.toNat ≤ 70) ||
    (97 ≤ c.toNat && c.toNat ≤ 102)

def isLowercaseAlphanumeric (c : Char) : Bool :=
  (97 ≤ c.toNat && c.toNat ≤ 122) || (48 ≤ c.toNat && c.toNat ≤ 57)

variable (value : String)

def trim : String :=
  let front := value.toList.dropWhile isWhiteSpace
  ofList (front.reverse.dropWhile isWhiteSpace).reverse

def utf8Len (chars : List Char) : Nat := (chars.map Char.utf8Size).sum

lemma utf8ByteSize_eq : value.utf8ByteSize = utf8Len value.toList := by
  have sized chars : (ofList chars).utf8ByteSize = utf8Len chars := by
    induction chars with
    | nil => rfl
    | cons first rest ih =>
      have cons : ofList (first :: rest) = singleton first ++ ofList rest := by
        apply toList_inj.mp
        simp [toList_append]
      rw [cons, utf8ByteSize_append, utf8ByteSize_singleton, ih]
      simp [utf8Len]
  rw [← sized, ofList_toList]

def stripPrefix (value start : List Char) : Option (List Char) :=
  if start.isPrefixOf value then some (value.drop start.length) else none

lemma stripPrefix_append (start rest : List Char) :
    stripPrefix (start ++ rest) start = some rest := by
  simp [stripPrefix, List.isPrefixOf_iff_prefix]

lemma stripPrefix_eq_some {value start rest : List Char} :
    stripPrefix value start = some rest ↔ value = start ++ rest := by
  refine ⟨fun stripped => ?_, fun same => same ▸ stripPrefix_append start rest⟩
  unfold stripPrefix at stripped
  split_ifs at stripped with starts
  obtain ⟨tail, rfl⟩ := List.isPrefixOf_iff_prefix.mp starts
  simpa using stripped

def stripSuffix (value ending : List Char) : Option (List Char) :=
  if ending.isSuffixOf value then some (value.take (value.length - ending.length)) else none

lemma stripSuffix_eq_some {value ending rest : List Char} :
    stripSuffix value ending = some rest ↔ value = rest ++ ending := by
  unfold stripSuffix
  refine ⟨fun stripped => ?_, fun same => by simp [same]⟩
  split_ifs at stripped with ends
  obtain ⟨front, rfl⟩ := List.isSuffixOf_iff_suffix.mp ends
  simpa using stripped

/-- 64 hexadecimal digits after the given start. -/
def isPrefixedHex (value start : String) : Bool :=
  match stripPrefix value.toList start.toList with
  | some digest => utf8Len digest == 64 && digest.all isAsciiHexdigit
  | none => false

/-- A `sha256:` digest in hexadecimal, as every module of the node checks it. -/
def isSha256Digest : Bool := isPrefixedHex value "sha256:"

def isBoundedNonBlank (maxBytes : Nat) : Bool :=
  !(trim value).isEmpty && value.utf8ByteSize ≤ maxBytes

/-- `is_bounded_identity` and `is_identity`. -/
def isBoundedIdentity : Bool := isBoundedNonBlank value 256

/-- The identifiers of `mqtt_v2_topics`: at most 64 bytes of lower case letters,
digits, hyphens and underscores, with a letter or digit at both ends. -/
def validateIdentifier : Bool :=
  match value.toList with
  | [] => false
  | first :: rest =>
    value.utf8ByteSize ≤ 64 && isLowercaseAlphanumeric first &&
      rest.all (fun c => isLowercaseAlphanumeric c || c == '-' || c == '_') &&
      (first :: rest).getLast?.any isLowercaseAlphanumeric

/-- `u64::to_be_bytes`, and `i64::to_be_bytes` of a value in two's complement. -/
def toBeBytes (value : Int) : ByteArray :=
  let word := (value % 2 ^ 64).toNat
  ⟨((List.range 8).reverse.map fun index => UInt8.ofNat (word / 256 ^ index)).toArray⟩

/-- The lower case hexadecimal form of a SHA-256 digest. -/
structure HexDigest where
  text : String
  size : utf8Len text.toList = 64
  hexadecimal : text.toList.all isAsciiHexdigit = true

/-- The hash function of the node, from bytes to the digest it prints. -/
abbrev Sha256 : Type := ByteArray → HexDigest

/-- `format!("sha256:{:x}", Sha256::digest(bytes))`. -/
def Sha256.prefixed (sha256 : Sha256) (bytes : ByteArray) : String :=
  "sha256:" ++ (sha256 bytes).text

def Sha256.ofText (sha256 : Sha256) (value : String) : String := sha256.prefixed value.toUTF8

@[simp] lemma isSha256Digest_prefixed (sha256 : Sha256) (bytes : ByteArray) :
    isSha256Digest (sha256.prefixed bytes) = true := by
  simp only [Sha256.prefixed, isSha256Digest, isPrefixedHex, toList_append, stripPrefix_append,
    (sha256 bytes).size, (sha256 bytes).hexadecimal, beq_self_eq_true, Bool.and_self]

end Knowbee
