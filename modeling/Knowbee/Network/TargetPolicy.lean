import Knowbee.JavaScript
import Knowbee.Lib.IpAddress

/-!
# Public network targets

`network-target-policy.ts`.  `isIP` of `node:net` and the parser of URLs are
parameters.  Texts of addresses are lists of characters.
-/

namespace Knowbee

open Ip

def number (digits : Text) : Int := Nat.ofDigitChars 10 digits 0

section

variable (isIP : Text → Nat) (address : Text)

def ipv4Number : Option Int :=
  if isIP address ≠ 4 then none
  else
    let octets := (address.splitOn '.').map number
    some (unsignedShiftRight
      (bitOr (bitOr (bitOr (shiftLeft (octets.getD 0 0) 24) (shiftLeft (octets.getD 1 0) 16))
        (shiftLeft (octets.getD 2 0) 8)) (octets.getD 3 0)) 0)

def isInIpv4Range (value base : Int) (length : Nat) : Bool :=
  let mask := if length = 0 then 0 else unsignedShiftRight (shiftLeft 0xffffffff (32 - length)) 0
  bitAnd value mask = bitAnd base mask

/-- The ranges that `isPublicIpv4` blocks. -/
def blocked : List (Int × Nat) :=
  [(0x00000000, 8), (0x0a000000, 8), (0x64400000, 10), (0x7f000000, 8), (0xa9fe0000, 16),
    (0xac100000, 12), (0xc0000000, 24), (0xc0000200, 24), (0xc0586300, 24), (0xc0a80000, 16),
    (0xc6120000, 15), (0xc6336400, 24), (0xcb007100, 24), (0xe0000000, 4)]

def isPublicIpv4 : Bool :=
  match ipv4Number isIP address with
  | none => false
  | some value => !blocked.any fun range => isInIpv4Range value range.1 range.2

/-- `\d{1,3}(?:\.\d{1,3}){3}`, the whole text. -/
def isDottedQuad (text : Text) : Bool :=
  let parts := text.splitOn '.'
  parts.length = 4 ∧ ∀ part ∈ parts, 0 < part.length ∧ part.length ≤ 3 ∧ part.all Char.isDigit

/-- What `/(?:^|:)(\d{1,3}(?:\.\d{1,3}){3})$/` captures: the text after the last
colon, or all of it. -/
def ipv4Tail (text : Text) : Option Text :=
  let last := (text.splitOn ':').getLastD []
  if isDottedQuad last then some last else none

/-- `split("::")`. -/
def splitCompressed : Text → List Text
  | ':' :: ':' :: rest => [] :: splitCompressed rest
  | c :: rest => (splitCompressed rest).modifyHead (c :: ·)
  | [] => [[]]

/-- `half ? half.split(":") : []`. -/
def splitHalf (half : Text) : List Text := if half = [] then [] else half.splitOn ':'

/-- `/^[0-9a-f]{1,4}$/`. -/
def isHexGroup (group : Text) : Bool :=
  0 < group.length ∧ group.length ≤ 4 ∧
    group.all fun c => ('0' ≤ c ∧ c ≤ '9') ∨ ('a' ≤ c ∧ c ≤ 'f')

/-- What `expandIpv6` makes of a text without zone and dots. -/
def expandGroups (normalized : Text) : Option (List Nat) :=
  let halves := splitCompressed normalized
  if 2 < halves.length then none
  else
    let left := splitHalf (halves.getD 0 [])
    let right := splitHalf (halves.getD 1 [])
    let missing : Int := 8 - left.length - right.length
    if (halves.length = 1 ∧ missing ≠ 0) ∨ (halves.length = 2 ∧ missing < 1) then none
    else
      let groups := left ++ List.replicate missing.toNat ['0'] ++ right
      if groups.length ≠ 8 ∨ ¬groups.all isHexGroup then none else some (groups.map hexValue)

def expandIpv6 : Option (List Nat) :=
  let withoutZone := (address.takeWhile (· ≠ '%')).map Char.toLower
  match ipv4Tail withoutZone with
  | none => expandGroups withoutZone
  | some tail =>
    match ipv4Number isIP tail with
    | none => none
    | some value =>
      expandGroups (withoutZone.take (withoutZone.length - tail.length) ++
        Nat.toDigits 16 (unsignedShiftRight value 16).toNat ++ ':' ::
        Nat.toDigits 16 (bitAnd value 0xffff).toNat)

def lastQuad (g6 g7 : Int) : Text :=
  decimal (unsignedShiftRight g6 8).toNat ++ '.' :: decimal (bitAnd g6 0xff).toNat ++ '.' ::
    decimal (unsignedShiftRight g7 8).toNat ++ '.' :: decimal (bitAnd g7 0xff).toNat

def isPublicIpv6 : Bool :=
  match expandIpv6 isIP address with
  | none => false
  | some groups =>
    let g (index : Nat) : Int := groups.getD index 0
    if groups.all (· = 0) ∨ ((groups.take 7).all (· = 0) ∧ g 7 = 1) then false
    else if bitAnd (g 0) 0xfe00 = 0xfc00 ∨ bitAnd (g 0) 0xffc0 = 0xfe80 ∨
        bitAnd (g 0) 0xff00 = 0xff00 then false
    else if g 0 = 0x0064 ∧ g 1 = 0xff9b ∧ g 2 = 0x0001 then false
    else if g 0 = 0x0100 ∧ g 1 = 0 ∧ g 2 = 0 ∧ g 3 = 0 then false
    else if g 0 = 0x2001 ∧ g 1 ≤ 0x01ff then false
    else if g 0 = 0x2001 ∧ g 1 = 0x0db8 then false
    else if g 0 = 0x2002 then false
    else if g 0 = 0 ∧ g 1 = 0 ∧ g 2 = 0 ∧ g 3 = 0 ∧ g 4 = 0 ∧ (g 5 = 0 ∨ g 5 = 0xffff) then
      isPublicIpv4 isIP (lastQuad (g 6) (g 7))
    else true

def isPublicIpAddress : Bool :=
  let family := isIP address
  if family = 4 then isPublicIpv4 isIP address
  else if family = 6 then isPublicIpv6 isIP address
  else false

end

/-- What is read of a `URL`; `href` is what `toString` gives. -/
structure Url where
  (protocol username password : String)
  hostname : Text
  href : String

inductive PublicTargetRejectionCode where
  | invalidUrl | schemeNotAllowed | credentialsNotAllowed | hostnameNotPublic | dnsResultEmpty
  | addressNotPublic

inductive PublicTargetDecision where
  | allowed (canonicalUrl : String) (hostname : Text)
  | rejected (code : PublicTargetRejectionCode)

structure PublicNetworkTargetInput where
  rawUrl : String
  resolvedAddresses : List Text

/-- `replace(/^\[|\]$/g, "")`. -/
def withoutBrackets (hostname : Text) : Text :=
  let front := if hostname.head? = some '[' then hostname.tail else hostname
  if front.getLast? = some ']' then front.dropLast else front

def evaluatePublicNetworkTarget (isIP : Text → Nat) (parseUrl : String → Option Url)
    (input : PublicNetworkTargetInput) : PublicTargetDecision :=
  match parseUrl input.rawUrl with
  | none => .rejected .invalidUrl
  | some url =>
    if url.protocol ≠ "http:" ∧ url.protocol ≠ "https:" then .rejected .schemeNotAllowed
    else if url.username ≠ "" ∨ url.password ≠ "" then .rejected .credentialsNotAllowed
    else
      let hostname := (withoutBrackets url.hostname).map Char.toLower
      if hostname = [] ∨ hostname = "localhost".toList ∨ ".localhost".toList <:+ hostname then
        .rejected .hostnameNotPublic
      else if input.resolvedAddresses = [] then .rejected .dnsResultEmpty
      else if ¬input.resolvedAddresses.all (isPublicIpAddress isIP) then .rejected .addressNotPublic
      else .allowed url.href hostname

end Knowbee
