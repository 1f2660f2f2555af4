import Skan.Library.BigEndian

/-!
# Status codes, addresses and hosts

The data every component of the scanner shares: `StatusCode`, the typed `IpAddress` with its
optional scope, `Host` and `Target`, and the conversions between addresses and their text.

## Text

A `std::string` is a list of bytes (`Text`): the scanner compares, concatenates and searches such
strings and never looks at them as code points.

## The address functions of the C library

`inet_ntop` and `inet_pton` for `AF_INET` are written out (dotted quad; strict parsing of exactly
four octets without leading zeros), and `inetPton4_inetNtop4` shows that they agree. For `AF_INET6`,
and for `if_nametoindex`, the library is a parameter `Inet`. -/

namespace Skan.Core

open BigEndian

variable {text : Text} {octets : List ℕ}

/-- `core::StatusCode`. -/
inductive StatusCode where
  | ok
  | invalidArgument
  | memoryError
  | ioError
  | permissionDenied
  | parseError
  | notFound
  | internalError
  | resourceExhausted
  deriving DecidableEq

theorem StatusCode.internalError_ne_ok : StatusCode.internalError ≠ .ok := by decide

/-- The bytes of a `std::string`. -/
abbrev Text := List UInt8

scoped instance : LawfulBEq Text := inferInstance

/-- The bytes of a string literal of the source. -/
def literal (text : String) : Text := text.toUTF8.data.toList

/-- A point of the steady clock, in nanoseconds; zero is the default-constructed one. -/
abbrev TimePoint := ℤ

inductive AddressFamily where
  | unknown
  | ipv4
  | ipv6
  deriving DecidableEq

/-- The sixteen bytes of an address in network order. -/
abbrev Bytes16 := Vector UInt8 16

/-- `core::IpAddress`. An IPv4 address occupies the first four bytes; the scope is meaningful for
IPv6 only and is part of the identity. -/
structure IpAddress where
  family : AddressFamily := .unknown
  bytes : Bytes16 := Vector.replicate 16 0
  scope : Option Text := none
  deriving DecidableEq

namespace IpAddress

/-- The four bytes of `address`, most significant first, followed by twelve zeros. -/
def fromIpv4 (address : UInt32) : IpAddress where
  family := .ipv4
  bytes := #v[(address >>> 24).toUInt8, (address >>> 16).toUInt8, (address >>> 8).toUInt8,
    address.toUInt8, 0, 0, 0, 0, 0, 0, 0, 0, 0, 0, 0, 0]

def fromIpv6 (address : Bytes16) : IpAddress where
  family := .ipv6
  bytes := address

def isIpv4 (a : IpAddress) : Bool := a.family = .ipv4

def isIpv6 (a : IpAddress) : Bool := a.family = .ipv6

def isIpv6LinkLocal (a : IpAddress) : Bool :=
  a.isIpv6 && a.bytes[0] = 0xFE && a.bytes[1] &&& 0xC0 = 0x80

def hasScope (a : IpAddress) : Bool :=
  a.isIpv6 && a.scope.any fun scope ↦ !scope.isEmpty

def valid (a : IpAddress) : Bool := a.isIpv4 || a.isIpv6

/-- `operator<`: by family, then by the bytes the family uses, then unscoped before scoped. -/
def lt (left right : IpAddress) : Bool :=
  let rank : AddressFamily → ℕ
    | .unknown => 0
    | .ipv4 => 1
    | .ipv6 => 2
  if left.family ≠ right.family then rank left.family < rank right.family
  else
    let length := if left.isIpv4 then 4 else 16
    let leftBytes := left.bytes.toList.take length
    let rightBytes := right.bytes.toList.take length
    if leftBytes ≠ rightBytes then leftBytes < rightBytes
    else
      match left.scope, right.scope with
      | none, none => false
      | none, some _ => true
      | some _, none => false
      | some leftScope, some rightScope => leftScope < rightScope

/-- The first four bytes as a host-order word. -/
def ipv4Word (a : IpAddress) : UInt32 :=
  u32OfBytes a.bytes[0] a.bytes[1] a.bytes[2] a.bytes[3]

@[simp] theorem fromIpv4_isIpv4 (a : UInt32) : (fromIpv4 a).isIpv4 = true := rfl
@[simp] theorem fromIpv4_valid (a : UInt32) : (fromIpv4 a).valid = true := rfl

@[simp] theorem ipv4Word_fromIpv4 (a : UInt32) : (fromIpv4 a).ipv4Word = a :=
  u32OfBytes_split a

theorem fromIpv4_injective : Function.Injective fromIpv4 := by
  intro a b h
  rw [← ipv4Word_fromIpv4 a, ← ipv4Word_fromIpv4 b, h]

end IpAddress

/-! ### The address functions of the C library -/

/-- The decimal digits of a byte, without leading zeros. -/
def decimalOctet (b : UInt8) : Text :=
  if b < 10 then [0x30 + b]
  else if b < 100 then [0x30 + b / 10, 0x30 + b % 10]
  else [0x30 + b / 100, 0x30 + b / 10 % 10, 0x30 + b % 10]

/-- `inet_ntop(AF_INET, …)`: four decimal octets separated by dots. -/
def inetNtop4 (address : UInt32) : Text :=
  let dot : Text := [0x2E]
  decimalOctet (address >>> 24).toUInt8 ++ dot ++ decimalOctet (address >>> 16).toUInt8 ++ dot ++
    decimalOctet (address >>> 8).toUInt8 ++ dot ++ decimalOctet address.toUInt8

def isDigit (c : UInt8) : Bool := 0x30 ≤ c && c ≤ 0x39

/-- The loop of `inet_pton(AF_INET, …)`: `octets` are the finished octets, newest first, `current`
the one being read, and `sawDigit` whether it has a digit yet. -/
def inetPton4Loop (octets : List ℕ) (current : ℕ) (sawDigit : Bool) : Text → Option (List ℕ)
  | [] => if octets.length + sawDigit.toNat < 4 then none else some (current :: octets).reverse
  | c :: text =>
    if isDigit c then
      if sawDigit && current = 0 then none
      else if current * 10 + (c.toNat - 0x30) > 255 then none
      else if !sawDigit && octets.length + 1 > 4 then none
      else inetPton4Loop octets (current * 10 + (c.toNat - 0x30)) true text
    else if c = 0x2E && sawDigit then
      if octets.length + 1 = 4 then none else inetPton4Loop (current :: octets) 0 false text
    else none

/-- `inet_pton(AF_INET, …)` on a C string, in host order. -/
def inetPton4 (text : Text) : Option UInt32 :=
  match inetPton4Loop [] 0 false text with
  | some [a, b, c, d] =>
    some (u32OfBytes (UInt8.ofNat a) (UInt8.ofNat b) (UInt8.ofNat c) (UInt8.ofNat d))
  | _ => none

/-! ### The dotted quad round trip -/

theorem inetPton4Loop_digit {current : ℕ} {sawDigit : Bool} {d : UInt8} (hd : d.toNat < 10)
    (hlead : sawDigit = true → current ≠ 0) (hsize : current * 10 + d.toNat ≤ 255)
    (hocts : sawDigit = false → octets.length < 4) :
    inetPton4Loop octets current sawDigit ((0x30 + d) :: text) =
      inetPton4Loop octets (current * 10 + d.toNat) true text := by
  have hc : (0x30 + d : UInt8).toNat = 0x30 + d.toNat := by
    simp
    omega
  have hdigit : isDigit (0x30 + d) = true := by
    simp only [isDigit, Bool.and_eq_true, decide_eq_true_eq, UInt8.le_iff_toNat_le, hc]
    exact ⟨by simp, by simp; omega⟩
  have hsub : 0x30 + d.toNat - 0x30 = d.toNat := by omega
  rw [inetPton4Loop, if_pos hdigit, hc, hsub]
  cases sawDigit with
  | true => simp [hlead rfl, Nat.not_lt.mpr hsize]
  | false =>
    have hroom : ¬ 4 < octets.length + 1 := Nat.not_lt.mpr (hocts rfl)
    simp [Nat.not_lt.mpr hsize, hroom]

theorem inetPton4Loop_octet {b : UInt8} (h : octets.length < 4) :
    inetPton4Loop octets 0 false (decimalOctet b ++ text) =
      inetPton4Loop octets b.toNat true text := by
  have hb : b.toNat < 256 := b.toNat_lt
  have hhundreds : (b / 100).toNat = b.toNat / 100 := by simp
  have htens : (b / 10 % 10).toNat = b.toNat / 10 % 10 := by simp
  have hten : (b / 10).toNat = b.toNat / 10 := by simp
  have hunits : (b % 10).toNat = b.toNat % 10 := by simp
  -- one, two or three digits, the first of which is not zero when there are several
  by_cases h₁ : b < 10
  · have hb₁ : b.toNat < 10 := h₁
    rw [decimalOctet, if_pos h₁, List.cons_append, List.nil_append,
      inetPton4Loop_digit hb₁ (by simp) (by omega) (fun _ ↦ h)]
    simp
  have hb₁ : ¬ b.toNat < 10 := h₁
  by_cases h₂ : b < 100
  · have hb₂ : b.toNat < 100 := h₂
    rw [decimalOctet, if_neg h₁, if_pos h₂, List.cons_append, List.cons_append, List.nil_append,
      inetPton4Loop_digit (by omega) (by simp) (by omega) (fun _ ↦ h),
      inetPton4Loop_digit (by omega) (by omega) (by omega) (by simp), hten, hunits]
    congr 1
    omega
  · have hb₂ : ¬ b.toNat < 100 := h₂
    rw [decimalOctet, if_neg h₁, if_neg h₂, List.cons_append, List.cons_append, List.cons_append,
      List.nil_append, inetPton4Loop_digit (by omega) (by simp) (by omega) (fun _ ↦ h),
      inetPton4Loop_digit (by omega) (by omega) (by omega) (by simp),
      inetPton4Loop_digit (by omega) (by omega) (by omega) (by simp), hhundreds, htens, hunits]
    congr 1
    omega

theorem inetPton4Loop_dot {current : ℕ} (h : octets.length < 3) :
    inetPton4Loop octets current true (0x2E :: text) =
      inetPton4Loop (current :: octets) 0 false text := by
  have hnot : isDigit 0x2E = false := by decide
  have hlen : octets.length + 1 ≠ 4 := by omega
  rw [inetPton4Loop, hnot]
  simp [hlen]

/-- **Dotted quads round-trip.** Printing an IPv4 address and parsing the text gives it back. -/
theorem inetPton4_inetNtop4 (a : UInt32) : inetPton4 (inetNtop4 a) = some a := by
  have hloop : inetPton4Loop [] 0 false (inetNtop4 a) =
      some [(a >>> 24).toUInt8.toNat, (a >>> 16).toUInt8.toNat, (a >>> 8).toUInt8.toNat,
        a.toUInt8.toNat] := by
    simp only [inetNtop4, List.append_assoc, List.cons_append, List.nil_append]
    rw [inetPton4Loop_octet (by simp), inetPton4Loop_dot (by simp), inetPton4Loop_octet (by simp),
      inetPton4Loop_dot (by simp), inetPton4Loop_octet (by simp), inetPton4Loop_dot (by simp),
      ← List.append_nil (decimalOctet a.toUInt8), inetPton4Loop_octet (by simp)]
    simp [inetPton4Loop]
  rw [inetPton4, hloop]
  simp only [UInt8.ofNat_toNat, u32OfBytes_split]

/-- A text with a character that is neither a digit nor a dot is no dotted quad. -/
theorem inetPton4Loop_eq_none {c : UInt8} (hc : c ∈ text) (hdigit : isDigit c = false)
    (hdot : c ≠ 0x2E) (octets : List ℕ) (current : ℕ) (sawDigit : Bool) :
    inetPton4Loop octets current sawDigit text = none := by
  induction text generalizing octets current sawDigit with
  | nil => simp at hc
  | cons d text ih =>
    rw [inetPton4Loop]
    rcases List.mem_cons.mp hc with rfl | htail
    · simp [hdigit, hdot]
    · simp only [ih htail, ite_self]

theorem inetPton4_eq_none {c : UInt8} (hc : c ∈ text) (hdigit : isDigit c = false)
    (hdot : c ≠ 0x2E) : inetPton4 text = none := by
  rw [inetPton4, inetPton4Loop_eq_none hc hdigit hdot]

/-! ### The rest of the C library -/

/-- The functions of the C library the scanner calls for IPv6 text and interface names. -/
structure Inet where
  /-- `inet_ntop(AF_INET6, …)`. -/
  ntop6 : Bytes16 → Text
  /-- `inet_pton(AF_INET6, …)`. -/
  pton6 : Text → Option Bytes16
  /-- `if_nametoindex`; zero for an unknown name. -/
  ifNametoindex : Text → UInt32

/-! ### Text of addresses -/

/-- `std::string::c_str` as a C function reads it: the bytes before the first NUL. -/
def cStr (text : Text) : Text := text.takeWhile (· ≠ 0)

/-- The value of a digit string. -/
def decimalValue (text : Text) : ℕ := text.foldl (fun value c ↦ value * 10 + (c.toNat - 0x30)) 0

/-- `std::from_chars` into a `std::uint32_t`, of the whole of a non-empty digit string. -/
def fromChars32 (text : Text) : Option UInt32 :=
  if decimalValue text < 2 ^ 32 then some (UInt32.ofNat (decimalValue text)) else none

variable (inet : Inet)

/-- `IpAddress::to_string`. -/
def IpAddress.toText (a : IpAddress) : Text :=
  if a.isIpv4 then inetNtop4 a.ipv4Word
  else if a.isIpv6 then
    if a.hasScope then inet.ntop6 a.bytes ++ 0x25 :: a.scope.getD [] else inet.ntop6 a.bytes
  else []

/-- `IFNAMSIZ`, the size of an interface-name buffer. -/
def ifNameSize : ℕ := 16

def validScopeToken (scope : Text) : Bool :=
  !scope.isEmpty && scope.length < ifNameSize &&
    scope.all fun c ↦ 0x21 ≤ c && c ≤ 0x7E && c ≠ 0x25 && c ≠ 0x2C && c ≠ 0x2F

/-- A scope token that is all digits must be a nonzero 32-bit number. -/
def validNumericScope (scope : Text) : Bool :=
  !scope.all isDigit || (fromChars32 scope).any (· ≠ 0)

/-- `parse_ip_address`. -/
def parseIpAddress (text : Text) : Option IpAddress :=
  match text.span (· ≠ 0x25) with
  | (address, []) =>
    if address.isEmpty then none
    else
      match inetPton4 (cStr address) with
      | some ipv4 => some (.fromIpv4 ipv4)
      | none => (inet.pton6 (cStr address)).map .fromIpv6
  | (address, _ :: scope) =>
    if 0x25 ∈ scope then none
    else if !validScopeToken scope || !validNumericScope scope then none
    else if address.isEmpty then none
    else (inet.pton6 (cStr address)).map fun bytes ↦
      { IpAddress.fromIpv6 bytes with scope := some scope }

/-- What is parsed is an address. -/
theorem valid_of_parseIpAddress {a : IpAddress} (h : parseIpAddress inet text = some a) :
    a.valid := by
  rw [parseIpAddress] at h
  split at h
  · split at h
    · exact absurd h (by simp)
    split at h
    · exact Option.some.inj h ▸ rfl
    · obtain ⟨bytes, -, rfl⟩ := Option.map_eq_some_iff.mp h
      rfl
  · split at h
    · exact absurd h (by simp)
    split at h
    · exact absurd h (by simp)
    split at h
    · exact absurd h (by simp)
    obtain ⟨bytes, -, rfl⟩ := Option.map_eq_some_iff.mp h
    rfl

/-- `ipv6_scope_id`. -/
def ipv6ScopeId (a : IpAddress) : Option UInt32 :=
  if !a.isIpv6 then none
  else if !a.hasScope then some 0
  else
    let scope := a.scope.getD []
    if scope.all isDigit then
      (fromChars32 scope).filter (· ≠ 0)
    else if inet.ifNametoindex (cStr scope) = 0 then none
    else some (inet.ifNametoindex (cStr scope))

/-- `ipv6_scope_matches_interface`. -/
def ipv6ScopeMatchesInterface (a : IpAddress) (interfaceName : Text) : Bool :=
  if !a.isIpv6 || !a.isIpv6LinkLocal || !a.hasScope || interfaceName.isEmpty then false
  else inet.ifNametoindex (cStr interfaceName) ≠ 0 &&
    ipv6ScopeId inet a = some (inet.ifNametoindex (cStr interfaceName))

/-! ### Hosts -/

/-- `core::Host`. -/
structure Host where
  address : Text
  hostname : Option Text := none
  isUp : Bool := false
  ipAddress : IpAddress := {}
  deriving DecidableEq

/-- `core::Target`. -/
structure Target where
  originalSpecification : Text := []
  resolvedHosts : List Host
  deriving DecidableEq

end Skan.Core
