import Skan.Target.Types

/-!
# Parsing target specifications

`TargetParser::parse` cuts its input at commas and gives each token to `parse_one`, which decides
by the first separator it finds: a slash makes the token a CIDR block, a dash a range where one of
the two sides looks like an address, and anything else is a literal or a hostname.
-/

namespace Skan.Target

open Skan.Core

/-- The characters `trim` removes: space, tab, carriage return and line feed. -/
def isBlank (c : UInt8) : Bool := c = 0x20 || c = 0x09 || c = 0x0D || c = 0x0A

def trim (text : Text) : Text := ((text.dropWhile isBlank).reverse.dropWhile isBlank).reverse

/-- `std::from_chars` into an `unsigned int`, where the caller demands the whole text to be read. -/
def fromCharsWhole (text : Text) : Option ℕ :=
  if text.isEmpty || !text.all isDigit then none else (fromChars32 text).map UInt32.toNat

/-- One component of `parse_ipv4`: one to three digits of value at most 255. -/
def parseOctet (component : Text) : Option UInt32 :=
  if component.isEmpty || component.length > 3 then none
  else
    match fromCharsWhole component with
    | some value => if value > 255 then none else some (UInt32.ofNat value)
    | none => none

/-- `parse_ipv4`: exactly four components. -/
def parseIpv4 (text : Text) : Option UInt32 :=
  match (text.splitOn 0x2E).map parseOctet with
  | [some a, some b, some c, some d] => some (((a <<< 8 ||| b) <<< 8 ||| c) <<< 8 ||| d)
  | _ => none

def looksLikeIpv4 (text : Text) : Bool :=
  text.all (fun c ↦ c = 0x2E || isDigit c) && 0x2E ∈ text && text.any isDigit

def isAlpha (c : UInt8) : Bool := (0x61 ≤ c && c ≤ 0x7A) || (0x41 ≤ c && c ≤ 0x5A)

/-- One label of `valid_hostname`. -/
def validLabel (label : Text) : Bool :=
  !label.isEmpty && label.length ≤ 63 && label.head? ≠ some 0x2D && label.getLast? ≠ some 0x2D &&
    label.all fun c ↦ isAlpha c || isDigit c || c = 0x2D

def validHostname (hostname : Text) : Bool :=
  !hostname.isEmpty && hostname.length ≤ 253 && hostname.head? ≠ some 0x2E &&
    hostname.getLast? ≠ some 0x2E && (hostname.splitOn 0x2E).all validLabel

/-- An `InvalidArgument` result whose message ends in the token. -/
def invalid (code : TargetErrorCode) (message : String) (token : Text) : TargetFailure where
  status := .invalidArgument
  error := { code, message := literal message ++ token }

variable (inet : Inet)

/-- `parse_one` where the token has a slash: the texts before and after the first one. -/
def parseCidr (token addressText prefixText : Text) : Except TargetFailure TargetSpec :=
  if 0x2F ∈ prefixText then
    .error (invalid .invalidCidr "CIDR contains more than one prefix separator: " token)
  else
    match fromCharsWhole prefixText, parseIpAddress inet addressText with
    | some prefixLength, some address =>
      if address.isIpv4 && prefixLength ≤ 32 then
        match parseIpv4 addressText with
        | none => .error (invalid .invalidCidr "invalid IPv4 CIDR: " token)
        | some ipv4 => .ok
            { kind := .ipv4Cidr, original := token, firstAddress := ipv4, lastAddress := ipv4,
              prefixLength := UInt8.ofNat prefixLength, firstIp := address, lastIp := address }
      else if address.isIpv6 && prefixLength ≤ 128 then .ok
        { kind := .ipv6Cidr, original := token, prefixLength := UInt8.ofNat prefixLength,
          firstIp := address, lastIp := address }
      else .error (invalid .invalidCidr "invalid IP CIDR: " token)
    | _, _ => .error (invalid .invalidCidr "invalid IP CIDR: " token)

/-- The test of `parse_one` whether a token with one dash is meant as a range. -/
def rangeCandidate (left right : Text) : Bool :=
  (parseIpAddress inet left).isSome || (parseIpAddress inet right).isSome || looksLikeIpv4 left ||
    looksLikeIpv4 right || 0x3A ∈ left || 0x3A ∈ right

/-- `parse_one` on the trimmed sides of a range candidate. -/
def parseRange (token left right : Text) : Except TargetFailure TargetSpec :=
  match parseIpAddress inet left, parseIpAddress inet right with
  | some first, some last =>
    if first.family ≠ last.family || first.scope ≠ last.scope then
      .error (invalid .invalidRange "invalid or mixed-family IP range: " token)
    else if last.lt first then .error (invalid .invalidRange "reversed IP range: " token)
    else if first.isIpv4 then .ok
      { kind := .ipv4Range, original := token, firstAddress := first.ipv4Word,
        lastAddress := last.ipv4Word, firstIp := first, lastIp := last }
    else .ok
      { kind := .ipv6Range, original := token, prefixLength := 128, firstIp := first,
        lastIp := last }
  | _, _ => .error (invalid .invalidRange "invalid or mixed-family IP range: " token)

/-- `parse_one` where the token is neither a block nor a range. -/
def parseSingle (token : Text) : Except TargetFailure TargetSpec :=
  match parseIpv4 token with
  | some address => .ok
      { original := token, firstAddress := address, lastAddress := address,
        firstIp := .fromIpv4 address, lastIp := .fromIpv4 address }
  | none =>
    if looksLikeIpv4 token then .error (invalid .invalidIpv4 "invalid IPv4 address: " token)
    else
      match (parseIpAddress inet token).filter IpAddress.isIpv6 with
      | some address => .ok
          { kind := .ipv6, original := token, prefixLength := 128, firstIp := address,
            lastIp := address }
      | none =>
        if 0x25 ∈ token then
          .error (invalid .invalidScope "invalid IPv6 scope or zone identifier: " token)
        else if 0x3A ∈ token then
          .error (invalid .invalidTarget "invalid IPv6 address: " token)
        else if !validHostname token then
          .error (invalid .invalidHostname "invalid hostname: " token)
        else .ok { kind := .hostname, original := token, prefixLength := 0, hostname := token }

/-- `parse_one` on a trimmed token. -/
def parseTrimmed (token : Text) : Except TargetFailure TargetSpec :=
  if token.isEmpty then .error (invalid .invalidTarget "empty target specification" [])
  else
    match token.span (· ≠ 0x2F) with
    | (addressText, _ :: prefixText) => parseCidr inet token addressText prefixText
    | (_, []) =>
      match token.span (· ≠ 0x2D) with
      | (_, []) => parseSingle inet token
      | (left, _ :: right) =>
        if 0x2D ∈ right then
          .error (invalid .invalidRange "range contains more than one separator: " token)
        else if rangeCandidate inet (trim left) (trim right) then
          parseRange inet token (trim left) (trim right)
        else parseSingle inet token

def parseOne (token : Text) : Except TargetFailure TargetSpec := parseTrimmed inet (trim token)

/-- `TargetParser::parse`: the first token that fails decides the result. -/
def parse (input : Text) : TargetParseResult :=
  if (trim input).isEmpty then .error (invalid .emptyTargetSet "target input is empty" [])
  else ((trim input).splitOn 0x2C).mapM (parseOne inet)

end Skan.Target
