import Skan.Core.Types

/-!
# Readers of three text protocols

`src/detect/protocol_parsers.cpp`: `parse_http_response`, `parse_search_identity` (a strict reader
of JSON) and `parse_zookeeper_srvr`.

The source walks its input by position. Here what is left of the input takes the place of the
position, and `splitOnce` that of `find` followed by two `substr`.

A response that is malformed or incomplete is that and nothing more: the matcher, the only caller,
reads no field of it that was filled in before the fault.
-/

namespace Skan.Detect

open Skan.Core

/-- `kMaxResponse`. -/
def maxResponse : ℕ := 8192

/-- `kMaxHeaders`. -/
def maxHeaders : ℕ := 4096

/-- `kMaxFields`. -/
def maxFields : ℕ := 64

def crlf : Text := [0x0D, 0x0A]

/-- What stands before the first occurrence of a nonempty separator, and what after it. -/
def splitOnce (separator : Text) : Text → Option (Text × Text)
  | [] => none
  | c :: text =>
    if separator.isPrefixOf (c :: text) then some ([], (c :: text).drop separator.length)
    else (splitOnce separator text).map fun (before, after) ↦ (c :: before, after)

def isLetter (c : UInt8) : Bool := 0x41 ≤ c && c ≤ 0x5A || 0x61 ≤ c && c ≤ 0x7A

/-- `token`. -/
def isToken (c : UInt8) : Bool :=
  isLetter c || isDigit c || c ∈ literal "!#$%&'*+-.^_`|~"

/-- The characters a header field or a status line may hold. -/
def isPlain (c : UInt8) : Bool := !(c < 32 && c ≠ 9 || c = 127)

/-- What holds of each of the 256 bytes holds of all of them. -/
theorem forall_byte {p : UInt8 → Prop} (h : ∀ n : Fin 256, p (UInt8.ofFin n)) (c : UInt8) : p c :=
  h c.toFin

/-- `trim`. -/
def trimBlanks (text : Text) : Text :=
  let isBlank (c : UInt8) := c = 0x20 || c = 0x09
  ((text.dropWhile isBlank).reverse.dropWhile isBlank).reverse

def toLower (c : UInt8) : UInt8 := if 0x41 ≤ c && c ≤ 0x5A then c + 0x20 else c

/-- `iequal`. -/
def iequal (a b : Text) : Bool := a.map toLower = b.map toLower

/-- The value of a digit in bases up to sixteen. -/
def digitValue (c : UInt8) : Option ℕ :=
  if isDigit c then some (c.toNat - 0x30)
  else if 0x61 ≤ c && c ≤ 0x66 then some (c.toNat - 0x57)
  else if 0x41 ≤ c && c ≤ 0x46 then some (c.toNat - 0x37)
  else none

/-- `unsigned_number`: `std::from_chars` into a `std::size_t`, of the whole text. -/
def unsignedNumber (base : ℕ) (text : Text) : Option ℕ := do
  let digits ← text.mapM fun c ↦ (digitValue c).filter (· < base)
  let value := digits.foldl (fun value digit ↦ value * base + digit) 0
  if text = [] then none else if value < 2 ^ 64 then some value else none

/-! ### HTTP -/

inductive HttpParseState where
  | incomplete
  | malformed
  | headers
  | complete
  deriving DecidableEq

structure HttpResponse where
  state : HttpParseState := .incomplete
  protocolVersion : Text := []
  statusCode : UInt16 := 0
  headers : Text := []
  server : Text := []
  ambiguousServer : Bool := false
  identityEncoding : Bool := true
  jsonContent : Bool := false
  body : Text := []
  deriving DecidableEq

/-- `header_field`: a name and a value. -/
def headerField (line : Text) : Option (Text × Text) :=
  match line.span (· ≠ 0x3A) with
  | (_, []) => none
  | (name, _ :: rest) =>
    let value := trimBlanks rest
    if name = [] || 1024 < line.length || !name.all isToken || !value.all isPlain then none
    else some (name, value)

/-- What follows a quoted string; the opening quote is already read. -/
def skipQuoted : Text → Option Text
  | [] => none
  | c :: text =>
    if c = 0x22 then some text
    else if c = 0x5C then
      match text with
      | [] => none
      | escaped :: text => if isPlain escaped then skipQuoted text else none
    else if isPlain c then skipQuoted text
    else none

/-- The loop of `chunk_extensions`, which reads at least a character each time. -/
def chunkExtensionsLoop : ℕ → Text → Bool
  | _, [] => true
  | 0, _ :: _ => false
  | fuel + 1, c :: text =>
    let (name, text) := (trimBlanks text).span isToken
    if c ≠ 0x3B || name = [] then false
    else
      match trimBlanks text with
      | 0x3D :: text =>
        match trimBlanks text with
        | 0x22 :: text => (skipQuoted text).any fun text ↦
            chunkExtensionsLoop fuel (trimBlanks text)
        | text =>
          let (value, text) := text.span isToken
          if value = [] then false else chunkExtensionsLoop fuel (trimBlanks text)
      | text => chunkExtensionsLoop fuel text

/-- `chunk_extensions`. -/
def chunkExtensions (text : Text) : Bool := chunkExtensionsLoop text.length text

/-- The trailer of a chunked body. -/
def readTrailer : ℕ → Text → HttpParseState
  | 0, _ => .malformed
  | fields + 1, encoded =>
    match splitOnce crlf encoded with
    | none => .headers
    | some ([], _) => .complete
    | some (line, encoded) =>
      match headerField line with
      | none => .malformed
      | some (name, _) =>
        if iequal name (literal "Content-Length") || iequal name (literal "Transfer-Encoding") ||
            iequal name (literal "Content-Encoding") || iequal name (literal "Content-Type") then
          .malformed
        else readTrailer fields encoded

/-- The loop of `dechunk`. -/
def dechunkLoop : ℕ → Text → Text → HttpParseState × Text
  | 0, _, body => (.malformed, body)
  | chunks + 1, encoded, body =>
    match splitOnce crlf encoded with
    | none => (.headers, body)
    | some (line, encoded) =>
      let (digits, extensions) := line.span (· ≠ 0x3B)
      match unsignedNumber 16 digits with
      | none => (.malformed, body)
      | some size =>
        if 256 < line.length || maxResponse < size || !chunkExtensions extensions then
          (.malformed, body)
        else if size = 0 then (readTrailer maxFields encoded, body)
        else if encoded.length < size then (.headers, body)
        else if maxResponse - size < body.length then (.malformed, body)
        else
          let body := body ++ encoded.take size
          let encoded := encoded.drop size
          if encoded.length < 2 then (.headers, body)
          else if encoded.take 2 ≠ crlf then (.malformed, body)
          else dechunkLoop chunks (encoded.drop 2) body

/-- `dechunk`. -/
def dechunk (encoded : Text) : HttpParseState × Text := dechunkLoop 256 encoded []

/-- What the header fields say, as far as they are read. -/
structure HttpFields where
  response : HttpResponse
  contentLength : Option ℕ := none
  transfer : Option Text := none
  haveEncoding : Bool := false
  haveType : Bool := false
  haveServer : Bool := false

/-- One header field; nothing if it makes the response malformed. -/
def HttpFields.read (fields : HttpFields) (name value : Text) : Option HttpFields :=
  let response := fields.response
  if iequal name (literal "Content-Length") then
    match unsignedNumber 10 value with
    | none => none
    | some length =>
      if fields.contentLength.any (· ≠ length) then none
      else some { fields with contentLength := some length }
  else if iequal name (literal "Transfer-Encoding") then
    if fields.transfer.isSome || value = [] then none else
      some { fields with transfer := some value }
  else if iequal name (literal "Server") then
    some
      { fields with
        response :=
          { response with
            ambiguousServer := response.ambiguousServer || fields.haveServer
            server := value }
        haveServer := true }
  else if iequal name (literal "Content-Encoding") then
    if fields.haveEncoding then none
    else
      some
        { fields with
          response := { response with identityEncoding := iequal value (literal "identity") }
          haveEncoding := true }
  else if iequal name (literal "Content-Type") then
    if fields.haveType then none
    else
      let jsonContent :=
        iequal (trimBlanks (value.takeWhile (· ≠ 0x3B))) (literal "application/json")
      some { fields with response := { response with jsonContent }, haveType := true }
  else some fields

/-- The header fields, each ended by a line break. -/
def readFields : ℕ → Text → HttpFields → Option HttpFields
  | _, [], fields => some fields
  | 0, _ :: _, _ => none
  | budget + 1, c :: text, fields => do
    let (line, text) ← splitOnce crlf (c :: text)
    let (name, value) ← headerField line
    readFields budget text (← fields.read name value)

/-- The version and the code of a status line. -/
def statusLine (status : Text) : Option (Text × ℕ) := do
  let code ← unsignedNumber 10 ((status.drop 9).take 3)
  if status.length < 13 || 256 < status.length ||
      !((literal "HTTP/1.0 ").isPrefixOf status || (literal "HTTP/1.1 ").isPrefixOf status) ||
      status[12]? ≠ some 0x20 || code < 100 || 599 < code || !status.all isPlain then
    none
  else some ((status.drop 5).take 3, code)

/-- A response whose head is read: what its body is, and whether it is complete. -/
def HttpFields.finish (fields : HttpFields) (code : ℕ) (bytes : Text) (terminal : Bool) :
    HttpResponse :=
  let response := { fields.response with state := .headers }
  if code = 101 || code = 204 || code = 304 then { response with state := .complete }
  else
    let (state, body) :=
      match fields.transfer, fields.contentLength with
      | some transfer, _ =>
        if iequal transfer (literal "chunked") && response.protocolVersion = literal "1.1" then
          dechunk bytes
        else (.headers, [])
      | none, some length =>
        if length ≤ maxResponse && length ≤ bytes.length then (.complete, bytes.take length)
        else (.headers, [])
      | none, none => if terminal then (.complete, bytes) else (.headers, [])
    { response with
      state
      body := if state ≠ .complete || !response.identityEncoding then [] else body }

/-- The loop of `parse_http_response` over interim responses. -/
def parseHttpLoop (terminal : Bool) : ℕ → Text → HttpResponse
  | 0, _ => { state := .malformed }
  | interim + 1, text =>
    match splitOnce (crlf ++ crlf) text with
    | none => { state := if maxHeaders < text.length then .malformed else .incomplete }
    | some (head, bytes) =>
      if maxHeaders < head.length + 4 then { state := .malformed }
      else
        let parsed : Option (HttpFields × ℕ) := do
          let (status, lines) ← splitOnce crlf (head ++ crlf)
          let (protocolVersion, code) ← statusLine status
          let response : HttpResponse :=
            { protocolVersion, statusCode := UInt16.ofNat code, headers := head ++ crlf ++ crlf }
          let fields ← readFields maxFields lines { response }
          if fields.transfer.isSome && fields.contentLength.isSome then none else
            some (fields, code)
        match parsed with
        | none => { state := .malformed }
        | some (fields, code) =>
          if code < 200 && code ≠ 101 then parseHttpLoop terminal interim bytes
          else fields.finish code bytes terminal

/-- `parse_http_response`. -/
def parseHttpResponse (response : Text) (terminal : Bool) : HttpResponse :=
  if maxResponse < response.length then { state := .malformed }
  else parseHttpLoop terminal 5 response

/-! ### JSON -/

inductive JsonKind where
  | object
  | array
  | string
  | scalar
  deriving DecidableEq

/-- A value read, with the index of the value it is a member of. -/
structure JsonNode where
  kind : JsonKind
  parent : Option ℕ
  key : Text
  value : Text := []
  deriving DecidableEq

/-- The state of a `JsonReader`: what is left to read, and the values read, in order. -/
structure JsonReader where
  input : Text
  nodes : List JsonNode := []

namespace JsonReader

def skipWhitespace (input : Text) : Text :=
  input.dropWhile fun c ↦ c = 0x20 || c = 0x09 || c = 0x0D || c = 0x0A

def consume (c : UInt8) (input : Text) : Option Text :=
  match skipWhitespace input with
  | [] => none
  | d :: input => if d = c then some input else none

/-- `member`. -/
def member (nodes : List JsonNode) (parent : ℕ) (key : Text) : Option JsonNode :=
  nodes.find? fun node ↦ node.parent = some parent && node.key = key

/-- `hex4`. -/
def hex4 (input : Text) : Option (ℕ × Text) :=
  if input.length < 4 then none
  else (unsignedNumber 16 (input.take 4)).map fun code ↦ (code, input.drop 4)

/-- `utf8`. -/
def utf8 (code : ℕ) : Text :=
  if code ≤ 0x7F then [UInt8.ofNat code]
  else if code ≤ 0x7FF then [UInt8.ofNat (0xC0 + code / 64), UInt8.ofNat (0x80 + code % 64)]
  else if code ≤ 0xFFFF then
    [UInt8.ofNat (0xE0 + code / 4096), UInt8.ofNat (0x80 + code / 64 % 64),
      UInt8.ofNat (0x80 + code % 64)]
  else
    [UInt8.ofNat (0xF0 + code / 262144), UInt8.ofNat (0x80 + code / 4096 % 64),
      UInt8.ofNat (0x80 + code / 64 % 64), UInt8.ofNat (0x80 + code % 64)]

/-- The code point of an escape `\u`, which may be half of a pair. -/
def unicodeEscape (input : Text) : Option (ℕ × Text) := do
  let (code, input) ← hex4 input
  if 0xD800 ≤ code && code ≤ 0xDBFF then
    if input.take 2 ≠ [0x5C, 0x75] then none
    else
      let (low, input) ← hex4 (input.drop 2)
      if low < 0xDC00 || 0xDFFF < low then none
      else some (0x10000 + (code - 0xD800) * 1024 + (low - 0xDC00), input)
  else if 0xDC00 ≤ code && code ≤ 0xDFFF then none
  else some (code, input)

/-- What an escape stands for; the backslash is already read. -/
def escape : Text → Option (Text × Text)
  | [] => none
  | c :: input =>
    if c = 0x22 || c = 0x5C || c = 0x2F then some ([c], input)
    else if c = 0x62 then some ([0x08], input)
    else if c = 0x66 then some ([0x0C], input)
    else if c = 0x6E then some ([0x0A], input)
    else if c = 0x72 then some ([0x0D], input)
    else if c = 0x74 then some ([0x09], input)
    else if c = 0x75 then (unicodeEscape input).map fun (code, input) ↦ (utf8 code, input)
    else none

/-- A character of several bytes: its first byte, and what follows. -/
def multibyte (c : UInt8) (input : Text) : Option (Text × Text) :=
  let lead : Option (ℕ × ℕ × ℕ) :=
    if 0xC2 ≤ c && c ≤ 0xDF then some (1, c.toNat % 32, 0x80)
    else if 0xE0 ≤ c && c ≤ 0xEF then some (2, c.toNat % 16, 0x800)
    else if 0xF0 ≤ c && c ≤ 0xF4 then some (3, c.toNat % 8, 0x10000)
    else none
  match lead with
  | none => none
  | some (count, bits, minimum) =>
    let rest := input.take count
    if input.length < count || !rest.all (fun next ↦ next &&& 0xC0 = 0x80) then none
    else
      let code := rest.foldl (fun code next ↦ code * 64 + next.toNat % 64) bits
      if code < minimum || 0x10FFFF < code || 0xD800 ≤ code && code ≤ 0xDFFF then none
      else some (utf8 code, input.drop count)

/-- The loop of `string`, which reads at least a character each time. -/
def stringLoop : ℕ → Text → Text → Option (Text × Text)
  | 0, _, _ => none
  | _ + 1, [], _ => none
  | fuel + 1, c :: input, out =>
    if c = 0x22 then some (out, input)
    else if c < 32 || 2048 ≤ out.length then none
    else
      let read :=
        if c = 0x5C then escape input
        else if 128 ≤ c then multibyte c input
        else some ([c], input)
      match read with
      | none => none
      | some (character, input) =>
        let out := out ++ character
        if 2048 < out.length then none else stringLoop fuel input out

/-- `string`. -/
def string (input : Text) : Option (Text × Text) := do
  let input ← consume 0x22 input
  stringLoop (input.length + 1) input []

/-- One or more digits. -/
def digits (input : Text) : Option Text :=
  match input with
  | [] => none
  | c :: input => if isDigit c then some (input.dropWhile isDigit) else none

/-- `number`. -/
def number (input : Text) : Option Text := do
  let input := if input.head? = some 0x2D then input.drop 1 else input
  let input ← if input.head? = some 0x30 then some (input.drop 1) else digits input
  let input ← if input.head? = some 0x2E then digits (input.drop 1) else some input
  if input.head? = some 0x65 || input.head? = some 0x45 then
    let input := input.drop 1
    digits (if input.head? = some 0x2B || input.head? = some 0x2D then input.drop 1 else input)
  else some input

/-- A literal or a number. -/
def scalar (input : Text) : Option Text :=
  match [literal "true", literal "false", literal "null"].find? (·.isPrefixOf input) with
  | some word => some (input.drop word.length)
  | none => number input

/-- The values of an object or an array, up to its end; `readValue` reads one of them. Every value
adds a node, and there are at most 512 of these. -/
def readValues (readValue : Text → JsonReader → Option JsonReader) (isObject : Bool) (id : ℕ) :
    ℕ → JsonReader → Option JsonReader
  | 0, _ => none
  | fuel + 1, s => do
    let (key, input) ←
      if isObject then do
        let (key, input) ← string s.input
        if 128 < key.length || (member s.nodes id key).isSome then none
        else (consume 0x3A input).map fun input ↦ (key, input)
      else some ([], s.input)
    let s ← readValue key { s with input }
    match consume 0x2C s.input with
    | some input => readValues readValue isObject id fuel { s with input }
    | none =>
      (consume (if isObject then 0x7D else 0x5D) s.input).map fun input ↦ { s with input }

/-- `value`, at most as deep as the first argument. -/
def readValue : ℕ → Option ℕ → Text → JsonReader → Option JsonReader
  | 0, _, _, _ => none
  | depth + 1, parent, key, s =>
    match skipWhitespace s.input with
    | [] => none
    | c :: input =>
      let id := s.nodes.length
      if 512 ≤ id then none
      else if c = 0x22 then
        (string (c :: input)).map fun (value, input) ↦
          { input, nodes := s.nodes ++ [{ kind := .string, parent, key, value }] }
      else if c = 0x7B || c = 0x5B then
        let isObject : Bool := c = 0x7B
        let kind := if isObject then JsonKind.object else .array
        let s : JsonReader := { input, nodes := s.nodes ++ [{ kind, parent, key }] }
        match consume (if isObject then 0x7D else 0x5D) input with
        | some input => some { s with input }
        | none => readValues (readValue depth (some id)) isObject id 512 s
      else
        (scalar (c :: input)).map fun input ↦
          { input, nodes := s.nodes ++ [{ kind := .scalar, parent, key }] }

/-- `read`: the values of a text that is one object. -/
def read (text : Text) : Option (List JsonNode) :=
  if maxResponse < text.length then none
  else
    match readValue 17 none [] { input := text } with
    | none => none
    | some s =>
      if skipWhitespace s.input = [] && s.nodes.head?.any (·.kind = .object) then some s.nodes
      else none

end JsonReader

/-- `version_token`: three numbers, and perhaps a suffix. -/
def versionToken (text : Text) : Bool :=
  let part (text : Text) : Option Text := JsonReader.digits text
  let dot (text : Text) : Option Text := if text.head? = some 0x2E then some (text.drop 1) else none
  let suffix := do dot (← part (← dot (← part (← some text)))) >>= part
  text.length ≤ 128 &&
    suffix.any fun suffix ↦
      suffix = [] ||
        (suffix.head? = some 0x2D || suffix.head? = some 0x2B) && suffix.length ≠ 1 &&
          suffix.all fun c ↦
            isDigit c || isLetter c || c = 0x2E || c = 0x2D || c = 0x5F || c = 0x2B

structure SearchIdentity where
  service : Text
  product : Text
  version : Text
  deriving DecidableEq

/-- `parse_search_identity`. -/
def parseSearchIdentity (body : Text) : Option SearchIdentity := do
  let nodes ← JsonReader.read body
  let stringMember (parent : ℕ) (key : String) : Option Text :=
    ((JsonReader.member nodes parent (literal key)).filter (·.kind = .string)).map (·.value)
  let name ← stringMember 0 "name"
  let cluster ← stringMember 0 "cluster_name"
  let tagline ← stringMember 0 "tagline"
  let version ← JsonReader.member nodes 0 (literal "version")
  let id := nodes.idxOf version
  let number ← stringMember id "number"
  if name = [] || cluster = [] || version.kind ≠ .object || !versionToken number then none
  else if tagline = literal "You Know, for Search" &&
      (JsonReader.member nodes id (literal "distribution")).isNone then
    some ⟨literal "elasticsearch", literal "Elasticsearch", number⟩
  else if tagline = literal "The OpenSearch Project: https://opensearch.org/" &&
      stringMember id "distribution" = some (literal "opensearch") then
    some ⟨literal "opensearch", literal "OpenSearch", number⟩
  else none

/-! ### ZooKeeper -/

structure ZooKeeperIdentity where
  version : Text := []
  mode : Text := []
  deriving DecidableEq

/-- What the lines of a `srvr` answer have said so far; `seen` are the names of its numbers. -/
structure ZooKeeperFields where
  identity : ZooKeeperIdentity := {}
  seen : List Text := []

namespace ZooKeeperFields

/-- A field that may be said once. -/
def say (name : Text) (fields : ZooKeeperFields) : Option ZooKeeperFields :=
  if name ∈ fields.seen then none else some { fields with seen := name :: fields.seen }

/-- What follows a prefix. -/
def dropPrefix (start text : Text) : Option Text :=
  if start.isPrefixOf text then some (text.drop start.length) else none

/-- The names of the numbers that have no format of their own. -/
def counters : List Text :=
  [literal "Received:", literal "Sent:", literal "Connections:", literal "Outstanding:",
    literal "Node count:"]

/-- A line after the first. -/
def readLine (fields : ZooKeeperFields) (line : Text) : Option ZooKeeperFields :=
  if (literal "Zookeeper version:").isPrefixOf line then none
  else if (literal "Mode:").isPrefixOf line then do
    let mode ← dropPrefix (literal "Mode: ") line
    if fields.identity.mode ≠ [] ||
        mode ∉ [literal "leader", literal "follower", literal "standalone", literal "observer"] then
      none
    else some { fields with identity := { fields.identity with mode } }
  else if (literal "Latency min/avg/max:").isPrefixOf line then do
    let tuple ← dropPrefix (literal "Latency min/avg/max: ") line
    let numbers := (tuple.splitOn 0x2F).map (unsignedNumber 10)
    if numbers.length ≠ 3 || numbers.any (·.isNone) then none
    else fields.say (literal "Latency min/avg/max:")
  else if (literal "Zxid:").isPrefixOf line then do
    let number ← dropPrefix (literal "Zxid: 0x") line
    if (unsignedNumber 16 number).isNone then none else fields.say (literal "Zxid:")
  else
    match counters.find? (·.isPrefixOf line) with
    | none => some fields
    | some name => do
      let number ← dropPrefix (name ++ [0x20]) line
      if (unsignedNumber 10 number).isNone then none else fields.say name

/-- The lines of an answer, each ended by a line feed. -/
def readLines : ℕ → Bool → Text → ZooKeeperFields → Option ZooKeeperFields
  | _, _, [], fields => some fields
  | 0, _, _ :: _, _ => none
  | budget + 1, first, c :: text, fields => do
    let (line, text) ← splitOnce [0x0A] (c :: text)
    let line := if line.getLast? = some 0x0D then line.dropLast else line
    if line.any (fun c ↦ c < 32 || c = 127) || 1024 < line.length then none
    else if first then
      let version := (← dropPrefix (literal "Zookeeper version: ") line).takeWhile (· ≠ 0x2C)
      if !versionToken version then none
      else readLines budget false text { fields with identity := { fields.identity with version } }
    else readLines budget false text (← fields.readLine line)

end ZooKeeperFields

/-- `parse_zookeeper_srvr`. -/
def parseZookeeperSrvr (response : Text) (terminal : Bool) : Option ZooKeeperIdentity :=
  if !terminal || maxResponse < response.length || response.getLast? ≠ some 0x0A then none
  else
    match ZooKeeperFields.readLines maxFields true response {} with
    | none => none
    | some fields =>
      let required :=
        ZooKeeperFields.counters ++ [literal "Zxid:", literal "Latency min/avg/max:"]
      if fields.identity.mode = [] || !required.all (· ∈ fields.seen) then none
      else some fields.identity

end Skan.Detect
