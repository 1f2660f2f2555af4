import Skan.Detect.ProtocolParsers
import Skan.Detect.Types

/-!
# Matching a response against the rules of a probe

`ServiceMatcher::match` of `src/detect/service_matcher.cpp`: every rule of the probe yields a
candidate or nothing, and the first of the best candidates is the match.

What a regular expression finds is a parameter, `regexSearch`: a fixed function of the pattern and
of the bytes searched, which gives the groups of the match, the whole of it first. So is the reader
of TLS records, whose result is only copied. -/

namespace Skan.Detect

open Skan.Core

/-- What the matcher leaves to others. -/
structure Recognizer where
  /-- `std::regex_search`. -/
  regexSearch : Text → Text → Option (List (Option Text))
  /-- `parse_tls_metadata`. -/
  parseTlsMetadata : Text → TlsMetadata := fun _ ↦ {}

namespace ServiceMatcher

/-- `kMaximumMatchResponseBytes`. -/
def maximumMatchResponseBytes : ℕ := 8192

/-- The bytes of the MQTT request whose answer is evidence. -/
def mqttConnect : Text :=
  [0x10, 0x10, 0x00, 0x04] ++ literal "MQTT" ++ [0x04, 0x02, 0x00, 0x0A, 0x00, 0x04] ++
    literal "skan"

/-- `validate_mqtt_connack`. -/
def validateMqttConnack (probe : ServiceProbeDefinition) (response : Text) :
    Option MqttConnackEvidence :=
  if probe.protocol ≠ .tcp || probe.payload ≠ mqttConnect then none
  else
    match response with
    | 0x20 :: 0x02 :: 0x00 :: code :: _ => if 5 < code then none else some ⟨code⟩
    | _ => none

/-- `first_ssh_identification_line`. -/
def firstSshIdentificationLine (response : Text) : Text :=
  let lines := (response.splitOn 0x0A).map fun line ↦
    if line.getLast? = some 0x0D then line.dropLast else line
  (lines.find? ((literal "SSH-").isPrefixOf ·)).getD []

/-- `is_ssh_identification_rule`. -/
def isSshIdentificationRule (rule : ServiceMatchRule) : Bool :=
  rule.service = literal "ssh" &&
    match rule.type with
    | .regex => (literal "^SSH-").isPrefixOf rule.pattern
    | .prefixed => (literal "SSH-").isPrefixOf rule.pattern
    | _ => false

/-- The loop of `expand_template`, which reads at least a character each time. -/
def expandLoop (groups : List (Option Text)) : ℕ → Text → Text
  | 0, _ => []
  | _, [] => []
  | fuel + 1, c :: value =>
    let digits := value.takeWhile isDigit
    if c ≠ 0x24 || digits = [] then c :: expandLoop groups fuel value
    else
      let rest := expandLoop groups fuel (value.drop digits.length)
      match (fromChars32 digits).bind fun group ↦ groups[group.toNat]?.join with
      | some text => text ++ rest
      | none => c :: digits ++ rest

/-- `expand_template`. Only a regular expression has groups. -/
def expandTemplate (value : Text) (groups : Option (List (Option Text))) : Text :=
  match groups with
  | none => value
  | some groups => expandLoop groups value.length value

/-- `rule_priority`. -/
def rulePriority (rule : ServiceMatchRule) : ℕ :=
  match rule.type with
  | .exact => 4
  | .prefixed => 3
  | .suffix => 3
  | .substring => 2
  | .regex => if rule.pattern.head? = some 0x5E then 4 else 1

/-- `rule_matches`: the groups of the match if the rule is a regular expression, and none
otherwise. -/
def ruleMatches (recognizer : Recognizer) (rule : ServiceMatchRule) (response : Text) :
    Option (List (Option Text)) :=
  let subject :=
    if isSshIdentificationRule rule then firstSshIdentificationLine response else response
  if isSshIdentificationRule rule && subject = [] then none
  else
    let plain (found : Bool) := if found then some [] else none
    match rule.type with
    | .exact => plain (subject = rule.pattern)
    | .prefixed => plain (rule.pattern.isPrefixOf subject)
    | .suffix => plain (rule.pattern.isSuffixOf subject)
    | .substring => plain (rule.pattern = [] || (splitOnce rule.pattern subject).isSome)
    | .regex => rule.compiledRegex.bind fun pattern ↦ recognizer.regexSearch pattern subject

/-- The characters of a product name or version that is taken over from a `Server` header. -/
def isSafe (text : Text) : Bool :=
  text ≠ [] && text.length ≤ 128 &&
    text.all fun c ↦ isLetter c || isDigit c || c = 0x2E || c = 0x2D || c = 0x5F || c = 0x2B

/-- The name under which a `Server` header's product is known. -/
def productName (name : Text) : Text :=
  if name = literal "Apache" then literal "Apache-httpd"
  else if name = literal "Apache-Coyote" then literal "Apache-Tomcat"
  else if name = literal "openresty" then literal "OpenResty"
  else if name = literal "cloudflare" then literal "Cloudflare"
  else if name = literal "uvicorn" then literal "Uvicorn"
  else if name = literal "gunicorn" then literal "Gunicorn"
  else name

/-- The name and the version in a `Server` header. Jetty puts its version into parentheses. -/
def serverIdentity (server : Text) : Text × Text :=
  if (literal "Jetty(").isPrefixOf server && server.getLast? = some 0x29 then
    (literal "Jetty", (server.drop 6).dropLast)
  else
    let (name, rest) := server.span (· ≠ 0x2F)
    (name, (rest.drop 1).takeWhile (· ≠ 0x20))

/-- `http_identity`. -/
def httpIdentity (http : HttpResponse) : ServiceMatchResult :=
  if http.state = .incomplete || http.state = .malformed then {}
  else
    let evidence : ProtocolEvidence :=
      { validator := literal "http-1x-v1"
        kind := literal "protocol"
        versionSource := []
        protocolVersion := http.protocolVersion
        statusCode := some http.statusCode
        bodyComplete := http.state = .complete }
    let found : ServiceMatchResult :=
      { matched := true
        service := literal "http"
        strength := .soft
        confidence := 18 / 25
        priority := 3
        extra := literal "HTTP/" ++ http.protocolVersion
        evidence := some evidence }
    let (name, version) := serverIdentity http.server
    if http.ambiguousServer || http.server = [] || !isSafe name ||
      version ≠ [] && !isSafe version then
      found
    else
      let version := if version.head?.any isDigit then version else []
      { found with
        product := productName name
        version
        confidence := 9 / 10
        priority := 4
        evidence := some
          { evidence with
            kind := literal "header"
            versionSource := if version = [] then [] else literal "Server" } }

/-- A response as `match` looks at it: its HTTP reading, if it looks like HTTP, and the identity of
a search engine in the body of that. -/
structure View where
  response : Text
  http : Option HttpResponse := none
  search : Option SearchIdentity := none

/-- The bytes the rules are matched with. -/
def View.subject (view : View) : Text :=
  match view.http with
  | none => view.response
  | some http => http.headers ++ http.body

/-- The first part of `match`; nothing for an HTTP response that is malformed or incomplete. -/
def view (probe : ServiceProbeDefinition) (response : Text) (terminal : Bool) : Option View :=
  if !(literal "HTTP/").isPrefixOf response then some { response }
  else
    let http := parseHttpResponse response terminal
    if http.state = .malformed || http.state = .incomplete then none
    else
      let request := ((splitOnce crlf probe.payload).map (·.1)).getD probe.payload
      let asksForRoot :=
        request = literal "GET / HTTP/1.0" || request = literal "GET / HTTP/1.1"
      let search :=
        if probe.protocol = .tcp && asksForRoot && http.state = .complete &&
            http.statusCode = 200 && http.jsonContent && http.identityEncoding then
          parseSearchIdentity http.body
        else none
      some { response, http := some http, search }

/-- The match of a search engine. -/
def searchCandidate (view : View) (service : Text) : Option ServiceMatchResult :=
  match view.http, view.search.filter (·.service = service) with
  | some http, some search => some
    { matched := true
      service := search.service
      product := search.product
      version := search.version
      confidence := 97 / 100
      priority := 6
      evidence := some
        { validator := literal "search-root-json-v1"
          kind := literal "structured"
          versionSource := literal "version.number"
          protocolVersion := http.protocolVersion
          statusCode := some http.statusCode
          bodyComplete := true } }
  | _, _ => none

/-- The match of a ZooKeeper server that was asked for its state. -/
def zookeeperCandidate (probe : ServiceProbeDefinition) (response : Text) (terminal : Bool) :
    Option ServiceMatchResult :=
  if probe.protocol ≠ .tcp then none
  else
    (parseZookeeperSrvr response terminal).map fun identity ↦
      { matched := true
        service := literal "zookeeper"
        product := literal "Apache-ZooKeeper"
        version := identity.version
        extra := literal "mode " ++ identity.mode
        confidence := 97 / 100
        priority := 6
        evidence := some
          { validator := literal "zookeeper-srvr-v1"
            kind := literal "structured"
            versionSource := literal "Zookeeper version"
            protocolVersion := []
            bodyComplete := true } }

/-- The match of a rule as it is written. -/
def writtenCandidate (probe : ServiceProbeDefinition) (view : View) (rule : ServiceMatchRule)
    (service : Text) (groups : List (Option Text)) : Option ServiceMatchResult :=
  let groups := if rule.type = .regex then some groups else none
  let candidate : ServiceMatchResult :=
    { matched := true
      service
      product := expandTemplate rule.product groups
      version := expandTemplate rule.version groups
      extra := expandTemplate rule.extra groups
      hostname := expandTemplate rule.hostname groups
      tunnel := expandTemplate rule.tunnel groups
      strength := rule.strength
      confidence := rule.confidence
      priority := rulePriority rule
      specificity := rule.specificity }
  let candidate :=
    match view.http with
    | none => candidate
    | some http =>
      { candidate with
        evidence := some
          { validator := literal "http-1x-v1"
            kind := literal "legacy-rule"
            versionSource := literal "corpus-rule"
            protocolVersion := http.protocolVersion
            statusCode := some http.statusCode
            bodyComplete := http.state = .complete }
        strength := if http.state = .complete then candidate.strength else .soft }
  if service = literal "mqtt" then
    (validateMqttConnack probe view.response).map fun mqtt ↦
      { candidate with mqtt := some mqtt, product := [], version := [] }
  else some candidate

/-- What one rule makes of a response. -/
def candidate (recognizer : Recognizer) (probe : ServiceProbeDefinition) (view : View)
    (terminal : Bool) (rule : ServiceMatchRule) : Option ServiceMatchResult :=
  let groups := ruleMatches recognizer rule view.subject
  let templated := rule.type = .regex && 0x24 ∈ rule.service
  let service := if templated then expandTemplate rule.service groups else rule.service
  if templated && groups.isNone then none
  else if service = literal "http" then view.http.map httpIdentity
  else if service = literal "elasticsearch" || service = literal "opensearch" then
    searchCandidate view service
  else if service = literal "zookeeper" &&
      (probe.payload = literal "srvr" || probe.payload = literal "srvr\n") then
    zookeeperCandidate probe view.response terminal
  else if service = literal "zookeeper" &&
      (probe.protocol ≠ .tcp ||
        !(probe.payload = literal "ruok" || probe.payload = literal "ruok\n") ||
        view.response ≠ literal "imok") then
    none
  else groups.bind (writtenCandidate probe view rule service)

/-- A match by a rule that is read for TLS metadata as well; the other kinds of match never are. -/
def withTls (recognizer : Recognizer) (response : Text) (result : ServiceMatchResult) :
    ServiceMatchResult :=
  if result.tunnel = literal "tls" || result.service = literal "tls" ||
      result.service = literal "https" then
    { result with tls := recognizer.parseTlsMetadata response }
  else result

/-- Keep the better of two matches, and the older of two equally good ones. -/
def better (best candidate : ServiceMatchResult) : ServiceMatchResult :=
  if candidate.isBetter best then candidate else best

/-- `match`. -/
def matchResponse (recognizer : Recognizer) (database : ServiceProbeDatabase)
    (probe : ServiceProbeDefinition) (response : Text) (terminal : Bool) : ServiceMatchResult :=
  if database.status ≠ .ok || response = [] || maximumMatchResponseBytes < response.length then {}
  else
    match view probe response terminal with
    | none => {}
    | some view =>
      let candidates := probe.rules.zipIdx.filterMap fun (rule, ruleIndex) ↦
        (candidate recognizer probe view terminal rule).map fun result ↦
          withTls recognizer response { result with ruleIndex }
      candidates.foldl better {}

end ServiceMatcher

end Skan.Detect
