import Skan.Corpus.Types

/-!
# The regular expressions of the runtime

`runtime_regex_is_valid` of `tools/corpus/model.py`: one pass over the bytes of a pattern that
counts groups and remembers whether a quantifier may follow, and then `re.compile`.

The pass may jump over the characters behind `(?` and over a quantifier in braces, so the loop takes
what is left to scan from each step. Each takes a character, so the length of the pattern is enough
fuel.
-/

namespace Skan.Corpus

/-- `_REGEX_BYTES`. -/
def regexBytes : ℕ := 512

/-- The variables of the loop. -/
structure RegexScan where
  captures : ℕ := 0
  groupDepth : ℕ := 0
  inClass : Bool := false
  classHasContent : Bool := false
  canQuantify : Bool := false
  lastWasAlternation : Bool := false
  escaped : Bool := false
  deriving DecidableEq

namespace RegexScan

def isDigit (c : UInt8) : Bool := 0x30 ≤ c && c ≤ 0x39

/-- A number, as a quantifier holds it. -/
def number (digits : Bytes) : ℕ := Nat.ofDigitChars 10 (digits.map Strings.chr) 0

/-- `[0-9]+(?:,[0-9]*)?`, with a maximum that is not below the minimum. -/
def isQuantifier (quantifier : Bytes) : Bool :=
  match Strings.partition 0x2C quantifier with
  | (minimum, none) => !minimum.isEmpty && minimum.all isDigit
  | (minimum, some maximum) =>
    !minimum.isEmpty && minimum.all isDigit && maximum.all isDigit &&
      (maximum.isEmpty || number minimum ≤ number maximum)

/-- `*` and `+`. -/
def isRepeat (c : UInt8) : Bool := c = 0x2A || c = 0x2B

/-- What follows a quantifier closes a group that is quantified again. -/
def closesQuantifiedGroup : Bytes → Bool
  | close :: quantifier :: _ => close = 0x29 && (isRepeat quantifier || quantifier = 0x7B)
  | _ => false

/-- A pass at a character behind a backslash. -/
def escapedStep (s : RegexScan) (character : UInt8) : Option RegexScan :=
  if 0x31 ≤ character ∧ character ≤ 0x39 then none
  else some { s with escaped := false, canQuantify := true, lastWasAlternation := false }

/-- A pass inside a character class. -/
def classStep (s : RegexScan) (character : UInt8) : Option RegexScan :=
  if character = 0x5C then some { s with escaped := true, classHasContent := true }
  else if character = 0x28 then
    if 16 < s.captures + 1 then none
    else some { s with captures := s.captures + 1, classHasContent := true }
  else if character = 0x5D ∧ s.classHasContent then
    some { s with inClass := false, canQuantify := true, lastWasAlternation := false }
  else some { s with classHasContent := true }

/-- A pass at an opening parenthesis: behind `(?` one of `:`, `=` and `!` is skipped. -/
def groupStep (s : RegexScan) (rest : Bytes) : Option (RegexScan × Bytes) :=
  if 16 < s.captures + 1 then none
  else
    let s := { s with
      captures := s.captures + 1, groupDepth := s.groupDepth + 1, canQuantify := false,
      lastWasAlternation := false }
    match rest with
    | 0x3F :: kind :: rest =>
      if kind = 0x3A ∨ kind = 0x3D ∨ kind = 0x21 then some (s, rest) else none
    | [0x3F] => none
    | rest => some (s, rest)

/-- A pass at an opening brace: the quantifier is skipped. -/
def braceStep (s : RegexScan) (rest : Bytes) : Option (RegexScan × Bytes) :=
  if !s.canQuantify then none
  else
    match Strings.partition 0x7D rest with
    | (_, none) => none
    | (quantifier, some rest) =>
      if isQuantifier quantifier then
        some ({ s with canQuantify := false, lastWasAlternation := false }, rest)
      else none

/-- A pass at any other character outside a class. -/
def plainStep (s : RegexScan) (character : UInt8) (rest : Bytes) : Option RegexScan :=
  if character = 0x5C then some { s with escaped := true }
  else if character = 0x5B then
    some { s with inClass := true, classHasContent := false, canQuantify := false }
  else if character = 0x5D then none
  else if character = 0x29 then
    if s.groupDepth = 0 ∨ s.lastWasAlternation then none
    else
      some
        { s with groupDepth := s.groupDepth - 1, canQuantify := true, lastWasAlternation := false }
  else if character = 0x7C then
    if !s.canQuantify then none
    else some { s with canQuantify := false, lastWasAlternation := true }
  else if isRepeat character ∨ character = 0x3F then
    if !s.canQuantify then none
    else if isRepeat character ∧ closesQuantifiedGroup rest then none
    else some { s with canQuantify := false, lastWasAlternation := false }
  else if character = 0x7D then none
  else if character = 0x5E ∨ character = 0x24 then
    some { s with canQuantify := false, lastWasAlternation := false }
  else some { s with canQuantify := true, lastWasAlternation := false }

/-- A pass of the loop at `character`, which `rest` follows: the variables after it and what is left
to scan, or `none` for `return False`. -/
def step (s : RegexScan) (character : UInt8) (rest : Bytes) : Option (RegexScan × Bytes) :=
  if s.escaped then (s.escapedStep character).map (·, rest)
  else if s.inClass then (s.classStep character).map (·, rest)
  else if character = 0x28 then s.groupStep rest
  else if character = 0x7B then s.braceStep rest
  else (s.plainStep character rest).map (·, rest)

/-- The loop. -/
def scan : ℕ → RegexScan → Bytes → Option RegexScan
  | _, s, [] => some s
  | 0, _, _ :: _ => none
  | fuel + 1, s, character :: rest =>
    (s.step character rest).bind fun (s, rest) ↦ scan fuel s rest

/-- What is asked of the variables behind the loop. -/
def finished (s : RegexScan) : Bool :=
  !(s.escaped || s.groupDepth ≠ 0 || s.inClass || s.lastWasAlternation)

end RegexScan

/-- `runtime_regex_is_valid`. -/
def runtimeRegexIsValid (py : Platform) (pattern : Bytes) : Bool :=
  !pattern.isEmpty && pattern.length ≤ regexBytes &&
    (RegexScan.scan pattern.length {} pattern).any RegexScan.finished && py.reCompiles pattern

end Skan.Corpus
