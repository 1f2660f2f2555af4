import Mathlib.Data.List.TakeDrop
import Mathlib.Data.List.TakeWhile
import Skan.Detect.ProtocolParsers

/-!
# Where an HTTP response ends

`parse_http_response` reads what has come in so far of a response, again and again while it grows.
Its verdicts that end the reading, complete and malformed, are never taken back
(`parseHttpResponse_append`).

`dechunk` inverts the chunked transfer coding (`dechunk_text`): of an `Encoding` within its limits
it returns the body, and it is not satisfied with any part of it.

## Both come from the separators

Every function here takes a line off the front at a time, so all that is needed of `splitOnce` is
how it goes on when bytes are added behind: a separator that is found stays found
(`splitOnce_append`), and one not yet found will not be found before the end
(`length_lt_of_splitOnce`). Read the other way, what a reader finds in part of a text is what it
finds in the whole (`splitOnce_of_append`).

An `Encoding` says of its extensions and trailer fields only that the reader allows them. That they
keep to their line is a consequence (`plain_of_chunkExtensions`, `plain_of_headerField`).
-/

namespace Skan.Detect

open Skan.Core

variable {separator before after more rest : Text} {state : HttpParseState} {c : UInt8} {value : ℕ}

/-! ### Separators -/

/-- The text around a separator. -/
theorem eq_of_splitOnce {text : Text} (h : splitOnce separator text = some (before, after)) :
    text = before ++ (separator ++ after) := by
  induction text generalizing before with
  | nil => exact nomatch h
  | cons c text ih =>
    rw [splitOnce] at h
    split_ifs at h with hprefix
    · cases h
      exact (List.prefix_iff_eq_append.mp (List.isPrefixOf_iff_prefix.mp hprefix)).symm
    · obtain ⟨⟨before', after'⟩, hrest, heq⟩ := Option.map_eq_some_iff.mp h
      cases heq
      rw [ih hrest, List.cons_append]

/-- A separator that was found stays found when bytes are added. -/
theorem splitOnce_append {text : Text} (h : splitOnce separator text = some (before, after))
    (more : Text) : splitOnce separator (text ++ more) = some (before, after ++ more) := by
  induction text generalizing before with
  | nil => exact nomatch h
  | cons c text ih =>
    rw [List.cons_append, splitOnce]
    rw [splitOnce] at h
    split_ifs at h with hprefix
    · cases h
      have hle := (List.isPrefixOf_iff_prefix.mp hprefix).length_le
      have hmore : separator.isPrefixOf (c :: (text ++ more)) = true :=
        List.isPrefixOf_iff_prefix.mpr
          ((List.isPrefixOf_iff_prefix.mp hprefix).trans (List.prefix_append (c :: text) more))
      rw [if_pos hmore, ← List.cons_append, List.drop_append_of_le_length hle]
    · obtain ⟨⟨before', after'⟩, hrest, heq⟩ := Option.map_eq_some_iff.mp h
      cases heq
      -- the rest holds the whole separator, so a longer text does not begin with it either
      have hle : separator.length ≤ text.length := by
        rw [eq_of_splitOnce hrest, List.length_append, List.length_append]
        omega
      have hmore : ¬ separator.isPrefixOf (c :: (text ++ more)) = true := by
        intro hmore
        refine hprefix (List.isPrefixOf_iff_prefix.mpr ?_)
        exact List.prefix_of_prefix_length_le (List.isPrefixOf_iff_prefix.mp hmore)
          (List.prefix_append (c :: text) more) (Nat.le_succ_of_le hle)
      rw [if_neg hmore, ih hrest]
      rfl

/-- A separator that is found only once bytes are added ends among them. -/
theorem length_lt_of_splitOnce {text : Text} (hne : separator ≠ [])
    (hnone : splitOnce separator text = none)
    (h : splitOnce separator (text ++ more) = some (before, after)) :
    text.length < before.length + separator.length := by
  induction text generalizing before with
  | nil =>
    have hpos := List.length_pos_iff.mpr hne
    rw [List.length_nil]
    omega
  | cons c text ih =>
    rw [splitOnce] at hnone
    rw [List.cons_append, splitOnce] at h
    split_ifs at hnone with hprefix
    split_ifs at h with hmore
    · cases h
      by_contra hle
      refine hprefix (List.isPrefixOf_iff_prefix.mpr ?_)
      exact List.prefix_of_prefix_length_le (List.isPrefixOf_iff_prefix.mp hmore)
        (List.prefix_append (c :: text) more) (by simpa using hle)
    · obtain ⟨⟨before', after'⟩, hrest, heq⟩ := Option.map_eq_some_iff.mp h
      cases heq
      have hlt := ih (Option.map_eq_none_iff.mp hnone) hrest
      simp only [List.length_cons]
      omega

/-! ### Chunks and trailers are not read again -/

theorem readTrailer_append {fields : ℕ} {encoded : Text} (h : readTrailer fields encoded = state)
    (hstate : state ≠ .headers) (more : Text) : readTrailer fields (encoded ++ more) = state := by
  induction fields generalizing encoded with
  | zero => exact h
  | succ fields ih =>
    unfold readTrailer at h ⊢
    cases hsplit : splitOnce crlf encoded with
    | none =>
      rw [hsplit] at h
      exact absurd h.symm hstate
    | some parts =>
      obtain ⟨line, rest⟩ := parts
      rw [hsplit] at h
      rw [splitOnce_append hsplit more]
      cases line with
      | nil => exact h
      | cons c line =>
        dsimp only at h ⊢
        cases hfield : headerField (c :: line) with
        | none =>
          rw [hfield] at h
          exact h
        | some field =>
          rw [hfield] at h
          dsimp only at h ⊢
          split_ifs at h ⊢ with hforbidden
          · exact h
          · exact ih h

/-- What `dechunk` has decided stays decided when bytes are added. -/
theorem dechunkLoop_append {chunks : ℕ} {encoded body : Text} {decoded : Text}
    (h : dechunkLoop chunks encoded body = (state, decoded)) (hstate : state ≠ .headers)
    (more : Text) : dechunkLoop chunks (encoded ++ more) body = (state, decoded) := by
  induction chunks generalizing encoded body with
  | zero => exact h
  | succ chunks ih =>
    unfold dechunkLoop at h ⊢
    cases hsplit : splitOnce crlf encoded with
    | none =>
      rw [hsplit] at h
      exact absurd (congrArg Prod.fst h).symm hstate
    | some parts =>
      obtain ⟨line, rest⟩ := parts
      rw [hsplit] at h
      rw [splitOnce_append hsplit more]
      dsimp only at h ⊢
      cases hsize : unsignedNumber 16 (line.span (· ≠ 0x3B)).1 with
      | none =>
        rw [hsize] at h
        exact h
      | some size =>
        rw [hsize] at h
        dsimp only at h ⊢
        by_cases hline : (256 < line.length || maxResponse < size ||
            !chunkExtensions (line.span (· ≠ 0x3B)).2) = true
        · rw [if_pos hline] at h ⊢
          exact h
        rw [if_neg hline] at h ⊢
        by_cases hzero : size = 0
        · rw [if_pos hzero] at h ⊢
          obtain ⟨htrailer, rfl⟩ := Prod.mk.inj h
          rw [readTrailer_append htrailer hstate]
        rw [if_neg hzero] at h ⊢
        by_cases hshort : rest.length < size
        · rw [if_pos hshort] at h
          exact absurd (congrArg Prod.fst h).symm hstate
        have hle : size ≤ rest.length := Nat.not_lt.mp hshort
        have hlonger : ¬ (rest ++ more).length < size := by
          rw [List.length_append]
          omega
        rw [if_neg hshort] at h
        rw [if_neg hlonger, List.take_append_of_le_length hle, List.drop_append_of_le_length hle]
        by_cases hfull : maxResponse - size < body.length
        · rw [if_pos hfull] at h ⊢
          exact h
        rw [if_neg hfull] at h ⊢
        by_cases hbreak : (rest.drop size).length < 2
        · rw [if_pos hbreak] at h
          exact absurd (congrArg Prod.fst h).symm hstate
        have hle₂ : 2 ≤ (rest.drop size).length := Nat.not_lt.mp hbreak
        have hlonger₂ : ¬ (rest.drop size ++ more).length < 2 := by
          rw [List.length_append]
          omega
        rw [if_neg hbreak] at h
        rw [if_neg hlonger₂, List.take_append_of_le_length hle₂,
          List.drop_append_of_le_length hle₂]
        split_ifs at h ⊢ with hcrlf
        · exact h
        · exact ih h

/-! ### Responses -/

/-- What the head and the body of a response come to stays so, once it is decided. -/
theorem HttpFields.finish_append {fields : HttpFields} {code : ℕ} {bytes : Text}
    (hstate : (fields.finish code bytes false).state ≠ .headers) (more : Text) (terminal : Bool) :
    fields.finish code (bytes ++ more) terminal = fields.finish code bytes false := by
  unfold HttpFields.finish at hstate ⊢
  dsimp only at hstate ⊢
  by_cases hbodyless : (code = 101 || code = 204 || code = 304) = true
  · rw [if_pos hbodyless, if_pos hbodyless]
  rw [if_neg hbodyless] at hstate
  rw [if_neg hbodyless, if_neg hbodyless]
  cases htransfer : fields.transfer with
  | some transfer =>
    rw [htransfer] at hstate
    dsimp only at hstate ⊢
    by_cases hchunked : (iequal transfer (literal "chunked") &&
        fields.response.protocolVersion = literal "1.1") = true
    · simp only [if_pos hchunked] at hstate ⊢
      have hsame : dechunk (bytes ++ more) = dechunk bytes :=
        dechunkLoop_append rfl hstate more
      rw [hsame]
    · simp only [if_neg hchunked]
  | none =>
    rw [htransfer] at hstate
    cases hlength : fields.contentLength with
    | some length =>
      rw [hlength] at hstate
      dsimp only at hstate ⊢
      by_cases henough : (length ≤ maxResponse && length ≤ bytes.length) = true
      · have hle : length ≤ bytes.length := by
          simp only [Bool.and_eq_true, decide_eq_true_eq] at henough
          exact henough.2
        have hmore : (length ≤ maxResponse && length ≤ (bytes ++ more).length) = true := by
          simp only [Bool.and_eq_true, decide_eq_true_eq] at henough ⊢
          rw [List.length_append]
          exact ⟨henough.1, Nat.le_add_right_of_le hle⟩
        simp only [if_pos henough, if_pos hmore, List.take_append_of_le_length hle]
      · simp only [if_neg henough] at hstate
        exact absurd rfl hstate
    | none =>
      rw [hlength] at hstate
      exact absurd rfl hstate

/-- A verdict that ends the reading. -/
def HttpParseState.IsFinal (state : HttpParseState) : Prop := state = .complete ∨ state = .malformed

theorem HttpParseState.IsFinal.ne_headers (h : state.IsFinal) : state ≠ .headers := by
  rintro rfl
  exact h.elim nofun nofun

theorem parseHttpLoop_append {interim : ℕ} {text : Text}
    (hfinal : (parseHttpLoop false interim text).state.IsFinal) (more : Text) (terminal : Bool) :
    parseHttpLoop terminal interim (text ++ more) = parseHttpLoop false interim text := by
  induction interim generalizing text with
  | zero => rfl
  | succ interim ih =>
    unfold parseHttpLoop at hfinal ⊢
    cases hsplit : splitOnce (crlf ++ crlf) text with
    | none =>
      rw [hsplit] at hfinal
      dsimp only at hfinal ⊢
      -- without a head, only too many bytes are final; one found later is too long as well
      have hlong : maxHeaders < text.length := by
        by_contra hshort
        rw [if_neg hshort] at hfinal
        exact hfinal.elim nofun nofun
      rw [if_pos hlong]
      cases hmore : splitOnce (crlf ++ crlf) (text ++ more) with
      | none =>
        have hlonger : maxHeaders < (text ++ more).length := by
          rw [List.length_append]
          omega
        dsimp only
        rw [if_pos hlonger]
      | some parts =>
        obtain ⟨head, bytes⟩ := parts
        have hlt := length_lt_of_splitOnce (by decide) hsplit hmore
        have hhead : maxHeaders < head.length + 4 := by
          have hfour : (crlf ++ crlf).length = 4 := rfl
          omega
        dsimp only
        rw [if_pos hhead]
    | some parts =>
      obtain ⟨head, bytes⟩ := parts
      rw [hsplit] at hfinal
      rw [splitOnce_append hsplit more]
      dsimp only at hfinal ⊢
      by_cases hhead : maxHeaders < head.length + 4
      · rw [if_pos hhead, if_pos hhead]
      rw [if_neg hhead] at hfinal
      rw [if_neg hhead, if_neg hhead]
      revert hfinal
      split
      · exact fun _ ↦ rfl
      · intro hfinal
        split_ifs at hfinal ⊢ with hinterim
        · exact ih hfinal
        · exact HttpFields.finish_append hfinal.ne_headers more terminal

/-- **Nothing that comes in later changes a verdict.** A response that is complete, or malformed,
while the connection is still open is so with whatever follows, and the parser makes of both the
same: the same status code, headers, server and body.

The reader's limit is the one on all of the bytes. -/
theorem parseHttpResponse_append (response more : Text)
    (hlength : (response ++ more).length ≤ maxResponse) (terminal : Bool) :
    ((parseHttpResponse response false).state = .complete →
      parseHttpResponse (response ++ more) terminal = parseHttpResponse response false) ∧
    ((parseHttpResponse response false).state = .malformed →
      (parseHttpResponse (response ++ more) terminal).state = .malformed) := by
  have hshort : response.length ≤ maxResponse := by
    rw [List.length_append] at hlength
    omega
  have heq : (parseHttpResponse response false).state.IsFinal →
      parseHttpResponse (response ++ more) terminal = parseHttpResponse response false := by
    intro hfinal
    unfold parseHttpResponse at hfinal ⊢
    rw [if_neg (Nat.not_lt.mpr hshort)] at hfinal
    rw [if_neg (Nat.not_lt.mpr hlength), if_neg (Nat.not_lt.mpr hshort)]
    exact parseHttpLoop_append hfinal more terminal
  refine ⟨fun h ↦ heq (.inl h), fun h ↦ ?_⟩
  rw [heq (.inr h), h]

/-- The head and the body have come in; what follows is not part of them. -/
theorem parseHttpResponse_append_hi :
    parseHttpResponse (literal "HTTP/1.0 200 OK\r\nContent-Length: 2\r\n\r\nhi" ++ literal "more")
        true =
      parseHttpResponse (literal "HTTP/1.0 200 OK\r\nContent-Length: 2\r\n\r\nhi") false :=
  (parseHttpResponse_append _ _ (by decide +kernel) true).1 (by decide +kernel)

/-! ### Lines -/

/-- Text without control characters other than tabs. -/
def Plain (text : Text) : Prop := ∀ c ∈ text, isPlain c = true

theorem plain_cons {text : Text} (hc : isPlain c = true) (h : Plain text) : Plain (c :: text) :=
  List.forall_mem_cons.mpr ⟨hc, h⟩

theorem plain_append {text : Text} : Plain (text ++ more) ↔ Plain text ∧ Plain more :=
  List.forall_mem_append

theorem isPlain_of_isToken (h : isToken c = true) : isPlain c = true := by
  revert h
  exact forall_byte (p := fun c ↦ isToken c = true → isPlain c = true) (by decide +kernel) c

theorem Plain.of_trimBlanks {text : Text} (h : Plain (trimBlanks text)) : Plain text := by
  let isBlank (c : UInt8) : Bool := c = 0x20 || c = 0x09
  have hblank : ∀ c, isBlank c = true → isPlain c = true := forall_byte (by decide +kernel)
  have hdrop : ∀ {text : Text}, Plain (text.dropWhile isBlank) → Plain text := by
    intro text htext
    rw [← List.takeWhile_append_dropWhile (p := isBlank) (l := text), plain_append]
    exact ⟨fun c hc ↦ hblank c (List.mem_takeWhile_imp hc), htext⟩
  refine hdrop fun c hc ↦ ?_
  have hback : Plain ((text.dropWhile isBlank).reverse.dropWhile isBlank) :=
    fun c hc ↦ h c (List.mem_reverse.mpr hc)
  exact hdrop hback c (List.mem_reverse.mpr hc)

/-- A line ends at its line break. -/
theorem splitOnce_crlf {line : Text} (h : Plain line) (rest : Text) :
    splitOnce crlf (line ++ (crlf ++ rest)) = some (line, rest) := by
  induction line with
  | nil => rfl
  | cons c line ih =>
    have hc : c ≠ 0x0D := by
      rintro rfl
      exact absurd (h 0x0D List.mem_cons_self) (by decide)
    have hprefix : ¬ crlf.isPrefixOf (c :: (line ++ (crlf ++ rest))) = true := by
      intro hprefix
      exact hc (List.cons_prefix_cons.mp (List.isPrefixOf_iff_prefix.mp hprefix)).1.symm
    rw [List.cons_append, splitOnce, if_neg hprefix, ih fun d hd ↦ h d (List.mem_cons_of_mem c hd)]
    rfl

/-- Of a text that breaks off, a line is read as it is in the whole text, or else it breaks off. -/
theorem splitOnce_of_append {text : Text}
    (h : splitOnce separator (text ++ more) = some (before, after)) :
    (splitOnce separator text = none ∧ more ≠ []) ∨
      ∃ rest, splitOnce separator text = some (before, rest) ∧ rest ++ more = after := by
  cases hsplit : splitOnce separator text with
  | none =>
    left
    refine ⟨rfl, ?_⟩
    rintro rfl
    rw [List.append_nil, hsplit] at h
    exact nomatch h
  | some parts =>
    obtain ⟨before', rest⟩ := parts
    rw [splitOnce_append hsplit more] at h
    cases h
    exact .inr ⟨rest, rfl, rfl⟩

theorem plain_of_headerField {line : Text} {field : Text × Text}
    (h : headerField line = some field) : Plain line := by
  have hspan := List.takeWhile_append_dropWhile (p := fun c : UInt8 ↦ decide (c ≠ 0x3A)) (l := line)
  unfold headerField at h
  rw [List.span_eq_takeWhile_dropWhile] at h
  split at h
  · exact nomatch h
  · rename_i name colon rest heq
    obtain ⟨hname, hrest⟩ := Prod.mk.inj heq
    have hcolon : colon = 0x3A := by
      have hhead := List.head?_dropWhile_not (fun c : UInt8 ↦ decide (c ≠ 0x3A)) line
      rw [hrest] at hhead
      simpa using hhead
    dsimp only at h
    split_ifs at h with hbad
    simp only [Bool.or_eq_true, Bool.not_eq_true', not_or, Bool.not_eq_false, List.all_eq_true]
      at hbad
    rw [← hspan, hname, hrest, plain_append]
    refine ⟨fun c hc ↦ isPlain_of_isToken (hbad.1.2 c hc), ?_⟩
    intro c hc
    rcases List.mem_cons.mp hc with rfl | hc
    · rw [hcolon]
      decide
    · exact Plain.of_trimBlanks hbad.2 c hc

theorem plain_of_skipQuoted {text : Text} (h : skipQuoted text = some rest) (hrest : Plain rest) :
    Plain text := by
  fun_induction skipQuoted text with
  | case1 => exact nomatch h
  | case2 text =>
    cases h
    exact plain_cons (by decide) hrest
  | case3 => exact nomatch h
  | case4 escaped text hescaped _ ih =>
    exact plain_cons (by decide) (plain_cons hescaped (ih h))
  | case5 => exact nomatch h
  | case6 c text _ _ hc ih => exact plain_cons hc (ih h)
  | case7 => exact nomatch h

theorem plain_of_span {text name : Text} (h : text.span isToken = (name, rest))
    (hrest : Plain rest) : Plain text := by
  rw [List.span_eq_takeWhile_dropWhile] at h
  obtain ⟨rfl, rfl⟩ := Prod.mk.inj h
  rw [← List.takeWhile_append_dropWhile (p := isToken) (l := text), plain_append]
  exact ⟨fun c hc ↦ isPlain_of_isToken (List.mem_takeWhile_imp hc), hrest⟩

/-- An extension, from its semicolon on. -/
theorem plain_extension {text name : Text}
    (hc : ¬ (decide (c ≠ 0x3B) || decide (name = [])) = true)
    (hname : (trimBlanks text).span isToken = (name, rest)) (hrest : Plain rest) :
    Plain (c :: text) := by
  have hsemicolon : c = 0x3B := by
    by_contra hne
    exact hc (by simp [hne])
  rw [hsemicolon]
  exact plain_cons (by decide) (plain_of_span hname hrest).of_trimBlanks

theorem plain_chunkExtensionsLoop {fuel : ℕ} {text : Text}
    (h : chunkExtensionsLoop fuel text = true) : Plain text := by
  fun_induction chunkExtensionsLoop fuel text with
  | case1 => exact List.forall_mem_nil _
  | case2 => exact nomatch h
  | case3 => exact nomatch h
  | case4 fuel c text name rest hname hc value hequals quoted hquote ih =>
    -- a value in quotes
    obtain ⟨after, hquoted, hafter⟩ := (Option.any_eq_true _ _).mp h
    have hvalue : Plain (trimBlanks value) := by
      rw [hquote]
      exact plain_cons (by decide) (plain_of_skipQuoted hquoted (ih after hafter).of_trimBlanks)
    have hrest : Plain (trimBlanks rest) := by
      rw [hequals]
      exact plain_cons (by decide) hvalue.of_trimBlanks
    exact plain_extension hc hname hrest.of_trimBlanks
  | case5 => exact nomatch h
  | case6 fuel c text name rest hname hc value hequals token after _ _ htoken ih =>
    -- a value that is a token
    have hvalue : Plain (trimBlanks value) := plain_of_span htoken (ih h).of_trimBlanks
    have hrest : Plain (trimBlanks rest) := by
      rw [hequals]
      exact plain_cons (by decide) hvalue.of_trimBlanks
    exact plain_extension hc hname hrest.of_trimBlanks
  | case7 fuel c text name rest hname hc _ ih =>
    exact plain_extension hc hname (ih h).of_trimBlanks

/-- Extensions of a chunk stand on its line. -/
theorem plain_of_chunkExtensions {text : Text} (h : chunkExtensions text = true) : Plain text := by
  exact plain_chunkExtensionsLoop h

/-! ### Chunked transfer coding -/

/-- A text writes a number in hexadecimal. Letters may be of either case, and zeros may lead. -/
inductive Hexadecimal : Text → ℕ → Prop where
  | digit {c : UInt8} {value : ℕ} : digitValue c = some value → Hexadecimal [c] value
  | append {text : Text} {c : UInt8} {value digit : ℕ} :
    Hexadecimal text value → digitValue c = some digit →
      Hexadecimal (text ++ [c]) (value * 16 + digit)

/-- The line before a chunk of so many bytes; the last chunk has none. -/
structure SizeLine (size : ℕ) where
  digits : Text
  extensions : Text
  hexadecimal : Hexadecimal digits size
  allowed : chunkExtensions extensions = true
  length_le : (digits ++ extensions).length ≤ 256

/-- Part of a body. -/
structure Chunk where
  data : Text
  sizeLine : SizeLine data.length
  nonempty : data ≠ []

/-- A field that may stand in the trailer: not one of the four that say how to read the body. -/
structure TrailerField where
  line : Text
  name : Text
  value : Text
  field : headerField line = some (name, value)
  allowed :
    name.map toLower ∉
      [literal "content-length", literal "transfer-encoding", literal "content-encoding",
        literal "content-type"]

/-- A body in chunked transfer coding, within the limits of the reader. -/
structure Encoding where
  chunks : List Chunk
  last : SizeLine 0
  trailer : List TrailerField
  chunks_le : chunks.length ≤ 255
  trailer_le : trailer.length ≤ 63
  body_le : (chunks.flatMap Chunk.data).length ≤ 8192

def SizeLine.text {size : ℕ} (line : SizeLine size) : Text := line.digits ++ line.extensions

def Chunk.text (chunk : Chunk) : Text := chunk.sizeLine.text ++ (crlf ++ (chunk.data ++ crlf))

def trailerText (trailer : List TrailerField) : Text :=
  trailer.flatMap (fun field ↦ field.line ++ crlf) ++ crlf

namespace Encoding

variable (encoding : Encoding)

def body : Text := encoding.chunks.flatMap Chunk.data

def text : Text :=
  encoding.chunks.flatMap Chunk.text ++
    (encoding.last.text ++ (crlf ++ trailerText encoding.trailer))

end Encoding

theorem of_digitValue (h : digitValue c = some value) : value < 16 ∧ c ≠ 0x3B ∧ isPlain c = true :=
  forall_byte (p := fun c ↦ ∀ value ∈ digitValue c, value < 16 ∧ c ≠ 0x3B ∧ isPlain c = true)
    (by decide +kernel) c value h

theorem Hexadecimal.ne_nil {text : Text} (h : Hexadecimal text value) : text ≠ [] := by
  cases h with
  | digit => exact List.cons_ne_nil _ _
  | append => exact List.append_ne_nil_of_right_ne_nil _ (List.cons_ne_nil _ _)

theorem Hexadecimal.forall_mem {text : Text} (h : Hexadecimal text value) :
    ∀ c ∈ text, c ≠ 0x3B ∧ isPlain c = true := by
  induction h with
  | digit hc => exact fun c hmem ↦ List.mem_singleton.mp hmem ▸ (of_digitValue hc).2
  | append _ hc ih =>
    intro c hmem
    rcases List.mem_append.mp hmem with hmem | hmem
    · exact ih c hmem
    · exact List.mem_singleton.mp hmem ▸ (of_digitValue hc).2

/-- A number in hexadecimal is read as what it stands for. -/
theorem Hexadecimal.unsignedNumber {text : Text} (h : Hexadecimal text value)
    (hlt : value < 2 ^ 64) : unsignedNumber 16 text = some value := by
  let base16 (c : UInt8) := (digitValue c).filter (· < 16)
  have hbase {c : UInt8} {digit : ℕ} (hc : digitValue c = some digit) : base16 c = some digit := by
    show (digitValue c).filter _ = _
    rw [hc, Option.filter_some, if_pos (decide_eq_true (of_digitValue hc).1)]
  have hdigits : ∃ digits, text.mapM base16 = some digits ∧
      digits.foldl (fun value digit ↦ value * 16 + digit) 0 = value := by
    clear hlt
    induction h with
    | @digit c value hc =>
      refine ⟨[value], ?_, Nat.zero_add value⟩
      rw [List.mapM_cons, hbase hc]
      rfl
    | @append text c value digit _ hc ih =>
      obtain ⟨digits, hmap, hfold⟩ := ih
      refine ⟨digits ++ [digit], ?_, ?_⟩
      · rw [List.mapM_append, hmap, List.mapM_cons, hbase hc]
        rfl
      · rw [List.foldl_append, hfold]
        rfl
  obtain ⟨digits, hmap, hfold⟩ := hdigits
  unfold Detect.unsignedNumber
  rw [show text.mapM (fun c ↦ (digitValue c).filter (· < 16)) = some digits from hmap]
  show (if text = [] then none else if _ < _ then some _ else none) = _
  rw [if_neg h.ne_nil, hfold, if_pos hlt]

namespace SizeLine

variable {size : ℕ} (line : SizeLine size)

theorem plain : Plain line.text :=
  plain_append.mpr ⟨fun c hc ↦ (line.hexadecimal.forall_mem c hc).2,
    plain_of_chunkExtensions line.allowed⟩

/-- The size ends where the extensions begin. -/
theorem span_text : line.text.span (· ≠ 0x3B) = (line.digits, line.extensions) := by
  have hdigits : ∀ c ∈ line.digits, decide (c ≠ 0x3B) = true :=
    fun c hc ↦ decide_eq_true (line.hexadecimal.forall_mem c hc).1
  have hnone : line.extensions.takeWhile (· ≠ 0x3B) = [] ∧
      line.extensions.dropWhile (· ≠ 0x3B) = line.extensions := by
    have hallowed := line.allowed
    cases hextensions : line.extensions with
    | nil => exact ⟨rfl, rfl⟩
    | cons c extensions =>
      have hc : c = 0x3B := by
        by_contra hne
        rw [hextensions, chunkExtensions, List.length_cons, chunkExtensionsLoop] at hallowed
        simp [hne] at hallowed
      simp [hc]
  rw [List.span_eq_takeWhile_dropWhile, text, List.takeWhile_append_of_pos hdigits,
    List.dropWhile_append_of_pos hdigits, hnone.1, hnone.2, List.append_nil]

end SizeLine

/-! ### Decoding -/

theorem TrailerField.line_ne_nil (field : TrailerField) : field.line ≠ [] := by
  intro hnil
  have hfield := field.field
  rw [hnil] at hfield
  exact nomatch hfield

theorem TrailerField.not_framing (field : TrailerField) :
    ¬ (iequal field.name (literal "Content-Length") ||
      iequal field.name (literal "Transfer-Encoding") ||
      iequal field.name (literal "Content-Encoding") ||
      iequal field.name (literal "Content-Type")) = true := by
  have hallowed := field.allowed
  simp only [List.mem_cons, List.not_mem_nil, or_false, not_or] at hallowed
  simp only [iequal, Bool.or_eq_true, decide_eq_true_eq, not_or]
  exact ⟨⟨⟨hallowed.1, hallowed.2.1⟩, hallowed.2.2.1⟩, hallowed.2.2.2⟩

/-- The trailer is complete with its last byte and not before. -/
theorem readTrailer_of_append {trailer : List TrailerField} {fields : ℕ} {text : Text}
    (hfields : trailer.length < fields) (h : text ++ more = trailerText trailer) :
    readTrailer fields text = if more = [] then .complete else .headers := by
  induction trailer generalizing fields text with
  | nil =>
    obtain ⟨fields, rfl⟩ := Nat.exists_eq_succ_of_ne_zero (Nat.ne_zero_of_lt hfields)
    have hsplit : splitOnce crlf (text ++ more) = some ([], []) := by
      rw [h]
      rfl
    rw [readTrailer]
    rcases splitOnce_of_append hsplit with ⟨hnone, hmore⟩ | ⟨rest, hsome, hrest⟩
    · rw [hnone, if_neg hmore]
    · rw [hsome, if_pos (List.append_eq_nil_iff.mp hrest).2]
  | cons field trailer ih =>
    obtain ⟨fields, rfl⟩ := Nat.exists_eq_succ_of_ne_zero (Nat.ne_zero_of_lt hfields)
    have htext : trailerText (field :: trailer) = field.line ++ (crlf ++ trailerText trailer) := by
      simp only [trailerText, List.flatMap_cons, List.append_assoc]
    have hsplit : splitOnce crlf (text ++ more) = some (field.line, trailerText trailer) := by
      rw [h, htext]
      exact splitOnce_crlf (plain_of_headerField field.field) _
    rw [readTrailer]
    rcases splitOnce_of_append hsplit with ⟨hnone, hmore⟩ | ⟨rest, hsome, hrest⟩
    · rw [hnone, if_neg hmore]
    · obtain ⟨c, line, hline⟩ := List.exists_cons_of_ne_nil field.line_ne_nil
      have hread : headerField (c :: line) = some (field.name, field.value) := hline ▸ field.field
      rw [hsome, hline]
      dsimp only
      rw [hread]
      dsimp only
      rw [if_neg field.not_framing]
      exact ih (Nat.lt_of_succ_lt_succ hfields) hrest

/-- One step of the decoder past the line of a chunk. -/
theorem dechunkLoop_sizeLine {size chunks : ℕ} (line : SizeLine size) (hsize : size ≤ maxResponse)
    {text body : Text} (h : splitOnce crlf text = some (line.text, rest)) :
    dechunkLoop (chunks + 1) text body =
      if size = 0 then (readTrailer maxFields rest, body)
      else if rest.length < size then (.headers, body)
      else if maxResponse - size < body.length then (.malformed, body)
      else if (rest.drop size).length < 2 then (.headers, body ++ rest.take size)
      else if (rest.drop size).take 2 ≠ crlf then (.malformed, body ++ rest.take size)
      else dechunkLoop chunks ((rest.drop size).drop 2) (body ++ rest.take size) := by
  have hnumber := line.hexadecimal.unsignedNumber (lt_of_le_of_lt hsize (by decide))
  have hgood : ¬ (256 < line.text.length || maxResponse < size ||
      !chunkExtensions line.extensions) = true := by
    have hlength : line.text.length ≤ 256 := line.length_le
    simp [line.allowed, hlength, hsize]
  rw [dechunkLoop, h]
  dsimp only
  rw [line.span_text]
  dsimp only
  rw [hnumber]
  dsimp only
  rw [if_neg hgood]

/-- A text that breaks off after some data begins with it. -/
theorem take_of_append {data later : Text} (h : rest ++ more = data ++ later)
    (hle : data.length ≤ rest.length) :
    rest.take data.length = data ∧ rest.drop data.length ++ more = later := by
  have htake := congrArg (List.take data.length) h
  have hdrop := congrArg (List.drop data.length) h
  rw [List.take_append_of_le_length hle, List.take_left] at htake
  rw [List.drop_append_of_le_length hle, List.drop_left] at hdrop
  exact ⟨htake, hdrop⟩

theorem ne_nil_of_append {data later : Text} (h : rest ++ more = data ++ later)
    (hlt : rest.length < data.length) : more ≠ [] := by
  rintro rfl
  have hlength := congrArg List.length h
  rw [List.length_append, List.length_append, List.length_nil] at hlength
  omega

/-- The reader goes through an encoding chunk by chunk, and asks for more wherever it breaks off. -/
theorem dechunkLoop_of_append {chunks : List Chunk} {last : SizeLine 0}
    {trailer : List TrailerField} {budget : ℕ} {text body : Text}
    (hbudget : chunks.length < budget) (htrailer : trailer.length < maxFields)
    (hbody : (body ++ chunks.flatMap Chunk.data).length ≤ maxResponse) (h : text ++ more =
      chunks.flatMap Chunk.text ++ (last.text ++ (crlf ++ trailerText trailer))) :
    (more = [] → dechunkLoop budget text body = (.complete, body ++ chunks.flatMap Chunk.data)) ∧
    (more ≠ [] → (dechunkLoop budget text body).1 = .headers) := by
  induction chunks generalizing budget text body with
  | nil =>
    obtain ⟨budget, rfl⟩ := Nat.exists_eq_succ_of_ne_zero (Nat.ne_zero_of_lt hbudget)
    have hsplit : splitOnce crlf (text ++ more) = some (last.text, trailerText trailer) := by
      rw [h]
      exact splitOnce_crlf last.plain _
    rcases splitOnce_of_append hsplit with ⟨hnone, hmore⟩ | ⟨rest, hsome, hrest⟩
    · rw [dechunkLoop, hnone]
      exact ⟨fun h ↦ absurd h hmore, fun _ ↦ rfl⟩
    · rw [dechunkLoop_sizeLine last (Nat.zero_le _) hsome, if_pos rfl,
        readTrailer_of_append htrailer hrest, List.flatMap_nil, List.append_nil]
      exact ⟨fun h ↦ by rw [if_pos h], fun h ↦ by rw [if_neg h]⟩
  | cons chunk chunks ih =>
    obtain ⟨budget, rfl⟩ := Nat.exists_eq_succ_of_ne_zero (Nat.ne_zero_of_lt hbudget)
    let later := chunks.flatMap Chunk.text ++ (last.text ++ (crlf ++ trailerText trailer))
    have hsplit : splitOnce crlf (text ++ more) =
        some (chunk.sizeLine.text, chunk.data ++ (crlf ++ later)) := by
      rw [h, List.flatMap_cons, Chunk.text]
      simp only [List.append_assoc]
      exact splitOnce_crlf chunk.sizeLine.plain _
    have hsize : chunk.data.length ≤ maxResponse := by
      rw [List.flatMap_cons, List.length_append, List.length_append] at hbody
      omega
    rcases splitOnce_of_append hsplit with ⟨hnone, hmore⟩ | ⟨rest, hsome, hrest⟩
    · rw [dechunkLoop, hnone]
      exact ⟨fun h ↦ absurd h hmore, fun _ ↦ rfl⟩
    rw [dechunkLoop_sizeLine chunk.sizeLine hsize hsome,
      if_neg (List.length_pos_iff.mpr chunk.nonempty).ne']
    by_cases hshort : rest.length < chunk.data.length
    · -- the data breaks off
      rw [if_pos hshort]
      exact ⟨fun hmore ↦ absurd hmore (ne_nil_of_append hrest hshort), fun _ ↦ rfl⟩
    obtain ⟨htake, hdrop⟩ := take_of_append hrest (Nat.not_lt.mp hshort)
    have hroom : ¬ maxResponse - chunk.data.length < body.length := by
      rw [List.flatMap_cons, List.length_append, List.length_append] at hbody
      omega
    rw [if_neg hshort, if_neg hroom, htake]
    by_cases hbreak : (rest.drop chunk.data.length).length < 2
    · -- the line break after it does
      rw [if_pos hbreak]
      exact ⟨fun hmore ↦ absurd hmore (ne_nil_of_append hdrop hbreak), fun _ ↦ rfl⟩
    obtain ⟨hcrlf, hlater⟩ := take_of_append hdrop (Nat.not_lt.mp hbreak)
    have hbody' : (body ++ chunk.data ++ chunks.flatMap Chunk.data).length ≤ maxResponse := by
      rw [List.append_assoc]
      exact hbody
    have hnext := ih (Nat.lt_of_succ_lt_succ hbudget) hbody' hlater
    have hend : (rest.drop chunk.data.length).take 2 = crlf := hcrlf
    rw [if_neg hbreak, if_neg (not_not_intro hend), List.flatMap_cons, ← List.append_assoc]
    exact hnext

/-- **Chunked transfer coding round trip.** The reader gets the body of an encoding, and is not
satisfied with a part of it. -/
theorem dechunk_text (encoding : Encoding) :
    dechunk encoding.text = (.complete, encoding.body) ∧
    ∀ part, part <+: encoding.text → part ≠ encoding.text → (dechunk part).1 ≠ .complete := by
  have hbudget : encoding.chunks.length < 256 := Nat.lt_succ_of_le encoding.chunks_le
  have htrailer : encoding.trailer.length < maxFields := Nat.lt_succ_of_le encoding.trailer_le
  have hbody : ([] ++ encoding.chunks.flatMap Chunk.data).length ≤ maxResponse := encoding.body_le
  constructor
  · have hwhole := dechunkLoop_of_append hbudget htrailer hbody
      (List.append_nil encoding.text)
    exact hwhole.1 rfl
  · rintro part ⟨more, hmore⟩ hne hcomplete
    have hpart := dechunkLoop_of_append hbudget htrailer hbody hmore
    have hheaders : (dechunk part).1 = .headers := by
      refine hpart.2 ?_
      rintro rfl
      exact hne (List.append_nil part ▸ hmore)
    rw [hheaders] at hcomplete
    exact nomatch hcomplete

/-- `open` and `ports` in two chunks, with an extension and a trailer. -/
def twoChunks : Encoding where
  chunks :=
    [{  data := [0x6F, 0x70, 0x65, 0x6E]
        sizeLine :=
          { digits := [0x34]
            extensions := literal ";name=value"
            hexadecimal := .digit rfl
            allowed := by decide +kernel
            length_le := by decide +kernel }
        nonempty := by decide },
      { data := [0x70, 0x6F, 0x72, 0x74, 0x73]
        sizeLine :=
          { digits := [0x30] ++ [0x35]
            extensions := []
            hexadecimal := @Hexadecimal.append [0x30] 0x35 0 5 (.digit rfl) rfl
            allowed := rfl
            length_le := by decide }
        nonempty := by decide }]
  last :=
    { digits := [0x30]
      extensions := []
      hexadecimal := .digit rfl
      allowed := rfl
      length_le := by decide }
  trailer :=
    [{  line := literal "Expires: never"
        name := literal "Expires"
        value := literal "never"
        field := by decide +kernel
        allowed := by decide +kernel }]
  chunks_le := by decide
  trailer_le := by decide
  body_le := by decide

/-- Without its last line break the encoding is not taken to be complete. -/
theorem dechunk_text_twoChunks :
    dechunk twoChunks.text = (.complete, literal "openports") ∧
    (dechunk twoChunks.text.dropLast).1 ≠ .complete :=
  ⟨(dechunk_text twoChunks).1.trans (by decide +kernel),
    (dechunk_text twoChunks).2 _ (List.dropLast_prefix _) (by decide +kernel)⟩

end Skan.Detect
