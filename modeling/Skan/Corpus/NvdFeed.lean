import Skan.Corpus.Records
import Skan.Library.JsonElements
import Skan.Library.Loops

/-!
# The splitter for the NVD feed

`tools/corpus/nvd_feed.py`: the products of the nightly CPE dictionary are read from a stream,
object by object, and written to pages of `chunk_size` products each.

The text handle gives at most as much as it is asked for, and something unless it is at the end of
its text. Where it cuts is given with it (`Handle.cuts`). The JSON decoder of the standard library
is a parameter (`JsonModule`); what a text denotes for it is said in `JsonModule.Lawful`.

A page is written in UTF-8 and with `ensure_ascii=False`: what `dumps` makes of it may hold a
surrogate, which an escape in the feed can bring in, and then it cannot be written. -/

namespace Skan.Corpus.NvdFeed

open Loops

/-! ### What the splitter is given -/

/-- A code point of a `str`: a character or a surrogate. -/
abbrev CodePoint := ℕ

/-- What the splitter uses of `json`. -/
structure JsonModule (Value : Type) where
  /-- `decoder.raw_decode(buffer, cursor)`, or the text of its `JSONDecodeError`. -/
  rawDecode : Str → ℕ → Except Str (Value × ℕ)
  /-- `isinstance(item, dict)`. -/
  isDict : Value → Bool
  /-- `json.dumps(item, ensure_ascii=False, separators=(",", ":"))`. -/
  dumps : Value → List CodePoint

/-- A text handle: what is left of its text, and how much the next reads give, less one. -/
structure Handle where
  rest : Str
  cuts : List ℕ

/-- `handle.read(size)`. Once there are no more cuts it gives all that it is asked for. -/
def Handle.read (handle : Handle) (size : ℕ) : Str × Handle :=
  let count := match handle.cuts with
    | [] => size
    | cut :: _ => min size (cut + 1)
  (handle.rest.take count, ⟨handle.rest.drop count, handle.cuts.tail⟩)

/-- The files of a directory. -/
abbrev Directory := Str → Option Bytes

/-- A `ValueError`; `UnicodeEncodeError` is one. -/
inductive FeedError where
  | value (message : Str)
  | unicodeEncode
  deriving DecidableEq

/-- Why a run has no result: an exception, or a loop that goes on for ever. -/
inductive Fault where
  | raised (error : FeedError)
  | endless
  deriving DecidableEq

/-- `raise ValueError(message)`. -/
def raiseValueError {α : Type} (message : String) : Except Fault α :=
  .error (.raised (.value message.toList))

/-- `_READ_SIZE`. -/
def readSize : ℕ := 1024 * 1024

/-! ### The start of the products -/

/-- `"products"`. -/
def productsKey : Str := ['"', 'p', 'r', 'o', 'd', 'u', 'c', 't', 's', '"']

/-- How long the match of `_PRODUCTS_START` is at the beginning of a text. -/
def productsStart (text : Str) : Option ℕ :=
  if productsKey.isPrefixOf text then
    match (text.drop productsKey.length).dropWhile isSpace with
    | ':' :: more =>
      match more.dropWhile isSpace with
      | '[' :: rest => some (text.length - rest.length)
      | _ => none
    | _ => none
  else none

/-- `_PRODUCTS_START.search(text)`, as the end of the match. -/
def search : Str → Option ℕ
  | [] => none
  | c :: text =>
    match productsStart (c :: text) with
    | some length => some length
    | none => (search text).map (· + 1)

/-- One pass of the loop of `_read_until_products`. -/
def untilProductsStep : Str × Handle → Except Fault ((Str × Handle) ⊕ (Str × ℕ × Handle))
  | (buffer, handle) =>
    if buffer.length ≤ readSize then
      let (chunk, handle) := handle.read (readSize - buffer.length + 1)
      if chunk.isEmpty then
        raiseValueError "NVD CPE feed requires a products array near the document start"
      else
        match search (buffer ++ chunk) with
        | some stop => .ok (.inr (buffer ++ chunk, stop, handle))
        | none => .ok (.inl (buffer ++ chunk, handle))
    else raiseValueError "NVD CPE feed requires a products array near the document start"

/-- `_read_until_products`. -/
def readUntilProducts (fuel : ℕ) (handle : Handle) : Except Fault (Str × ℕ × Handle) :=
  loop .endless untilProductsStep fuel ([], handle)

/-! ### Pages -/

/-- `f"page-{index:05d}.json"`. -/
def pageName (index : ℕ) : Str :=
  "page-".toList ++ (Nat.toDigits 10 index).leftpad 5 '0' ++ ".json".toList

/-- The names that `page-*.json` stands for. -/
def isPageName (name : Str) : Bool :=
  "page-".toList.isPrefixOf name && ".json".toList.isSuffixOf name

/-- `for stale in output_dir.glob("page-*.json"): stale.unlink()`. -/
def unlinkPages (files : Directory) : Directory :=
  fun name ↦ if isPageName name then none else files name

/-- `text.encode("utf-8")`. -/
def encodeUtf8 (text : List CodePoint) : Option Bytes :=
  if text.all fun n ↦ decide n.isValidChar then some (Utf8.encode (text.map Char.ofNat)) else none

/-- The code points of a text. -/
def codePoints (text : String) : List CodePoint := text.toList.map Char.toNat

section

variable {Value : Type} (json : JsonModule Value)

/-- The text of a page: the JSON of `{"products": products}` and the end of its line. -/
def payload (products : List Value) : List CodePoint :=
  codePoints "\x7b\"products\":[" ++ (codePoints ",").intercalate (products.map json.dumps) ++
    codePoints "]\x7d\n"

/-- `_write_chunk`. -/
def writeChunk (files : Directory) (index : ℕ) (products : List Value) :
    Except Fault Directory :=
  match encodeUtf8 (payload json products) with
  | some bytes => .ok (Function.update files (pageName index) (some bytes))
  | none => .error (.raised .unicodeEncode)

/-! ### The loops -/

/-- How far the stream is read. -/
structure Reading where
  handle : Handle
  buffer : Str
  cursor : ℕ
  eof : Bool

/-- One pass of the loop that reaches a token. -/
def tokenStep (s : Reading) : Except Fault (Reading ⊕ Reading) :=
  let cursor := s.cursor + ((s.buffer.drop s.cursor).takeWhile isSpace).length
  match s.buffer[cursor]? with
  | some c =>
    if c = ',' then .ok (.inl { s with cursor := cursor + 1 })
    else .ok (.inr { s with cursor })
  | none =>
    if s.eof then raiseValueError "unterminated NVD CPE products array"
    else
      let (more, handle) := s.handle.read readSize
      if more.isEmpty then .ok (.inl { handle, buffer := [], cursor := 0, eof := true })
      else .ok (.inl { handle, buffer := more, cursor := 0, eof := s.eof })

/-- One pass of the loop that decodes an item. -/
def decodeStep (s : Reading) : Except Fault (Reading ⊕ (Value × Reading)) :=
  match json.rawDecode s.buffer s.cursor with
  | .ok (item, next) => .ok (.inr (item, { s with cursor := next }))
  | .error message =>
    if s.eof then
      .error (.raised (.value ("malformed NVD CPE products array: ".toList ++ message)))
    else
      let buffer := if s.cursor ≠ 0 then s.buffer.drop s.cursor else s.buffer
      let (more, handle) := s.handle.read readSize
      if more.isEmpty then .ok (.inl { handle, buffer, cursor := 0, eof := true })
      else .ok (.inl { handle, buffer := buffer ++ more, cursor := 0, eof := s.eof })

/-- The state of the loop over the products. -/
structure Split (Value : Type) where
  reading : Reading
  pending : List Value
  totalProducts : ℕ
  chunkIndex : ℕ
  files : Directory

/-- What is done with an item that has been decoded. -/
def acceptItem (chunkSize : ℤ) (s : Split Value) (item : Value) : Except Fault (Split Value) := do
  let s := { s with pending := s.pending ++ [item], totalProducts := s.totalProducts + 1 }
  if (s.pending.length : ℤ) = chunkSize then
    let files ← writeChunk json s.files s.chunkIndex s.pending
    return { s with files, chunkIndex := s.chunkIndex + 1, pending := [] }
  else return s

/-- `if cursor > _READ_SIZE`: what has been read is dropped from the buffer. -/
def Reading.trim (s : Reading) : Reading :=
  if s.cursor > readSize then { s with buffer := s.buffer.drop s.cursor, cursor := 0 } else s

/-- One pass of the loop over the products. -/
def productStep (chunkSize : ℤ) (fuel : ℕ) (s : Split Value) :
    Except Fault (Split Value ⊕ Split Value) := do
  let reading ← loop .endless tokenStep fuel s.reading
  if reading.buffer[reading.cursor]? = some ']' then return .inr { s with reading }
  let (item, reading) ← loop .endless (decodeStep json) fuel reading
  if !json.isDict item then raiseValueError "NVD CPE products array entries must be objects"
  let s ← acceptItem json chunkSize s item
  return .inl { s with reading := reading.trim }

/-- What `split_nvd_cpe_feed` returns. -/
structure Stats where
  products : ℕ
  chunks : ℕ
  chunkSize : ℤ
  deriving DecidableEq

/-- `split_nvd_cpe_feed`, with the directory as it is left. No loop makes more passes than there
are characters twice over. -/
def splitNvdCpeFeed (feed : Str) (cuts : List ℕ) (outputDir : Directory) (chunkSize : ℤ) :
    Except Fault (Stats × Directory) := do
  if chunkSize ≤ 0 then raiseValueError "chunk_size must be greater than zero"
  let fuel := 2 * feed.length + 2
  let (buffer, cursor, handle) ← readUntilProducts fuel ⟨feed, cuts⟩
  let s ← loop .endless (productStep json chunkSize fuel) fuel
    { reading := { handle, buffer, cursor, eof := false }, pending := [], totalProducts := 0,
      chunkIndex := 0, files := unlinkPages outputDir }
  if s.pending.isEmpty then return (⟨s.totalProducts, s.chunkIndex, chunkSize⟩, s.files)
  let files ← writeChunk json s.files s.chunkIndex s.pending
  return (⟨s.totalProducts, s.chunkIndex + 1, chunkSize⟩, files)

end

/-! ### What is assumed of the decoder -/

/-- The decoder succeeds exactly where a complete JSON value starts, and gives what `loads` makes of
one that starts there. Objects become dictionaries, and nothing else does. -/
structure JsonModule.Lawful {Value : Type} (json : JsonModule Value) (loads : Str → Value) :
    Prop where
  complete : ∀ {buffer : Str} {cursor : ℕ} {text : Str}, text <+: buffer.drop cursor →
    Json.Derives .value text → ∃ result, json.rawDecode buffer cursor = .ok result
  sound : ∀ {buffer : Str} {cursor : ℕ} {item : Value} {next : ℕ},
    json.rawDecode buffer cursor = .ok (item, next) → ∃ text, text <+: buffer.drop cursor ∧
      Json.Derives .value text ∧ item = loads text ∧ next = cursor + text.length
  isDict_loads : ∀ {text : Str}, Json.Derives .value text →
    (json.isDict (loads text) = true ↔ text.head? = some '{')

end Skan.Corpus.NvdFeed
