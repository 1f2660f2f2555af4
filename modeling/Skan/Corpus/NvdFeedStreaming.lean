import Skan.Corpus.NvdFeedPages

/-!
# Streaming the NVD feed equals parsing it whole

Wherever the handle cuts its reads, the pages that are written hold the products of the array in
order (`splitNvdCpeFeed_products`), as long as these can be written: an escape may stand for half of
a surrogate pair, and UTF-8 has no encoding for that. A text that ends before the array does is
refused (`splitNvdCpeFeed_cut`). -/

namespace Skan.Corpus.NvdFeed

open Loops Json

variable {Value : Type} {json : JsonModule Value} {loads : Str → Value} {feed front body : Str}
  {items : List Str} {chunkSize : ℤ}

/-- A feed: the array of the products, which is a JSON array of objects, with the text up to its
opening bracket and the text behind its closing one. The first match of the pattern ends with the
opening bracket, within the first read. -/
structure IsFeed (feed front body : Str) (items : List Str) : Prop where
  text : ∃ back, feed = front ++ (body ++ ']' :: back)
  first : search feed = some front.length
  early : front.length ≤ readSize
  listed : Listed body items
  objects : ∀ item ∈ items, item.head? = some '{'

/-- What is returned and written for some products. -/
def IsSplit (json : JsonModule Value) (dir : Directory) (chunkSize : ℤ) (products : List Value)
    (result : Stats × Directory) : Prop :=
  ∃ pages : List (List Value), pages.flatten = products ∧
    (∀ page ∈ pages.dropLast, (page.length : ℤ) = chunkSize) ∧
    (∀ page ∈ pages, page ≠ [] ∧ (page.length : ℤ) ≤ chunkSize) ∧
    result.1 = ⟨products.length, pages.length, chunkSize⟩ ∧ Written json dir result.2 pages

theorem readUntilProducts_ahead (hfeed : IsFeed feed front body items) (cuts : List ℕ)
    {text rest : Str} (htext : text = front ++ rest) (hbegin : text <+: feed) {fuel : ℕ}
    (hfuel : text.length < fuel) : ∃ buffer handle,
      readUntilProducts fuel ⟨text, cuts⟩ = .ok (buffer, front.length, handle) ∧
        buffer.drop front.length ++ handle.rest = rest := by
  obtain ⟨more, hmore⟩ := hbegin
  have hfirst := hfeed.first
  rw [← hmore] at hfirst
  have hsearch := search_buffer hfirst (by rw [htext, List.length_append]; omega)
  obtain ⟨⟨buffer, stop, handle⟩, hread, hparts, rfl, hstop⟩ :=
    readUntilProducts_found hsearch hfeed.early cuts hfuel
  refine ⟨buffer, handle, hread, ?_⟩
  have hdrop := congrArg (List.drop front.length) (hparts.symm.trans htext)
  rwa [List.drop_left, List.drop_append_of_le_length hstop] at hdrop

/-! ### The last page -/

/-- The state in which the loop over the products begins. -/
def start (Value : Type) (dir : Directory) (buffer : Str) (cursor : ℕ) (handle : Handle) :
    Split Value :=
  { reading := { handle, buffer, cursor, eof := false }, pending := [], totalProducts := 0,
    chunkIndex := 0, files := unlinkPages dir }

/-- What is done behind the loop over the products. -/
def finish (json : JsonModule Value) (chunkSize : ℤ) (s : Split Value) :
    Except Fault (Stats × Directory) :=
  if s.pending.isEmpty then .ok (⟨s.totalProducts, s.chunkIndex, chunkSize⟩, s.files)
  else do
    let files ← writeChunk json s.files s.chunkIndex s.pending
    return (⟨s.totalProducts, s.chunkIndex + 1, chunkSize⟩, files)

/-- The loops one after the other. -/
theorem splitNvdCpeFeed_eq (hsize : 0 < chunkSize) (cuts : List ℕ) (dir : Directory) :
    splitNvdCpeFeed json feed cuts dir chunkSize =
      readUntilProducts (2 * feed.length + 2) ⟨feed, cuts⟩ >>= fun (buffer, cursor, handle) ↦
        loop .endless (productStep json chunkSize (2 * feed.length + 2)) (2 * feed.length + 2)
          (start Value dir buffer cursor handle) >>= finish json chunkSize := by
  rw [splitNvdCpeFeed, if_neg (not_le.mpr hsize)]
  rfl

theorem splitNvdCpeFeed_of_read (hsize : 0 < chunkSize) {cuts : List ℕ} (dir : Directory)
    {buffer : Str} {cursor : ℕ} {handle : Handle}
    (hread : readUntilProducts (2 * feed.length + 2) ⟨feed, cuts⟩ = .ok (buffer, cursor, handle)) :
    splitNvdCpeFeed json feed cuts dir chunkSize =
      loop .endless (productStep json chunkSize (2 * feed.length + 2)) (2 * feed.length + 2)
        (start Value dir buffer cursor handle) >>= finish json chunkSize := by
  rw [splitNvdCpeFeed_eq hsize, hread]
  rfl

theorem filed_start (hsize : 0 < chunkSize) (dir : Directory) (buffer : Str) (cursor : ℕ)
    (handle : Handle) :
    Filed json dir chunkSize (start Value dir buffer cursor handle) [] :=
  ⟨⟨[], rfl, List.forall_mem_nil _, rfl, written_nil json dir⟩, hsize, rfl⟩

/-- The pending items make the last page. -/
theorem finish_split {dir : Directory} {s : Split Value} {products : List Value}
    (hfiled : Filed json dir chunkSize s products) :
    (∃ result, finish json chunkSize s = .ok result ∧ IsSplit json dir chunkSize products result) ∨
      Spoils json products (finish json chunkSize s) := by
  obtain ⟨⟨pages, hflatten, hfull, hindex, hwritten⟩, hpending, htotal⟩ := hfiled
  have hpage : ∀ page ∈ pages, page ≠ [] ∧ (page.length : ℤ) ≤ chunkSize := by
    intro page hmem
    have hlength := hfull page hmem
    refine ⟨?_, hlength.le⟩
    rintro rfl
    have hzero : (0 : ℤ) = chunkSize := hlength
    omega
  by_cases hnil : s.pending = []
  · rw [hnil, List.append_nil] at hflatten
    refine .inl ⟨_, if_pos (by rw [hnil]; rfl), pages, hflatten, ?_, hpage, ?_, hwritten⟩
    · exact fun page hmem ↦ hfull page (List.dropLast_subset _ hmem)
    · rw [htotal, hindex]
  · rw [finish, if_neg (by simpa using hnil)]
    cases hencode : encodeUtf8 (payload json s.pending) with
    | some bytes =>
      obtain ⟨hwrite, hwritten'⟩ := hwritten.writeChunk hencode
      rw [hindex, hwrite]
      refine .inl ⟨_, rfl, pages ++ [s.pending], ?_, ?_, ?_, ?_, hwritten'⟩
      · simpa using hflatten
      · rw [List.dropLast_concat]
        exact hfull
      · exact List.forall_mem_append.mpr
          ⟨hpage, List.forall_mem_singleton.mpr ⟨hnil, hpending.le⟩⟩
      · rw [htotal, List.length_append]
        rfl
    | none =>
      obtain ⟨spoilt, hmem, hspoilt⟩ := exists_not_encodable hencode
      rw [writeChunk, hencode]
      exact .inr ⟨rfl, spoilt, hflatten ▸ List.mem_append_right _ hmem, hspoilt⟩

/-! ### The whole feed -/

/-- The pages hold the products of the array in order, or there is one that cannot be written. -/
theorem splitNvdCpeFeed_outcome (hjson : json.Lawful loads) (hfeed : IsFeed feed front body items)
    (hsize : 0 < chunkSize) (cuts : List ℕ) (dir : Directory) :
    (∃ result, splitNvdCpeFeed json feed cuts dir chunkSize = .ok result ∧
        IsSplit json dir chunkSize (items.map loads) result) ∨
      Spoils json (items.map loads) (splitNvdCpeFeed json feed cuts dir chunkSize) := by
  obtain ⟨back, htext⟩ := hfeed.text
  obtain ⟨buffer, handle, hread, hahead⟩ := readUntilProducts_ahead hfeed cuts htext
    List.prefix_rfl (show feed.length < 2 * feed.length + 2 by omega)
  have hstream := stream_of_listed hfeed.listed hfeed.objects (']' :: back)
  have hlength := congrArg List.length htext
  rw [List.length_append] at hlength
  have hcount := hstream.length_le
  have hloop : Outcome json dir chunkSize (']' :: back) (items.map loads)
      (loop .endless (productStep json chunkSize (2 * feed.length + 2)) (2 * feed.length + 2)
        (start Value dir buffer front.length handle)) :=
    product_loop hjson hstream (.inl rfl) (filed_start hsize dir buffer front.length handle)
      (fun h ↦ nomatch h) hahead (by omega) (by omega)
  rw [splitNvdCpeFeed_of_read hsize dir hread]
  rcases hloop with ⟨s, hs, hfiled, -⟩ | ⟨herror, hspoils⟩ | ⟨-, hcut⟩
  · rw [hs]
    exact finish_split hfiled
  · rw [herror]
    exact .inr ⟨rfl, hspoils⟩
  · rcases hcut with hnil | ⟨-, _, -, hobject⟩
    · exact absurd hnil (List.cons_ne_nil _ _)
    · exact absurd hobject.2 (by simp)

/-- A text that ends before the array does is refused. -/
theorem splitNvdCpeFeed_cut (hjson : json.Lawful loads) (hfeed : IsFeed feed front body items)
    (hsize : 0 < chunkSize) (cuts : List ℕ) (dir : Directory) {text : Str}
    (htext : text <+: front ++ body) : Raises (splitNvdCpeFeed json text cuts dir chunkSize) := by
  obtain ⟨back, hback⟩ := hfeed.text
  have hbegin : text <+: feed := by
    rw [hback, ← List.append_assoc]
    exact htext.trans (List.prefix_append _ _)
  by_cases hshort : text.length < front.length
  · -- the text ends before the array begins
    obtain ⟨more, hmore⟩ := hbegin
    have hfirst := hfeed.first
    rw [← hmore] at hfirst
    rw [splitNvdCpeFeed_eq hsize]
    exact (readUntilProducts_cut hfirst hshort cuts (by omega)).bind _
  · obtain ⟨rest, rfl⟩ := List.prefix_of_prefix_length_le (List.prefix_append front body) htext
      (not_lt.mp hshort)
    rw [List.prefix_append_right_inj] at htext
    obtain ⟨buffer, handle, hread, hahead⟩ := readUntilProducts_ahead hfeed cuts rfl hbegin
      (show (front ++ rest).length < 2 * (front ++ rest).length + 2 by omega)
    have hwhole := stream_of_listed hfeed.listed hfeed.objects []
    rw [List.append_nil] at hwhole
    obtain ⟨objects, tail, hstream, hcut⟩ := hwhole.cut htext
    have hlength : (front ++ rest).length = front.length + rest.length := List.length_append
    have hcount := hstream.length_le
    have hloop : Outcome json dir chunkSize tail (objects.map loads)
        (loop .endless (productStep json chunkSize (2 * (front ++ rest).length + 2))
          (2 * (front ++ rest).length + 2) (start Value dir buffer front.length handle)) :=
      product_loop hjson hstream (.inr hcut) (filed_start hsize dir buffer front.length handle)
        (fun h ↦ nomatch h) hahead (by omega) (by omega)
    rw [splitNvdCpeFeed_of_read hsize dir hread]
    refine Raises.bind ?_ _
    rcases hloop with ⟨s, -, -, hclosing⟩ | ⟨herror, -⟩ | ⟨hraises, -⟩
    · rcases hcut with rfl | ⟨hne, _, -, hobject⟩
      · exact nomatch hclosing
      · obtain ⟨c, tail, rfl⟩ := List.exists_cons_of_ne_nil hne
        rw [Option.some.inj hclosing] at hobject
        exact absurd hobject.2 (by simp)
    · exact ⟨_, herror⟩
    · exact hraises

/-- What has been written could be written. -/
theorem IsSplit.encodable {dir : Directory} {products : List Value} {result : Stats × Directory}
    (h : IsSplit json dir chunkSize products result) : ∀ item ∈ products, Encodable json item := by
  obtain ⟨pages, rfl, -, -, -, hwritten⟩ := h
  intro item hitem
  obtain ⟨page, hpage, hmem⟩ := List.mem_flatten.mp hitem
  obtain ⟨k, hk, rfl⟩ := List.getElem_of_mem hpage
  obtain ⟨bytes, hencode, -⟩ := hwritten.page k _ (List.getElem?_eq_getElem hk)
  exact (encodeUtf8_payload_isSome json).mp (Option.isSome_of_eq_some hencode) item hmem

/-- **Streaming the feed equals parsing it whole.** The pages hold the products of the array in
order, and all but the last are full. If UTF-8 has no encoding for a product, it is refused. So is
a text that ends before the array does. -/
theorem splitNvdCpeFeed_streams (hjson : json.Lawful loads) (hfeed : IsFeed feed front body items)
    (hsize : 0 < chunkSize) (cuts : List ℕ) (dir : Directory) :
    ((∀ item ∈ items, Encodable json (loads item)) →
        ∃ result, splitNvdCpeFeed json feed cuts dir chunkSize = .ok result ∧
          IsSplit json dir chunkSize (items.map loads) result) ∧
      ((∃ item ∈ items, ¬ Encodable json (loads item)) →
        splitNvdCpeFeed json feed cuts dir chunkSize = .error (.raised .unicodeEncode)) ∧
      ∀ text, text <+: front ++ body → Raises (splitNvdCpeFeed json text cuts dir chunkSize) := by
  refine ⟨fun hall ↦ ?_, fun hspoilt ↦ ?_,
    fun text ↦ splitNvdCpeFeed_cut hjson hfeed hsize cuts dir⟩
  · rcases splitNvdCpeFeed_outcome hjson hfeed hsize cuts dir with hok | ⟨-, item, hmem, hitem⟩
    · exact hok
    · obtain ⟨text, htext, rfl⟩ := List.mem_map.mp hmem
      exact absurd (hall text htext) hitem
  · rcases splitNvdCpeFeed_outcome hjson hfeed hsize cuts dir with ⟨result, -, hsplit⟩ | ⟨herror, -⟩
    · obtain ⟨text, htext, hitem⟩ := hspoilt
      exact absurd (hsplit.encodable _ (List.mem_map_of_mem htext)) hitem
    · exact herror

/-! ### Two feeds -/

/-- The code points of a compact JSON text that escapes nothing but code units. -/
def unescaped : Str → List CodePoint
  | '\\' :: 'u' :: a :: b :: c :: d :: rest => (unitOf a b c d).getD 0 :: unescaped rest
  | c :: rest => c.toNat :: unescaped rest
  | [] => []

open Classical in
/-- The decoder for which a value is the text that it is written in. -/
noncomputable def textJson : JsonModule Str where
  rawDecode buffer cursor :=
    if h : ∃ text, text <+: buffer.drop cursor ∧ Derives .value text then
      .ok (h.choose, cursor + h.choose.length)
    else .error "Expecting value".toList
  isDict text := text.head? = some '{'
  dumps := unescaped

theorem lawful_textJson : textJson.Lawful id where
  complete := by
    intro buffer cursor text hbegin hvalue
    have hexists : ∃ text, text <+: buffer.drop cursor ∧ Derives .value text :=
      ⟨text, hbegin, hvalue⟩
    exact ⟨_, dif_pos hexists⟩
  sound := by
    intro buffer cursor item next hdecode
    by_cases hexists : ∃ text, text <+: buffer.drop cursor ∧ Derives .value text
    · have hresult := (dif_pos hexists).symm.trans hdecode
      obtain ⟨rfl, rfl⟩ := Prod.ext_iff.mp (Except.ok.inj hresult)
      exact ⟨hexists.choose, hexists.choose_spec.1, hexists.choose_spec.2, rfl, rfl⟩
    · exact nomatch (dif_neg hexists).symm.trans hdecode
  isDict_loads := fun _ ↦ decide_eq_true_iff

/-- An object with one string in it. -/
theorem derives_member (name value : Str) (hname : (pieces name).isSome)
    (hvalue : (pieces value).isSome) :
    Derives .value ('{' :: ('"' :: name ++ ['"'] ++ ':' :: ('"' :: value ++ ['"'])) ++ ['}']) := by
  have hspace : IsSpace [] := List.forall_mem_nil _
  have hmember := Derives.member hspace ⟨name, rfl, hname⟩ hspace hspace
    (.string ⟨value, rfl, hvalue⟩) hspace
  rw [List.nil_append, List.nil_append, List.append_nil, List.append_nil] at hmember
  exact .object hmember

/-- The text up to the bracket that opens the array. -/
def sampleFront : Str := "\x7b\"products\": [".toList

def sampleItem : Str := "\x7b\"a\":\"b\"\x7d".toList

def sampleBody : Str := sampleItem ++ " , \x7b\x7d".toList

def sampleFeed : Str := sampleFront ++ (sampleBody ++ "],\"n\":2\x7d".toList)

theorem isFeed_sampleFeed : IsFeed sampleFeed sampleFront sampleBody
    [sampleItem, "\x7b\x7d".toList] where
  text := ⟨_, rfl⟩
  first := by decide
  early := by decide
  listed := by
    have hspace : IsSpace [] := List.forall_mem_nil _
    have hblank : IsSpace [' '] := List.forall_mem_singleton.mpr (.inl rfl)
    exact .elements (.more hspace (derives_member ['a'] ['b'] rfl rfl) hblank
      (.last hblank (.emptyObject hspace) hspace))
  objects := List.forall_mem_cons.mpr ⟨rfl, List.forall_mem_singleton.mpr rfl⟩

theorem splitNvdCpeFeed_streams_sampleFeed :
    ((∃ result, splitNvdCpeFeed textJson sampleFeed [2, 0, 14] (fun _ ↦ none) 1 = .ok result ∧
        IsSplit textJson (fun _ ↦ none) 1 [sampleItem, "\x7b\x7d".toList] result)) ∧
      Raises (splitNvdCpeFeed textJson (sampleFeed.take 20) [2, 0, 14] (fun _ ↦ none) 1) := by
  obtain ⟨hok, -, hcut⟩ := splitNvdCpeFeed_streams lawful_textJson isFeed_sampleFeed one_pos
    [2, 0, 14] (fun _ ↦ none)
  refine ⟨hok (List.forall_mem_cons.mpr ⟨?_, List.forall_mem_singleton.mpr ?_⟩), hcut _ ?_⟩
  · show ∀ n ∈ unescaped sampleItem, n.isValidChar
    decide
  · show ∀ n ∈ unescaped "\x7b\x7d".toList, n.isValidChar
    decide
  · exact ⟨(sampleFront ++ sampleBody).drop 20, by decide⟩

/-- An item that escapes half of a surrogate pair. -/
def surrogateItem : Str :=
  ['{', '"', 'a', '"', ':', '"', '\\', 'u', 'd', '8', '0', '0', '"', '}']

def surrogateFeed : Str := sampleFront ++ (surrogateItem ++ "]\x7d".toList)

theorem listed_surrogateItem : Listed surrogateItem [surrogateItem] := by
  have hspace : IsSpace [] := List.forall_mem_nil _
  exact .elements (.last hspace
    (derives_member ['a'] ['\\', 'u', 'd', '8', '0', '0'] rfl rfl) hspace)

theorem isText_surrogateFeed : IsText surrogateFeed := by
  have hspace : IsSpace [] := List.forall_mem_nil _
  have hblank : IsSpace [' '] := List.forall_mem_singleton.mpr (.inl rfl)
  have hname : IsString "\"products\"".toList := ⟨"products".toList, rfl, rfl⟩
  have harray := derives_array_iff.mpr ⟨_, listed_surrogateItem⟩
  have hmembers := Derives.member hspace hname hspace hblank harray hspace
  exact ⟨[], surrogateFeed, [], rfl, hspace, .object hmembers, hspace⟩

theorem isFeed_surrogateFeed : IsFeed surrogateFeed sampleFront surrogateItem [surrogateItem] where
  text := ⟨_, rfl⟩
  first := by decide
  early := by decide
  listed := listed_surrogateItem
  objects := List.forall_mem_singleton.mpr rfl

/-- **A well-formed feed that is not split**: the page with its only product cannot be written. -/
theorem surrogateFeed_not_split : textJson.Lawful id ∧ IsText surrogateFeed ∧
    IsFeed surrogateFeed sampleFront surrogateItem [surrogateItem] ∧
      splitNvdCpeFeed textJson surrogateFeed [] (fun _ ↦ none) 10000 =
        .error (.raised .unicodeEncode) := by
  refine ⟨lawful_textJson, isText_surrogateFeed, isFeed_surrogateFeed, ?_⟩
  rcases splitNvdCpeFeed_outcome lawful_textJson isFeed_surrogateFeed
    (show (0 : ℤ) < 10000 by decide) [] (fun _ ↦ none) with ⟨result, -, hsplit⟩ | ⟨herror, -⟩
  · have hitem : ∀ n ∈ unescaped surrogateItem, n.isValidChar :=
      hsplit.encodable _ List.mem_cons_self
    exact absurd hitem (by decide)
  · exact herror

end Skan.Corpus.NvdFeed
