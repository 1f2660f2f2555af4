import Skan.Corpus.NvdFeed

/-!
# Reading the NVD feed

What a reader has ahead of it is the buffer behind the cursor and what the handle still holds
(`Reading.ahead`). A refill moves text from the one to the other and changes nothing of it
(`Reading.refill_spec`), so each loop is described by what lies ahead of it and by what it leaves:
`token_loop` skips the padding, `decode_loop` takes an object, and `decode_cut` finds that there is
only a part of one.

A feed is a `Stream` of objects between padding. Cut off before the array is closed, it is a stream
of fewer objects, with a part of one behind them or with nothing (`Stream.cut`). -/

namespace Skan.Corpus.NvdFeed

open Loops Json

variable {rest text more w buffer : Str} {stop fuel : ℕ} {objects : List Str} {s : Reading}
  {c : Char}

/-! ### Reading -/

theorem Handle.rest_eq (handle : Handle) (size : ℕ) :
    handle.rest = (handle.read size).1 ++ (handle.read size).2.rest :=
  (List.take_append_drop _ _).symm

/-- A read that gives nothing is at the end of the text. -/
theorem Handle.read_eq_nil_iff (handle : Handle) {size : ℕ} (hsize : 0 < size) :
    (handle.read size).1 = [] ↔ handle.rest = [] := by
  obtain ⟨rest, cuts⟩ := handle
  cases cuts with
  | nil =>
    show rest.take size = [] ↔ rest = []
    rw [List.take_eq_nil_iff]
    exact or_iff_right hsize.ne'
  | cons cut cuts =>
    show rest.take (min size (cut + 1)) = [] ↔ rest = []
    rw [List.take_eq_nil_iff]
    exact or_iff_right (by omega)

/-! ### The start of the products -/

/-- What `_PRODUCTS_START` matches. -/
def IsOpening (text : Str) : Prop :=
  ∃ w w', text = productsKey ++ (w ++ ':' :: (w' ++ ['['])) ∧ (∀ c ∈ w, isSpace c = true) ∧
    ∀ c ∈ w', isSpace c = true

theorem dropWhile_space (hw : ∀ c ∈ w, isSpace c = true) (hc : isSpace c = false) :
    (w ++ c :: rest).dropWhile isSpace = c :: rest := by
  rw [List.dropWhile_append_of_pos hw, List.dropWhile_cons_of_neg (by simp [hc])]

theorem exists_of_dropWhile (h : text.dropWhile isSpace = rest) :
    ∃ w, text = w ++ rest ∧ ∀ c ∈ w, isSpace c = true :=
  ⟨text.takeWhile isSpace, by rw [← h, List.takeWhile_append_dropWhile],
    fun _ hc ↦ List.mem_takeWhile_imp hc⟩

theorem productsStart_of_opening {opening : Str} (h : IsOpening opening) :
    productsStart (opening ++ rest) = some opening.length := by
  obtain ⟨w, w', rfl, hw, hw'⟩ := h
  have hkey : productsKey.isPrefixOf (productsKey ++ (w ++ ':' :: (w' ++ '[' :: rest))) = true :=
    List.isPrefixOf_iff_prefix.mpr (List.prefix_append _ _)
  have htext : productsKey ++ (w ++ ':' :: (w' ++ ['['])) ++ rest =
      productsKey ++ (w ++ ':' :: (w' ++ '[' :: rest)) := by simp
  rw [htext, productsStart, if_pos hkey, List.drop_left, dropWhile_space hw (by decide)]
  split
  · rename_i more hmore
    obtain rfl := (List.cons.inj hmore).2
    rw [dropWhile_space hw' (by decide)]
    show some _ = some _
    simp only [List.length_append, List.length_cons, List.length_nil, Option.some.injEq]
    omega
  · rename_i hnone
    exact absurd rfl (hnone _)

theorem opening_of_productsStart {n : ℕ} (h : productsStart text = some n) :
    ∃ opening, IsOpening opening ∧ opening <+: text ∧ n = opening.length := by
  rw [productsStart] at h
  split at h
  · rename_i hkey
    obtain ⟨behind, rfl⟩ := List.isPrefixOf_iff_prefix.mp hkey
    rw [List.drop_left] at h
    split at h
    · rename_i more hmore
      obtain ⟨w, rfl, hw⟩ := exists_of_dropWhile hmore
      split at h
      · rename_i rest hrest
        obtain ⟨w', rfl, hw'⟩ := exists_of_dropWhile hrest
        refine ⟨_, ⟨w, w', rfl, hw, hw'⟩, ⟨rest, by simp⟩, ?_⟩
        have hn := Option.some.inj h
        simp only [List.length_append, List.length_cons, List.length_nil] at hn ⊢
        omega
      · exact nomatch h
    · exact nomatch h
  · exact nomatch h

theorem opening_of_search (h : search text = some stop) :
    ∃ front opening, IsOpening opening ∧ front ++ opening <+: text ∧
      stop = (front ++ opening).length := by
  induction text generalizing stop with
  | nil => exact nomatch h
  | cons c text ih =>
    rw [search] at h
    split at h
    · rename_i length hlength
      obtain ⟨opening, hopening, hbegin, rfl⟩ := opening_of_productsStart hlength
      exact ⟨[], opening, hopening, hbegin, (Option.some.inj h).symm⟩
    · obtain ⟨stop, hstop, rfl⟩ := Option.map_eq_some_iff.mp h
      obtain ⟨front, opening, hopening, hbegin, rfl⟩ := ih hstop
      exact ⟨c :: front, opening, hopening, List.cons_prefix_cons.mpr ⟨rfl, hbegin⟩, rfl⟩

theorem productsStart_append {n : ℕ} (h : productsStart text = some n) (more : Str) :
    productsStart (text ++ more) = some n := by
  obtain ⟨opening, hopening, ⟨rest, rfl⟩, rfl⟩ := opening_of_productsStart h
  rw [List.append_assoc]
  exact productsStart_of_opening hopening

/-- A match that ends in the buffer is found in the buffer. -/
theorem search_buffer (h : search (buffer ++ more) = some stop) (hstop : stop ≤ buffer.length) :
    search buffer = some stop := by
  induction buffer generalizing stop with
  | nil =>
    obtain ⟨front, opening, ⟨w, w', rfl, -⟩, -, rfl⟩ := opening_of_search h
    simp [productsKey] at hstop
  | cons c buffer ih =>
    rw [List.cons_append, search] at h
    rw [search]
    split at h
    · rename_i length hlength
      obtain rfl := Option.some.inj h
      obtain ⟨opening, hopening, hbegin, rfl⟩ := opening_of_productsStart hlength
      obtain ⟨rest, hrest⟩ := List.prefix_of_prefix_length_le hbegin
        (List.prefix_append (c :: buffer) more) hstop
      rw [← hrest, productsStart_of_opening hopening]
    · rename_i hnone
      obtain ⟨stop, hrest, rfl⟩ := Option.map_eq_some_iff.mp h
      have hhere : productsStart (c :: buffer) = none := by
        rw [Option.eq_none_iff_forall_ne_some]
        intro n hn
        have happend := productsStart_append hn more
        rw [List.cons_append, hnone] at happend
        exact nomatch happend
      rw [hhere, ih hrest (Nat.le_of_succ_le_succ hstop)]
      rfl

/-- A match holds the pattern's first letter once only, so none begins in the middle of another. -/
theorem search_in_opening {opening : Str} (h : IsOpening opening)
    (htext : opening = c :: (text ++ rest)) : search text = none := by
  rw [Option.eq_none_iff_forall_ne_some]
  intro stop hstop
  obtain ⟨front, inner, ⟨u, u', hinner, -⟩, ⟨more, hmore⟩, -⟩ := opening_of_search hstop
  obtain ⟨w, w', hopening, hw, hw'⟩ := h
  have hspace : ∀ {v : Str}, (∀ c ∈ v, isSpace c = true) → 'p' ∉ v :=
    fun hv hmem ↦ absurd (hv 'p' hmem) (by decide)
  have htail : text ++ rest = 'p' :: (productsKey.drop 2 ++ (w ++ ':' :: (w' ++ ['[']))) := by
    rw [hopening] at htext
    exact (List.cons.inj htext).2.symm
  have honce : 'p' ∉ productsKey.drop 2 ++ (w ++ ':' :: (w' ++ ['['])) := by
    have hkey : 'p' ∉ productsKey.drop 2 := by decide
    simp [hkey, hspace hw, hspace hw']
  rw [← hmore, hinner, List.append_assoc, List.append_assoc, List.append_assoc] at htail
  cases front with
  | nil => exact absurd (List.cons.inj htail).1 (by decide)
  | cons d front =>
    refine honce ?_
    rw [← (List.cons.inj htail).2]
    simp [productsKey]

/-- Before the match ends nothing is found. -/
theorem search_cut (h : search (buffer ++ more) = some stop) (hstop : buffer.length < stop) :
    search buffer = none := by
  induction buffer generalizing stop with
  | nil => rfl
  | cons c buffer ih =>
    rw [List.cons_append, search] at h
    have hhere : productsStart (c :: buffer) = none := by
      rw [Option.eq_none_iff_forall_ne_some]
      intro n hn
      have happend := productsStart_append hn more
      rw [List.cons_append] at happend
      rw [happend] at h
      obtain rfl := Option.some.inj h
      obtain ⟨opening, -, hbegin, rfl⟩ := opening_of_productsStart hn
      exact absurd hbegin.length_le (not_le.mpr hstop)
    have hlater : search buffer = none := by
      split at h
      · rename_i length hlength
        obtain rfl := Option.some.inj h
        obtain ⟨opening, hopening, hbegin, rfl⟩ := opening_of_productsStart hlength
        obtain ⟨rest, hrest⟩ := List.prefix_of_prefix_length_le
          (List.prefix_append (c :: buffer) more) hbegin hstop.le
        exact search_in_opening hopening hrest.symm
      · obtain ⟨stop, hrest, rfl⟩ := Option.map_eq_some_iff.mp h
        exact ih hrest (Nat.lt_of_succ_lt_succ hstop)
    rw [search, hhere, hlater]
    rfl

/-! ### The beginning of the stream -/

/-- A `ValueError` is raised. -/
def Raises {α : Type} (x : Except Fault α) : Prop := ∃ error, x = .error (.raised error)

theorem raises_raiseValueError {α : Type} (message : String) :
    Raises (raiseValueError message : Except Fault α) := ⟨_, rfl⟩

theorem Raises.bind {α β : Type} {x : Except Fault α} (h : Raises x) (f : α → Except Fault β) :
    Raises (x >>= f) := by
  obtain ⟨error, rfl⟩ := h
  exact ⟨error, rfl⟩

/-- What `_read_until_products` leaves when it finds the array. -/
def Found (feed : Str) (stop : ℕ) (r : Str × ℕ × Handle) : Prop :=
  feed = r.1 ++ r.2.2.rest ∧ r.2.1 = stop ∧ stop ≤ r.1.length

theorem readUntilProducts_found {feed : Str} (hsearch : search feed = some stop)
    (hstop : stop ≤ readSize) (cuts : List ℕ) (hfuel : feed.length < fuel) :
    Ensures (readUntilProducts fuel ⟨feed, cuts⟩) (Found feed stop) := by
  refine loop_ensures (fun s ↦ feed = s.1 ++ s.2.rest ∧ search s.1 = none)
    (fun s ↦ s.2.rest.length) ?_ ⟨rfl, rfl⟩ hfuel
  rintro ⟨buffer, handle⟩ ⟨hfeed, hnone⟩
  have hshort : buffer.length < stop := by
    by_contra hlong
    rw [hfeed] at hsearch
    rw [search_buffer hsearch (not_lt.mp hlong)] at hnone
    exact nomatch hnone
  have hrest := handle.rest_eq (readSize - buffer.length + 1)
  have hempty := handle.read_eq_nil_iff (Nat.succ_pos (readSize - buffer.length))
  rw [untilProductsStep, if_pos (hshort.le.trans hstop)]
  generalize handle.read (readSize - buffer.length + 1) = out at hrest hempty
  obtain ⟨chunk, handle'⟩ := out
  have hchunk : chunk ≠ [] := by
    intro hnil
    rw [hfeed, hempty.mp hnil, List.append_nil, hnone] at hsearch
    exact nomatch hsearch
  have hfeed' : feed = (buffer ++ chunk) ++ handle'.rest := by
    rw [hfeed, hrest, List.append_assoc]
  show Ensures (if chunk.isEmpty then _ else _) _
  rw [if_neg (by simpa using hchunk)]
  cases hfound : search (buffer ++ chunk) with
  | none =>
    refine ⟨_, rfl, ⟨hfeed', hfound⟩, ?_⟩
    show handle'.rest.length < handle.rest.length
    rw [hrest, List.length_append]
    exact Nat.lt_add_of_pos_left (List.length_pos_iff.mpr hchunk)
  | some found =>
    refine ⟨_, rfl, hfeed', ?_⟩
    -- what is found in the buffer is what is found in the feed
    have hlong : stop ≤ (buffer ++ chunk).length := by
      by_contra hcut
      rw [hfeed'] at hsearch
      rw [search_cut hsearch (not_le.mp hcut)] at hfound
      exact nomatch hfound
    rw [hfeed'] at hsearch
    rw [search_buffer hsearch hlong] at hfound
    exact ⟨(Option.some.inj hfound).symm, hlong⟩

theorem readUntilProducts_cut (hsearch : search (text ++ more) = some stop)
    (hstop : text.length < stop) (cuts : List ℕ) (hfuel : text.length < fuel) :
    Raises (readUntilProducts fuel ⟨text, cuts⟩) := by
  refine loop_comes (fun s ↦ text = s.1 ++ s.2.rest) (fun s ↦ s.2.rest.length) ?_ rfl hfuel
  rintro ⟨buffer, handle⟩ htext
  rw [untilProductsStep]
  by_cases hsize : buffer.length ≤ readSize
  · rw [if_pos hsize]
    have hrest := handle.rest_eq (readSize - buffer.length + 1)
    generalize handle.read (readSize - buffer.length + 1) = out at hrest
    obtain ⟨chunk, handle'⟩ := out
    have htext' : text = (buffer ++ chunk) ++ handle'.rest := by
      rw [htext, hrest, List.append_assoc]
    have hsearch' : search ((buffer ++ chunk) ++ (handle'.rest ++ more)) = some stop := by
      rw [← List.append_assoc, ← htext', hsearch]
    have hnone : search (buffer ++ chunk) = none := by
      refine search_cut hsearch' (lt_of_le_of_lt ?_ hstop)
      rw [htext']
      exact (List.prefix_append _ _).length_le
    by_cases hchunk : chunk = []
    · subst hchunk
      exact raises_raiseValueError _
    · simp only [List.isEmpty_iff, hchunk, if_false, hnone]
      refine ⟨htext', ?_⟩
      rw [hrest, List.length_append]
      exact Nat.lt_add_of_pos_left (List.length_pos_iff.mpr hchunk)
  · rw [if_neg hsize]
    exact raises_raiseValueError _

/-! ### What lies ahead -/

/-- What is skipped between the products. -/
def IsPadding (text : Str) : Prop := ∀ c ∈ text, isSpace c = true ∨ c = ','

theorem IsPadding.append (h : IsPadding text) (h' : IsPadding more) : IsPadding (text ++ more) := by
  intro c hc
  exact (List.mem_append.mp hc).elim (h c) (h' c)

theorem isPadding_of_isSpace (hw : IsSpace w) : IsPadding w := by
  intro c hc
  left
  rcases hw c hc with rfl | rfl | rfl | rfl
  · decide
  · decide
  · decide
  · decide

theorem isPadding_comma : IsPadding [','] := List.forall_mem_singleton.mpr (.inr rfl)

/-- A text that holds some objects between padding, and then the tail. -/
inductive Stream : Str → List Str → Str → Prop
  | done {pad tail : Str} (hpad : IsPadding pad) : Stream (pad ++ tail) [] tail
  | object {pad object rest tail : Str} {objects : List Str} (hpad : IsPadding pad)
      (hobject : IsObject object) (h : Stream rest objects tail) :
      Stream (pad ++ (object ++ rest)) (object :: objects) tail

theorem Stream.pad {pad tail : Str} (hpad : IsPadding pad) (h : Stream text objects tail) :
    Stream (pad ++ text) objects tail := by
  cases h with
  | done hpad' =>
    rw [← List.append_assoc]
    exact .done (hpad.append hpad')
  | object hpad' hobject h =>
    rw [← List.append_assoc]
    exact .object (hpad.append hpad') hobject h

theorem Stream.length_le {tail : Str} (h : Stream text objects tail) :
    objects.length ≤ text.length := by
  induction h with
  | done hpad => exact Nat.zero_le _
  | object hpad hobject _ ih =>
    obtain ⟨_, rfl⟩ := hobject.exists_cons
    rw [List.length_append, List.length_append, List.length_cons, List.length_cons]
    omega

/-- What an array lists, if these are objects, is a stream of them. -/
theorem stream_of_elements {body : Str} {items : List Str} (h : Elements body items)
    (hitems : ∀ item ∈ items, item.head? = some '{') (tail : Str) :
    Stream (body ++ tail) items tail := by
  induction h with
  | @last w v w' hw hv hw' =>
    have hobject : IsObject v := ⟨hv, hitems v List.mem_cons_self⟩
    rw [List.append_assoc, List.append_assoc]
    exact .object (isPadding_of_isSpace hw) hobject (.done (isPadding_of_isSpace hw'))
  | @more w v w' s vs hw hv hw' _ ih =>
    obtain ⟨hhead, hitems⟩ := List.forall_mem_cons.mp hitems
    have hrest := (ih hitems).pad ((isPadding_of_isSpace hw').append isPadding_comma)
    have htext : w ++ v ++ w' ++ ',' :: s ++ tail = w ++ (v ++ (w' ++ [','] ++ (s ++ tail))) := by
      simp
    rw [htext]
    exact .object (isPadding_of_isSpace hw) ⟨hv, hhead⟩ hrest

theorem stream_of_listed {body : Str} {items : List Str} (h : Listed body items)
    (hitems : ∀ item ∈ items, item.head? = some '{') (tail : Str) :
    Stream (body ++ tail) items tail := by
  cases h with
  | empty hw => exact .done (isPadding_of_isSpace hw)
  | elements h => exact stream_of_elements h hitems tail

/-- What is left where a text ends too early: nothing, or the beginning of an object. -/
def IsCut (tail : Str) : Prop :=
  tail = [] ∨ tail ≠ [] ∧ ∃ back, back ≠ [] ∧ IsObject (tail ++ back)

/-- **A stream that ends too early** is a stream of fewer objects. -/
theorem Stream.cut (h : Stream text objects []) {front : Str} (hfront : front <+: text) :
    ∃ fewer tail, Stream front fewer tail ∧ IsCut tail := by
  generalize htail : ([] : Str) = tail at h
  have hdone : ∀ {pad : Str}, IsPadding pad → Stream pad [] [] := by
    intro pad hpad
    have hstream : Stream (pad ++ []) [] [] := .done hpad
    rwa [List.append_nil] at hstream
  induction h generalizing front with
  | done hpad =>
    subst htail
    rw [List.append_nil] at hfront
    exact ⟨[], [], hdone fun c hc ↦ hpad c (hfront.subset hc), .inl rfl⟩
  | @object pad object rest _ objects hpad hobject _ ih =>
    rcases List.prefix_or_prefix_of_prefix hfront (List.prefix_append pad _) with
      hinside | ⟨front, rfl⟩
    · exact ⟨[], [], hdone fun c hc ↦ hpad c (hinside.subset hc), .inl rfl⟩
    · rw [List.prefix_append_right_inj] at hfront
      rcases List.prefix_or_prefix_of_prefix hfront (List.prefix_append object _) with
        ⟨back, hback⟩ | ⟨front, rfl⟩
      · by_cases hnil : back = []
        · rw [hnil, List.append_nil] at hback
          have hstream := Stream.object hpad hobject (hdone fun _ hc ↦ absurd hc List.not_mem_nil)
          rw [hback, ← List.append_nil object]
          exact ⟨_, _, hstream, .inl rfl⟩
        · by_cases hfront' : front = []
          · rw [hfront', List.append_nil]
            exact ⟨[], [], hdone hpad, .inl rfl⟩
          · exact ⟨[], front, .done hpad, .inr ⟨hfront', back, hnil, hback ▸ hobject⟩⟩
      · rw [List.prefix_append_right_inj] at hfront
        obtain ⟨fewer, tail, hstream, hcut⟩ := ih hfront htail
        exact ⟨_, tail, .object hpad hobject hstream, hcut⟩

/-! ### Reaching a token -/

/-- What is still to be read. -/
def Reading.ahead (s : Reading) : Str := s.buffer.drop s.cursor ++ s.handle.rest

/-- The end of the text is not announced before it is reached. -/
def Reading.Sound (s : Reading) : Prop := s.eof = true → s.handle.rest = []

/-- How many passes a loop may still make: one for each character of the buffer, two for each that
is still to be read, and one to see the end. -/
def Reading.passes (s : Reading) : ℕ :=
  (s.buffer.drop s.cursor).length + 2 * s.handle.rest.length + if s.eof then 0 else 1

theorem Reading.passes_le (s : Reading) : s.passes ≤ 2 * s.ahead.length + 1 := by
  rw [Reading.passes, Reading.ahead, List.length_append]
  split
  · omega
  · omega

/-- The reading after a refill, with what is kept of the buffer. -/
def Reading.refill (s : Reading) (kept : Str) : Reading :=
  let (more, handle) := s.handle.read readSize
  if more.isEmpty then { handle, buffer := kept, cursor := 0, eof := true }
  else { handle, buffer := kept ++ more, cursor := 0, eof := s.eof }

/-- A refill changes nothing of what lies ahead. It brings in something, or sees the end. -/
theorem Reading.refill_spec (heof : s.eof = false) (kept : Str) :
    (s.refill kept).Sound ∧ (s.refill kept).ahead = kept ++ s.handle.rest ∧
      (s.refill kept).passes < kept.length + 2 * s.handle.rest.length + 1 := by
  have hrest := s.handle.rest_eq readSize
  have hempty := s.handle.read_eq_nil_iff (show 0 < readSize by decide)
  rw [Reading.refill]
  generalize s.handle.read readSize = out at hrest hempty
  obtain ⟨more, handle⟩ := out
  replace hrest : s.handle.rest = more ++ handle.rest := hrest
  by_cases hmore : more = []
  · subst hmore
    have hnil := hempty.mp rfl
    rw [hnil] at hrest ⊢
    have hhandle : handle.rest = [] := hrest.symm
    refine ⟨fun _ ↦ hhandle, ?_, ?_⟩
    · show kept ++ handle.rest = _
      rw [hhandle]
    · show kept.length + 2 * handle.rest.length + 0 < _
      rw [hhandle]
      exact Nat.lt_succ_self _
  · have hpos := List.length_pos_iff.mpr hmore
    simp only [List.isEmpty_iff, hmore, if_false]
    rw [hrest]
    refine ⟨fun h ↦ ?_, ?_, ?_⟩
    · rw [heof] at h
      exact nomatch h
    · exact List.append_assoc kept more handle.rest
    · show (kept ++ more).length + 2 * handle.rest.length + (if s.eof then 0 else 1) < _
      rw [heof, List.length_append, List.length_append]
      show _ + 1 < _
      omega

theorem drop_add_length {cursor : ℕ} (h : buffer.drop cursor = w ++ rest) :
    buffer.drop (cursor + w.length) = rest := by
  rw [← List.drop_drop, h, List.drop_left]

/-- What one pass of the token loop does: it passes a comma, it stops before something else, or it
is at the end of the buffer. -/
theorem tokenStep_cases (s : Reading) : ∃ w rest, s.buffer.drop s.cursor = w ++ rest ∧
    (∀ c ∈ w, isSpace c = true) ∧
      ((∃ more, rest = ',' :: more ∧
          tokenStep s = .ok (.inl { s with cursor := s.cursor + w.length + 1 })) ∨
        (∃ c more, rest = c :: more ∧ isSpace c = false ∧ c ≠ ',' ∧
          tokenStep s = .ok (.inr { s with cursor := s.cursor + w.length })) ∨
        (rest = [] ∧ s.eof = true ∧ Raises (tokenStep s)) ∨
        (rest = [] ∧ s.eof = false ∧ tokenStep s = .ok (.inl (s.refill [])))) := by
  obtain ⟨w, rest, hdrop, hw, hrest⟩ : ∃ w rest, s.buffer.drop s.cursor = w ++ rest ∧
      (s.buffer.drop s.cursor).takeWhile isSpace = w ∧
        (s.buffer.drop s.cursor).dropWhile isSpace = rest :=
    ⟨_, _, List.takeWhile_append_dropWhile.symm, rfl, rfl⟩
  have hget : s.buffer[s.cursor + w.length]? = rest.head? := by
    rw [← drop_add_length hdrop, List.head?_drop]
  have hspace : ∀ c ∈ w, isSpace c = true := by
    rw [← hw]
    exact fun c hc ↦ List.mem_takeWhile_imp hc
  refine ⟨w, rest, hdrop, hspace, ?_⟩
  rw [tokenStep, hw, hget]
  cases rest with
  | nil =>
    by_cases heof : s.eof = true
    · exact .inr (.inr (.inl ⟨rfl, heof, _, if_pos heof⟩))
    · have hrefill := apply_ite (fun r ↦ (.ok (.inl r) : Except Fault (Reading ⊕ Reading)))
        ((s.handle.read readSize).1.isEmpty = true)
        { handle := (s.handle.read readSize).2, buffer := [], cursor := 0, eof := true }
        { handle := (s.handle.read readSize).2, buffer := (s.handle.read readSize).1, cursor := 0,
          eof := s.eof }
      exact .inr (.inr (.inr ⟨rfl, by simpa using heof, (if_neg heof).trans hrefill.symm⟩))
  | cons c more =>
    have hc : isSpace c = false := by
      have hhead := List.head?_dropWhile_not isSpace (s.buffer.drop s.cursor)
      rw [hrest] at hhead
      exact hhead
    by_cases hcomma : c = ','
    · subst hcomma
      exact .inl ⟨more, rfl, rfl⟩
    · exact .inr (.inl ⟨c, more, rfl, hc, hcomma, if_neg hcomma⟩)

/-- A text that does not begin with padding. -/
def Unpadded (text : Str) : Prop := ∀ c ∈ text.head?, isSpace c = false ∧ c ≠ ','

theorem Unpadded.not_padding (h : Unpadded (c :: text)) : ¬ (isSpace c = true ∨ c = ',') := by
  obtain ⟨hspace, hcomma⟩ := h c rfl
  exact not_or.mpr ⟨Bool.eq_false_iff.mp hspace, hcomma⟩

/-- Padding that has been passed was a part of the padding ahead. -/
theorem exists_padding {passed pad : Str} (hpassed : IsPadding passed) (htext : Unpadded text)
    (h : passed ++ more = pad ++ text) : ∃ left, pad = passed ++ left ∧ more = left ++ text := by
  rcases List.append_eq_append_iff.mp h with ⟨left, hpad, hmore⟩ | ⟨back, rfl, hback⟩
  · exact ⟨left, hpad, hmore⟩
  · cases back with
    | nil => exact ⟨[], by simp, hback.symm⟩
    | cons c back =>
      have hc := hpassed c (List.mem_append_right _ List.mem_cons_self)
      rw [hback] at htext
      exact absurd hc htext.not_padding

/-- Where the token loop comes to: the text behind the padding, unless there is none. -/
def IsToken (text : Str) (x : Except Fault Reading) : Prop :=
  (∃ s, x = .ok s ∧ s.Sound ∧ s.ahead = text ∧ s.buffer[s.cursor]? = text.head? ∧ text ≠ []) ∨
    (Raises x ∧ text = [])

/-- **The token loop** skips the padding, wherever it is cut. -/
theorem token_loop (htext : Unpadded text) {pad : Str} (hs : s.Sound) (hpad : IsPadding pad)
    (hahead : s.ahead = pad ++ text) (hfuel : s.passes < fuel) :
    IsToken text (loop .endless tokenStep fuel s) := by
  refine loop_comes (r := IsToken text)
    (fun s ↦ s.Sound ∧ ∃ pad, IsPadding pad ∧ s.ahead = pad ++ text) Reading.passes ?_
    ⟨hs, pad, hpad, hahead⟩ hfuel
  rintro s ⟨hs, pad, hpad, hahead⟩
  obtain ⟨w, rest, hdrop, hw, hstep⟩ := tokenStep_cases s
  have hwpad : IsPadding w := fun c hc ↦ .inl (hw c hc)
  rw [Reading.ahead, hdrop, List.append_assoc] at hahead
  rcases hstep with ⟨more, rfl, hstep⟩ | ⟨c, more, rfl, hspace, hcomma, hstep⟩ |
    ⟨rfl, heof, error, hstep⟩ | ⟨rfl, heof, hstep⟩
  · -- a comma: what is skipped is a part of the padding
    have hdrop' : s.buffer.drop (s.cursor + w.length + 1) = more := by
      rw [← List.drop_drop, drop_add_length hdrop]
      rfl
    rw [hstep]
    refine ⟨⟨hs, ?_⟩, ?_⟩
    · have hskipped : (w ++ [',']) ++ (more ++ s.handle.rest) = pad ++ text := by
        simpa using hahead
      obtain ⟨left, rfl, hmore⟩ :=
        exists_padding (hwpad.append isPadding_comma) htext hskipped
      refine ⟨left, fun c hc ↦ hpad c (List.mem_append_right _ hc), ?_⟩
      rw [Reading.ahead, hdrop', hmore]
    · rw [Reading.passes, Reading.passes, hdrop, hdrop', List.length_append, List.length_cons]
      show more.length + 2 * s.handle.rest.length + (if s.eof then 0 else 1) < _
      omega
  · -- another token: all of the padding has been skipped
    have hunpadded : Unpadded (c :: (more ++ s.handle.rest)) := by
      rintro d ⟨⟩
      exact ⟨hspace, hcomma⟩
    obtain ⟨left, hw', hmore⟩ := exists_padding hpad hunpadded hahead.symm
    obtain ⟨left', hpad', -⟩ := exists_padding hwpad htext hahead
    obtain rfl : left = [] := by
      rw [hpad', List.append_assoc] at hw'
      exact (List.append_eq_nil_iff.mp (List.append_right_eq_self.mp hw'.symm)).2
    have hdrop' := drop_add_length hdrop
    rw [hstep]
    refine .inl ⟨_, rfl, hs, ?_, ?_, ?_⟩
    · rw [Reading.ahead, hdrop', hmore]
      rfl
    · rw [hmore, ← List.head?_drop, hdrop']
      rfl
    · rw [hmore]
      exact List.cons_ne_nil _ _
  · -- the end of the text
    rw [hstep]
    obtain ⟨left, -, hleft⟩ := exists_padding hwpad htext hahead
    rw [hs heof, List.append_nil] at hleft
    exact .inr ⟨⟨error, rfl⟩, (List.append_eq_nil_iff.mp hleft.symm).2⟩
  · -- the end of the buffer
    obtain ⟨hs', hahead', hpasses⟩ := Reading.refill_spec heof []
    obtain ⟨left, rfl, hleft⟩ := exists_padding hwpad htext hahead
    rw [hstep]
    refine ⟨⟨hs', left, fun c hc ↦ hpad c (List.mem_append_right _ hc), ?_⟩, ?_⟩
    · rw [hahead']
      exact hleft
    · refine hpasses.trans_le ?_
      rw [Reading.passes, hdrop, heof]
      show 0 + _ + 1 ≤ _ + _ + 1
      omega

/-! ### Decoding an item -/

section

variable {Value : Type} {json : JsonModule Value} {loads : Str → Value}

/-- What one pass of the decoding loop does. -/
theorem decodeStep_cases (s : Reading) :
    (∃ item next, json.rawDecode s.buffer s.cursor = .ok (item, next) ∧
      decodeStep json s = .ok (.inr (item, { s with cursor := next }))) ∨
    ((∃ message, json.rawDecode s.buffer s.cursor = .error message) ∧
      (s.eof = true ∧ Raises (decodeStep json s) ∨
        s.eof = false ∧ decodeStep json s = .ok (.inl (s.refill (s.buffer.drop s.cursor))))) := by
  rw [decodeStep]
  cases hdecode : json.rawDecode s.buffer s.cursor with
  | ok result => exact .inl ⟨result.1, result.2, rfl, rfl⟩
  | error message =>
    refine .inr ⟨⟨message, rfl⟩, ?_⟩
    by_cases heof : s.eof = true
    · exact .inl ⟨heof, _, if_pos heof⟩
    · refine .inr ⟨by simpa using heof, (if_neg heof).trans ?_⟩
      have hkept : (if s.cursor ≠ 0 then s.buffer.drop s.cursor else s.buffer) =
          s.buffer.drop s.cursor := by
        split
        · rfl
        · rename_i hzero
          rw [not_not.mp hzero, List.drop_zero]
      rw [hkept]
      exact (apply_ite (fun r ↦ (.ok (.inl r) : Except Fault (Reading ⊕ (Value × Reading))))
        _ _ _).symm

/-- **The decoding loop** takes the object ahead, wherever it is cut. -/
theorem decode_loop (hjson : json.Lawful loads) {object : Str} (hobject : IsObject object)
    (hs : s.Sound) (hahead : s.ahead = object ++ rest) (hfuel : s.passes < fuel) :
    Ensures (loop .endless (decodeStep json) fuel s) fun r ↦
      r.1 = loads object ∧ r.2.Sound ∧ r.2.ahead = rest := by
  refine loop_ensures (fun s ↦ s.Sound ∧ s.ahead = object ++ rest) Reading.passes ?_
    ⟨hs, hahead⟩ hfuel
  rintro s ⟨hs, hahead⟩
  have hbegin : s.buffer.drop s.cursor <+: object ++ rest := ⟨_, hahead⟩
  rcases decodeStep_cases s with ⟨item, next, hdecode, hstep⟩ | ⟨⟨message, hdecode⟩, hstep⟩
  · rw [hstep]
    refine ⟨_, rfl, ?_⟩
    obtain ⟨text, hbegins, hvalue, rfl, rfl⟩ := hjson.sound hdecode
    obtain rfl := eq_of_prefix_object hobject hvalue (hbegins.trans hbegin)
    obtain ⟨more, hmore⟩ := hbegins
    refine ⟨rfl, hs, ?_⟩
    rw [Reading.ahead, ← hmore, List.append_assoc] at hahead
    show s.buffer.drop (s.cursor + text.length) ++ s.handle.rest = rest
    rw [drop_add_length hmore.symm]
    exact List.append_cancel_left hahead
  · -- the object goes on behind the buffer
    have hcut : ¬ object <+: s.buffer.drop s.cursor := by
      intro hwhole
      obtain ⟨result, hresult⟩ := hjson.complete hwhole hobject.1
      rw [hdecode] at hresult
      exact nomatch hresult
    rcases hstep with ⟨heof, -⟩ | ⟨heof, hstep⟩
    · rw [Reading.ahead, hs heof, List.append_nil] at hahead
      exact absurd (hahead ▸ List.prefix_append object rest) hcut
    · obtain ⟨hs', hahead', hpasses⟩ := Reading.refill_spec heof (s.buffer.drop s.cursor)
      rw [hstep]
      refine ⟨_, rfl, ⟨hs', hahead'.trans hahead⟩, hpasses.trans_eq ?_⟩
      rw [Reading.passes, heof]
      rfl

/-- An object that the text cuts off is malformed. -/
theorem decode_cut (hjson : json.Lawful loads) {front back : Str}
    (hobject : IsObject (front ++ back)) (hback : back ≠ []) (hs : s.Sound)
    (hahead : s.ahead = front) (hfuel : s.passes < fuel) :
    Raises (loop .endless (decodeStep json) fuel s) := by
  refine loop_comes (fun s ↦ s.Sound ∧ s.ahead = front) Reading.passes ?_ ⟨hs, hahead⟩ hfuel
  rintro s ⟨hs, hahead⟩
  rcases decodeStep_cases s with ⟨item, next, hdecode, -⟩ | ⟨-, hstep⟩
  · obtain ⟨text, hbegin, hvalue, -⟩ := hjson.sound hdecode
    exact absurd (hbegin.trans ⟨_, hahead⟩) (not_prefix_of_cut hobject rfl hback hvalue)
  · rcases hstep with ⟨-, error, hstep⟩ | ⟨heof, hstep⟩
    · rw [hstep]
      exact ⟨error, rfl⟩
    · obtain ⟨hs', hahead', hpasses⟩ := Reading.refill_spec heof (s.buffer.drop s.cursor)
      rw [hstep]
      refine ⟨⟨hs', hahead'.trans hahead⟩, hpasses.trans_eq ?_⟩
      rw [Reading.passes, heof]
      rfl

end

end Skan.Corpus.NvdFeed
