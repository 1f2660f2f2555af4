import Skan.Corpus.NvdFeedReading

/-!
# The pages of the NVD feed

Every page has its own name (`pageName_injective`), so the pages that have been written are read off
the directory one by one (`Written`). The items that have been taken are in full pages or pending
(`Filed`), which every pass over the products keeps up (`product_loop`). -/

namespace Skan.Corpus.NvdFeed

open Loops Json

/-! ### Names -/

theorem pageName_injective : Function.Injective pageName := by
  intro i j h
  have hdigits : (Nat.toDigits 10 i).leftpad 5 '0' = (Nat.toDigits 10 j).leftpad 5 '0' :=
    List.append_cancel_left (List.append_cancel_right h)
  -- leading zeros do not change the number
  have hzeros : ∀ (n : ℕ) (digits : Str), Nat.ofDigitChars 10 (List.replicate n '0' ++ digits) 0 =
      Nat.ofDigitChars 10 digits 0 := by
    intro n digits
    induction n with
    | zero => rfl
    | succ n ih => exact ih
  have hvalue : ∀ n, Nat.ofDigitChars 10 ((Nat.toDigits 10 n).leftpad 5 '0') 0 = n := by
    intro n
    rw [List.leftpad, hzeros, Nat.ofDigitChars_ten_toDigits]
  rw [← hvalue i, hdigits, hvalue]

/-! ### Writing a page -/

section

variable {Value : Type} (json : JsonModule Value)

/-- An item without a surrogate, which can be written in UTF-8. -/
def Encodable (item : Value) : Prop := ∀ n ∈ json.dumps item, n.isValidChar

theorem isValidChar_codePoints (text : String) : ∀ n ∈ codePoints text, n.isValidChar := by
  intro n hn
  obtain ⟨c, -, rfl⟩ := List.mem_map.mp hn
  exact c.valid

/-- A page can be written if its items can. -/
theorem encodeUtf8_payload_isSome {products : List Value} :
    (encodeUtf8 (payload json products)).isSome ↔ ∀ item ∈ products, Encodable json item := by
  have hpage : (∀ n ∈ payload json products, n.isValidChar) ↔
      ∀ item ∈ products, Encodable json item := by
    rw [payload, List.forall_mem_append, List.forall_mem_append,
      and_iff_left (isValidChar_codePoints _), and_iff_right (isValidChar_codePoints _),
      Strings.forall_mem_intercalate (isValidChar_codePoints _), List.forall_mem_map]
    rfl
  rw [← hpage, encodeUtf8]
  simp

theorem exists_not_encodable {json : JsonModule Value} {products : List Value}
    (h : encodeUtf8 (payload json products) = none) :
    ∃ item ∈ products, ¬ Encodable json item := by
  by_contra hall
  have hsome := (encodeUtf8_payload_isSome json).mpr fun item hitem ↦
    by_contra fun hnot ↦ hall ⟨item, hitem, hnot⟩
  rw [h] at hsome
  exact nomatch hsome

/-- The files of a directory after some pages have been written to it. -/
structure Written (dir files : Directory) (pages : List (List Value)) : Prop where
  page : ∀ k page, pages[k]? = some page →
    ∃ bytes, encodeUtf8 (payload json page) = some bytes ∧ files (pageName k) = some bytes
  other : ∀ name, (∀ k < pages.length, name ≠ pageName k) → files name = unlinkPages dir name

theorem written_nil (dir : Directory) : Written json dir (unlinkPages dir) [] :=
  ⟨fun _ _ h ↦ (nomatch h), fun _ _ ↦ rfl⟩

variable {json}

/-- Writing the next page. -/
theorem Written.writeChunk {dir files : Directory} {pages : List (List Value)}
    (h : Written json dir files pages) {page : List Value} {bytes : Bytes}
    (hbytes : encodeUtf8 (payload json page) = some bytes) :
    NvdFeed.writeChunk json files pages.length page =
        .ok (Function.update files (pageName pages.length) (some bytes)) ∧
      Written json dir (Function.update files (pageName pages.length) (some bytes))
        (pages ++ [page]) := by
  refine ⟨by rw [NvdFeed.writeChunk, hbytes], ?_, ?_⟩
  · intro k other hk
    by_cases hlast : k = pages.length
    · subst hlast
      rw [List.getElem?_concat_length] at hk
      obtain rfl := Option.some.inj hk
      exact ⟨bytes, hbytes, Function.update_self _ _ _⟩
    · have hlt : k < pages.length := by
        have hlength := (List.getElem?_eq_some_iff.mp hk).1
        rw [List.length_append, List.length_singleton] at hlength
        omega
      rw [List.getElem?_append_left hlt] at hk
      obtain ⟨bytes', hencode, hfile⟩ := h.page k other hk
      refine ⟨bytes', hencode, ?_⟩
      rw [Function.update_of_ne (pageName_injective.ne hlast), hfile]
  · intro name hname
    rw [List.length_append, List.length_singleton] at hname
    rw [Function.update_of_ne (hname _ (Nat.lt_succ_self _))]
    exact h.other name fun k hk ↦ hname k (Nat.lt_succ_of_lt hk)

/-! ### Taking the items -/

variable (json) in
/-- What has become of the items that have been taken: full pages, and what is pending. -/
structure Filed (dir : Directory) (chunkSize : ℤ) (s : Split Value) (taken : List Value) :
    Prop where
  pages : ∃ pages : List (List Value), pages.flatten ++ s.pending = taken ∧
    (∀ page ∈ pages, (page.length : ℤ) = chunkSize) ∧ s.chunkIndex = pages.length ∧
      Written json dir s.files pages
  pending : (s.pending.length : ℤ) < chunkSize
  total : s.totalProducts = taken.length

/-- An item among those taken that cannot be written. -/
def Spoils (json : JsonModule Value) (taken : List Value) (x : Except Fault α) : Prop :=
  x = .error (.raised .unicodeEncode) ∧ ∃ item ∈ taken, ¬ Encodable json item

theorem acceptItem_filed {dir : Directory} {chunkSize : ℤ} {s : Split Value} {taken : List Value}
    (h : Filed json dir chunkSize s taken) (item : Value) :
    (∃ s', acceptItem json chunkSize s item = .ok s' ∧
        Filed json dir chunkSize s' (taken ++ [item])) ∨
      Spoils json (taken ++ [item]) (acceptItem json chunkSize s item) := by
  obtain ⟨⟨pages, hflatten, hfull, hindex, hwritten⟩, hpending, htotal⟩ := h
  have hlength : ((s.pending ++ [item]).length : ℤ) = s.pending.length + 1 := by simp
  have htotal' : s.totalProducts + 1 = (taken ++ [item]).length := by
    rw [htotal, List.length_append, List.length_singleton]
  have hflatten' : pages.flatten ++ (s.pending ++ [item]) = taken ++ [item] := by
    rw [← hflatten, List.append_assoc]
  by_cases hchunk : ((s.pending ++ [item]).length : ℤ) = chunkSize
  · cases hencode : encodeUtf8 (payload json (s.pending ++ [item])) with
    | some bytes =>
      obtain ⟨hwrite, hwritten'⟩ := hwritten.writeChunk hencode
      have haccept : acceptItem json chunkSize s item = .ok { s with
          pending := [], totalProducts := s.totalProducts + 1, chunkIndex := s.chunkIndex + 1
          files := Function.update s.files (pageName pages.length) (some bytes) } := by
        rw [acceptItem, if_pos hchunk, hindex, hwrite]
        rfl
      refine .inl ⟨_, haccept, ⟨pages ++ [s.pending ++ [item]], ?_, ?_, ?_, hwritten'⟩, ?_,
        htotal'⟩
      · simpa using hflatten'
      · exact List.forall_mem_append.mpr ⟨hfull, List.forall_mem_singleton.mpr hchunk⟩
      · rw [List.length_append, hindex]
        rfl
      · rw [hlength] at hchunk
        show (0 : ℤ) < chunkSize
        omega
    | none =>
      obtain ⟨spoilt, hmem, hspoilt⟩ := exists_not_encodable hencode
      refine .inr ⟨?_, spoilt, hflatten' ▸ List.mem_append_right _ hmem, hspoilt⟩
      rw [acceptItem, if_pos hchunk, NvdFeed.writeChunk, hencode]
      rfl
  · have haccept : acceptItem json chunkSize s item = .ok { s with
        pending := s.pending ++ [item], totalProducts := s.totalProducts + 1 } := if_neg hchunk
    refine .inl ⟨_, haccept, ⟨pages, hflatten', hfull, hindex, hwritten⟩, ?_, htotal'⟩
    show ((s.pending ++ [item]).length : ℤ) < chunkSize
    rw [hlength] at hchunk ⊢
    omega

/-! ### One pass over the products -/

theorem Reading.trim_spec {s : Reading} (hs : s.Sound) : s.trim.Sound ∧ s.trim.ahead = s.ahead := by
  rw [Reading.trim]
  split
  · exact ⟨hs, rfl⟩
  · exact ⟨hs, rfl⟩

variable {loads : Str → Value} {dir : Directory} {chunkSize : ℤ} {fuel : ℕ} {s : Split Value}
  {taken : List Value} {pad : Str}

/-- Whoever has less ahead needs no more passes. -/
theorem Reading.passes_lt_of_suffix {s s' : Reading} {fuel : ℕ} (h : s'.ahead <:+ s.ahead)
    (hfuel : 2 * s.ahead.length + 1 < fuel) : s'.passes < fuel := by
  have hle := s'.passes_le
  have hlength := h.length_le
  omega

theorem unpadded_of_head {c : Char} (hspace : isSpace c = false) (hcomma : c ≠ ',') (text : Str) :
    Unpadded (c :: text) := by
  rintro d ⟨⟩
  exact ⟨hspace, hcomma⟩

theorem unpadded_nil : Unpadded [] := fun _ hc ↦ nomatch hc

theorem unpadded_object {object : Str} (h : IsObject object) (rest : Str) :
    Unpadded (object ++ rest) := by
  obtain ⟨tail, rfl⟩ := h.exists_cons
  exact unpadded_of_head (by decide) (by decide) _

/-- The bracket that closes the array ends the loop. -/
theorem productStep_closing {back : Str} (hs : s.reading.Sound) (hpad : IsPadding pad)
    (hahead : s.reading.ahead = pad ++ ']' :: back)
    (hfuel : 2 * s.reading.ahead.length + 1 < fuel) :
    ∃ reading, productStep json chunkSize fuel s = .ok (.inr { s with reading }) := by
  have hpasses := s.reading.passes_le.trans_lt hfuel
  rcases token_loop (unpadded_of_head (by decide) (by decide) back) hs hpad hahead hpasses with
    ⟨reading, htoken, -, -, hget, -⟩ | ⟨-, hnil⟩
  · refine ⟨reading, ?_⟩
    rw [productStep, htoken]
    exact if_pos hget
  · exact absurd hnil (List.cons_ne_nil _ _)

/-- The next object is taken. -/
theorem productStep_object (hjson : json.Lawful loads) {object rest : Str}
    (hobject : IsObject object) (hs : s.reading.Sound) (hpad : IsPadding pad)
    (hahead : s.reading.ahead = pad ++ (object ++ rest))
    (hfuel : 2 * s.reading.ahead.length + 1 < fuel) :
    ∃ reading : Reading, reading.Sound ∧ reading.ahead = rest ∧
      productStep json chunkSize fuel s =
        (acceptItem json chunkSize s (loads object)).map fun s ↦ .inl { s with reading } := by
  have hpasses := s.reading.passes_le.trans_lt hfuel
  rcases token_loop (unpadded_object hobject rest) hs hpad hahead hpasses with
    ⟨reading, htoken, hs', hahead', hget, -⟩ | ⟨-, hnil⟩
  · have hsuffix : reading.ahead <:+ s.reading.ahead := ⟨pad, by rw [hahead', hahead]⟩
    have hpasses' := Reading.passes_lt_of_suffix hsuffix hfuel
    obtain ⟨⟨item, reading'⟩, hdecode, hitem, hs'', hahead''⟩ :=
      decode_loop hjson hobject hs' hahead' hpasses'
    obtain rfl : item = loads object := hitem
    obtain ⟨htrim, htrim'⟩ := Reading.trim_spec hs''
    refine ⟨reading'.trim, htrim, htrim'.trans hahead'', ?_⟩
    have hdict : json.isDict (loads object) = true := (hjson.isDict_loads hobject.1).mpr hobject.2
    have hbrace : ¬ reading.buffer[reading.cursor]? = some ']' := by
      obtain ⟨tail, rfl⟩ := hobject.exists_cons
      rw [hget]
      simp
    rw [productStep, htoken]
    show (if reading.buffer[reading.cursor]? = some ']' then _ else _) = _
    rw [if_neg hbrace, hdecode]
    show (if (!json.isDict (loads object)) = true then _ else _) = _
    rw [if_neg (by simp [hdict])]
    show (acceptItem json chunkSize s (loads object) >>= _) = _
    cases acceptItem json chunkSize s (loads object) with
    | error e => rfl
    | ok s' => rfl
  · obtain ⟨tail, rfl⟩ := hobject.exists_cons
    exact absurd hnil (List.cons_ne_nil _ _)

/-- Where the text is cut off an error is raised. -/
theorem productStep_cut (hjson : json.Lawful loads) {tail : Str} (hcut : IsCut tail)
    (hs : s.reading.Sound) (hpad : IsPadding pad) (hahead : s.reading.ahead = pad ++ tail)
    (hfuel : 2 * s.reading.ahead.length + 1 < fuel) :
    Raises (productStep json chunkSize fuel s) := by
  have hpasses := s.reading.passes_le.trans_lt hfuel
  rcases hcut with rfl | ⟨hne, back, hback, hobject⟩
  · rcases token_loop unpadded_nil hs hpad hahead hpasses with
      ⟨_, -, -, -, -, hne⟩ | ⟨hraises, -⟩
    · exact absurd rfl hne
    · exact hraises.bind _
  · obtain ⟨c, tail, rfl⟩ := List.exists_cons_of_ne_nil hne
    obtain rfl : c = '{' := Option.some.inj hobject.2
    rcases token_loop (unpadded_of_head (by decide) (by decide) tail) hs hpad hahead hpasses with
      ⟨reading, htoken, hs', hahead', hget, -⟩ | ⟨hraises, -⟩
    · have hsuffix : reading.ahead <:+ s.reading.ahead := ⟨pad, by rw [hahead', hahead]⟩
      have hpasses' := Reading.passes_lt_of_suffix hsuffix hfuel
      rw [productStep, htoken]
      show Raises (if reading.buffer[reading.cursor]? = some ']' then _ else _)
      rw [hget, if_neg (by simp)]
      exact (decode_cut hjson hobject hback hs' hahead' hpasses').bind _
    · exact hraises.bind _

/-! ### The loop over the products -/

/-- What the loop comes to: the items are filed, or one of them cannot be written, or the text is
cut off. -/
def Outcome (json : JsonModule Value) (dir : Directory) (chunkSize : ℤ) (tail : Str)
    (taken : List Value) (x : Except Fault (Split Value)) : Prop :=
  (∃ s, x = .ok s ∧ Filed json dir chunkSize s taken ∧ tail.head? = some ']') ∨
    Spoils json taken x ∨ (Raises x ∧ IsCut tail)

theorem product_loop (hjson : json.Lawful loads) {text tail : Str} {objects : List Str}
    (hstream : Stream text objects tail) (htail : tail.head? = some ']' ∨ IsCut tail) {n : ℕ}
    (hfiled : Filed json dir chunkSize s taken) (hs : s.reading.Sound)
    (hahead : s.reading.ahead = text) (hfuel : 2 * text.length + 1 < fuel)
    (hn : objects.length < n) :
    Outcome json dir chunkSize tail (taken ++ objects.map loads)
      (loop .endless (productStep json chunkSize fuel) n s) := by
  induction hstream generalizing s taken n with
  | @done pad tail hpad =>
    obtain ⟨n, rfl⟩ := Nat.exists_eq_add_one_of_ne_zero (Nat.ne_zero_of_lt hn)
    rw [List.map_nil, List.append_nil, loop]
    rcases htail with hclosing | hcut
    · obtain ⟨back, rfl⟩ := List.head?_eq_some_iff.mp hclosing
      obtain ⟨reading, hstep⟩ : ∃ reading,
          productStep json chunkSize fuel s = .ok (.inr { s with reading }) :=
        productStep_closing hs hpad hahead (hahead ▸ hfuel)
      rw [hstep]
      exact .inl ⟨_, rfl, ⟨hfiled.pages, hfiled.pending, hfiled.total⟩, rfl⟩
    · obtain ⟨error, hstep⟩ := productStep_cut hjson hcut hs hpad hahead (hahead ▸ hfuel)
      rw [hstep]
      exact .inr (.inr ⟨⟨error, rfl⟩, hcut⟩)
  | @object pad object rest tail objects hpad hobject _ ih =>
    obtain ⟨n, rfl⟩ := Nat.exists_eq_add_one_of_ne_zero (Nat.ne_zero_of_lt hn)
    obtain ⟨reading, hs', hahead', hstep⟩ :=
      productStep_object hjson hobject hs hpad hahead (hahead ▸ hfuel)
    rw [loop, hstep, List.map_cons, List.append_cons]
    have hfuel' : 2 * rest.length + 1 < fuel := by
      rw [List.length_append, List.length_append] at hfuel
      omega
    rcases acceptItem_filed hfiled (loads object) with ⟨s', haccept, hfiled'⟩ | ⟨herror, item, hmem,
      hitem⟩
    · rw [haccept]
      exact ih (s := { s' with reading }) htail ⟨hfiled'.pages, hfiled'.pending, hfiled'.total⟩
        hs' hahead' hfuel' (Nat.lt_of_succ_lt_succ hn)
    · rw [herror]
      exact .inr (.inl ⟨rfl, item, List.mem_append_left _ hmem, hitem⟩)

end

end Skan.Corpus.NvdFeed
