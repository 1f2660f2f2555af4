import Skan.Library.Json

/-!
# Splitting a JSON array

What a reader may rely on that takes the elements of an array one by one. An object says itself
where it ends: `afterClose` follows the brackets outside of strings up to the one that closes what
was open, whatever stands behind it (`afterClose_object`). So no object begins another value
(`eq_of_object_append`), and what is cut off in the middle of an object begins with no value
(`not_prefix_of_cut`).

`Elements` takes the elements out of an array, as texts. Arrays have elements, and nothing else has
(`derives_elements_iff`). -/

namespace Json

variable {s t : List Char}

/-! ### The bracket that closes -/

/-- What stands behind the bracket that closes `depth` others and one more. -/
def afterClose : Mode → ℕ → List Char → Option (List Char)
  | _, _, [] => none
  | .outside, depth, c :: s =>
    if c = '"' then afterClose .inside depth s
    else if c = '{' ∨ c = '[' then afterClose .outside (depth + 1) s
    else if c = '}' ∨ c = ']' then
      if depth = 0 then some s else afterClose .outside (depth - 1) s
    else afterClose .outside depth s
  | .inside, depth, c :: s =>
    if c = '"' then afterClose .outside depth s
    else if c = '\\' then afterClose .escaped depth s
    else afterClose .inside depth s
  | .escaped, depth, _ :: s => afterClose .inside depth s

/-- Some characters that are passed over: they close what they open, and nothing else. -/
def Passed (mode : Mode) (s : List Char) : Prop :=
  ∀ depth rest, afterClose mode depth (s ++ rest) = afterClose mode depth rest

theorem passed_nil (mode : Mode) : Passed mode [] := fun _ _ ↦ rfl

theorem Passed.append {mode : Mode} (hs : Passed mode s) (ht : Passed mode t) :
    Passed mode (s ++ t) := by
  intro depth rest
  rw [List.append_assoc, hs, ht]

/-- A character that is no bracket and begins no string. -/
def IsFlat (c : Char) : Prop := c ≠ '"' ∧ c ≠ '{' ∧ c ≠ '[' ∧ c ≠ '}' ∧ c ≠ ']'

instance (c : Char) : Decidable (IsFlat c) := inferInstanceAs (Decidable (_ ∧ _))

theorem passed_flat (h : ∀ c ∈ s, IsFlat c) : Passed .outside s := by
  induction s with
  | nil => exact passed_nil _
  | cons c s ih =>
    intro depth rest
    obtain ⟨hquote, hobject, harray, hobject', harray'⟩ := h c List.mem_cons_self
    rw [List.cons_append, afterClose, if_neg hquote, if_neg (not_or.mpr ⟨hobject, harray⟩),
      if_neg (not_or.mpr ⟨hobject', harray'⟩)]
    exact ih (fun d hd ↦ h d (List.mem_cons_of_mem c hd)) depth rest

/-- What stands between two brackets that close nothing else is passed over with them. -/
theorem Passed.enclosed (h : Passed .outside s) {left right : Char}
    (hleft : left = '{' ∨ left = '[') (hright : right = '}' ∨ right = ']') (depth : ℕ)
    (rest : List Char) : afterClose .outside depth (left :: s ++ right :: rest) =
      afterClose .outside depth rest := by
  have hopen : ∀ t, afterClose .outside depth (left :: t) = afterClose .outside (depth + 1) t := by
    intro t
    rcases hleft with rfl | rfl
    · rfl
    · rfl
  have hclose : ∀ t, afterClose .outside (depth + 1) (right :: t) =
      afterClose .outside depth t := by
    intro t
    rcases hright with rfl | rfl
    · rfl
    · rfl
  rw [List.cons_append, hopen, h, hclose]

/-! ### What the grammar derives is passed over -/

theorem passed_inside {c : Char} (hquote : c ≠ '"') (hescape : c ≠ '\\') :
    Passed .inside [c] := by
  intro depth rest
  rw [List.singleton_append, afterClose, if_neg hquote, if_neg hescape]

theorem passed_escape (c : Char) : Passed .inside ['\\', c] := fun _ _ ↦ rfl

/-- What stands between quotation marks is passed over. -/
theorem passed_of_pieces {body : List Char} (h : (pieces body).isSome) :
    Passed .inside body :=
  pieces_induction (passed_nil _) passed_inside (fun _ ↦ passed_escape _) Passed.append h

theorem passed_string (h : IsString s) : Passed .outside s := by
  obtain ⟨body, rfl, hbody⟩ := h
  intro depth rest
  have hopen : afterClose .outside depth ('"' :: (body ++ ('"' :: rest))) =
      afterClose .inside depth (body ++ ('"' :: rest)) := rfl
  rw [List.cons_append, List.cons_append, List.append_assoc, List.singleton_append, hopen,
    passed_of_pieces hbody]
  rfl

/-- No bracket and no quotation mark is in a number. -/
theorem isFlat_of_isNumber (h : IsNumber s) : ∀ c ∈ s, IsFlat c := by
  refine forall_mem_number h (fun {c} hc ↦ ?_) (by decide)
  have hbracket : ∀ {d : Char}, ¬ ('0' ≤ d ∧ d ≤ '9') → c ≠ d := fun hd heq ↦ hd (heq ▸ hc)
  exact ⟨hbracket (by decide), hbracket (by decide), hbracket (by decide),
    hbracket (by decide), hbracket (by decide)⟩

theorem passed_space {w : List Char} (h : IsSpace w) : Passed .outside w := by
  refine passed_flat fun c hc ↦ ?_
  rcases h c hc with rfl | rfl | rfl | rfl
  · decide
  · decide
  · decide
  · decide

/-- **Whatever the grammar derives closes what it opens.** -/
theorem passed_of_derives {phrase : Phrase} (h : Derives phrase s) : Passed .outside s := by
  have hpadded : ∀ {w s w' : List Char}, IsSpace w → Passed .outside s → IsSpace w' →
      Passed .outside (w ++ s ++ w') :=
    fun hw hs hw' ↦ ((passed_space hw).append hs).append (passed_space hw')
  have hjoined : ∀ {s t : List Char} {c : Char}, IsFlat c → Passed .outside s →
      Passed .outside t → Passed .outside (s ++ c :: t) :=
    fun hc hs ht ↦ hs.append ((passed_flat (List.forall_mem_singleton.mpr hc)).append ht)
  have henclosed : ∀ {s : List Char} {left right : Char}, Passed .outside s →
      left = '{' ∨ left = '[' → right = '}' ∨ right = ']' →
      Passed .outside (left :: s ++ [right]) := by
    intro s left right hs hleft hright depth rest
    rw [List.append_assoc, List.singleton_append]
    exact hs.enclosed hleft hright depth rest
  induction h with
  | null => exact passed_flat (by simp [IsFlat])
  | true => exact passed_flat (by simp [IsFlat])
  | false => exact passed_flat (by simp [IsFlat])
  | number h => exact passed_flat (isFlat_of_isNumber h)
  | string h => exact passed_string h
  | emptyArray hw => exact henclosed (passed_space hw) (.inr rfl) (.inr rfl)
  | array _ ih => exact henclosed ih (.inr rfl) (.inr rfl)
  | emptyObject hw => exact henclosed (passed_space hw) (.inl rfl) (.inl rfl)
  | object _ ih => exact henclosed ih (.inl rfl) (.inl rfl)
  | element hw _ hw' ih => exact hpadded hw ih hw'
  | elements _ _ ihe ihes => exact hjoined (by decide) ihe ihes
  | member hw hs hw' hu _ hu' ih =>
    exact hjoined (by decide) (hpadded hw (passed_string hs) hw') (hpadded hu ih hu')
  | members _ _ ihm ihms => exact hjoined (by decide) ihm ihms

theorem ne_nil_of_isNumber (h : IsNumber s) : s ≠ [] := by
  obtain ⟨minus, int, frac, exp, rfl, -, hint, -⟩ := h
  intro hnil
  simp only [List.append_eq_nil_iff] at hnil
  obtain ⟨⟨⟨-, hint'⟩, -⟩, -⟩ := hnil
  rcases hint with rfl | ⟨d, ds, rfl, -⟩
  · exact List.cons_ne_nil _ _ hint'
  · exact List.cons_ne_nil _ _ hint'

/-- A value is not empty. -/
theorem ne_nil_of_value (h : Derives .value s) : s ≠ [] := by
  cases h with
  | number h => exact ne_nil_of_isNumber h
  | string h =>
    obtain ⟨body, rfl, -⟩ := h
    exact List.cons_ne_nil _ _
  | _ => exact List.cons_ne_nil _ _

/-! ### Objects -/

/-- A value that is an object. -/
def IsObject (s : List Char) : Prop := Derives .value s ∧ s.head? = some '{'

theorem ne_brace_of_flat (h : ∀ c ∈ s, IsFlat c) : s.head? ≠ some '{' :=
  fun hhead ↦ (h '{' (List.mem_of_head? hhead)).2.1 rfl

/-- An object is what stands between its braces, which is passed over. -/
theorem IsObject.exists_inner (h : IsObject s) :
    ∃ inner, s = '{' :: inner ++ ['}'] ∧ Passed .outside inner := by
  obtain ⟨hvalue, hhead⟩ := h
  cases hvalue with
  | null => exact absurd hhead (by decide)
  | true => exact absurd hhead (by decide)
  | false => exact absurd hhead (by decide)
  | number h => exact absurd hhead (ne_brace_of_flat (isFlat_of_isNumber h))
  | string h =>
    obtain ⟨body, rfl, -⟩ := h
    exact absurd hhead (by simp)
  | emptyArray hw => exact absurd hhead (by simp)
  | array hes => exact absurd hhead (by simp)
  | emptyObject hw => exact ⟨_, rfl, passed_space hw⟩
  | object hms => exact ⟨_, rfl, passed_of_derives hms⟩

theorem IsObject.exists_cons (h : IsObject s) : ∃ tail, s = '{' :: tail := by
  obtain ⟨inner, rfl, -⟩ := h.exists_inner
  exact ⟨_, rfl⟩

/-- **An object ends where its brace is closed**, whatever follows. -/
theorem afterClose_object (h : IsObject s) (rest : List Char) :
    afterClose .outside 0 (s ++ rest).tail = some rest := by
  obtain ⟨inner, rfl, hinner⟩ := h.exists_inner
  show afterClose .outside 0 (inner ++ ['}'] ++ rest) = some rest
  rw [List.append_assoc, hinner]
  rfl

/-- No object begins another. -/
theorem eq_of_object_append {rest rest' : List Char} (hs : IsObject s) (ht : IsObject t)
    (h : s ++ rest = t ++ rest') : s = t ∧ rest = rest' := by
  have hclose := afterClose_object hs rest
  rw [h, afterClose_object ht] at hclose
  obtain rfl := Option.some.inj hclose
  exact ⟨List.append_cancel_right h, rfl⟩

/-- A value at the beginning of an object, or of what follows one, is the object. -/
theorem eq_of_prefix_object {rest : List Char} (hs : IsObject s) (ht : Derives .value t)
    (h : t <+: s ++ rest) : t = s := by
  obtain ⟨more, hmore⟩ := h
  obtain ⟨tail, rfl⟩ := hs.exists_cons
  obtain ⟨c, t, rfl⟩ := List.exists_cons_of_ne_nil (ne_nil_of_value ht)
  obtain ⟨rfl, -⟩ := List.cons.inj hmore
  exact (eq_of_object_append ⟨ht, rfl⟩ hs hmore).1

/-- What is cut off in the middle of an object begins with no value. -/
theorem not_prefix_of_cut {front back : List Char} (hs : IsObject s) (hcut : s = front ++ back)
    (hback : back ≠ []) (ht : Derives .value t) : ¬ t <+: front := by
  rintro ⟨more, rfl⟩
  have hbegin : t <+: s ++ [] := ⟨more ++ back, by rw [hcut]; simp⟩
  obtain rfl := eq_of_prefix_object hs ht hbegin
  have hnil : more ++ back = [] := by simpa using hcut
  exact hback (List.append_eq_nil_iff.mp hnil).2

/-! ### Elements -/

/-- The elements of a text that lists some. -/
inductive Elements : List Char → List (List Char) → Prop
  | last {w v w' : List Char} (hw : IsSpace w) (hv : Derives .value v) (hw' : IsSpace w') :
      Elements (w ++ v ++ w') [v]
  | more {w v w' s : List Char} {vs : List (List Char)} (hw : IsSpace w) (hv : Derives .value v)
      (hw' : IsSpace w') (h : Elements s vs) : Elements (w ++ v ++ w' ++ ',' :: s) (v :: vs)

theorem Elements.append {vs us : List (List Char)} (h : Elements s vs) (h' : Elements t us) :
    Elements (s ++ ',' :: t) (vs ++ us) := by
  induction h with
  | last hw hv hw' => exact .more hw hv hw' h'
  | more hw hv hw' _ ih =>
    rw [List.append_assoc, List.cons_append]
    exact .more hw hv hw' ih

theorem derives_elements_iff : Derives .elements s ↔ ∃ vs, Elements s vs := by
  constructor
  · generalize hphrase : Phrase.elements = phrase
    intro h
    induction h with
    | element hw hv hw' => exact ⟨_, .last hw hv hw'⟩
    | elements _ _ ih ih' =>
      obtain ⟨vs, hvs⟩ := ih rfl
      obtain ⟨us, hus⟩ := ih' rfl
      exact ⟨_, hvs.append hus⟩
    | _ => exact nomatch hphrase
  · rintro ⟨vs, hvs⟩
    induction hvs with
    | last hw hv hw' => exact .element hw hv hw'
    | more hw hv hw' _ ih => exact .elements (.element hw hv hw') ih

/-- What stands between the brackets of an array, and its elements. -/
inductive Listed : List Char → List (List Char) → Prop
  | empty {w : List Char} (hw : IsSpace w) : Listed w []
  | elements {s : List Char} {vs : List (List Char)} (h : Elements s vs) : Listed s vs

/-- **An array is what lists its elements.** -/
theorem derives_array_iff {body : List Char} :
    Derives .value ('[' :: body ++ [']']) ↔ ∃ items, Listed body items := by
  constructor
  · generalize harray : '[' :: body ++ [']'] = s
    have hbody : ∀ {t : List Char}, '[' :: body ++ [']'] = '[' :: t ++ [']'] → body = t :=
      fun h ↦ List.append_cancel_right (List.cons.inj h).2
    intro h
    cases h with
    | null => exact absurd harray (by simp)
    | true => exact absurd harray (by simp)
    | false => exact absurd harray (by simp)
    | number h => exact absurd rfl (isFlat_of_isNumber h '[' (harray ▸ List.mem_cons_self)).2.2.1
    | string h =>
      obtain ⟨_, rfl, -⟩ := h
      exact absurd harray (by simp)
    | emptyArray hw =>
      obtain rfl := hbody harray
      exact ⟨[], .empty hw⟩
    | array hes =>
      obtain rfl := hbody harray
      obtain ⟨items, hitems⟩ := derives_elements_iff.mp hes
      exact ⟨items, .elements hitems⟩
    | emptyObject hw => exact absurd harray (by simp)
    | object hms => exact absurd harray (by simp)
  · rintro ⟨items, hw | h⟩
    · exact .emptyArray ‹_›
    · exact .array (derives_elements_iff.mpr ⟨items, h⟩)

end Json
