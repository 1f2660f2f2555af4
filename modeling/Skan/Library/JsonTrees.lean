import Skan.Library.Json

/-!
# JSON texts as trees

The grammar once more, with what a text says: `Denotes` relates a text to its tree, in which the
strings stand as they are written, and every text of the grammar has one (`isText_iff`). `Spells`
relates what is written to what it means. A string has a meaning unless it contains half of a
surrogate pair (`spells_iff`).

Objects and arrays have the same kind of node here. An element of an array has an empty name.
-/

namespace Json

variable {body s : List Char} {parts : List Piece} {c : Char} {n : ℕ}

/-! ### What a string means -/

/-- A character of a string, as it may be written. -/
inductive Symbol : List Char → Char → Prop
  | plain {c : Char} (h : isPlain c = true) : Symbol [c] c
  | short {c e : Char} (h : shortEscape c = some e) : Symbol ['\\', c] e
  | unit {a b c d : Char} {n : ℕ} (h : unitOf a b c d = some n)
      (hn : ¬(0xD800 ≤ n ∧ n < 0xE000)) : Symbol ['\\', 'u', a, b, c, d] (Char.ofNat n)
  | pair {a b c d a' b' c' d' : Char} {n m : ℕ} (h : unitOf a b c d = some n)
      (h' : unitOf a' b' c' d' = some m) (hn : 0xD800 ≤ n ∧ n < 0xDC00)
      (hm : 0xDC00 ≤ m ∧ m < 0xE000) :
      Symbol ['\\', 'u', a, b, c, d, '\\', 'u', a', b', c', d']
        (Char.ofNat (0x10000 + (n - 0xD800) * 0x400 + (m - 0xDC00)))

/-- What stands between the quotation marks, and what it means. -/
inductive Spells : List Char → List Char → Prop
  | nil : Spells [] []
  | cons {s body value : List Char} {c : Char} (h : Symbol s c) (hbody : Spells body value) :
      Spells (s ++ body) (c :: value)

theorem pieces_short {e : Char} (h : shortEscape c = some e) (rest : List Char) :
    pieces ('\\' :: c :: rest) = (pieces rest).map (.char e :: ·) := by
  have hu : c ≠ 'u' := by
    rintro rfl
    exact nomatch h
  rw [pieces.eq_3 c rest fun _ _ _ _ _ heq ↦ absurd heq hu, h]
  rcases pieces rest with _ | parts
  · rfl
  · rfl

theorem pieces_unit {a b d : Char} (h : unitOf a b c d = some n) (rest : List Char) :
    pieces ('\\' :: 'u' :: a :: b :: c :: d :: rest) = (pieces rest).map (.unit n :: ·) := by
  rw [pieces, h]
  rcases pieces rest with _ | parts
  · rfl
  · rfl

theorem pieces_plain (h : isPlain c = true) (rest : List Char) :
    pieces (c :: rest) = (pieces rest).map (.char c :: ·) := by
  have hescape : c ≠ '\\' := by
    rintro rfl
    exact nomatch h
  rw [pieces.eq_4 c rest (fun _ _ _ _ _ heq ↦ absurd heq hescape)
    (fun _ _ heq ↦ absurd heq hescape), if_pos h]

/-- The ways a text has parts, by the first of them. -/
theorem pieces_cases {part : Piece} (h : pieces body = some (part :: parts)) :
    (∃ s rest c, part = .char c ∧ body = s ++ rest ∧ Symbol s c ∧ pieces rest = some parts) ∨
      ∃ a b c d rest n, part = .unit n ∧ body = '\\' :: 'u' :: a :: b :: c :: d :: rest ∧
        unitOf a b c d = some n ∧ pieces rest = some parts := by
  rw [pieces.eq_def] at h
  split at h
  · exact nomatch h
  · rename_i a b c d rest
    obtain ⟨n, hn, tail, htail, heq⟩ : ∃ n, unitOf a b c d = some n ∧ ∃ tail,
        pieces rest = some tail ∧ Piece.unit n :: tail = part :: parts := by
      simpa [Option.bind_eq_some_iff] using h
    obtain ⟨rfl, rfl⟩ := List.cons.inj heq
    exact .inr ⟨a, b, c, d, rest, n, rfl, rfl, hn, htail⟩
  · rename_i c rest _
    obtain ⟨e, he, tail, htail, heq⟩ : ∃ e, shortEscape c = some e ∧ ∃ tail,
        pieces rest = some tail ∧ Piece.char e :: tail = part :: parts := by
      simpa [Option.bind_eq_some_iff] using h
    obtain ⟨rfl, rfl⟩ := List.cons.inj heq
    exact .inl ⟨['\\', c], rest, e, rfl, rfl, .short he, htail⟩
  · rename_i c rest _ _
    split at h
    · rename_i hplain
      obtain ⟨tail, htail, heq⟩ := Option.map_eq_some_iff.mp h
      obtain ⟨rfl, rfl⟩ := List.cons.inj heq
      exact .inl ⟨[c], rest, c, rfl, rfl, .plain hplain, htail⟩
    · exact nomatch h

theorem eq_escape_of_pieces (h : pieces body = some (.unit n :: parts)) :
    ∃ a b c d rest, body = '\\' :: 'u' :: a :: b :: c :: d :: rest ∧ unitOf a b c d = some n ∧
      pieces rest = some parts := by
  rcases pieces_cases h with ⟨_, _, _, hn, _⟩ | ⟨a, b, c, d, rest, n, hn, hbody, hunit, hrest⟩
  · exact nomatch hn
  · obtain rfl := Piece.unit.inj hn
    exact ⟨a, b, c, d, rest, hbody, hunit, hrest⟩

theorem eq_nil_of_pieces (h : pieces body = some []) : body = [] := by
  rw [pieces.eq_def] at h
  split at h
  · rfl
  · simp [Option.bind_eq_some_iff] at h
  · simp [Option.bind_eq_some_iff] at h
  · split at h
    · simp at h
    · exact nomatch h

theorem assemble_unit_of_not (h : ¬(0xD800 ≤ n ∧ n < 0xE000)) (parts : List Piece) :
    assemble (.unit n :: parts) = (assemble parts).map (Char.ofNat n :: ·) := by
  rcases parts with _ | ⟨c | m, parts⟩
  · simp only [assemble, if_neg h]
  · simp only [assemble, if_neg h]
  · rw [assemble, if_neg (by omega), if_neg h]

theorem Symbol.decodeString (h : Symbol s c) (body : List Char) :
    decodeString (s ++ body) = (decodeString body).map (c :: ·) := by
  have hmap : ∀ {f : List Piece → List Piece}, pieces (s ++ body) = (pieces body).map f →
      (∀ parts, assemble (f parts) = (assemble parts).map (c :: ·)) →
      Json.decodeString (s ++ body) = (Json.decodeString body).map (c :: ·) := by
    intro f hpieces hassemble
    rw [Json.decodeString, Json.decodeString, hpieces]
    rcases pieces body with _ | parts
    · rfl
    · exact hassemble parts
  cases h with
  | plain h => exact hmap (pieces_plain h body) fun parts ↦ rfl
  | short h => exact hmap (pieces_short h body) fun parts ↦ rfl
  | unit h hn => exact hmap (pieces_unit h body) (assemble_unit_of_not hn)
  | @pair _ _ _ _ _ _ _ _ n m h h' hn hm =>
    refine hmap (f := fun parts ↦ .unit n :: .unit m :: parts) ?_ fun parts ↦ ?_
    · show pieces ('\\' :: 'u' :: _ :: _ :: _ :: _ :: '\\' :: 'u' :: _ :: _ :: _ :: _ :: body) = _
      rw [pieces_unit h, pieces_unit h', Option.map_map]
      rfl
    · rw [assemble, if_pos ⟨hn.1, hn.2, hm.1, hm.2⟩]

theorem spells_of_assemble {value : List Char} (h : assemble parts = some value) :
    ∀ {body : List Char}, pieces body = some parts → Spells body value := by
  induction parts using assemble.induct generalizing value with
  | case1 =>
    intro body hbody
    obtain rfl := Option.some.inj h
    rw [eq_nil_of_pieces hbody]
    exact .nil
  | case2 c rest ih =>
    intro body hbody
    obtain ⟨value, hvalue, rfl⟩ := Option.map_eq_some_iff.mp h
    rcases pieces_cases hbody with ⟨s, tail, c, hc, rfl, hs, htail⟩ | ⟨_, _, _, _, _, _, hc, _⟩
    · obtain rfl := Piece.char.inj hc
      exact .cons hs (ih hvalue htail)
    · exact nomatch hc
  | case3 n m rest hpair ih =>
    intro body hbody
    rw [assemble, if_pos hpair] at h
    obtain ⟨value, hvalue, rfl⟩ := Option.map_eq_some_iff.mp h
    obtain ⟨a, b, c, d, tail, rfl, hn, htail⟩ := eq_escape_of_pieces hbody
    obtain ⟨a', b', c', d', tail', rfl, hm, htail'⟩ := eq_escape_of_pieces htail
    exact .cons (.pair hn hm ⟨hpair.1, hpair.2.1⟩ hpair.2.2) (ih hvalue htail')
  | case4 n m rest hpair hn =>
    rw [assemble, if_neg hpair, if_pos hn] at h
    exact nomatch h
  | case5 n m rest hpair hn ih =>
    intro body hbody
    rw [assemble_unit_of_not hn] at h
    obtain ⟨value, hvalue, rfl⟩ := Option.map_eq_some_iff.mp h
    obtain ⟨a, b, c, d, tail, rfl, hunit, htail⟩ := eq_escape_of_pieces hbody
    exact .cons (.unit hunit hn) (ih hvalue htail)
  | case6 n rest hrest hn =>
    rw [assemble, if_pos hn] at h
    · exact nomatch h
    · exact hrest
  | case7 n rest hrest hn ih =>
    intro body hbody
    rw [assemble_unit_of_not hn] at h
    obtain ⟨value, hvalue, rfl⟩ := Option.map_eq_some_iff.mp h
    obtain ⟨a, b, c, d, tail, rfl, hunit, htail⟩ := eq_escape_of_pieces hbody
    exact .cons (.unit hunit hn) (ih hvalue htail)

/-- **A string means what its parts are put together to.** -/
theorem spells_iff {value : List Char} : Spells body value ↔ decodeString body = some value := by
  constructor
  · intro h
    induction h with
    | nil => rfl
    | cons h _ ih =>
      rw [h.decodeString, ih]
      rfl
  · intro h
    obtain ⟨parts, hparts, hvalue⟩ := Option.bind_eq_some_iff.mp h
    exact spells_of_assemble hvalue hparts

/-! ### Trees -/

/-- A value as it is written. -/
inductive Tree where
  | scalar
  | string (body : List Char)
  | branch (isObject : Bool) (items : List (List Char × Tree))

mutual

/-- The depth of the deepest value, when the value itself is at depth zero. -/
def Tree.depth : Tree → ℕ
  | .scalar => 0
  | .string _ => 0
  | .branch _ items => Tree.depths items

/-- The same of the items of a branch, which are a step deeper. -/
def Tree.depths : List (List Char × Tree) → ℕ
  | [] => 0
  | (_, tree) :: items => max (tree.depth + 1) (Tree.depths items)

end

mutual

/-- The number of values. -/
def Tree.size : Tree → ℕ
  | .scalar => 1
  | .string _ => 1
  | .branch _ items => Tree.sizes items + 1

/-- The same of the items of a branch. -/
def Tree.sizes : List (List Char × Tree) → ℕ
  | [] => 0
  | (_, tree) :: items => tree.size + Tree.sizes items

end

theorem Tree.depths_le_iff {items : List (List Char × Tree)} :
    Tree.depths items ≤ n ↔ ∀ item ∈ items, item.2.depth < n := by
  induction items with
  | nil => simp [Tree.depths]
  | cons item items ih =>
    rw [Tree.depths, Nat.max_le, ih, List.forall_mem_cons]
    exact Iff.rfl

theorem Tree.size_pos (tree : Tree) : 0 < tree.size := by
  cases tree with
  | scalar => exact Nat.one_pos
  | string body => exact Nat.one_pos
  | branch isObject items => exact Nat.succ_pos _

/-- There are at least as many values as items. -/
theorem Tree.length_le_sizes (items : List (List Char × Tree)) :
    items.length ≤ Tree.sizes items := by
  induction items with
  | nil => exact Nat.zero_le _
  | cons item items ih =>
    have hpos := item.2.size_pos
    show items.length + 1 ≤ item.2.size + Tree.sizes items
    omega

/-! ### What a text denotes -/

/-- A part of a text: a value, or the items of an object or an array. -/
inductive Part where
  | value
  | items (isObject : Bool)

/-- What such a part denotes. -/
abbrev Part.Meaning : Part → Type
  | .value => Tree
  | .items _ => List (List Char × Tree)

/-- `begin-object`, `begin-array`. -/
def opening (isObject : Bool) : Char := if isObject then '{' else '['

/-- `end-object`, `end-array`. -/
def closing (isObject : Bool) : Char := if isObject then '}' else ']'

/-- What stands before the value of an item: its name and a colon in an object, nothing in an
array. -/
inductive Named : Bool → List Char → List Char → Prop
  | element : Named false [] []
  | member {w body w' : List Char} (hw : IsSpace w) (hbody : (pieces body).isSome)
      (hw' : IsSpace w') : Named true (w ++ '"' :: body ++ '"' :: w' ++ [':']) body

/-- The grammar, with the tree of what is derived. -/
inductive Denotes : (part : Part) → List Char → part.Meaning → Prop
  | null : Denotes .value "null".toList .scalar
  | true : Denotes .value "true".toList .scalar
  | false : Denotes .value "false".toList .scalar
  | number {s : List Char} (h : IsNumber s) : Denotes .value s .scalar
  | string {body : List Char} (h : (pieces body).isSome) :
      Denotes .value ('"' :: body ++ ['"']) (.string body)
  | empty {w : List Char} (isObject : Bool) (hw : IsSpace w) :
      Denotes .value (opening isObject :: w ++ [closing isObject]) (.branch isObject [])
  | branch {isObject : Bool} {s : List Char} {items : List (List Char × Tree)}
      (h : Denotes (.items isObject) s items) :
      Denotes .value (opening isObject :: s ++ [closing isObject]) (.branch isObject items)
  | last {isObject : Bool} {n name w s w' : List Char} {tree : Tree}
      (hname : Named isObject n name) (hw : IsSpace w) (h : Denotes .value s tree)
      (hw' : IsSpace w') : Denotes (.items isObject) (n ++ (w ++ s ++ w')) [(name, tree)]
  | more {isObject : Bool} {n name w s w' s' : List Char} {tree : Tree}
      {items : List (List Char × Tree)} (hname : Named isObject n name) (hw : IsSpace w)
      (h : Denotes .value s tree) (hw' : IsSpace w') (hmore : Denotes (.items isObject) s' items) :
      Denotes (.items isObject) (n ++ (w ++ s ++ w') ++ ',' :: s') ((name, tree) :: items)

/-- What a JSON text denotes. -/
def DenotesText (s : List Char) (tree : Tree) : Prop :=
  ∃ w v w', s = w ++ v ++ w' ∧ IsSpace w ∧ Denotes .value v tree ∧ IsSpace w'

/-! ### The grammar again -/

/-- Items and more items, with a comma between them. -/
theorem exists_denotes_append {part : Part} {m : part.Meaning} (h : Denotes part s m) :
    ∀ isObject, part = .items isObject → ∀ {s' : List Char} {items : List (List Char × Tree)},
      Denotes (.items isObject) s' items →
      ∃ all, Denotes (.items isObject) (s ++ ',' :: s') all := by
  induction h with
  | last hname hw h hw' _ =>
    intro isObject hpart s' items hmore
    obtain rfl := Part.items.inj hpart
    exact ⟨_, .more hname hw h hw' hmore⟩
  | more hname hw h hw' hmore _ ih =>
    intro isObject hpart s' items hlater
    obtain rfl := Part.items.inj hpart
    obtain ⟨all, hall⟩ := ih _ rfl hlater
    rw [List.append_assoc, List.cons_append]
    exact ⟨_, .more hname hw h hw' hall⟩
  | _ => exact fun _ hpart ↦ nomatch hpart

/-- What derives as a phrase has a tree, or items. -/
theorem denotes_of_derives {phrase : Phrase} (h : Derives phrase s) :
    match phrase with
    | .value => ∃ tree, Denotes .value s tree
    | .elements => ∃ items, Denotes (.items false) s items
    | .members => ∃ items, Denotes (.items true) s items := by
  induction h with
  | null => exact ⟨_, .null⟩
  | true => exact ⟨_, .true⟩
  | false => exact ⟨_, .false⟩
  | number h => exact ⟨_, .number h⟩
  | string h =>
    obtain ⟨body, rfl, hbody⟩ := h
    exact ⟨_, .string hbody⟩
  | emptyArray hw => exact ⟨_, .empty false hw⟩
  | emptyObject hw => exact ⟨_, .empty true hw⟩
  | array _ ih =>
    obtain ⟨items, hitems⟩ := ih
    exact ⟨_, .branch hitems⟩
  | object _ ih =>
    obtain ⟨items, hitems⟩ := ih
    exact ⟨_, .branch hitems⟩
  | element hw _ hw' ih =>
    obtain ⟨tree, htree⟩ := ih
    exact ⟨_, .last .element hw htree hw'⟩
  | elements _ _ ih ih' =>
    obtain ⟨items, hitems⟩ := ih
    obtain ⟨later, hlater⟩ := ih'
    exact exists_denotes_append hitems false rfl hlater
  | @member w s w' u v u' hw hs hw' hu _ hu' ih =>
    obtain ⟨tree, htree⟩ := ih
    obtain ⟨body, rfl, hbody⟩ := hs
    have hitem := Denotes.last (.member hw hbody hw') hu htree hu'
    exact ⟨_, by simpa using hitem⟩
  | members _ _ ih ih' =>
    obtain ⟨items, hitems⟩ := ih
    obtain ⟨later, hlater⟩ := ih'
    exact exists_denotes_append hitems true rfl hlater

/-- What has a tree derives as a value, and what has items as those of an array or an object. -/
theorem derives_of_denotes {part : Part} {m : part.Meaning} (h : Denotes part s m) :
    match part with
    | .value => Derives .value s
    | .items isObject => Derives (if isObject then .members else .elements) s := by
  have item : ∀ {isObject : Bool} {n name w s w' : List Char}, Named isObject n name →
      IsSpace w → Derives .value s → IsSpace w' →
      Derives (if isObject then .members else .elements) (n ++ (w ++ s ++ w')) := by
    intro isObject n name w s w' hname hw h hw'
    cases hname with
    | element => exact .element hw h hw'
    | @member u body u' hu hbody hu' =>
      have hmember := Derives.member hu ⟨_, rfl, hbody⟩ hu' hw h hw'
      simpa using hmember
  induction h with
  | null => exact .null
  | true => exact .true
  | false => exact .false
  | number h => exact .number h
  | string h => exact .string ⟨_, rfl, h⟩
  | empty isObject hw => cases isObject <;> first | exact .emptyArray hw | exact .emptyObject hw
  | @branch isObject s items _ ih =>
    cases isObject with
    | false => exact .array ih
    | true => exact .object ih
  | last hname hw _ hw' ih => exact item hname hw ih hw'
  | @more isObject n name w s w' s' tree items hname hw _ hw' _ ih ih' =>
    have hfirst := item hname hw ih hw'
    cases isObject with
    | false => exact .elements hfirst ih'
    | true => exact .members hfirst ih'

/-- The texts of the grammar are those that denote a tree. -/
theorem isText_iff (s : List Char) : IsText s ↔ ∃ tree, DenotesText s tree := by
  constructor
  · rintro ⟨w, v, w', rfl, hw, hv, hw'⟩
    obtain ⟨tree, htree⟩ := denotes_of_derives hv
    exact ⟨tree, w, v, w', rfl, hw, htree, hw'⟩
  · rintro ⟨tree, w, v, w', rfl, hw, hv, hw'⟩
    exact ⟨w, v, w', rfl, hw, derives_of_denotes hv, hw'⟩

end Json
