import Mathlib.Data.List.TakeWhile
import Skan.Library.Utf8

/-!
# Reading XML 1.0

What a conforming reader makes of an attribute in double quotes (`readAttribute`) and of an element
that holds nothing but text (`readElement`). Its three normalizations are here: line ends become
line feeds before anything is read (`normalizeLineEnds`), white space in the value of an attribute
becomes spaces (`Place.literal`), and references are resolved (`referenced`), which escapes the
other two.

`escape` is the usual way to write text: references for the five characters of markup. `read_escape`
says what is read of it, and `readAttribute_escape` and `readElement_escape` what is left of the
text in the end: it is preserved exactly if it has nothing that is normalized.
-/

namespace Xml

variable {name rest : List Char} {c : Char} {fuel : ℕ}

/-! ### Characters -/

/-- `Char`. -/
def isChar (c : Char) : Bool :=
  c = '\t' || c = '\n' || c = '\r' || (0x20 ≤ c.toNat && c.toNat ≤ 0xD7FF) ||
    (0xE000 ≤ c.toNat && c.toNat ≤ 0xFFFD) || 0x10000 ≤ c.toNat

/-- `S`. -/
def isSpace (c : Char) : Bool := c = ' ' || c = '\t' || c = '\r' || c = '\n'

/-- `NameStartChar`. -/
def isNameStart (c : Char) : Bool :=
  c = ':' || c = '_' || ('A' ≤ c && c ≤ 'Z') || ('a' ≤ c && c ≤ 'z') ||
    [(0xC0, 0xD6), (0xD8, 0xF6), (0xF8, 0x2FF), (0x370, 0x37D), (0x37F, 0x1FFF), (0x200C, 0x200D),
      (0x2070, 0x218F), (0x2C00, 0x2FEF), (0x3001, 0xD7FF), (0xF900, 0xFDCF), (0xFDF0, 0xFFFD),
      (0x10000, 0xEFFFF)].any fun (first, last) ↦ first ≤ c.toNat && c.toNat ≤ last

/-- `NameChar`. -/
def isNameChar (c : Char) : Bool :=
  isNameStart c || c = '-' || c = '.' || ('0' ≤ c && c ≤ '9') || c.toNat = 0xB7 ||
    (0x300 ≤ c.toNat && c.toNat ≤ 0x36F) || (0x203F ≤ c.toNat && c.toNat ≤ 0x2040)

/-- What a reader does to the line ends of a document before it reads anything. -/
def normalizeLineEnds : List Char → List Char
  | '\r' :: '\n' :: cs => '\n' :: normalizeLineEnds cs
  | '\r' :: cs => '\n' :: normalizeLineEnds cs
  | c :: cs => c :: normalizeLineEnds cs
  | [] => []

/-! ### References -/

/-- The value of a digit in a base up to sixteen. -/
def digitValue (c : Char) : ℕ :=
  if '0' ≤ c ∧ c ≤ '9' then c.toNat - 0x30
  else if 'a' ≤ c ∧ c ≤ 'f' then c.toNat - 0x57
  else if 'A' ≤ c ∧ c ≤ 'F' then c.toNat - 0x37
  else 16

/-- The character whose number has these digits. -/
def numbered (base : ℕ) (digits : List Char) : Option Char :=
  let n := digits.foldl (fun n d ↦ n * base + digitValue d) 0
  let c := Char.ofNat n
  if digits ≠ [] && digits.all (digitValue · < base) && c.toNat = n && isChar c then some c
  else none

/-- What stands between the ampersand and the semicolon: a predefined entity, or a number. -/
def referenced : List Char → Option Char
  | ['a', 'm', 'p'] => some '&'
  | ['l', 't'] => some '<'
  | ['g', 't'] => some '>'
  | ['q', 'u', 'o', 't'] => some '"'
  | ['a', 'p', 'o', 's'] => some '\''
  | '#' :: 'x' :: digits => numbered 16 digits
  | '#' :: digits => numbered 10 digits
  | _ => none

/-- A reference behind its ampersand, and what is behind it. -/
def reference (cs : List Char) : Option (Char × List Char) :=
  match cs.span (· ≠ ';') with
  | (name, _ :: rest) => (referenced name).map (·, rest)
  | (_, []) => none

/-! ### Text -/

/-- Where text stands. -/
inductive Place where
  | attributeValue
  | content
  deriving DecidableEq

/-- The character that ends the text. -/
def Place.stop : Place → Char
  | .attributeValue => '"'
  | .content => '<'

/-- What a character that stands for itself is read as. -/
def Place.literal : Place → Char → Char
  | .attributeValue, c => if isSpace c then ' ' else c
  | .content, c => c

/-- `]]>`, which may not stand in content. -/
def sectionEnd : List Char := [']', ']', '>']

/-- The text up to the character that ends it, and what is behind that. -/
def readLoop (place : Place) : ℕ → List Char → Option (List Char × List Char)
  | fuel + 1, c :: cs =>
    if c = place.stop then some ([], cs)
    else if c = '&' then do
      let (d, rest) ← reference cs
      let (text, rest) ← readLoop place fuel rest
      return (d :: text, rest)
    else if !isChar c || c = '<' || (place = .content && sectionEnd.isPrefixOf (c :: cs)) then none
    else do
      let (text, rest) ← readLoop place fuel cs
      return (place.literal c :: text, rest)
  | _, _ => none

def read (place : Place) (cs : List Char) : Option (List Char × List Char) :=
  readLoop place cs.length cs

/-! ### Attributes and elements -/

/-- A name, and what is behind it. -/
def readName (cs : List Char) : Option (List Char × List Char) :=
  if cs.head?.any isNameStart then some (cs.span isNameChar) else none

/-- The name and the value of an attribute. -/
def attributeOf (cs : List Char) : Option (List Char × List Char) := do
  let (name, rest) ← readName (cs.dropWhile isSpace)
  match rest with
  | '=' :: '"' :: rest =>
    let (value, rest) ← read .attributeValue rest
    if rest = [] then some (name, value) else none
  | _ => none

/-- The name and the text of an element. -/
def elementOf (cs : List Char) : Option (List Char × List Char) := do
  match cs.dropWhile isSpace with
  | '<' :: cs =>
    let (name, rest) ← readName cs
    match rest with
    | '>' :: rest =>
      let (text, rest) ← read .content rest
      match rest with
      | '/' :: rest =>
        let (closing, rest) ← readName rest
        match rest with
        | '>' :: rest => if closing = name && rest.all isSpace then some (name, text) else none
        | _ => none
      | _ => none
    | _ => none
  | _ => none

/-- What a reader makes of the bytes of an attribute. -/
def readAttribute (bytes : List UInt8) : Option (List Char × List Char) :=
  (Utf8.decode bytes).bind fun cs ↦ attributeOf (normalizeLineEnds cs)

/-- What a reader makes of the bytes of an element. -/
def readElement (bytes : List UInt8) : Option (List Char × List Char) :=
  (Utf8.decode bytes).bind fun cs ↦ elementOf (normalizeLineEnds cs)

/-! ### Escaping -/

/-- A character as it is written: as a reference if it is one of markup. -/
def escapeChar (c : Char) : List Char :=
  if c = '&' then "&amp;".toList
  else if c = '<' then "&lt;".toList
  else if c = '>' then "&gt;".toList
  else if c = '"' then "&quot;".toList
  else if c = '\'' then "&apos;".toList
  else [c]

def escape (cs : List Char) : List Char := cs.flatMap escapeChar

theorem escape_cons (c : Char) (cs : List Char) : escape (c :: cs) = escapeChar c ++ escape cs :=
  List.flatMap_cons

/-- A character is written as a reference to it, or as itself. -/
theorem escapeChar_cases (c : Char) :
    (∃ name, escapeChar c = '&' :: name ++ [';'] ∧ ';' ∉ name ∧ '>' ∉ name ∧ '\r' ∉ name ∧
      referenced name = some c ∧ isSpace c = false) ∨
    escapeChar c = [c] ∧ c ≠ '&' ∧ c ≠ '<' ∧ c ≠ '>' ∧ c ≠ '"' := by
  rw [escapeChar]
  split_ifs with h₁ h₂ h₃ h₄ h₅
  · exact .inl ⟨['a', 'm', 'p'], rfl, by decide, by decide, by decide, h₁ ▸ rfl, h₁ ▸ rfl⟩
  · exact .inl ⟨['l', 't'], rfl, by decide, by decide, by decide, h₂ ▸ rfl, h₂ ▸ rfl⟩
  · exact .inl ⟨['g', 't'], rfl, by decide, by decide, by decide, h₃ ▸ rfl, h₃ ▸ rfl⟩
  · exact .inl ⟨['q', 'u', 'o', 't'], rfl, by decide, by decide, by decide, h₄ ▸ rfl, h₄ ▸ rfl⟩
  · exact .inl ⟨['a', 'p', 'o', 's'], rfl, by decide, by decide, by decide, h₅ ▸ rfl, h₅ ▸ rfl⟩
  · exact .inr ⟨rfl, h₁, h₂, h₃, h₄⟩

theorem gt_notMem_escape (cs : List Char) : '>' ∉ escape cs := by
  intro hmem
  obtain ⟨c, -, hc⟩ := List.mem_flatMap.mp hmem
  rcases escapeChar_cases c with ⟨name, heq, -, hgt, -⟩ | ⟨heq, -, -, hgt, -⟩
  · rw [heq, List.mem_append, List.mem_cons] at hc
    rcases hc with (hc | hc) | hc
    · exact absurd hc (by decide)
    · exact hgt hc
    · exact absurd hc (by decide)
  · rw [heq, List.mem_singleton] at hc
    exact hgt hc.symm

/-! ### What is read of escaped text -/

theorem reference_eq (hname : ';' ∉ name) (h : referenced name = some c) :
    reference (name ++ ';' :: rest) = some (c, rest) := by
  have hspan : (name ++ ';' :: rest).span (· ≠ ';') = (name, ';' :: rest) := by
    have hall : ∀ d ∈ name, decide (d ≠ ';') = true :=
      fun d hd ↦ decide_eq_true fun heq ↦ hname (heq ▸ hd)
    rw [List.span_eq_takeWhile_dropWhile, List.takeWhile_append_of_pos hall,
      List.dropWhile_append_of_pos hall]
    simp
  rw [reference, hspan]
  exact congrArg (Option.map (·, rest)) h

/-- What is in front of a character that a word does not have holds all of the word. -/
theorem prefix_of_prefix_append {word front back : List Char} {stop : Char} (hstop : stop ∉ word)
    (h : word <+: front ++ stop :: back) : word <+: front := by
  rcases List.prefix_or_prefix_of_prefix h (List.prefix_append front _) with h | ⟨more, rfl⟩
  · exact h
  · replace h := (List.prefix_append_right_inj front).mp h
    rcases List.prefix_cons_iff.mp h with rfl | ⟨rest, rfl, -⟩
    · rw [List.append_nil]
    · exact absurd (List.mem_append_right _ List.mem_cons_self) hstop

theorem not_sectionEnd_prefix (cs rest : List Char) :
    sectionEnd.isPrefixOf (escape cs ++ Place.content.stop :: rest) = false := by
  rw [Bool.eq_false_iff, ne_eq, List.isPrefixOf_iff_prefix]
  intro h
  have hsub := prefix_of_prefix_append (by decide) h
  exact gt_notMem_escape cs (hsub.subset (by decide))

variable {place : Place}

theorem readLoop_stop (rest : List Char) :
    readLoop place (fuel + 1) (place.stop :: rest) = some ([], rest) := if_pos rfl

theorem readLoop_reference {text back : List Char} (hname : ';' ∉ name)
    (hc : referenced name = some c) (hrest : readLoop place fuel rest = some (text, back)) :
    readLoop place (fuel + 1) ('&' :: name ++ ';' :: rest) = some (c :: text, back) := by
  have hstop : '&' ≠ place.stop := by
    cases place <;> decide
  rw [List.cons_append, readLoop, if_neg hstop, if_pos rfl, reference_eq hname hc]
  simp [hrest]

theorem readLoop_literal {text back : List Char} (hchar : isChar c = true)
    (hc : c ≠ '&' ∧ c ≠ '<' ∧ c ≠ '"')
    (hsection : place = .content → sectionEnd.isPrefixOf (c :: rest) = false)
    (hrest : readLoop place fuel rest = some (text, back)) :
    readLoop place (fuel + 1) (c :: rest) = some (place.literal c :: text, back) := by
  have hstop : c ≠ place.stop := by
    cases place with
    | attributeValue => exact hc.2.2
    | content => exact hc.2.1
  have hplain : ¬ (!isChar c || c = '<' ||
      (place = .content && sectionEnd.isPrefixOf (c :: rest))) = true := by
    have hnosection : (place = .content && sectionEnd.isPrefixOf (c :: rest)) = false := by
      by_cases hplace : place = .content
      · rw [hsection hplace, Bool.and_false]
      · rw [decide_eq_false hplace, Bool.false_and]
    rw [hnosection, hchar, decide_eq_false hc.2.1]
    exact Bool.false_ne_true
  rw [readLoop, if_neg hstop, if_neg hc.1, if_neg hplain, hrest]
  rfl

/-- **What is read of escaped text**: the text, as far as the place it stands in keeps it. -/
theorem readLoop_escape {cs : List Char} (hcs : ∀ c ∈ cs, isChar c = true)
    (hfuel : cs.length < fuel) (rest : List Char) :
    readLoop place fuel (escape cs ++ place.stop :: rest) = some (cs.map place.literal, rest) := by
  induction cs generalizing fuel with
  | nil =>
    obtain ⟨fuel, rfl⟩ := Nat.exists_eq_succ_of_ne_zero (Nat.ne_of_gt hfuel)
    exact readLoop_stop rest
  | cons c cs ih =>
    obtain ⟨hchar, hcs⟩ := List.forall_mem_cons.mp hcs
    obtain ⟨fuel, rfl⟩ := Nat.exists_eq_succ_of_ne_zero (Nat.ne_of_gt (Nat.zero_lt_of_lt hfuel))
    have hrest := ih hcs (Nat.lt_of_succ_lt_succ hfuel)
    rw [escape_cons, List.append_assoc, List.map_cons]
    rcases escapeChar_cases c with ⟨name, heq, hname, -, -, hc, hspace⟩ | ⟨heq, hc⟩
    · have hliteral : place.literal c = c := by
        cases place with
        | attributeValue => rw [Place.literal, hspace]; rfl
        | content => rfl
      rw [heq, List.append_assoc, hliteral]
      exact readLoop_reference hname hc hrest
    · rw [heq, List.singleton_append]
      refine readLoop_literal hchar ⟨hc.1, hc.2.1, hc.2.2.2⟩ (fun hplace ↦ ?_) hrest
      have hsection := not_sectionEnd_prefix (c :: cs) rest
      rwa [escape_cons, heq, List.append_assoc, List.singleton_append, ← hplace] at hsection

theorem length_le_escape (cs : List Char) : cs.length ≤ (escape cs).length := by
  induction cs with
  | nil => exact le_rfl
  | cons c cs ih =>
    have hpos : 0 < (escapeChar c).length := by
      rcases escapeChar_cases c with ⟨name, heq, -⟩ | ⟨heq, -⟩
      · rw [heq, List.length_append]
        exact Nat.succ_pos _
      · rw [heq]
        exact Nat.one_pos
    rw [escape_cons, List.length_append, List.length_cons]
    omega

theorem read_escape {cs : List Char} (hcs : ∀ c ∈ cs, isChar c = true) (rest : List Char) :
    read place (escape cs ++ place.stop :: rest) = some (cs.map place.literal, rest) := by
  have hlength := length_le_escape cs
  refine readLoop_escape hcs ?_ rest
  rw [List.length_append, List.length_cons]
  omega

/-! ### Line ends -/

@[simp] theorem normalizeLineEnds_nil : normalizeLineEnds [] = [] := rfl

theorem normalizeLineEnds_cons (hc : c ≠ '\r') (cs : List Char) :
    normalizeLineEnds (c :: cs) = c :: normalizeLineEnds cs := by
  rw [normalizeLineEnds]
  · exact fun _ heq _ ↦ absurd heq hc
  · exact fun heq ↦ absurd heq hc

theorem normalizeLineEnds_cr {cs : List Char} (h : cs.head? ≠ some '\n') :
    normalizeLineEnds ('\r' :: cs) = '\n' :: normalizeLineEnds cs := by
  cases cs with
  | nil => rfl
  | cons c cs =>
    rw [normalizeLineEnds]
    rintro cs heq
    exact h (congrArg List.head? heq)

/-- Text in front that has no carriage return stays. -/
theorem normalizeLineEnds_append {front : List Char} (h : '\r' ∉ front) (back : List Char) :
    normalizeLineEnds (front ++ back) = front ++ normalizeLineEnds back := by
  induction front with
  | nil => rfl
  | cons c front ih =>
    obtain ⟨hc, hfront⟩ := not_or.mp (mt List.mem_cons.mpr h)
    rw [List.cons_append, normalizeLineEnds_cons (Ne.symm hc), ih hfront, List.cons_append]

theorem normalizeLineEnds_of_notMem {cs : List Char} (h : '\r' ∉ cs) :
    normalizeLineEnds cs = cs := by
  have happend := normalizeLineEnds_append h []
  rwa [List.append_nil, normalizeLineEnds_nil, List.append_nil] at happend

theorem cr_notMem_normalizeLineEnds (cs : List Char) : '\r' ∉ normalizeLineEnds cs := by
  fun_induction normalizeLineEnds cs with
  | case1 cs ih => exact fun h ↦ ih ((List.mem_cons.mp h).resolve_left (by decide))
  | case2 cs _ ih => exact fun h ↦ ih ((List.mem_cons.mp h).resolve_left (by decide))
  | case3 c cs _ hc ih => exact fun h ↦ (List.mem_cons.mp h).elim (fun heq ↦ hc heq.symm) ih
  | case4 => exact List.not_mem_nil

theorem normalizeLineEnds_eq_self_iff {cs : List Char} : normalizeLineEnds cs = cs ↔ '\r' ∉ cs :=
  ⟨fun h ↦ h ▸ cr_notMem_normalizeLineEnds cs, normalizeLineEnds_of_notMem⟩

/-- What is written first of text that does not begin with a line feed is none either. -/
theorem head?_escape_append {cs : List Char} (h : cs.head? ≠ some '\n') {stop : Char}
    (hstop : stop ≠ '\n') (rest : List Char) :
    (escape cs ++ stop :: rest).head? ≠ some '\n' := by
  cases cs with
  | nil => exact fun heq ↦ hstop (Option.some.inj heq)
  | cons c cs =>
    rw [escape_cons]
    rcases escapeChar_cases c with ⟨name, heq, -⟩ | ⟨heq, -⟩
    · rw [heq]
      exact fun heq ↦ absurd (Option.some.inj heq) (by decide)
    · rw [heq]
      exact h

/-- **Line ends are not escaped**, so those of the text are normalized. -/
theorem normalizeLineEnds_escape {stop : Char} (hcr : stop ≠ '\r') (hlf : stop ≠ '\n')
    (cs rest : List Char) :
    normalizeLineEnds (escape cs ++ stop :: rest) =
      escape (normalizeLineEnds cs) ++ stop :: normalizeLineEnds rest := by
  fun_induction normalizeLineEnds cs with
  | case1 cs ih => exact congrArg (List.cons '\n') ih
  | case2 cs hnext ih =>
    have hhead : cs.head? ≠ some '\n' := fun heq ↦ by
      obtain ⟨tail, rfl⟩ := List.head?_eq_some_iff.mp heq
      exact hnext tail rfl
    exact (normalizeLineEnds_cr (head?_escape_append hhead hlf rest)).trans
      (congrArg (List.cons '\n') ih)
  | case3 c cs _ hc ih =>
    have hescape : '\r' ∉ escapeChar c := by
      rcases escapeChar_cases c with ⟨name, heq, -, -, hname, -⟩ | ⟨heq, -⟩
      · rw [heq, List.cons_append, List.mem_cons, List.mem_append, List.mem_singleton]
        rintro (h | h | h)
        · exact absurd h (by decide)
        · exact hname h
        · exact absurd h (by decide)
      · rw [heq, List.mem_singleton]
        exact Ne.symm hc
    rw [escape_cons, escape_cons, List.append_assoc, normalizeLineEnds_append hescape, ih,
      List.append_assoc]
  | case4 => exact normalizeLineEnds_cons hcr rest

/-! ### What is left of the text -/

/-- A name in front of what does not go on with it. -/
theorem readName_append (hstart : name.head?.any isNameStart = true)
    (hname : ∀ d ∈ name, isNameChar d = true) (hc : isNameChar c = false) :
    readName (name ++ c :: rest) = some (name, c :: rest) := by
  have hne : name ≠ [] := fun hnil ↦ by
    rw [hnil] at hstart
    exact nomatch hstart
  rw [readName, List.head?_append_of_ne_nil name hne, if_pos hstart,
    List.span_eq_takeWhile_dropWhile, List.takeWhile_append_of_pos hname,
    List.dropWhile_append_of_pos hname,
    List.takeWhile_cons_of_neg (by rw [hc]; exact Bool.false_ne_true),
    List.dropWhile_cons_of_neg (by rw [hc]; exact Bool.false_ne_true), List.append_nil]

/-- A name, as a tag or an attribute has it. -/
structure IsName (name : List Char) : Prop where
  start : name.head?.any isNameStart = true
  chars : ∀ c ∈ name, isNameChar c = true

theorem IsName.cr_notMem (h : IsName name) : '\r' ∉ name :=
  fun hmem ↦ absurd (h.chars _ hmem) (by decide)

theorem isSpace_of_isNameStart (h : isNameStart c = true) : isSpace c = false := by
  rw [Bool.eq_false_iff]
  intro hspace
  rw [isSpace] at hspace
  simp only [Bool.or_eq_true, decide_eq_true_eq] at hspace
  rcases hspace with ((rfl | rfl) | rfl) | rfl <;> exact absurd h (by decide)

theorem isChar_normalizeLineEnds {cs : List Char} (h : ∀ c ∈ cs, isChar c = true) :
    ∀ c ∈ normalizeLineEnds cs, isChar c = true := by
  fun_induction normalizeLineEnds cs with
  | case1 cs ih =>
    exact List.forall_mem_cons.mpr ⟨rfl, ih fun c hc ↦
      h c (List.mem_cons_of_mem _ (List.mem_cons_of_mem _ hc))⟩
  | case2 cs _ ih =>
    exact List.forall_mem_cons.mpr ⟨rfl, ih fun c hc ↦ h c (List.mem_cons_of_mem _ hc)⟩
  | case3 c cs _ _ ih =>
    exact List.forall_mem_cons.mpr ⟨h c List.mem_cons_self, ih fun c hc ↦
      h c (List.mem_cons_of_mem _ hc)⟩
  | case4 => exact h

/-- What a place makes of text: its line ends and, in an attribute, its white space. -/
def Place.normalize (place : Place) (cs : List Char) : List Char :=
  (normalizeLineEnds cs).map place.literal

variable {name cs : List Char}

/-- **What is read of an attribute.** -/
theorem attributeOf_escape (hname : IsName name) (hcs : ∀ c ∈ cs, isChar c = true) :
    attributeOf (normalizeLineEnds (' ' :: name ++ '=' :: '"' :: (escape cs ++ ['"']))) =
      some (name, Place.attributeValue.normalize cs) := by
  have hfront : '\r' ∉ ' ' :: name ++ ['=', '"'] := fun hmem ↦ by
    rcases List.mem_append.mp hmem with hmem | hmem
    · rcases List.mem_cons.mp hmem with hmem | hmem
      · exact absurd hmem (by decide)
      · exact hname.cr_notMem hmem
    · exact absurd hmem (by decide)
  have hlines : normalizeLineEnds (' ' :: name ++ '=' :: '"' :: (escape cs ++ ['"'])) =
      ' ' :: name ++ '=' :: '"' :: (escape (normalizeLineEnds cs) ++ ['"']) := by
    have happend := normalizeLineEnds_append hfront (escape cs ++ ['"'])
    rw [normalizeLineEnds_escape (by decide) (by decide), List.append_assoc, List.append_assoc]
      at happend
    exact happend
  obtain ⟨c, tail, rfl⟩ : ∃ c tail, name = c :: tail :=
    List.exists_cons_of_ne_nil fun hnil ↦ by
      have hstart := hname.start
      rw [hnil] at hstart
      exact nomatch hstart
  have hspace : isSpace c = false := isSpace_of_isNameStart hname.start
  have hdrop :
      (' ' :: (c :: tail) ++ '=' :: '"' :: (escape (normalizeLineEnds cs) ++ ['"'])).dropWhile
        isSpace = (c :: tail) ++ '=' :: '"' :: (escape (normalizeLineEnds cs) ++ ['"']) := by
    rw [List.cons_append, List.dropWhile_cons_of_pos rfl, List.cons_append,
      List.dropWhile_cons_of_neg (by rw [hspace]; exact Bool.false_ne_true)]
  have hread := @read_escape .attributeValue _ (isChar_normalizeLineEnds hcs) []
  rw [hlines, attributeOf, hdrop, readName_append hname.start hname.chars rfl]
  simp only [Option.bind_eq_bind, Option.bind_some]
  show (read .attributeValue
    (escape (normalizeLineEnds cs) ++ [Place.attributeValue.stop])).bind _ = _
  rw [hread]
  rfl

/-- **What is read of an element.** -/
theorem elementOf_escape {indent : List Char} (hindent : ∀ c ∈ indent, c = ' ')
    (hrest : ∀ c ∈ rest, c = '\n') (hname : IsName name) (hcs : ∀ c ∈ cs, isChar c = true) :
    elementOf (normalizeLineEnds (indent ++ '<' :: name ++ '>' :: (escape cs ++
      '<' :: ('/' :: name ++ '>' :: rest)))) = some (name, Place.content.normalize cs) := by
  have hfront : '\r' ∉ indent ++ '<' :: name ++ ['>'] := fun hmem ↦ by
    simp only [List.mem_append, List.mem_cons, List.not_mem_nil, or_false] at hmem
    rcases hmem with (hmem | hmem | hmem) | hmem
    · exact absurd (hindent _ hmem) (by decide)
    · exact absurd hmem (by decide)
    · exact hname.cr_notMem hmem
    · exact absurd hmem (by decide)
  have hback : '\r' ∉ '/' :: name ++ '>' :: rest := fun hmem ↦ by
    simp only [List.mem_append, List.mem_cons] at hmem
    rcases hmem with (hmem | hmem) | hmem | hmem
    · exact absurd hmem (by decide)
    · exact hname.cr_notMem hmem
    · exact absurd hmem (by decide)
    · exact absurd (hrest _ hmem) (by decide)
  have hlines : normalizeLineEnds (indent ++ '<' :: name ++ '>' :: (escape cs ++
      '<' :: ('/' :: name ++ '>' :: rest))) = indent ++ ('<' :: (name ++
        '>' :: (escape (normalizeLineEnds cs) ++ '<' :: ('/' :: name ++ '>' :: rest)))) := by
    have happend :=
      normalizeLineEnds_append hfront (escape cs ++ '<' :: ('/' :: name ++ '>' :: rest))
    rw [normalizeLineEnds_escape (by decide) (by decide), normalizeLineEnds_of_notMem hback]
      at happend
    simpa using happend
  have hdrop : (indent ++ ('<' :: (name ++ '>' :: (escape (normalizeLineEnds cs) ++
      '<' :: ('/' :: name ++ '>' :: rest))))).dropWhile isSpace =
      '<' :: (name ++ '>' :: (escape (normalizeLineEnds cs) ++
        '<' :: ('/' :: name ++ '>' :: rest))) := by
    rw [List.dropWhile_append_of_pos fun c hc ↦ by rw [hindent c hc]; rfl]
    exact List.dropWhile_cons_of_neg Bool.false_ne_true
  have hread := @read_escape .content _ (isChar_normalizeLineEnds hcs) ('/' :: name ++ '>' :: rest)
  have hspaces : rest.all isSpace = true :=
    List.all_eq_true.mpr fun c hc ↦ by rw [hrest c hc]; rfl
  rw [hlines, elementOf, hdrop]
  simp only [readName_append hname.start hname.chars (show isNameChar '>' = false from rfl),
    Option.bind_eq_bind, Option.bind_some]
  rw [show '<' = Place.content.stop from rfl, hread]
  simp only [Option.bind_some, List.cons_append,
    readName_append hname.start hname.chars (show isNameChar '>' = false from rfl), hspaces,
    decide_true, Bool.and_true, if_true]
  rfl

/-- Content keeps text that has no carriage return. -/
theorem normalize_content_eq_self_iff :
    Place.content.normalize cs = cs ↔ '\r' ∉ cs := by
  rw [← normalizeLineEnds_eq_self_iff]
  show (normalizeLineEnds cs).map id = cs ↔ _
  rw [List.map_id]

/-- An attribute keeps text that has no white space but spaces. -/
theorem normalize_attributeValue_eq_self_iff :
    Place.attributeValue.normalize cs = cs ↔ '\t' ∉ cs ∧ '\n' ∉ cs ∧ '\r' ∉ cs := by
  have hliteral : ∀ c, Place.attributeValue.literal c ≠ '\t' ∧
      Place.attributeValue.literal c ≠ '\n' ∧ Place.attributeValue.literal c ≠ '\r' := by
    intro c
    rw [Place.literal]
    split_ifs with hspace
    · decide
    · rw [isSpace] at hspace
      simp only [Bool.or_eq_true, decide_eq_true_eq, not_or] at hspace
      exact ⟨hspace.1.1.2, hspace.2, hspace.1.2⟩
  constructor
  · intro h
    have hmem : ∀ d ∈ cs, ∃ c, Place.attributeValue.literal c = d := fun d hd ↦ by
      rw [← h, Place.normalize] at hd
      obtain ⟨c, -, hc⟩ := List.mem_map.mp hd
      exact ⟨c, hc⟩
    refine ⟨fun hd ↦ ?_, fun hd ↦ ?_, fun hd ↦ ?_⟩
    · obtain ⟨c, hc⟩ := hmem _ hd
      exact (hliteral c).1 hc
    · obtain ⟨c, hc⟩ := hmem _ hd
      exact (hliteral c).2.1 hc
    · obtain ⟨c, hc⟩ := hmem _ hd
      exact (hliteral c).2.2 hc
  · rintro ⟨htab, hlf, hcr⟩
    have hplain : ∀ c ∈ cs, Place.attributeValue.literal c = c := by
      intro c hc
      rw [Place.literal]
      split_ifs with hspace
      · rw [isSpace] at hspace
        simp only [Bool.or_eq_true, decide_eq_true_eq] at hspace
        rcases hspace with ((rfl | rfl) | rfl) | rfl
        · rfl
        · exact absurd hc htab
        · exact absurd hc hcr
        · exact absurd hc hlf
      · rfl
    rw [Place.normalize, normalizeLineEnds_of_notMem hcr, List.map_congr_left hplain, List.map_id']

end Xml
