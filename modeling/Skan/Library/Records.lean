import Mathlib.Data.List.TakeDrop
import Mathlib.Data.List.TakeWhile

/-!
# Records of one line

A record is a line `kind: name=value name="value" ...`. What stands between quotation marks may be
any bytes: those that would end the value or the line are escaped (`escape`).

`read` is a reader that knows nothing of who wrote the lines. It gives back exactly the records that
were rendered (`read_render`), so no value can end its own field, add another one or start another
record.
-/

namespace Records

variable {b : UInt8}

inductive Value where
  | quoted (text : List UInt8)
  | bare (text : List UInt8)
  deriving DecidableEq

structure Field where
  name : List UInt8
  value : Value
  deriving DecidableEq

structure Record where
  kind : List UInt8
  fields : List Field
  deriving DecidableEq

/-! ### Writing -/

/-- A byte between quotation marks. -/
def escapeByte (b : UInt8) : List UInt8 :=
  if b = 0x5C || b = 0x22 then [0x5C, b]
  else if b = 0x0A then [0x5C, 0x6E]
  else if b = 0x0D then [0x5C, 0x72]
  else if b = 0x09 then [0x5C, 0x74]
  else [b]

def escape (text : List UInt8) : List UInt8 := text.flatMap escapeByte

def Value.render : Value → List UInt8
  | .quoted text => 0x22 :: escape text ++ [0x22]
  | .bare text => text

def Field.render (field : Field) : List UInt8 := 0x20 :: field.name ++ 0x3D :: field.value.render

/-- The line of a record, without its end. -/
def Record.line (record : Record) : List UInt8 :=
  record.kind ++ 0x3A :: record.fields.flatMap Field.render

def Record.render (record : Record) : List UInt8 := record.line ++ [0x0A]

/-! ### Reading -/

/-- What a byte stands for behind a backslash. -/
def unescapeByte (b : UInt8) : UInt8 :=
  if b = 0x6E then 0x0A else if b = 0x72 then 0x0D else if b = 0x74 then 0x09 else b

/-- What escaped text stands for. -/
def unescape : List UInt8 → Option (List UInt8)
  | [] => some []
  | 0x5C :: c :: rest => (unescape rest).map (unescapeByte c :: ·)
  | [0x5C] => none
  | b :: rest => (unescape rest).map (b :: ·)

/-- Whether there is a quotation mark in the text that no backslash stands in front of. -/
def unescapedQuote : List UInt8 → Bool
  | 0x5C :: _ :: rest => unescapedQuote rest
  | 0x22 :: _ => true
  | _ :: rest => unescapedQuote rest
  | [] => false

/-- A quoted value up to its end, and what is behind it. -/
def readQuoted : List UInt8 → Option (List UInt8 × List UInt8)
  | 0x22 :: rest => some ([], rest)
  | 0x5C :: c :: rest => (readQuoted rest).map fun (text, rest) ↦ (unescapeByte c :: text, rest)
  | [0x5C] | [] => none
  | b :: rest => (readQuoted rest).map fun (text, rest) ↦ (b :: text, rest)

/-- A value, and what is behind it. -/
def readValue : List UInt8 → Option (Value × List UInt8)
  | 0x22 :: rest => (readQuoted rest).map fun (text, rest) ↦ (.quoted text, rest)
  | rest =>
    let (text, rest) := rest.span (· ≠ 0x20)
    some (.bare text, rest)

/-- The fields of a line. Every one begins with a blank, so the length is fuel enough. -/
def readFields : ℕ → List UInt8 → Option (List Field)
  | _, [] => some []
  | fuel + 1, 0x20 :: rest =>
    match rest.span (· ≠ 0x3D) with
    | (name, _ :: rest) => do
      let (value, rest) ← readValue rest
      let fields ← readFields fuel rest
      return { name, value } :: fields
    | (_, []) => none
  | _, _ => none

def readRecord (line : List UInt8) : Option Record :=
  match line.span (· ≠ 0x3A) with
  | (kind, _ :: rest) => (readFields rest.length rest).map fun fields ↦ { kind, fields }
  | (_, []) => none

/-- The lines of a text, each with its end, behind what was read of the first. -/
def linesFrom (current : List UInt8) : List UInt8 → Option (List (List UInt8))
  | [] => if current = [] then some [] else none
  | b :: rest =>
    if b = 0x0A then (linesFrom [] rest).map (current :: ·) else linesFrom (current ++ [b]) rest

/-- The records of a text. -/
def read (text : List UInt8) : Option (List Record) := (linesFrom [] text).bind (·.mapM readRecord)

/-! ### What may be rendered -/

/-- Text that may stand without quotation marks: no blank, no control and no quotation mark. -/
def isBare (text : List UInt8) : Bool := text.all fun b ↦ 0x20 < b && b ≠ 0x22

/-- A name: bare text without the signs that end names. -/
def isName (text : List UInt8) : Bool := isBare text && text.all fun b ↦ b ≠ 0x3D && b ≠ 0x3A

def Value.Plain : Value → Prop
  | .quoted _ => True
  | .bare text => isBare text = true

structure Field.Plain (field : Field) : Prop where
  name : isName field.name = true
  value : field.value.Plain

structure Record.Plain (record : Record) : Prop where
  kind : isName record.kind = true
  fields : ∀ field ∈ record.fields, field.Plain

theorem bare_ne {text : List UInt8} (h : isBare text = true) (hb : b ≤ 0x20 ∨ b = 0x22) :
    b ∉ text := by
  intro hmem
  have hbare := List.all_eq_true.mp h b hmem
  rw [Bool.and_eq_true, decide_eq_true_eq, decide_eq_true_eq] at hbare
  rcases hb with hb | hb
  · exact absurd hbare.1 (UInt8.not_lt.mpr hb)
  · exact hbare.2 hb

theorem name_ne {text : List UInt8} (h : isName text = true) (hb : b ≤ 0x20 ∨ b = 0x3D ∨ b = 0x3A) :
    b ∉ text := by
  intro hmem
  rw [isName, Bool.and_eq_true] at h
  rcases hb with hb | hb
  · exact bare_ne h.1 (.inl hb) hmem
  · have hname := List.all_eq_true.mp h.2 b hmem
    rw [Bool.and_eq_true, decide_eq_true_eq, decide_eq_true_eq] at hname
    exact hb.elim hname.1 hname.2

/-! ### Escaped text -/

theorem escape_cons (b : UInt8) (text : List UInt8) :
    escape (b :: text) = escapeByte b ++ escape text := List.flatMap_cons

/-- A byte is escaped by a backslash and what stands for it, or it stands for itself. -/
theorem escapeByte_cases (b : UInt8) :
    (∃ c, escapeByte b = [0x5C, c] ∧ unescapeByte c = b ∧ c ≠ 0x0A) ∨
      escapeByte b = [b] ∧ b ≠ 0x5C ∧ b ≠ 0x22 ∧ b ≠ 0x0A := by
  rw [escapeByte]
  split_ifs with hself hlf hcr htab
  · rw [Bool.or_eq_true, decide_eq_true_eq, decide_eq_true_eq] at hself
    rcases hself with rfl | rfl
    · exact .inl ⟨_, rfl, rfl, by decide⟩
    · exact .inl ⟨_, rfl, rfl, by decide⟩
  · exact .inl ⟨_, rfl, hlf.symm, by decide⟩
  · exact .inl ⟨_, rfl, hcr.symm, by decide⟩
  · exact .inl ⟨_, rfl, htab.symm, by decide⟩
  · rw [Bool.or_eq_true, decide_eq_true_eq, decide_eq_true_eq, not_or] at hself
    exact .inr ⟨rfl, hself.1, hself.2, hlf⟩

/-- An escaped text is read back. -/
theorem unescape_escape (text : List UInt8) : unescape (escape text) = some text := by
  induction text with
  | nil => rfl
  | cons b text ih =>
    rw [escape_cons]
    rcases escapeByte_cases b with ⟨c, heq, hc, -⟩ | ⟨heq, hb, -⟩
    · rw [heq, List.cons_append, List.singleton_append, unescape, ih, Option.map_some, hc]
    · rw [heq, List.singleton_append, unescape, ih, Option.map_some]
      · exact fun _ _ h _ ↦ hb h
      · exact fun h _ ↦ hb h

theorem unescapedQuote_escape (text : List UInt8) : unescapedQuote (escape text) = false := by
  induction text with
  | nil => rfl
  | cons b text ih =>
    rw [escape_cons]
    rcases escapeByte_cases b with ⟨c, heq, -, -⟩ | ⟨heq, hb, hquote, -⟩
    · rw [heq, List.cons_append, List.singleton_append, unescapedQuote, ih]
    · rw [heq, List.singleton_append, unescapedQuote, ih]
      · exact fun _ _ h _ ↦ hb h
      · exact fun h ↦ hquote h

/-- **A quoted value ends at its own end**, whatever stands in it. -/
theorem readQuoted_escape (text rest : List UInt8) :
    readQuoted (escape text ++ 0x22 :: rest) = some (text, rest) := by
  induction text with
  | nil => rfl
  | cons b text ih =>
    rw [escape_cons, List.append_assoc]
    rcases escapeByte_cases b with ⟨c, heq, hc, -⟩ | ⟨heq, hb, hquote, -⟩
    · rw [heq, List.cons_append, List.singleton_append, readQuoted, ih, Option.map_some, hc]
    · rw [heq, List.singleton_append, readQuoted, ih, Option.map_some]
      · exact fun h ↦ hquote h
      · exact fun _ _ h _ ↦ hb h
      · exact fun h _ ↦ hb h

/-- No escaped text breaks a line. -/
theorem newline_notMem_escape (text : List UInt8) : 0x0A ∉ escape text := by
  intro hmem
  obtain ⟨b, -, hb⟩ := List.mem_flatMap.mp hmem
  rcases escapeByte_cases b with ⟨c, heq, -, hc⟩ | ⟨heq, -, -, hne⟩
  · rw [heq, List.mem_cons, List.mem_singleton] at hb
    exact hb.elim (by decide) fun h ↦ hc h.symm
  · rw [heq, List.mem_singleton] at hb
    exact hne hb.symm

/-! ### What is read of a record -/

theorem span_append {p : UInt8 → Bool} {front : List UInt8} (hfront : ∀ c ∈ front, p c = true)
    (hb : p b = false) (rest : List UInt8) : (front ++ b :: rest).span p = (front, b :: rest) := by
  rw [List.span_eq_takeWhile_dropWhile, List.takeWhile_append_of_pos hfront,
    List.dropWhile_append_of_pos hfront, List.takeWhile_cons_of_neg (Bool.not_eq_true _ ▸ hb),
    List.dropWhile_cons_of_neg (Bool.not_eq_true _ ▸ hb), List.append_nil]

/-- What is behind a value: the end of the line, or the blank of the next field. -/
def Ends (rest : List UInt8) : Prop := rest = [] ∨ ∃ more, rest = 0x20 :: more

/-- A value is read back. -/
theorem readValue_render {value : Value} (h : value.Plain) {rest : List UInt8} (hrest : Ends rest) :
    readValue (value.render ++ rest) = some (value, rest) := by
  cases value with
  | quoted text =>
    rw [Value.render, List.cons_append, List.cons_append, List.append_assoc, readValue,
      List.singleton_append, readQuoted_escape]
    rfl
  | bare text =>
    have hblank : ∀ c ∈ text, decide (c ≠ 0x20) = true := fun c hc ↦
      decide_eq_true fun heq ↦ bare_ne h (.inl (by decide)) (heq ▸ hc)
    have hspan : (text ++ rest).span (· ≠ 0x20) = (text, rest) := by
      rcases hrest with rfl | ⟨more, rfl⟩
      · rw [List.span_eq_takeWhile_dropWhile, List.append_nil,
          List.takeWhile_eq_self_iff.mpr hblank, List.dropWhile_eq_nil_iff.mpr hblank]
      · exact span_append hblank (by decide) more
    rw [Value.render, readValue, hspan]
    -- bare text is not read as quoted
    intro more heq
    rcases text with _ | ⟨b, text⟩
    · rcases hrest with rfl | ⟨other, rfl⟩
      · exact nomatch heq
      · exact absurd (List.cons.inj heq).1 (by decide)
    · exact bare_ne h (.inr rfl) ((List.cons.inj heq).1 ▸ List.mem_cons_self)

theorem ends_render (fields : List Field) : Ends (fields.flatMap Field.render) := by
  cases fields with
  | nil => exact .inl rfl
  | cons field fields => exact .inr ⟨_, rfl⟩

/-- So are the fields of a record. -/
theorem readFields_render {fields : List Field} (h : ∀ field ∈ fields, field.Plain) {fuel : ℕ}
    (hfuel : fields.length ≤ fuel) :
    readFields fuel (fields.flatMap Field.render) = some fields := by
  induction fields generalizing fuel with
  | nil => cases fuel <;> rfl
  | cons field fields ih =>
    obtain ⟨hfield, hfields⟩ := List.forall_mem_cons.mp h
    obtain ⟨fuel, rfl⟩ := Nat.exists_eq_succ_of_ne_zero (Nat.ne_of_gt (Nat.zero_lt_of_lt hfuel))
    have hname : ∀ c ∈ field.name, decide (c ≠ 0x3D) = true := fun c hc ↦
      decide_eq_true fun heq ↦ name_ne hfield.name (.inr (.inl rfl)) (heq ▸ hc)
    rw [List.flatMap_cons, Field.render, List.cons_append, List.cons_append, List.append_assoc,
      List.cons_append, readFields, span_append hname (by decide)]
    dsimp only
    rw [readValue_render hfield.value (ends_render fields)]
    simp only [Option.bind_eq_bind, Option.bind_some, ih hfields (Nat.le_of_succ_le_succ hfuel)]
    rfl

theorem length_le_render (fields : List Field) :
    fields.length ≤ (fields.flatMap Field.render).length := by
  induction fields with
  | nil => exact Nat.zero_le _
  | cons field fields ih =>
    rw [List.flatMap_cons, List.length_append, Field.render, List.cons_append, List.length_cons,
      List.length_cons]
    omega

/-- A record is read back from its line. -/
theorem readRecord_line {record : Record} (h : record.Plain) :
    readRecord record.line = some record := by
  have hkind : ∀ c ∈ record.kind, decide (c ≠ 0x3A) = true := fun c hc ↦
    decide_eq_true fun heq ↦ name_ne h.kind (.inr (.inr rfl)) (heq ▸ hc)
  rw [readRecord, Record.line, span_append hkind (by decide)]
  dsimp only
  rw [readFields_render h.fields (length_le_render record.fields)]
  rfl

/-! ### What is read of all records -/

/-- **A record is one line.** -/
theorem newline_notMem_line {record : Record} (h : record.Plain) : 0x0A ∉ record.line := by
  intro hmem
  rw [Record.line, List.mem_append, List.mem_cons] at hmem
  rcases hmem with hmem | hmem | hmem
  · exact name_ne h.kind (.inl (by decide)) hmem
  · exact absurd hmem (by decide)
  · obtain ⟨field, hfield, hmem⟩ := List.mem_flatMap.mp hmem
    obtain ⟨hname, hvalue⟩ := h.fields field hfield
    rw [Field.render, List.cons_append, List.mem_cons, List.mem_append, List.mem_cons] at hmem
    rcases hmem with hmem | hmem | hmem | hmem
    · exact absurd hmem (by decide)
    · exact name_ne hname (.inl (by decide)) hmem
    · exact absurd hmem (by decide)
    · cases hcase : field.value with
      | quoted text =>
        rw [hcase, Value.render, List.cons_append, List.mem_cons, List.mem_append,
          List.mem_singleton] at hmem
        rcases hmem with hmem | hmem | hmem
        · exact absurd hmem (by decide)
        · exact newline_notMem_escape text hmem
        · exact absurd hmem (by decide)
      | bare text =>
        rw [hcase] at hmem hvalue
        exact bare_ne hvalue (.inl (by decide)) hmem

/-- A line ends at its line feed. -/
theorem linesFrom_append {line : List UInt8} (h : 0x0A ∉ line) (current rest : List UInt8) :
    linesFrom current (line ++ 0x0A :: rest) =
      (linesFrom [] rest).map ((current ++ line) :: ·) := by
  induction line generalizing current with
  | nil =>
    rw [List.nil_append, List.append_nil]
    exact if_pos rfl
  | cons b line ih =>
    obtain ⟨hb, hline⟩ := not_or.mp (mt List.mem_cons.mpr h)
    rw [List.cons_append, linesFrom, if_neg (Ne.symm hb), ih hline, List.append_assoc,
      List.singleton_append]

/-- **What was rendered is what is read.** -/
theorem read_render {records : List Record} (h : ∀ record ∈ records, record.Plain) :
    read (records.flatMap Record.render) = some records := by
  induction records with
  | nil => rfl
  | cons record records ih =>
    obtain ⟨hrecord, hrecords⟩ := List.forall_mem_cons.mp h
    obtain ⟨lines, hlines, hread⟩ := Option.bind_eq_some_iff.mp (ih hrecords)
    rw [read, List.flatMap_cons, Record.render, List.append_assoc, List.singleton_append,
      linesFrom_append (newline_notMem_line hrecord), hlines]
    simp only [Option.map_some, Option.bind_some, List.nil_append, List.mapM_cons,
      readRecord_line hrecord, hread, Option.bind_eq_bind]
    rfl

end Records
