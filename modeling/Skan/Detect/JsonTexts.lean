import Skan.Detect.JsonLiterals

/-!
# What the JSON reader accepts

The reader accepts the texts that denote an object and keep within its limits, and no others
(`read_iff`). What it returns are the values of the tree of the text, in the order in which they
begin (`treeNodes`), with every string decoded as the grammar's strings are.

Objects and arrays are read by the same loop, and their items are of one kind here. That a name is
new to its object is looked up in the nodes read so far: `member` finds the names of the object at
`id` among those of all the others, because no other node has the parent `id`.
-/

namespace Skan.Detect

open Skan.Core Json Utf8
open String (utf8EncodeChar)

namespace JsonReader

variable {items : List (List Char × Tree)} {isObject : Bool} {id depth : ℕ} {key rest bytes : Text}
  {nodes : List JsonNode} {tree : Tree} {name n w s w' : List Char} {parent : Option ℕ} {b : UInt8}

/-! ### The texts to accept -/

/-- The bytes a literal stands for. -/
def text (body : List Char) : Text := ((decodeString body).map Utf8.encode).getD []

/-- A literal that stands for something, of so many bytes at most. -/
def Readable (limit : ℕ) (body : List Char) : Prop :=
  ∃ value, decodeString body = some value ∧ (Utf8.encode value).length ≤ limit

/-- A tree whose strings the reader takes: no half of a surrogate pair in any, no name twice in an
object, and none too long. -/
inductive Admissible : Tree → Prop
  | scalar : Admissible .scalar
  | string {body : List Char} (h : Readable 2048 body) : Admissible (.string body)
  | branch {isObject : Bool} {items : List (List Char × Tree)}
      (hnames : ∀ item ∈ items, Readable 128 item.1)
      (hnodup : isObject = true → (items.map fun item ↦ decodeString item.1).Nodup)
      (hitems : ∀ item ∈ items, Admissible item.2) : Admissible (.branch isObject items)

/-- A text to accept: an object in UTF-8, within the limits. -/
structure Accepts (input : Text) (items : List (List Char × Tree)) : Prop where
  denotes : ∃ s, input = Utf8.encode s ∧ DenotesText s (.branch true items)
  size : input.length ≤ maxResponse
  depth : (Tree.branch true items).depth ≤ 16
  values : (Tree.branch true items).size ≤ 512
  strings : Admissible (.branch true items)

mutual

/-- The nodes of a tree. Its root has the index `index`. -/
def treeNodes : Tree → Option ℕ → Text → ℕ → List JsonNode
  | .scalar, parent, key, _ => [{ kind := .scalar, parent, key }]
  | .string body, parent, key, _ => [{ kind := .string, parent, key, value := text body }]
  | .branch isObject items, parent, key, index =>
    { kind := if isObject then .object else .array, parent, key } ::
      itemNodes items index (index + 1)

/-- The nodes of the items of a branch. -/
def itemNodes : List (List Char × Tree) → ℕ → ℕ → List JsonNode
  | [], _, _ => []
  | (name, tree) :: items, parent, index =>
    treeNodes tree (some parent) (text name) index ++ itemNodes items parent (index + tree.size)

end

mutual

/-- A tree has a node for each value. -/
theorem length_treeNodes : ∀ (tree : Tree) (parent : Option ℕ) (key : Text) (index : ℕ),
    (treeNodes tree parent key index).length = tree.size
  | .scalar, _, _, _ => rfl
  | .string _, _, _, _ => rfl
  | .branch isObject items, parent, key, index => by
    rw [treeNodes, List.length_cons, length_itemNodes items, Tree.size]

theorem length_itemNodes : ∀ (items : List (List Char × Tree)) (parent index : ℕ),
    (itemNodes items parent index).length = Tree.sizes items
  | [], _, _ => rfl
  | (name, tree) :: items, parent, index => by
    rw [itemNodes, List.length_append, length_treeNodes tree, length_itemNodes items, Tree.sizes]

end

mutual

/-- A node of a tree is its root, or has its parent in the tree. -/
theorem parent_of_mem_treeNodes : ∀ (tree : Tree) (parent : Option ℕ) (key : Text) (index : ℕ),
    ∀ node ∈ treeNodes tree parent key index, node.parent = parent ∧ node.key = key ∨
      ∃ p, node.parent = some p ∧ index ≤ p ∧ p < index + tree.size
  | .scalar, _, _, _ => by
    intro node hnode
    rw [List.mem_singleton.mp hnode]
    exact .inl ⟨rfl, rfl⟩
  | .string _, _, _, _ => by
    intro node hnode
    rw [List.mem_singleton.mp hnode]
    exact .inl ⟨rfl, rfl⟩
  | .branch isObject items, parent, key, index => by
    intro node hnode
    rw [treeNodes, List.mem_cons] at hnode
    rw [Tree.size]
    rcases hnode with rfl | hnode
    · exact .inl ⟨rfl, rfl⟩
    · rcases parent_of_mem_itemNodes items index (index + 1) node hnode with
        ⟨hparent, -⟩ | ⟨p, hparent, hge, hlt⟩
      · exact .inr ⟨index, hparent, le_rfl, by omega⟩
      · exact .inr ⟨p, hparent, by omega, by omega⟩

/-- Items hang below their container. -/
theorem parent_of_mem_itemNodes : ∀ (items : List (List Char × Tree)) (parent index : ℕ),
    ∀ node ∈ itemNodes items parent index,
      (node.parent = some parent ∧ ∃ item ∈ items, node.key = text item.1) ∨
        ∃ p, node.parent = some p ∧ index ≤ p ∧ p < index + Tree.sizes items
  | [], _, _ => fun _ hnode ↦ absurd hnode List.not_mem_nil
  | (name, tree) :: items, parent, index => by
    intro node hnode
    rw [itemNodes, List.mem_append] at hnode
    rw [Tree.sizes]
    rcases hnode with hnode | hnode
    · rcases parent_of_mem_treeNodes tree (some parent) (text name) index node hnode with
        ⟨hparent, hkey⟩ | ⟨p, hparent, hge, hlt⟩
      · exact .inl ⟨hparent, _, List.mem_cons_self, hkey⟩
      · exact .inr ⟨p, hparent, by omega, by omega⟩
    · rcases parent_of_mem_itemNodes items parent (index + tree.size) node hnode with
        ⟨hparent, item, hitem, hkey⟩ | ⟨p, hparent, hge, hlt⟩
      · exact .inl ⟨hparent, item, List.mem_cons_of_mem _ hitem, hkey⟩
      · exact .inr ⟨p, hparent, by omega, by omega⟩

end

/-! ### Names -/

/-- A body that decodes is its characters. -/
theorem text_eq {body value : List Char} (h : decodeString body = some value) :
    text body = encode value := by
  rw [text, h]
  rfl

theorem isSome_pieces {body value : List Char} (h : decodeString body = some value) :
    (pieces body).isSome := by
  obtain ⟨parts, hparts, -⟩ := Option.bind_eq_some_iff.mp h
  exact Option.isSome_of_eq_some hparts

/-- Among literals that stand for something, those for the same bytes stand for the same. -/
theorem nodup_text_iff (h : ∀ item ∈ items, Readable 128 item.1) :
    (items.map fun item ↦ text item.1).Nodup ↔
      (items.map fun item ↦ decodeString item.1).Nodup := by
  rw [List.Nodup, List.Nodup, List.pairwise_map, List.pairwise_map]
  refine List.Pairwise.iff_of_mem fun {a b} ha hb ↦ not_congr ?_
  obtain ⟨value, hvalue, -⟩ := h a ha
  obtain ⟨value', hvalue', -⟩ := h b hb
  rw [text_eq hvalue, text_eq hvalue', hvalue, hvalue', Option.some.injEq]
  exact encode_injective.eq_iff

theorem readable_nil {limit : ℕ} : Readable limit [] := ⟨[], rfl, Nat.zero_le _⟩

/-- How the reader takes the name of an item. -/
def readName (isObject : Bool) (id : ℕ) (s : JsonReader) : Option (Text × Text) :=
  if isObject then do
    let (key, input) ← string s.input
    if 128 < key.length || (member s.nodes id key).isSome then none
    else (consume 0x3A input).map fun input ↦ (key, input)
  else some ([], s.input)

theorem encode_name (w body w' : List Char) (rest : Text) :
    encode (w ++ '"' :: body ++ '"' :: w' ++ [':']) ++ rest =
      encode (w ++ '"' :: body ++ ['"']) ++ (encode w' ++ 0x3A :: rest) := by
  simp only [encode_append, encode_cons, encode_nil, List.append_assoc]
  rfl

/-- **A name** is read as the grammar has it. -/
theorem readName_iff {s : JsonReader} :
    readName isObject id s = some (key, rest) ↔ ∃ n body, Named isObject n body ∧
      s.input = encode n ++ rest ∧ Readable 128 body ∧ key = text body ∧
        (isObject = true → member s.nodes id key = none) := by
  cases isObject with
  | false =>
    constructor
    · intro h
      obtain ⟨rfl, rfl⟩ := Prod.mk.inj (Option.some.inj h)
      exact ⟨[], [], .element, rfl, readable_nil, rfl, fun h ↦ nomatch h⟩
    · rintro ⟨n, body, hnamed, hinput, -, rfl, -⟩
      cases hnamed
      rw [readName, hinput]
      rfl
  | true =>
    constructor
    · intro h
      obtain ⟨⟨key', tail⟩, hstring, h⟩ := Option.bind_eq_some_iff.mp h
      dsimp only at h
      split_ifs at h with hbad
      obtain ⟨rest', hconsume, heq⟩ := Option.map_eq_some_iff.mp h
      obtain ⟨rfl, rfl⟩ := Prod.mk.inj heq
      obtain ⟨w, body, v, hw, hinput, hvalue, rfl, -⟩ := string_iff.mp hstring
      obtain ⟨w', hw', rfl⟩ := (consume_iff rfl).mp hconsume
      rw [Bool.or_eq_true, decide_eq_true_eq, not_or, not_lt] at hbad
      refine ⟨_, body, .member hw (isSome_pieces hvalue) hw', ?_, ⟨v, hvalue, hbad.1⟩,
        (text_eq hvalue).symm, fun _ ↦ ?_⟩
      · rw [hinput, encode_name]
      · exact Option.not_isSome_iff_eq_none.mp hbad.2
    · rintro ⟨n, body, hnamed, hinput, ⟨v, hvalue, hlength⟩, rfl, hnew⟩
      cases hnamed with
      | @member w _ w' hw _ hw' =>
        have hstring : string (encode (w ++ '"' :: body ++ ['"']) ++
            (encode w' ++ 0x3A :: rest)) =
              some (encode v, encode w' ++ 0x3A :: rest) :=
          string_iff.mpr ⟨w, body, v, hw, rfl, hvalue, rfl, hlength.trans (by decide)⟩
        rw [readName, if_pos rfl, hinput, encode_name, hstring]
        show (if _ then _ else _) = _
        rw [text_eq hvalue] at hnew ⊢
        rw [if_neg, (consume_iff rfl).mpr ⟨w', hw', rfl⟩]
        · rfl
        · rw [hnew rfl, Bool.or_eq_true, decide_eq_true_eq, not_or, not_lt]
          exact ⟨hlength, Bool.false_ne_true⟩

/-! ### The names of an object -/

theorem member_append {more : List JsonNode} :
    member (nodes ++ more) id key = none ↔
      member nodes id key = none ∧ member more id key = none := by
  rw [member, List.find?_append, Option.or_eq_none_iff]
  exact Iff.rfl

/-- No member is found if none has the name. -/
theorem member_eq_none_iff :
    member nodes id key = none ↔ ∀ node ∈ nodes, node.parent = some id → node.key ≠ key := by
  rw [member, List.find?_eq_none]
  refine forall₂_congr fun node _ ↦ ?_
  rw [Bool.and_eq_true, decide_eq_true_eq, decide_eq_true_eq, not_and]

/-- The root of a tree comes first. -/
theorem root_mem_treeNodes (tree : Tree) (parent : Option ℕ) (key : Text) (index : ℕ) :
    ∃ node ∈ treeNodes tree parent key index, node.parent = parent ∧ node.key = key := by
  cases tree with
  | scalar => exact ⟨_, List.mem_cons_self, rfl, rfl⟩
  | string body => exact ⟨_, List.mem_cons_self, rfl, rfl⟩
  | branch isObject items => exact ⟨_, List.mem_cons_self, rfl, rfl⟩

/-- Of the nodes of an item only the root bears a name in the object. -/
theorem member_treeNodes_iff {index : ℕ} {key' : Text} (hid : id < index) :
    member (treeNodes tree (some id) key index) id key' = none ↔ key ≠ key' := by
  rw [member_eq_none_iff]
  constructor
  · intro h
    obtain ⟨node, hnode, hparent, hkey⟩ := root_mem_treeNodes tree (some id) key index
    exact hkey ▸ h node hnode hparent
  · intro h node hnode hparent
    rcases parent_of_mem_treeNodes tree (some id) key index node hnode with
      ⟨-, hkey⟩ | ⟨p, hp, hge, -⟩
    · exact hkey ▸ h
    · rw [hparent, Option.some.injEq] at hp
      omega

/-- Items that may follow when these nodes have been read. -/
structure Fitting (depth : ℕ) (isObject : Bool) (id : ℕ) (nodes : List JsonNode)
    (items : List (List Char × Tree)) : Prop where
  names : ∀ item ∈ items, Readable 128 item.1
  nodup : isObject = true → (items.map fun item ↦ text item.1).Nodup
  fresh : isObject = true → ∀ item ∈ items, member nodes id (text item.1) = none
  admissible : ∀ item ∈ items, Admissible item.2
  depth : ∀ item ∈ items, item.2.depth < depth
  count : nodes.length + Tree.sizes items ≤ 512

/-- The first of the items goes into the nodes. -/
theorem fitting_cons_iff (hid : id < nodes.length) :
    Fitting depth isObject id nodes ((name, tree) :: items) ↔
      (Readable 128 name ∧ (isObject = true → member nodes id (text name) = none) ∧
        Admissible tree ∧ tree.depth < depth ∧ nodes.length + tree.size ≤ 512) ∧
      Fitting depth isObject id
        (nodes ++ treeNodes tree (some id) (text name) nodes.length) items := by
  constructor
  · intro h
    have hcount : nodes.length + (tree.size + Tree.sizes items) ≤ 512 := h.count
    refine ⟨⟨h.names _ List.mem_cons_self, fun hobject ↦ h.fresh hobject _ List.mem_cons_self,
      h.admissible _ List.mem_cons_self, h.depth _ List.mem_cons_self, by omega⟩, ?_⟩
    refine
      { names := fun item hitem ↦ h.names item (List.mem_cons_of_mem _ hitem)
        nodup := fun hobject ↦ (List.nodup_cons.mp (h.nodup hobject)).2
        fresh := fun hobject item hitem ↦ member_append.mpr
          ⟨h.fresh hobject item (List.mem_cons_of_mem _ hitem), (member_treeNodes_iff hid).mpr ?_⟩
        admissible := fun item hitem ↦ h.admissible item (List.mem_cons_of_mem _ hitem)
        depth := fun item hitem ↦ h.depth item (List.mem_cons_of_mem _ hitem)
        count := ?_ }
    · intro heq
      have hmem : text name ∈ items.map fun item ↦ text item.1 :=
        List.mem_map.mpr ⟨item, hitem, heq.symm⟩
      exact (List.nodup_cons.mp (h.nodup hobject)).1 hmem
    · rw [List.length_append, length_treeNodes]
      omega
  · rintro ⟨⟨hname, hfresh, htree, hdepth, -⟩, h⟩
    have hcount := h.count
    rw [List.length_append, length_treeNodes] at hcount
    refine
      { names := List.forall_mem_cons.mpr ⟨hname, h.names⟩
        nodup := fun hobject ↦ List.nodup_cons.mpr ⟨fun hmem ↦ ?_, h.nodup hobject⟩
        fresh := fun hobject ↦ List.forall_mem_cons.mpr ⟨hfresh hobject, fun item hitem ↦
          (member_append.mp (h.fresh hobject item hitem)).1⟩
        admissible := List.forall_mem_cons.mpr ⟨htree, h.admissible⟩
        depth := List.forall_mem_cons.mpr ⟨hdepth, h.depth⟩
        count := ?_ }
    · obtain ⟨item, hitem, heq⟩ := List.mem_map.mp hmem
      have hnone := (member_append.mp (h.fresh hobject item hitem)).2
      exact (member_treeNodes_iff hid).mp hnone heq.symm
    · show nodes.length + (tree.size + Tree.sizes items) ≤ 512
      omega

/-! ### Values -/

/-- The bytes that end an object or an array. -/
def closingByte (isObject : Bool) : UInt8 := if isObject then 0x7D else 0x5D

theorem isBlank_closingByte (isObject : Bool) : isBlank (closingByte isObject) = false := by
  cases isObject with
  | false => rfl
  | true => rfl

theorem encode_closing (isObject : Bool) : utf8EncodeChar (closing isObject) =
    [closingByte isObject] := by
  cases isObject with
  | false => rfl
  | true => rfl

theorem fitting_nil (h : nodes.length ≤ 512) : Fitting depth isObject id nodes [] where
  names := fun _ hitem ↦ absurd hitem List.not_mem_nil
  nodup := fun _ ↦ List.nodup_nil
  fresh := fun _ _ hitem ↦ absurd hitem List.not_mem_nil
  admissible := fun _ hitem ↦ absurd hitem List.not_mem_nil
  depth := fun _ hitem ↦ absurd hitem List.not_mem_nil
  count := h

theorem Fitting.admissible_branch (h : Fitting depth isObject id nodes items) :
    Admissible (.branch isObject items) :=
  .branch h.names (fun hobject ↦ (nodup_text_iff h.names).mp (h.nodup hobject)) h.admissible

theorem Fitting.depth_branch (h : Fitting depth isObject id nodes items) :
    (Tree.branch isObject items).depth < depth + 1 :=
  Nat.lt_succ_of_le (Tree.depths_le_iff.mpr h.depth)

theorem encode_branch (isObject : Bool) (s : List Char) (rest : Text) :
    encode (opening isObject :: s ++ [closing isObject]) ++ rest =
      utf8EncodeChar (opening isObject) ++ (encode s ++ closingByte isObject :: rest) := by
  rw [encode_append, encode_cons, encode_cons, encode_closing, List.append_assoc,
    List.append_assoc]
  rfl

/-- From `s` to `s'` a value is read, with white space before it. -/
def Took (depth : ℕ) (parent : Option ℕ) (key : Text) (s s' : JsonReader) : Prop :=
  ∃ w v tree, IsSpace w ∧ s.input = Utf8.encode (w ++ v) ++ s'.input ∧ Denotes .value v tree ∧
    Admissible tree ∧ tree.depth < depth ∧ s.nodes.length + tree.size ≤ 512 ∧
      s'.nodes = s.nodes ++ treeNodes tree parent key s.nodes.length

theorem readValues_succ (readValue : Text → JsonReader → Option JsonReader) (isObject : Bool)
    (id fuel : ℕ) (s : JsonReader) :
    readValues readValue isObject id (fuel + 1) s =
      (readName isObject id s).bind fun named ↦
        (readValue named.1 { s with input := named.2 }).bind fun s ↦
          match consume 0x2C s.input with
          | some input => readValues readValue isObject id fuel { s with input }
          | none =>
            (consume (closingByte isObject) s.input).map fun input ↦ { s with input } := by
  cases isObject with
  | false => rfl
  | true =>
    rw [readName, if_pos rfl, readValues]
    rcases string s.input with _ | ⟨key, input⟩
    · rfl
    · by_cases hbad : (128 < key.length || (member s.nodes id key).isSome) = true
      · simp only [Option.bind_eq_bind, Option.bind_some, if_pos hbad, if_true]
        rfl
      · simp only [Option.bind_eq_bind, Option.bind_some, if_neg hbad, if_true]
        rfl

/-- What is read as items denotes them. -/
theorem readValues_sound {readValue : Text → JsonReader → Option JsonReader}
    (hread : ∀ {key s s'}, readValue key s = some s' → Took depth (some id) key s s') :
    ∀ {fuel : ℕ} {s s' : JsonReader}, id < s.nodes.length →
      readValues readValue isObject id fuel s = some s' →
      ∃ cs items, s.input = encode cs ++ closingByte isObject :: s'.input ∧
        Denotes (.items isObject) cs items ∧ Fitting depth isObject id s.nodes items ∧
          s'.nodes = s.nodes ++ itemNodes items id s.nodes.length := by
  intro fuel
  induction fuel with
  | zero => exact fun _ h ↦ nomatch h
  | succ fuel ih =>
    intro s s' hid h
    rw [readValues_succ] at h
    obtain ⟨⟨key, input⟩, hname, hitem⟩ := Option.bind_eq_some_iff.mp h
    obtain ⟨s₁, hvalue, hend⟩ := Option.bind_eq_some_iff.mp hitem
    obtain ⟨n, body, hnamed, hinput, hreadable, rfl, hfresh⟩ := readName_iff.mp hname
    obtain ⟨w, v, tree, hw, hinput₁, hv, htree, hdepth, hcount, hnodes⟩ := hread hvalue
    dsimp only at hinput₁ hcount hnodes
    have hlength : s₁.nodes.length = s.nodes.length + tree.size := by
      rw [hnodes, List.length_append, length_treeNodes]
    split at hend
    · rename_i tail hcomma
      obtain ⟨w', hw', hinput₂⟩ := (consume_iff rfl).mp hcomma
      obtain ⟨cs, items, htail, hcs, hfitting, hnodes'⟩ := ih (by dsimp only; omega) hend
      dsimp only at htail hfitting hnodes'
      refine ⟨_, (body, tree) :: items, ?_, .more hnamed hw hv hw' hcs,
        (fitting_cons_iff hid).mpr ⟨⟨hreadable, hfresh, htree, hdepth, hcount⟩, hnodes ▸ hfitting⟩,
        ?_⟩
      · rw [hinput, hinput₁, hinput₂, htail]
        simp only [encode_append, encode_cons, List.append_assoc]
        rfl
      · rw [hnodes', hlength, hnodes, itemNodes, List.append_assoc]
    · obtain ⟨tail, hclosing, rfl⟩ := Option.map_eq_some_iff.mp hend
      obtain ⟨w', hw', hinput₂⟩ := (consume_iff (isBlank_closingByte isObject)).mp hclosing
      refine ⟨_, [(body, tree)], ?_, .last hnamed hw hv hw', (fitting_cons_iff hid).mpr
        ⟨⟨hreadable, hfresh, htree, hdepth, hcount⟩, fitting_nil (by rw [← hnodes]; omega)⟩, ?_⟩
      · rw [hinput, hinput₁, hinput₂]
        simp only [encode_append, List.append_assoc]
      · rw [hnodes, itemNodes, itemNodes, List.append_nil]

/-- The node of an object or an array. -/
def branchNode (isObject : Bool) (parent : Option ℕ) (key : Text) : JsonNode :=
  { kind := if isObject then .object else .array, parent, key }

theorem readValue_succ (depth : ℕ) (parent : Option ℕ) (key : Text) {s : JsonReader} {c : UInt8}
    {input : Text} (h : skipWhitespace s.input = c :: input) :
    readValue (depth + 1) parent key s =
      if 512 ≤ s.nodes.length then none
      else if c = 0x22 then
        (string (c :: input)).map fun (value, input) ↦
          { input, nodes := s.nodes ++ [{ kind := .string, parent, key, value }] }
      else if c = 0x7B || c = 0x5B then
        match consume (closingByte (c = 0x7B)) input with
        | some input => some { input, nodes := s.nodes ++ [branchNode (c = 0x7B) parent key] }
        | none =>
          readValues (readValue depth (some s.nodes.length)) (c = 0x7B) s.nodes.length 512
            { input, nodes := s.nodes ++ [branchNode (c = 0x7B) parent key] }
      else
        (scalar (c :: input)).map fun input ↦
          { input, nodes := s.nodes ++ [{ kind := .scalar, parent, key }] } := by
  rw [readValue, h]
  rfl

theorem encode_opening {c : UInt8} (h : (c = 0x7B || c = 0x5B) = true) :
    utf8EncodeChar (opening (c = 0x7B)) = [c] := by
  rw [Bool.or_eq_true, decide_eq_true_eq, decide_eq_true_eq] at h
  rcases h with rfl | rfl
  · rfl
  · rfl

/-- **What is read as a value denotes one.** -/
theorem readValue_sound : ∀ {depth : ℕ} {parent : Option ℕ} {key : Text} {s s' : JsonReader},
    readValue depth parent key s = some s' → Took depth parent key s s' := by
  intro depth
  induction depth with
  | zero => exact fun h ↦ nomatch h
  | succ depth ih =>
    intro parent key s s' h
    obtain ⟨w, hw, hinput⟩ := exists_space s.input
    rcases hskip : skipWhitespace s.input with _ | ⟨c, input⟩
    · rw [readValue, hskip] at h
      exact nomatch h
    rw [hskip] at hinput
    rw [readValue_succ depth parent key hskip] at h
    split_ifs at h with hfull hquote hbranch
    · -- a string
      obtain ⟨⟨value, rest⟩, hstring, rfl⟩ := Option.map_eq_some_iff.mp h
      obtain ⟨w', body, v, hw', heq, hvalue, rfl, hlength⟩ := string_iff.mp hstring
      refine ⟨w ++ w', '"' :: body ++ ['"'], .string body, ?_, ?_, .string (isSome_pieces hvalue),
        .string ⟨v, hvalue, hlength⟩, Nat.succ_pos _, not_le.mp hfull, ?_⟩
      · exact List.forall_mem_append.mpr ⟨hw, hw'⟩
      · rw [hinput, heq]
        simp only [encode_append, List.append_assoc]
      · rw [treeNodes, text_eq hvalue]
    · -- an object or an array
      have hopening := encode_opening hbranch
      split at h
      · rename_i rest hclosing
        obtain rfl := Option.some.inj h
        obtain ⟨w', hw', rfl⟩ := (consume_iff (isBlank_closingByte _)).mp hclosing
        have hfitting : Fitting depth (c = 0x7B) 0 [] [] := fitting_nil (Nat.zero_le _)
        refine ⟨w, _, .branch (c = 0x7B) [], hw, ?_, .empty _ hw', hfitting.admissible_branch,
          hfitting.depth_branch, not_le.mp hfull, rfl⟩
        rw [hinput, encode_append, List.append_assoc, encode_branch, hopening]
        rfl
      · obtain ⟨cs, items, htail, hcs, hfitting, hnodes⟩ := readValues_sound ih
          (by rw [List.length_append]; exact Nat.lt_succ_self _) h
        dsimp only at htail hnodes
        have hcount := hfitting.count
        rw [List.length_append, List.length_singleton] at hcount hnodes
        refine ⟨w, _, .branch (c = 0x7B) items, hw, ?_, .branch hcs, hfitting.admissible_branch,
          hfitting.depth_branch, ?_, ?_⟩
        · rw [hinput, htail, encode_append, List.append_assoc, encode_branch, hopening]
          rfl
        · rw [Tree.size]
          omega
        · rw [hnodes, List.append_assoc]
          rfl
    · -- a literal or a number
      obtain ⟨rest, hscalar, rfl⟩ := Option.map_eq_some_iff.mp h
      obtain ⟨v, hv, heq⟩ := scalar_sound hscalar
      refine ⟨w, v, .scalar, hw, ?_, hv, .scalar, Nat.succ_pos _, not_le.mp hfull, rfl⟩
      rw [hinput, heq, encode_append, List.append_assoc]

/-! ### Reading what is written -/

/-- Every node read so far has its parent among them. -/
def Rooted (nodes : List JsonNode) : Prop :=
  ∀ node ∈ nodes, ∀ p ∈ node.parent, p < nodes.length

theorem Rooted.append_treeNodes (h : Rooted nodes) (tree : Tree)
    (hparent : ∀ p ∈ parent, p < nodes.length) (key : Text) :
    Rooted (nodes ++ treeNodes tree parent key nodes.length) := by
  intro node hnode p hp
  rw [List.length_append, length_treeNodes]
  rcases List.mem_append.mp hnode with hnode | hnode
  · exact (h node hnode p hp).trans_le (Nat.le_add_right _ _)
  · rcases parent_of_mem_treeNodes tree parent key nodes.length node hnode with
      ⟨heq, -⟩ | ⟨q, hq, -, hlt⟩
    · exact (hparent p (heq ▸ hp)).trans_le (Nat.le_add_right _ _)
    · rw [hq, Option.mem_some_iff] at hp
      exact hp ▸ hlt

/-- Nor does the first byte of an item. -/
theorem first_of_item (hname : Named isObject n name) (hw : IsSpace w)
    (hbytes : encode s = b :: bytes) (hb : isBlank b = false ∧ b ≠ 0x5D) (tail : List Char) :
    ∃ w' b' bytes', IsSpace w' ∧
      encode (n ++ (w ++ s ++ tail)) = encode w' ++ b' :: bytes' ∧
        isBlank b' = false ∧ b' ≠ closingByte isObject := by
  cases hname with
  | element =>
    refine ⟨w, b, bytes ++ encode tail, hw, ?_, hb⟩
    rw [List.nil_append, encode_append, encode_append, hbytes, List.append_assoc]
    rfl
  | @member w₀ _ w₁ hw₀ _ _ =>
    refine ⟨w₀, 0x22, encode (name ++ '"' :: w₁ ++ [':'] ++ (w ++ s ++ tail)), hw₀, ?_, rfl,
      by decide⟩
    simp only [encode_append, encode_cons, List.append_assoc]
    rfl

/-- A value does not begin with white space, and nothing before the first item ends the items. -/
theorem first_byte {part : Part} {m : part.Meaning} (h : Denotes part s m) :
    match part with
    | .value => ∃ b bytes, encode s = b :: bytes ∧ isBlank b = false ∧ b ≠ 0x5D
    | .items isObject => ∃ w b bytes, IsSpace w ∧ encode s = encode w ++ b :: bytes ∧
        isBlank b = false ∧ b ≠ closingByte isObject := by
  induction h with
  | null => exact ⟨_, _, rfl, by decide⟩
  | true => exact ⟨_, _, rfl, by decide⟩
  | false => exact ⟨_, _, rfl, by decide⟩
  | number h =>
    obtain ⟨b, bytes, hbytes, hb⟩ := head_number h
    have hne : ∀ b, isDigit b = true ∨ b = 0x2D → isBlank b = false ∧ b ≠ 0x5D :=
      forall_byte (by decide +kernel)
    exact ⟨b, bytes, hbytes, hne b hb⟩
  | string h => exact ⟨_, _, rfl, by decide⟩
  | empty isObject hw =>
    cases isObject with
    | false => exact ⟨_, _, rfl, by decide⟩
    | true => exact ⟨_, _, rfl, by decide⟩
  | @branch isObject _ _ h ih =>
    cases isObject with
    | false => exact ⟨_, _, rfl, by decide⟩
    | true => exact ⟨_, _, rfl, by decide⟩
  | @last _ _ _ _ _ w' _ hname hw _ _ ih =>
    obtain ⟨b, bytes, hbytes, hb⟩ := ih
    exact first_of_item hname hw hbytes hb w'
  | @more _ _ _ _ _ w' s' _ _ hname hw _ _ _ ih _ =>
    obtain ⟨b, bytes, hbytes, hb⟩ := ih
    obtain ⟨w₀, b₀, bytes₀, hw₀, heq, hb₀⟩ := first_of_item hname hw hbytes hb w'
    refine ⟨w₀, b₀, bytes₀ ++ encode (',' :: s'), hw₀, ?_, hb₀⟩
    rw [encode_append, heq, List.append_assoc]
    rfl

/-- Where the reader comes to after white space. -/
theorem skipWhitespace_encode (hw : IsSpace w) (hbytes : encode s = b :: bytes)
    (hb : isBlank b = false) (rest : Text) :
    skipWhitespace (encode (w ++ s) ++ rest) = b :: (bytes ++ rest) := by
  rw [encode_append, List.append_assoc, skipWhitespace_append hw, hbytes]
  exact skipWhitespace_cons hb _

/-- A container is read with its items. -/
theorem readValue_branch (hw : IsSpace w) (hcount : nodes.length < 512) :
    readValue (depth + 1) parent key
        { input := encode (w ++ (opening isObject :: s ++ [closing isObject])) ++ rest,
          nodes } =
      match consume (closingByte isObject) (encode s ++ closingByte isObject :: rest) with
      | some input => some { input, nodes := nodes ++ [branchNode isObject parent key] }
      | none =>
        readValues (readValue depth (some nodes.length)) isObject nodes.length 512
          { input := encode s ++ closingByte isObject :: rest,
            nodes := nodes ++ [branchNode isObject parent key] } := by
  have hskip : skipWhitespace
      (encode (w ++ (opening isObject :: s ++ [closing isObject])) ++ rest) =
        (if isObject then 0x7B else 0x5B) ::
          (encode s ++ closingByte isObject :: rest) := by
    rw [encode_append, List.append_assoc, skipWhitespace_append hw, encode_branch]
    cases isObject with
    | false => exact skipWhitespace_cons rfl _
    | true => exact skipWhitespace_cons rfl _
  rw [readValue_succ depth parent key hskip, if_neg (not_le.mpr hcount)]
  cases isObject with
  | false => rfl
  | true => rfl

theorem Rooted.append_branchNode (h : Rooted nodes) (isObject : Bool)
    (hparent : ∀ p ∈ parent, p < nodes.length) (key : Text) :
    Rooted (nodes ++ [branchNode isObject parent key]) :=
  h.append_treeNodes (.branch isObject []) hparent key

/-- The items of an admissible branch fit in behind its node: none of the earlier nodes belongs to
it. -/
theorem fitting_of_admissible (h : Admissible (.branch isObject items))
    (hdepth : (Tree.branch isObject items).depth < depth + 1) (hrooted : Rooted nodes)
    (hparent : ∀ p ∈ parent, p < nodes.length) (key : Text)
    (hcount : nodes.length + (Tree.branch isObject items).size ≤ 512) :
    Fitting depth isObject nodes.length (nodes ++ [branchNode isObject parent key]) items := by
  cases h with
  | branch hnames hnodup hitems =>
    refine
      { names := hnames
        nodup := fun hobject ↦ (nodup_text_iff hnames).mpr (hnodup hobject)
        fresh := fun _ item _ ↦ member_eq_none_iff.mpr fun node hnode hown ↦ ?_
        admissible := hitems
        depth := Tree.depths_le_iff.mp (Nat.le_of_lt_succ hdepth)
        count := ?_ }
    · rcases List.mem_append.mp hnode with hnode | hnode
      · exact absurd (hrooted node hnode _ hown) (Nat.lt_irrefl _)
      · rw [List.mem_singleton.mp hnode] at hown
        exact absurd (hparent _ hown) (Nat.lt_irrefl _)
    · rw [List.length_append, List.length_singleton]
      rw [Tree.size] at hcount
      omega

/-- What the reader does with a part of a text, where it keeps within the limits: a value with
something behind it that does not go on with a number, and items up to the end of their object or
array. -/
def Part.Taken : (part : Part) → List Char → part.Meaning → Prop
  | .value, s, tree => ∀ ⦃depth : ℕ⦄ ⦃parent : Option ℕ⦄ ⦃key rest : Text⦄ ⦃w : List Char⦄
      ⦃nodes : List JsonNode⦄, IsSpace w → Stops isNumeric rest → Rooted nodes →
      (∀ p ∈ parent, p < nodes.length) → Admissible tree → tree.depth < depth →
      nodes.length + tree.size ≤ 512 →
      readValue depth parent key { input := Utf8.encode (w ++ s) ++ rest, nodes } =
        some { input := rest, nodes := nodes ++ treeNodes tree parent key nodes.length }
  | .items isObject, s, items => ∀ ⦃depth id fuel : ℕ⦄ ⦃rest : Text⦄ ⦃nodes : List JsonNode⦄,
      id < nodes.length → items.length ≤ fuel → Rooted nodes →
      Fitting depth isObject id nodes items →
      readValues (readValue depth (some id)) isObject id fuel
          { input := Utf8.encode s ++ closingByte isObject :: rest, nodes } =
        some { input := rest, nodes := nodes ++ itemNodes items id nodes.length }

/-- White space does not go on with a number. -/
theorem stops_space (hw : IsSpace w) (hrest : Stops isNumeric rest) :
    Stops isNumeric (encode w ++ rest) := by
  have hblank : ∀ c, isBlank c = true → isNumeric c = false := forall_byte (by decide +kernel)
  intro c hc
  cases w with
  | nil => exact hrest c hc
  | cons d w =>
    obtain ⟨b', hencode, hb'⟩ := spans_isBlank.ofChar d (hw d List.mem_cons_self)
    rw [encode_cons, hencode] at hc
    exact Option.some.inj hc ▸ hblank b' hb'

/-- One item is read, and then a comma or the end. -/
theorem Part.Taken.item {fuel : ℕ} {tail : Text} (h : Part.Taken .value s tree)
    (hname : Named isObject n name) (hw : IsSpace w) (hw' : IsSpace w') (hb : isNumeric b = false)
    (hid : id < nodes.length) (hrooted : Rooted nodes)
    (hfitting : Fitting depth isObject id nodes ((name, tree) :: items)) :
    readValues (readValue depth (some id)) isObject id (fuel + 1)
        { input := encode (n ++ (w ++ s ++ w')) ++ b :: tail, nodes } =
      match consume 0x2C (encode w' ++ b :: tail) with
      | some input =>
        readValues (readValue depth (some id)) isObject id fuel
          { input, nodes := nodes ++ treeNodes tree (some id) (text name) nodes.length }
      | none =>
        (consume (closingByte isObject) (encode w' ++ b :: tail)).map fun input ↦
          { input, nodes := nodes ++ treeNodes tree (some id) (text name) nodes.length } := by
  obtain ⟨⟨hreadable, hfresh, htree, hdepth, hcount⟩, -⟩ := (fitting_cons_iff hid).mp hfitting
  have hstops : Stops isNumeric (encode w' ++ b :: tail) :=
    stops_space hw' fun c hc ↦ Option.some.inj hc ▸ hb
  have hinput : encode (n ++ (w ++ s ++ w')) ++ b :: tail =
      encode n ++ (encode (w ++ s) ++ (encode w' ++ b :: tail)) := by
    simp only [encode_append, List.append_assoc]
  have hreadName : readName isObject id
      { input := encode (n ++ (w ++ s ++ w')) ++ b :: tail, nodes } =
        some (text name, encode (w ++ s) ++ (encode w' ++ b :: tail)) :=
    readName_iff.mpr ⟨n, name, hname, hinput, hreadable, rfl, hfresh⟩
  rw [readValues_succ, hreadName, Option.bind_some]
  dsimp only
  rw [h hw hstops hrooted (fun p hp ↦ Option.some.inj hp ▸ hid) htree hdepth hcount]
  rfl

/-- A scalar is taken. -/
theorem Part.Taken.of_scalar (hbytes : encode s = b :: bytes)
    (hb : isBlank b = false ∧ b ≠ 0x22 ∧ b ≠ 0x7B ∧ b ≠ 0x5B)
    (hscalar : ∀ rest, Stops isNumeric rest → scalar (encode s ++ rest) = some rest) :
    Part.Taken .value s .scalar := by
  intro depth parent key rest w nodes hw hstops _ _ _ hdepth hcount
  obtain ⟨depth, rfl⟩ := Nat.exists_eq_succ_of_ne_zero (Nat.ne_zero_of_lt hdepth)
  have hread := hscalar rest hstops
  rw [hbytes] at hread
  rw [readValue_succ depth parent key (skipWhitespace_encode hw hbytes hb.1 rest),
    if_neg (not_le.mpr hcount), if_neg hb.2.1, if_neg (by simp [hb.2.2]), ← List.cons_append, hread]
  rfl

/-- A string is taken. -/
theorem Part.Taken.of_string (body : List Char) :
    Part.Taken .value ('"' :: body ++ ['"']) (.string body) := by
  intro depth parent key rest w nodes hw _ _ _ hadmissible hdepth hcount
  obtain ⟨depth, rfl⟩ := Nat.exists_eq_succ_of_ne_zero (Nat.ne_zero_of_lt hdepth)
  cases hadmissible with
  | string hreadable =>
    obtain ⟨v, hvalue, hlength⟩ := hreadable
    have hbytes : encode ('"' :: body ++ ['"']) = 0x22 :: encode (body ++ ['"']) := rfl
    have hstring : string (0x22 :: (encode (body ++ ['"']) ++ rest)) =
        some (encode v, rest) :=
      string_iff.mpr ⟨[], body, v, fun _ hc ↦ absurd hc List.not_mem_nil, rfl, hvalue, rfl, hlength⟩
    rw [readValue_succ depth parent key (skipWhitespace_encode hw hbytes rfl rest),
      if_neg (not_le.mpr hcount), if_pos rfl, hstring, treeNodes, text_eq hvalue]
    rfl

theorem consume_closing (hw : IsSpace w) (isObject : Bool) (rest : Text) :
    consume (closingByte isObject) (encode w ++ closingByte isObject :: rest) = some rest :=
  (consume_iff (isBlank_closingByte isObject)).mpr ⟨w, hw, rfl⟩

theorem Part.Taken.of_empty (isObject : Bool) (hw' : IsSpace w') :
    Part.Taken .value (opening isObject :: w' ++ [closing isObject]) (.branch isObject []) := by
  intro depth parent key rest w nodes hw _ _ _ _ hdepth hcount
  obtain ⟨depth, rfl⟩ := Nat.exists_eq_succ_of_ne_zero (Nat.ne_zero_of_lt hdepth)
  rw [readValue_branch hw hcount, consume_closing hw']
  rfl

/-- A container is taken if its items are. -/
theorem Part.Taken.branch (hs : Denotes (.items isObject) s items)
    (h : Part.Taken (.items isObject) s items) :
    Part.Taken .value (opening isObject :: s ++ [closing isObject]) (.branch isObject items) := by
  intro depth parent key rest w nodes hw _ hrooted hparent hadmissible hdepth hcount
  obtain ⟨depth, rfl⟩ := Nat.exists_eq_succ_of_ne_zero (Nat.ne_zero_of_lt hdepth)
  obtain ⟨w', b, bytes, hw', hbytes, hb, hne⟩ := first_byte hs
  have hnone : consume (closingByte isObject) (encode s ++ closingByte isObject :: rest) =
      none := by
    rw [hbytes, List.append_assoc]
    exact consume_eq_none hb hne hw' _
  have hsize : nodes.length + (Tree.sizes items + 1) ≤ 512 := hcount
  have hlength : (nodes ++ [branchNode isObject parent key]).length = nodes.length + 1 := by
    rw [List.length_append, List.length_singleton]
  have hfitting := fitting_of_admissible hadmissible hdepth hrooted hparent key hcount
  -- the loop has fuel for as many items as there may be values
  have hitems := Tree.length_le_sizes items
  rw [readValue_branch hw (by omega), hnone]
  show readValues _ _ _ _ _ = _
  rw [h (by omega) (by omega) (hrooted.append_branchNode isObject hparent key) hfitting, hlength,
    List.append_assoc]
  rfl

/-- The last item is taken if its value is. -/
theorem Part.Taken.last (h : Part.Taken .value s tree) (hname : Named isObject n name)
    (hw : IsSpace w) (hw' : IsSpace w') :
    Part.Taken (.items isObject) (n ++ (w ++ s ++ w')) [(name, tree)] := by
  intro depth id fuel rest nodes hid hfuel hrooted hfitting
  obtain ⟨fuel, rfl⟩ := Nat.exists_eq_succ_of_ne_zero (Nat.ne_zero_of_lt hfuel)
  have hstops : isNumeric (closingByte isObject) = false := by
    cases isObject with
    | false => rfl
    | true => rfl
  have hcomma : consume 0x2C (encode w' ++ closingByte isObject :: rest) = none := by
    refine consume_eq_none (isBlank_closingByte isObject) ?_ hw' rest
    cases isObject with
    | false => decide
    | true => decide
  rw [h.item hname hw hw' hstops hid hrooted hfitting, hcomma, consume_closing hw', itemNodes,
    itemNodes, List.append_nil]
  rfl

/-- Items are taken if the others are. -/
theorem Part.Taken.more {s' : List Char} (h : Part.Taken .value s tree)
    (hmore : Part.Taken (.items isObject) s' items) (hname : Named isObject n name)
    (hw : IsSpace w) (hw' : IsSpace w') :
    Part.Taken (.items isObject) (n ++ (w ++ s ++ w') ++ ',' :: s') ((name, tree) :: items) := by
  intro depth id fuel rest nodes hid hfuel hrooted hfitting
  obtain ⟨fuel, rfl⟩ := Nat.exists_eq_succ_of_ne_zero (Nat.ne_zero_of_lt hfuel)
  have hcomma : consume 0x2C
      (encode w' ++ 0x2C :: (encode s' ++ closingByte isObject :: rest)) =
        some (encode s' ++ closingByte isObject :: rest) :=
    (consume_iff rfl).mpr ⟨w', hw', rfl⟩
  have hinput : encode (n ++ (w ++ s ++ w') ++ ',' :: s') ++ closingByte isObject :: rest =
      encode (n ++ (w ++ s ++ w')) ++
        0x2C :: (encode s' ++ closingByte isObject :: rest) := by
    rw [encode_append, List.append_assoc, encode_cons, List.append_assoc]
    rfl
  have hnodes : Rooted (nodes ++ treeNodes tree (some id) (text name) nodes.length) :=
    hrooted.append_treeNodes tree (fun p hp ↦ Option.some.inj hp ▸ hid) (text name)
  rw [hinput, h.item hname hw hw' rfl hid hrooted hfitting, hcomma]
  show readValues _ _ _ _ _ = _
  rw [hmore (by rw [List.length_append]; omega) (Nat.le_of_succ_le_succ hfuel) hnodes
    ((fitting_cons_iff hid).mp hfitting).2, List.length_append, length_treeNodes, itemNodes,
    List.append_assoc]

/-- Whatever denotes something is read, where it keeps within the limits. -/
theorem taken {part : Part} {m : part.Meaning} (h : Denotes part s m) : Part.Taken part s m := by
  induction h with
  | null => exact Part.Taken.of_scalar rfl (by decide) fun _ _ ↦ scalar_literal (.inl rfl) _
  | true =>
    exact Part.Taken.of_scalar rfl (by decide) fun _ _ ↦ scalar_literal (.inr (.inl rfl)) _
  | false =>
    exact Part.Taken.of_scalar rfl (by decide) fun _ _ ↦ scalar_literal (.inr (.inr rfl)) _
  | number h =>
    have hne : ∀ b, isDigit b = true ∨ b = 0x2D →
        isBlank b = false ∧ b ≠ 0x22 ∧ b ≠ 0x7B ∧ b ≠ 0x5B := forall_byte (by decide +kernel)
    obtain ⟨b, bytes, hbytes, hb⟩ := head_number h
    exact Part.Taken.of_scalar hbytes (hne b hb) fun _ hstops ↦ scalar_number h hstops
  | @string body _ => exact Part.Taken.of_string body
  | empty isObject hw => exact Part.Taken.of_empty isObject hw
  | branch hs ih => exact Part.Taken.branch hs ih
  | last hname hw _ hw' ih => exact ih.last hname hw hw'
  | more hname hw _ hw' _ ih ihmore => exact ih.more ihmore hname hw hw'

/-- **The reader accepts the objects that keep within its limits, and decodes them.** -/
theorem read_iff (input : Text) (nodes : List JsonNode) : read input = some nodes ↔
    ∃ items, Accepts input items ∧ nodes = treeNodes (.branch true items) none [] 0 := by
  constructor
  · intro h
    rw [read] at h
    split_ifs at h with hlong
    split at h
    · exact nomatch h
    · rename_i s hvalue
      split_ifs at h with hend
      obtain rfl := Option.some.inj h
      obtain ⟨w, v, tree, hw, hinput, hv, hadmissible, hdepth, hcount, hnodes⟩ :=
        readValue_sound hvalue
      obtain ⟨w', hw', hrest⟩ := exists_space s.input
      rw [Bool.and_eq_true, decide_eq_true_eq] at hend
      obtain ⟨items, rfl⟩ : ∃ items, tree = .branch true items := by
        rw [hnodes] at hend
        cases tree with
        | scalar => exact nomatch hend.2
        | string body => exact nomatch hend.2
        | branch isObject items =>
          cases isObject with
          | false => exact nomatch hend.2
          | true => exact ⟨items, rfl⟩
      refine ⟨items, ⟨⟨w ++ v ++ w', ?_, w, v, w', rfl, hw, hv, hw'⟩, not_lt.mp hlong,
        Nat.le_of_lt_succ hdepth, ?_, hadmissible⟩, hnodes⟩
      · rw [Utf8.encode_append _ w', ← List.append_nil (Utf8.encode w'), ← hend.1, ← hrest]
        exact hinput
      · simpa using hcount
  · rintro ⟨items, ⟨⟨s, rfl, w, v, w', rfl, hw, hv, hw'⟩, hsize, hdepth, hcount, hstrings⟩, rfl⟩
    have hstops : Stops isNumeric (Utf8.encode w' ++ []) := stops_space hw' fun _ hc ↦ nomatch hc
    have hvalue : readValue 17 none [] { input := Utf8.encode (w ++ v) ++ (Utf8.encode w' ++ []) } =
        some { input := Utf8.encode w' ++ [], nodes := treeNodes (.branch true items) none [] 0 } :=
      taken hv hw hstops (fun _ hnode ↦ absurd hnode List.not_mem_nil) (fun _ hp ↦ nomatch hp)
        hstrings (Nat.lt_succ_of_le hdepth) (by simpa using hcount)
    rw [← List.append_assoc, ← Utf8.encode_append, List.append_nil, List.append_nil] at hvalue
    have hend : skipWhitespace (Utf8.encode w') = [] := by
      rw [← List.append_nil (Utf8.encode w'), skipWhitespace_append hw']
      rfl
    rw [read, if_neg (not_lt.mpr hsize), hvalue]
    dsimp only
    rw [hend]
    rfl

end JsonReader

end Skan.Detect
