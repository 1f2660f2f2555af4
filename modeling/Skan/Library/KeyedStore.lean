import Mathlib.Data.List.AList
import Mathlib.Data.Multiset.AddSub

/-!
# Keyed stores

A hash map as an imperative program uses it: `find`, `emplace`, `erase`, and an update of the value
found in place. The carrier is Mathlib's `AList` at a constant family, so the distinctness of the
keys is a field of the value and no client re-proves it.

## What is added to `AList`

* `emplace`, the insertion that refuses a key already present (`AList.insert` replaces it);
* `values`, the view a conservation argument needs, with its behaviour under `insert`, `erase` and
  `replace` (`values_insert`, `values_of_lookup`, `values_replace`);
* `size`, and how each operation moves it.

The order of `entries` is an artefact: a client whose result depends on it says so by quantifying
over stores with permuted entries.
-/

/-- A finite map from `κ` to `α`, with distinct keys. -/
abbrev KeyedStore (κ α : Type*) := AList fun _ : κ ↦ α

namespace AList

variable {κ α β : Type*} {p : α → Bool}

/-- The stored values, in entry order. -/
def values (s : KeyedStore κ α) : List α := s.entries.map Sigma.snd

/-- The number of entries. -/
def size (s : KeyedStore κ α) : ℕ := s.entries.length

@[simp] theorem values_empty : values (∅ : KeyedStore κ α) = [] := rfl

@[simp] theorem size_empty : size (∅ : KeyedStore κ α) = 0 := rfl

theorem length_values (s : KeyedStore κ α) : s.values.length = s.size := by
  simp [values, size]

theorem values_eq_nil_iff {s : KeyedStore κ α} : s.values = [] ↔ s.size = 0 := by
  rw [← length_values, List.length_eq_zero_iff]

/-- An entry-less store is the empty one. -/
theorem eq_empty_of_size_eq_zero {s : KeyedStore κ α} (h : s.size = 0) : s = ∅ :=
  AList.ext (List.length_eq_zero_iff.mp h)

variable [DecidableEq κ] {s : KeyedStore κ α} {k : κ} {v : α}

/-- Insertion under a fresh key; `none` when the key is taken. -/
def emplace (s : KeyedStore κ α) (k : κ) (v : α) : Option (KeyedStore κ α) :=
  if k ∈ s then none else some (s.insert k v)

theorem emplace_eq_some_iff {s' : KeyedStore κ α} :
    s.emplace k v = some s' ↔ k ∉ s ∧ s.insert k v = s' := by
  unfold emplace
  split <;> simp_all

theorem mem_of_lookup (h : s.lookup k = some v) : k ∈ s := by
  rw [← AList.lookup_isSome, h]
  rfl

/-! ### Finding an entry splits the store -/

section

variable (h : s.lookup k = some v)

include h

theorem entries_of_lookup : s.entries.Perm (⟨k, v⟩ :: (s.erase k).entries) := by
  obtain ⟨b, l₁, l₂, -, hl, hkerase⟩ := List.exists_of_kerase (mem_of_lookup h)
  have hmem : (⟨k, b⟩ : Sigma fun _ : κ ↦ α) ∈ s.entries := by
    rw [hl]
    simp
  obtain rfl : v = b := Option.some.inj (h.symm.trans (AList.mem_lookup_iff.mpr hmem))
  have herase : (s.erase k).entries = l₁ ++ l₂ := hkerase
  rw [hl, herase]
  exact List.perm_middle

theorem values_of_lookup : s.values.Perm (v :: (s.erase k).values) := by
  have hmap := (entries_of_lookup h).map Sigma.snd
  rwa [List.map_cons] at hmap

theorem size_of_lookup : s.size = (s.erase k).size + 1 := by
  simpa [length_values] using (values_of_lookup h).length_eq

theorem mem_values_of_lookup : v ∈ s.values :=
  (values_of_lookup h).mem_iff.mpr List.mem_cons_self

end

/-- A store in which nothing is found is empty. -/
theorem size_eq_zero_of_lookup (h : ∀ k, s.lookup k = none) : s.size = 0 := by
  refine List.length_eq_zero_iff.mpr (List.eq_nil_iff_forall_not_mem.mpr fun entry hentry ↦ ?_)
  exact AList.lookup_eq_none.mp (h entry.1) (List.mem_keys_of_mem hentry)

theorem erase_of_notMem (h : k ∉ s) : s.erase k = s :=
  AList.ext (List.kerase_of_notMem_keys h)

/-! ### Inserting under a fresh key -/

theorem values_insert (v : α) (h : k ∉ s) : (s.insert k v).values = v :: s.values := by
  rw [values, AList.entries_insert_of_notMem h]
  rfl

theorem size_insert (v : α) (h : k ∉ s) : (s.insert k v).size = s.size + 1 := by
  rw [size, AList.entries_insert_of_notMem h]
  rfl

/-- Erasing what was just inserted under a fresh key undoes the insertion. -/
theorem erase_insert (v : α) (h : k ∉ s) : (s.insert k v).erase k = s := by
  have hk : (s.insert k v).entries = ⟨k, v⟩ :: s.entries := AList.entries_insert_of_notMem h
  apply AList.ext
  calc ((s.insert k v).erase k).entries = List.kerase k (⟨k, v⟩ :: s.entries) := by rw [← hk]; rfl
    _ = s.entries := List.kerase_cons_eq rfl

/-! ### Replacing the value found -/

theorem entries_replace (w : α) (h : s.lookup k = some v) :
    (s.replace k w).entries.Perm (⟨k, w⟩ :: (s.erase k).entries) := by
  have hcons : List.kreplace k w (⟨k, v⟩ :: (s.erase k).entries) =
      ⟨k, w⟩ :: (s.erase k).entries := List.lookmap_cons_some _ _ (by simp)
  rw [← hcons]
  exact List.Perm.kreplace s.nodupKeys (entries_of_lookup h)

theorem values_replace (w : α) (h : s.lookup k = some v) :
    (s.replace k w).values.Perm (w :: (s.erase k).values) := by
  have hmap := (entries_replace w h).map Sigma.snd
  rwa [List.map_cons] at hmap

theorem size_replace (w : α) (h : s.lookup k = some v) : (s.replace k w).size = s.size := by
  rw [size_of_lookup h]
  simpa [length_values] using (values_replace w h).length_eq

/-- A replacement that keeps `f` keeps the `f`-image of the store. -/
theorem map_values_replace (f : α → β) {w : α} (h : s.lookup k = some v) (hf : f w = f v) :
    ((s.replace k w).values.map f).Perm (s.values.map f) := by
  have hw := (values_replace w h).map f
  have hv := (values_of_lookup h).map f
  rw [List.map_cons] at hw hv
  rw [hf] at hw
  exact hw.trans hv.symm

theorem lookup_replace (w : α) (h : s.lookup k = some v) : (s.replace k w).lookup k = some w :=
  AList.mem_lookup_iff.mpr ((entries_replace w h).mem_iff.mpr List.mem_cons_self)

theorem lookup_replace_ne {k' : κ} (hne : k' ≠ k) (w : α) (h : s.lookup k = some v) :
    (s.replace k w).lookup k' = s.lookup k' := by
  refine Option.ext fun u ↦ ?_
  show u ∈ (s.replace k w).lookup k' ↔ u ∈ s.lookup k'
  rw [AList.mem_lookup_iff, AList.mem_lookup_iff, (entries_replace w h).mem_iff,
    (entries_of_lookup h).mem_iff, List.mem_cons, List.mem_cons]
  simp [hne]

/-- The lookup after a replacement, at any key. -/
theorem lookup_replace_eq_ite (w : α) (h : s.lookup k = some v) (k' : κ) :
    (s.replace k w).lookup k' = if k' = k then some w else s.lookup k' := by
  split_ifs with heq
  · rw [heq]
    exact lookup_replace w h
  · exact lookup_replace_ne heq w h

/-- The lookup after an insertion, at any key. -/
theorem lookup_insert_eq_ite (s : KeyedStore κ α) (k : κ) (v : α) (k' : κ) :
    (s.insert k v).lookup k' = if k' = k then some v else s.lookup k' := by
  split_ifs with heq
  · rw [heq, AList.lookup_insert]
  · exact AList.lookup_insert_ne heq

/-- The lookup after an erasure, at any key. -/
theorem lookup_erase_eq_ite (s : KeyedStore κ α) (k k' : κ) :
    (s.erase k).lookup k' = if k' = k then none else s.lookup k' := by
  split_ifs with heq
  · rw [heq, AList.lookup_erase]
  · exact AList.lookup_erase_ne heq

/-- Which keys have a value of a kind after an insertion under a fresh key. -/
theorem map_lookup_insert {β : Type*} {f : α → β} {b : β} {k' : κ} (hfresh : k ∉ s) :
    ((s.insert k v).lookup k').map f = some b ↔
      k' = k ∧ b = f v ∨ (s.lookup k').map f = some b := by
  rw [lookup_insert_eq_ite]
  split_ifs with heq
  · rw [heq, AList.lookup_eq_none.mpr hfresh]
    exact ⟨fun h ↦ .inl ⟨rfl, (Option.some.inj h).symm⟩,
      fun h ↦ congrArg some (h.resolve_right nofun).2.symm⟩
  · exact (or_iff_right fun h ↦ heq h.1).symm

/-- Which keys have a value of a kind after an erasure. -/
theorem map_lookup_erase {β : Type*} {f : α → β} {b : β} {k' : κ} :
    ((s.erase k).lookup k').map f = some b ↔ (s.lookup k').map f = some b ∧ k' ≠ k := by
  rw [lookup_erase_eq_ite]
  split_ifs with heq
  · exact iff_of_false nofun fun h ↦ h.2 heq
  · exact (and_iff_left heq).symm

/-- Only the last replacement counts. -/
theorem replace_replace (s : KeyedStore κ α) (k : κ) (v w : α) :
    (s.replace k v).replace k w = s.replace k w := by
  apply AList.ext
  show List.kreplace k w (List.kreplace k v s.entries) = List.kreplace k w s.entries
  generalize s.entries = entries
  induction entries with
  | nil => rfl
  | cons e entries ih =>
    by_cases he : k = e.1
    · have hhead : ∀ (u : α) (first : Sigma fun _ : κ ↦ α), k = first.1 →
          List.kreplace k u (first :: entries) = ⟨k, u⟩ :: entries := fun u first hfirst ↦
        List.lookmap_cons_some _ _ (by rw [if_pos hfirst])
      rw [hhead v e he, hhead w ⟨k, v⟩ rfl, hhead w e he]
    · have htail : ∀ (u : α) (rest : List (Sigma fun _ : κ ↦ α)),
          List.kreplace k u (e :: rest) = e :: List.kreplace k u rest := fun u rest ↦
        List.lookmap_cons_none _ _ (by rw [if_neg he])
      rw [htail v, htail w, htail w, ih]

/-- How a replacement changes the number of values of a kind. -/
theorem countP_values_replace (p : α → Bool) (w : α) (h : s.lookup k = some v) :
    (s.replace k w).values.countP p + (if p v then 1 else 0) =
      s.values.countP p + if p w then 1 else 0 := by
  rw [(values_replace w h).countP_eq, (values_of_lookup h).countP_eq, List.countP_cons,
    List.countP_cons]
  omega

/-! ### Changing every value -/

/-- Every value changed by `f`. -/
def mapValues (f : α → β) (s : KeyedStore κ α) : KeyedStore κ β where
  entries := s.entries.map fun e ↦ ⟨e.1, f e.2⟩
  nodupKeys := by
    have h : (s.entries.map fun e ↦ (⟨e.1, f e.2⟩ : Sigma fun _ : κ ↦ β)).keys =
        s.entries.keys := by simp [List.keys, Function.comp_def]
    rw [List.NodupKeys, h]
    exact s.nodupKeys

omit [DecidableEq κ] in
theorem values_mapValues (f : α → β) (s : KeyedStore κ α) :
    (s.mapValues f).values = s.values.map f := by
  simp [values, mapValues, Function.comp_def]

theorem lookup_mapValues (f : α → β) (s : KeyedStore κ α) (k : κ) :
    (s.mapValues f).lookup k = (s.lookup k).map f := by
  refine Option.ext fun u ↦ ?_
  rw [Option.map_eq_some_iff]
  show u ∈ (s.mapValues f).lookup k ↔ _
  rw [AList.mem_lookup_iff]
  constructor
  · intro hmem
    obtain ⟨e, he, heq⟩ := List.mem_map.mp hmem
    obtain ⟨rfl, hu⟩ := Sigma.mk.inj_iff.mp heq
    exact ⟨e.2, AList.mem_lookup_iff.mpr he, eq_of_heq hu⟩
  · rintro ⟨v, hv, rfl⟩
    exact List.mem_map.mpr ⟨⟨k, v⟩, AList.mem_lookup_iff.mp hv, rfl⟩

/-! ### The only value of a kind -/

/-- Walk the entries for a value that satisfies `p`, and give up at a second one; `found` is the key
of the first. -/
def findUniqueLoop (p : α → Bool) : Option κ → List (Sigma fun _ : κ ↦ α) → Option κ
  | found, [] => found
  | none, e :: es => if p e.2 then findUniqueLoop p (some e.1) es else findUniqueLoop p none es
  | some k, e :: es => if p e.2 then none else findUniqueLoop p (some k) es

/-- The key of the only value that satisfies `p`. -/
def findUnique (p : α → Bool) (s : KeyedStore κ α) : Option κ := findUniqueLoop p none s.entries

omit [DecidableEq κ] in
theorem findUniqueLoop_some {k k' : κ} {es : List (Sigma fun _ : κ ↦ α)} :
    findUniqueLoop p (some k) es = some k' ↔ k = k' ∧ ∀ e ∈ es, p e.2 = false := by
  induction es with
  | nil => simp [findUniqueLoop]
  | cons e es ih =>
    rw [findUniqueLoop]
    cases hp : p e.2 with
    | true => simp [hp]
    | false => simp [hp, ih]

omit [DecidableEq κ] in
theorem findUniqueLoop_none {k : κ} {es : List (Sigma fun _ : κ ↦ α)} (hnodup : es.NodupKeys) :
    findUniqueLoop p none es = some k ↔
      ∃ v, ⟨k, v⟩ ∈ es ∧ p v = true ∧ ∀ e ∈ es, p e.2 = true → e.1 = k := by
  induction es with
  | nil => simp [findUniqueLoop]
  | cons e es ih =>
    obtain ⟨hfresh, hrest⟩ := List.nodupKeys_cons.mp hnodup
    rw [findUniqueLoop]
    cases hp : p e.2 with
    | true =>
      rw [if_pos rfl, findUniqueLoop_some]
      constructor
      · rintro ⟨rfl, hnone⟩
        refine ⟨e.2, List.mem_cons_self, hp, fun e' he' hp' ↦ ?_⟩
        rcases List.mem_cons.mp he' with rfl | he'
        · rfl
        · exact absurd hp' (by simp [hnone e' he'])
      · rintro ⟨v, -, -, honly⟩
        have hkey : e.1 = k := honly e List.mem_cons_self hp
        refine ⟨hkey, fun e' he' ↦ ?_⟩
        -- a second such value would be stored under the same key
        by_contra hp'
        have hkey' := honly e' (List.mem_cons_of_mem _ he') (by simpa using hp')
        exact hfresh (hkey.trans hkey'.symm ▸ List.mem_keys_of_mem he')
    | false =>
      rw [if_neg (by decide), ih hrest]
      constructor
      · rintro ⟨v, hmem, hv, honly⟩
        refine ⟨v, List.mem_cons_of_mem _ hmem, hv, fun e' he' hp' ↦ ?_⟩
        rcases List.mem_cons.mp he' with rfl | he'
        · exact absurd hp' (by simp [hp])
        · exact honly e' he' hp'
      · rintro ⟨v, hmem, hv, honly⟩
        rcases List.mem_cons.mp hmem with rfl | hmem
        · exact absurd hv (by simp [hp])
        · exact ⟨v, hmem, hv, fun e' he' hp' ↦ honly e' (List.mem_cons_of_mem _ he') hp'⟩

/-- **The scan finds a value exactly when it is the only one of its kind**, in whatever order it
meets the entries. -/
theorem findUnique_eq_some_iff :
    s.findUnique p = some k ↔
      ∃ v, s.lookup k = some v ∧ p v = true ∧
        ∀ k' v', s.lookup k' = some v' → p v' = true → k' = k := by
  rw [findUnique, findUniqueLoop_none s.nodupKeys]
  constructor
  · rintro ⟨v, hmem, hv, honly⟩
    exact ⟨v, AList.mem_lookup_iff.mpr hmem, hv,
      fun k' v' hlookup hv' ↦ honly ⟨k', v'⟩ (AList.mem_lookup_iff.mp hlookup) hv'⟩
  · rintro ⟨v, hlookup, hv, honly⟩
    exact ⟨v, AList.mem_lookup_iff.mp hlookup, hv,
      fun e he hp ↦ honly e.1 e.2 (AList.mem_lookup_iff.mpr he) hp⟩

/-! ### The first value of a kind -/

/-- The first entry whose value satisfies `p`, as the store lists them. -/
def findFirst (p : α → Bool) (s : KeyedStore κ α) : Option (κ × α) :=
  (s.entries.find? fun e ↦ p e.2).map fun e ↦ (e.1, e.2)

theorem lookup_of_findFirst (h : s.findFirst p = some (k, v)) :
    s.lookup k = some v ∧ p v = true := by
  obtain ⟨e, he, heq⟩ := Option.map_eq_some_iff.mp h
  obtain ⟨rfl, rfl⟩ := Prod.mk.inj heq
  exact ⟨AList.mem_lookup_iff.mpr (List.mem_of_find?_eq_some he),
    List.find?_some (p := fun e : Sigma fun _ : κ ↦ α ↦ p e.2) he⟩

/-- **The only value of its kind is the first**, whatever the order of the entries. -/
theorem findFirst_of_unique (hlookup : s.lookup k = some v) (hv : p v = true)
    (honly : ∀ k' v', s.lookup k' = some v' → p v' = true → k' = k) :
    s.findFirst p = some (k, v) := by
  cases hfirst : s.findFirst p with
  | none =>
    have hnone := List.find?_eq_none.mp (Option.map_eq_none_iff.mp hfirst) ⟨k, v⟩
      (AList.mem_lookup_iff.mp hlookup)
    exact absurd hv hnone
  | some found =>
    obtain ⟨hfound, hp⟩ := lookup_of_findFirst hfirst
    obtain rfl := honly found.1 found.2 hfound hp
    obtain rfl := Option.some.inj (hlookup.symm.trans hfound)
    rfl

/-- The entries whose values satisfy `p`. -/
def keep (p : α → Bool) (s : KeyedStore κ α) : KeyedStore κ α where
  entries := s.entries.filter fun e ↦ p e.2
  nodupKeys := s.nodupKeys.sublist List.filter_sublist

theorem lookup_keep_eq_some_iff :
    (s.keep p).lookup k = some v ↔ s.lookup k = some v ∧ p v = true := by
  have hmem : ⟨k, v⟩ ∈ (s.keep p).entries ↔ ⟨k, v⟩ ∈ s.entries ∧ p v = true := List.mem_filter
  exact AList.mem_lookup_iff.trans (hmem.trans (and_congr_left' AList.mem_lookup_iff.symm))

end AList
