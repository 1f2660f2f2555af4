import Mathlib.Data.List.Dedup
import Mathlib.Data.List.Induction
import Mathlib.Data.List.Sort
import Skan.Library.KeyedStore

/-!
# Collecting

Two things that scripting languages do with a list at once: to sort the set of its elements
(`List.sortedSet`), and to collect it into a store, an element after the other under a key of its
own (`AList.collect`). Neither depends on more than what is claimed of it here: the first on which
elements there are, the second, at each key, on the elements with this key.
-/

namespace List

variable {α : Type*} [LinearOrder α] {l l' : List α}

/-- The elements in order, each of them once. -/
def sortedSet (l : List α) : List α := l.dedup.insertionSort (· ≤ ·)

@[simp] theorem mem_sortedSet {a : α} : a ∈ l.sortedSet ↔ a ∈ l := by
  rw [sortedSet, mem_insertionSort, mem_dedup]

theorem nodup_sortedSet (l : List α) : l.sortedSet.Nodup :=
  (perm_insertionSort _ _).nodup_iff.mpr l.nodup_dedup

theorem pairwise_sortedSet (l : List α) : l.sortedSet.Pairwise (· ≤ ·) :=
  pairwise_insertionSort _ _

/-- Lists in order without duplicates are equal if they have the same elements. -/
theorem eq_of_pairwise_of_mem_iff (hl : l.Pairwise (· ≤ ·)) (hl' : l'.Pairwise (· ≤ ·))
    (hnodup : l.Nodup) (hnodup' : l'.Nodup) (h : ∀ a, a ∈ l ↔ a ∈ l') : l = l' :=
  ((perm_ext_iff_of_nodup hnodup hnodup').mpr h).eq_of_pairwise
    (fun _ _ _ _ ↦ le_antisymm) hl hl'

/-- What is sorted and has no duplicates is a sorted set. -/
theorem sortedSet_eq_self (hl : l.Pairwise (· ≤ ·)) (hnodup : l.Nodup) : l.sortedSet = l :=
  eq_of_pairwise_of_mem_iff (pairwise_sortedSet l) hl (nodup_sortedSet l) hnodup
    fun _ ↦ mem_sortedSet

@[simp] theorem sortedSet_sortedSet (l : List α) : l.sortedSet.sortedSet = l.sortedSet :=
  sortedSet_eq_self (pairwise_sortedSet l) (nodup_sortedSet l)

/-! ### Sorting by a key -/

section

variable {β : Type*} {key : β → α}

/-- What is sorted by a key is in the order of the keys. -/
theorem pairwise_insertionSort_key (key : β → α) (l : List β) :
    (l.insertionSort fun a b ↦ key a ≤ key b).Pairwise fun a b ↦ key a ≤ key b := by
  have hpairwise := pairwise_insertionSort (· ≤ ·) (l.map key)
  have hsort := map_insertionSort (fun a b ↦ key a ≤ key b) (· ≤ ·) key l fun _ _ _ _ ↦ Iff.rfl
  rw [← hsort] at hpairwise
  exact pairwise_map.mp hpairwise

/-- An element that comes before all the others is the first. -/
theorem insertionSort_cons_of_le {a : β} {l : List β} (h : ∀ b ∈ l, key a ≤ key b) :
    ((a :: l).insertionSort fun a b ↦ key a ≤ key b) =
      a :: l.insertionSort fun a b ↦ key a ≤ key b := by
  rw [insertionSort_cons]
  cases hsorted : l.insertionSort fun a b ↦ key a ≤ key b with
  | nil => rfl
  | cons b rest =>
    have hb : b ∈ l := (mem_insertionSort _).mp (hsorted ▸ mem_cons_self)
    rw [orderedInsert, if_pos (h b hb)]

/-- A list that is in the order of its keys stays as it is. -/
theorem insertionSort_eq_self_of_key {l : List β} (h : l.Pairwise fun a b ↦ key a ≤ key b) :
    (l.insertionSort fun a b ↦ key a ≤ key b) = l := by
  induction l with
  | nil => rfl
  | cons a l ih =>
    obtain ⟨ha, hl⟩ := pairwise_cons.mp h
    rw [insertionSort_cons_of_le ha, ih hl]

end

end List

namespace List

variable {α κ : Type*} {l : List α} {a : α}

/-! ### Picking and parting -/

/-- The elements whose key is one of the names are parted by them. -/
theorem flatMap_filter_perm [DecidableEq κ] {key : α → κ} {names : List κ} (l : List α)
    (hnodup : names.Nodup) :
    (names.flatMap fun name ↦ l.filter (key · = name)).Perm (l.filter (key · ∈ names)) := by
  induction names with
  | nil => simp
  | cons name names ih =>
    obtain ⟨hname, hnames⟩ := nodup_cons.mp hnodup
    have hfirst : (l.filter (key · ∈ name :: names)).filter (key · = name) =
        l.filter (key · = name) := by
      rw [filter_filter]
      exact filter_congr fun a _ ↦ by simpa using Or.inl
    have hothers : (l.filter (key · ∈ name :: names)).filter (fun a ↦ !decide (key a = name)) =
        l.filter (key · ∈ names) := by
      rw [filter_filter]
      refine filter_congr fun a _ ↦ ?_
      by_cases ha : key a = name
      · simp [ha, hname]
      · simp [ha]
    have hsplit := filter_append_perm (fun a ↦ decide (key a = name))
      (l.filter (key · ∈ name :: names))
    rw [flatMap_cons, ← hfirst]
    exact ((ih hnames).append_left _).trans (by rwa [hothers] at hsplit)

/-- If every key is one of the names, this parts the list. -/
theorem flatMap_filter_perm_of_mem [DecidableEq κ] {key : α → κ} {names : List κ}
    (hnodup : names.Nodup) (h : ∀ a ∈ l, key a ∈ names) :
    (names.flatMap fun name ↦ l.filter (key · = name)).Perm l :=
  (flatMap_filter_perm l hnodup).trans
    (.of_eq (filter_eq_self.mpr fun a ha ↦ decide_eq_true (h a ha)))

end List

namespace AList

variable {κ α β : Type*} [DecidableEq κ] {key : α → κ} {step : Option β → α → β} {l : List α}
  {k : κ}

/-- The store in which every element has updated what stands at its key. -/
def collect (key : α → κ) (step : Option β → α → β) (l : List α) : KeyedStore κ β :=
  l.foldl (fun s a ↦ s.insert (key a) (step (s.lookup (key a)) a)) ∅

theorem collect_concat (a : α) : collect key step (l ++ [a]) =
    (collect key step l).insert (key a) (step ((collect key step l).lookup (key a)) a) := by
  rw [collect, List.foldl_append]
  rfl

/-- **What stands at a key** comes from the elements with this key, in their order. -/
theorem lookup_collect : (collect key step l).lookup k =
    (l.filter fun a ↦ key a = k).foldl (fun b a ↦ some (step b a)) none := by
  induction l using List.reverseRecOn with
  | nil => rfl
  | append_singleton l a ih =>
    rw [collect_concat, List.filter_append]
    by_cases ha : key a = k
    · subst ha
      rw [AList.lookup_insert, ih, List.filter_singleton, decide_eq_true rfl, List.foldl_append]
      rfl
    · rw [AList.lookup_insert_ne (Ne.symm ha), ih, List.filter_singleton, decide_eq_false ha]
      simp

theorem mem_keys_collect : k ∈ (collect key step l).keys ↔ k ∈ l.map key := by
  induction l using List.reverseRecOn with
  | nil => exact Iff.rfl
  | append_singleton l a ih =>
    rw [collect_concat, ← AList.mem_keys, AList.mem_insert, AList.mem_keys, ih, List.map_append,
      List.mem_append, or_comm]
    exact or_congr_right List.mem_singleton.symm

/-- The values in the order of their keys. -/
def sortedValues [LinearOrder κ] (s : KeyedStore κ β) : List β :=
  (s.keys.insertionSort (· ≤ ·)).filterMap s.lookup

theorem sortedKeys_collect [LinearOrder κ] :
    (collect key step l).keys.insertionSort (· ≤ ·) = (l.map key).sortedSet :=
  List.eq_of_pairwise_of_mem_iff (List.pairwise_insertionSort _ _) (List.pairwise_sortedSet _)
    ((List.perm_insertionSort _ _).nodup_iff.mpr (AList.keys_nodup _)) (List.nodup_sortedSet _)
    fun k ↦ by rw [List.mem_insertionSort, mem_keys_collect, List.mem_sortedSet]

/-! ### One element at each key -/

section

variable (hkey : Function.Injective key)

include hkey

/-- The elements under keys of their own. -/
theorem lookup_collect_of_injective {a : α} (ha : a ∈ l) :
    (collect key (fun _ a ↦ a) l).lookup (key a) = some a := by
  have hlast : ∀ (same : List α) (b : Option α), (∀ c ∈ same, c = a) → same ≠ [] →
      same.foldl (fun _ c ↦ some c) b = some a := by
    intro same
    induction same with
    | nil => exact fun _ _ hne ↦ absurd rfl hne
    | cons c same ih =>
      intro b hsame _
      rw [List.foldl_cons]
      by_cases hnil : same = []
      · rw [hnil, hsame c List.mem_cons_self]
        rfl
      · exact ih _ (fun d hd ↦ hsame d (List.mem_cons_of_mem c hd)) hnil
  rw [lookup_collect]
  refine hlast _ _ (fun c hc ↦ hkey (by simpa using (List.mem_filter.mp hc).2)) ?_
  exact List.ne_nil_of_mem (List.mem_filter.mpr ⟨ha, by simp⟩)

variable [LinearOrder κ]

/-- They come back once each, in the order of the keys. -/
theorem map_key_sortedValues :
    (collect key (fun _ a ↦ a) l).sortedValues.map key = (l.map key).sortedSet := by
  rw [sortedValues, sortedKeys_collect, List.map_filterMap]
  refine Eq.trans (List.filterMap_congr fun k hk ↦ ?_) List.filterMap_some
  obtain ⟨a, ha, rfl⟩ := List.mem_map.mp (List.mem_sortedSet.mp hk)
  rw [lookup_collect_of_injective hkey ha]
  rfl

theorem mem_sortedValues_collect {a : α} :
    a ∈ (collect key (fun _ a ↦ a) l).sortedValues ↔ a ∈ l := by
  rw [← List.mem_map_of_injective hkey, map_key_sortedValues hkey, List.mem_sortedSet,
    List.mem_map_of_injective hkey]

theorem nodup_sortedValues_collect : (collect key (fun _ a ↦ a) l).sortedValues.Nodup :=
  List.Nodup.of_map key (map_key_sortedValues hkey ▸ List.nodup_sortedSet _)

end

/-! ### Groups -/

/-- The elements by their keys: `d.setdefault(key(a), []).append(a)` for each of them. -/
def groupBy (key : α → κ) (l : List α) : KeyedStore κ (List α) :=
  collect key (fun group a ↦ group.getD [] ++ [a]) l

theorem lookup_groupBy (hk : k ∈ l.map key) :
    (groupBy key l).lookup k = some (l.filter fun a ↦ key a = k) := by
  have hfold : ∀ (group : List α) (b : Option (List α)),
      group.foldl (fun b a ↦ some (b.getD [] ++ [a])) b =
        if group = [] then b else some (b.getD [] ++ group) := by
    intro group
    induction group with
    | nil => exact fun b ↦ rfl
    | cons a group ih =>
      intro b
      rw [List.foldl_cons, ih, if_neg (List.cons_ne_nil a group)]
      split
      · rename_i hnil
        rw [hnil]
      · rw [Option.getD_some, List.append_assoc]
        rfl
  obtain ⟨a, ha, rfl⟩ := List.mem_map.mp hk
  have hmem : a ∈ l.filter fun b ↦ key b = key a := List.mem_filter.mpr ⟨ha, by simp⟩
  rw [groupBy, lookup_collect, hfold, if_neg (List.ne_nil_of_mem hmem)]
  rfl

theorem exists_eq_filter_of_mem_groupBy {group : List α} (h : group ∈ (groupBy key l).values) :
    ∃ k, group = l.filter fun a ↦ key a = k := by
  obtain ⟨⟨k, group⟩, hentry, rfl⟩ := List.mem_map.mp h
  have hlookup : (groupBy key l).lookup k = some group := AList.mem_lookup_iff.mpr hentry
  have hk : k ∈ (groupBy key l).keys := AList.mem_keys.mp (mem_of_lookup hlookup)
  exact ⟨k, Option.some.inj (hlookup.symm.trans (lookup_groupBy (mem_keys_collect.mp hk)))⟩

theorem sortedValues_groupBy [LinearOrder κ] : (groupBy key l).sortedValues =
    (l.map key).sortedSet.map fun k ↦ l.filter fun a ↦ key a = k := by
  have hlookup : ∀ k ∈ (l.map key).sortedSet, (groupBy key l).lookup k =
      some (l.filter fun a ↦ key a = k) := fun k hk ↦ lookup_groupBy (List.mem_sortedSet.mp hk)
  have hkeys : (groupBy key l).keys.insertionSort (· ≤ ·) = (l.map key).sortedSet :=
    sortedKeys_collect
  rw [sortedValues, hkeys, List.filterMap_congr hlookup]
  exact congrFun List.filterMap_eq_map _

end AList
