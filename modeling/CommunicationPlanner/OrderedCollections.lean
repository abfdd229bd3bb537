import Std.Data.ExtTreeMap
import Mathlib.Data.List.Dedup
import Mathlib.Data.List.Forall2
import Mathlib.Data.List.Sort
import Mathlib.Data.Prod.Lex
import Mathlib.Order.Std

/-!
# Ordered maps and sets built from lists

`indexBy key items` is the map that a loop `index[key item] = item` builds: a
later item replaces an earlier one of the same key.  When the keys are
pairwise distinct the map does not depend on the order of the items, and this
is what makes lookups insensitive to the order in which evidence arrived.

`replaceOrAppend` keeps a list of records with one record a key.

`orderedSet items` is the vector copied out of an ordered set into which the
items were inserted.

`sortBy less items` is a stable sort by a comparator.  A comparator need not
come from a linear order on the whole type; what the lemmas ask for is a rank
into some linear order that the comparator agrees with on the items at hand.
-/

namespace OrderedCollections

variable {κ α β : Type} [LinearOrder κ]

/-- The map built by assigning every item to its key, in list order. -/
def indexBy
    (key : α → κ)
    (items : List α) :
    Std.ExtTreeMap κ α :=
  items.foldl (fun index item => index.insert (key item) item) ∅

/--
The loop invariant: what was indexed before, unless a later item replaces it.
-/
private theorem getElem?_foldl_insert
    (key : α → κ)
    (items : List α)
    (index : Std.ExtTreeMap κ α)
    (wanted : κ) :
    (items.foldl (fun index item => index.insert (key item) item)
        index)[wanted]? =
      (items.reverse.find? fun item => key item = wanted).or
        index[wanted]? := by
  induction items generalizing index with
  | nil =>
      simp
  | cons item rest inductionHypothesis =>
      simp only [List.foldl_cons, inductionHypothesis,
        Std.ExtTreeMap.getElem?_insert, Std.LawfulEqCmp.compare_eq_iff_eq,
        List.reverse_cons, List.find?_append]
      cases rest.reverse.find? fun item => key item = wanted with
      | some found =>
          simp
      | none =>
          by_cases sameKey : key item = wanted <;> simp [sameKey]

/-- A lookup finds the last item of the wanted key. -/
theorem getElem?_indexBy
    (key : α → κ)
    (items : List α)
    (wanted : κ) :
    (indexBy key items)[wanted]? =
      items.reverse.find? fun item => key item = wanted := by
  simp [indexBy, getElem?_foldl_insert]

/-- Every indexed item is one of the items, under its own key. -/
theorem mem_of_getElem?_indexBy
    {key : α → κ}
    {items : List α}
    {wanted : κ}
    {item : α}
    (found : (indexBy key items)[wanted]? = some item) :
    item ∈ items ∧ key item = wanted := by
  rw [getElem?_indexBy] at found
  have member := List.mem_of_find?_eq_some found
  have sameKey := List.find?_some found
  exact ⟨List.mem_reverse.mp member, by simpa using sameKey⟩

/-- A key is indexed exactly when some item has it. -/
theorem isSome_getElem?_indexBy
    {key : α → κ}
    {items : List α}
    {wanted : κ} :
    (indexBy key items)[wanted]?.isSome ↔
      ∃ item ∈ items, key item = wanted := by
  rw [getElem?_indexBy, List.find?_isSome]
  simp

/-- Items that keep their keys are found where they were. -/
theorem getElem?_indexBy_map
    (key : α → κ)
    (change : α → α)
    (keepsKey : ∀ item, key (change item) = key item)
    (items : List α)
    (wanted : κ) :
    (indexBy key (items.map change))[wanted]? =
      (indexBy key items)[wanted]?.map change := by
  simp only [getElem?_indexBy, ← List.map_reverse, List.find?_map,
    Function.comp_def, keepsKey]

/-- With pairwise distinct keys every item is found under its key. -/
theorem getElem?_indexBy_of_mem
    {key : α → κ}
    {items : List α}
    (distinct : (items.map key).Nodup)
    {item : α}
    (member : item ∈ items) :
    (indexBy key items)[key item]? = some item := by
  have present :
      (indexBy key items)[key item]?.isSome :=
    isSome_getElem?_indexBy.mpr ⟨item, member, rfl⟩
  obtain ⟨found, lookup⟩ := Option.isSome_iff_exists.mp present
  obtain ⟨foundMember, sameKey⟩ := mem_of_getElem?_indexBy lookup
  have same : found = item :=
    List.inj_on_of_nodup_map distinct foundMember member sameKey
  rw [lookup, same]

/-- With pairwise distinct keys the order of the items does not matter. -/
theorem indexBy_eq_of_perm
    {key : α → κ}
    {first second : List α}
    (distinct : (first.map key).Nodup)
    (permuted : first.Perm second) :
    indexBy key first = indexBy key second := by
  have secondDistinct : (second.map key).Nodup :=
    (permuted.map key).nodup_iff.mp distinct
  apply Std.ExtTreeMap.ext_getElem?
  intro wanted
  cases lookup : (indexBy key second)[wanted]? with
  | some found =>
      obtain ⟨member, rfl⟩ := mem_of_getElem?_indexBy lookup
      exact getElem?_indexBy_of_mem distinct (permuted.mem_iff.mpr member)
  | none =>
      rw [← Option.not_isSome_iff_eq_none] at lookup ⊢
      rw [isSome_getElem?_indexBy] at lookup ⊢
      simpa [permuted.mem_iff] using lookup

/-! ## Lists of records that a record replaces by key -/

/-- Replace the first item of the same key, or append the item. -/
def replaceOrAppend
    [DecidableEq κ]
    (key : α → κ)
    (item : α) : List α → List α
  | [] => [item]
  | head :: rest =>
      if key head = key item then
        item :: rest
      else
        head :: replaceOrAppend key item rest

omit [LinearOrder κ] in
/--
What replacing or appending leaves behind: the item, and items of other keys.
-/
theorem mem_replaceOrAppend
    [DecidableEq κ]
    {key : α → κ}
    {item : α}
    {items : List α}
    (distinct : (items.map key).Nodup)
    {member : α} :
    member ∈ replaceOrAppend key item items ↔
      member = item ∨ member ∈ items ∧ key member ≠ key item := by
  induction items with
  | nil =>
      simp [replaceOrAppend]
  | cons head rest inductionHypothesis =>
      simp only [List.map_cons, List.nodup_cons] at distinct
      unfold replaceOrAppend
      split_ifs with sameKey
      · have others : ∀ other ∈ rest, key other ≠ key item := by
          intro other inRest same
          exact distinct.1
            (sameKey ▸ same ▸ List.mem_map_of_mem inRest)
        simp only [List.mem_cons]
        constructor
        · rintro (rfl | inRest)
          · exact .inl rfl
          · exact .inr ⟨.inr inRest, others member inRest⟩
        · rintro (rfl | ⟨rfl | inRest, otherKey⟩)
          · exact .inl rfl
          · exact (otherKey sameKey).elim
          · exact .inr inRest
      · simp only [List.mem_cons, inductionHypothesis distinct.2]
        constructor
        · rintro (rfl | rfl | ⟨inRest, otherKey⟩)
          · exact .inr ⟨.inl rfl, sameKey⟩
          · exact .inl rfl
          · exact .inr ⟨.inr inRest, otherKey⟩
        · rintro (rfl | ⟨rfl | inRest, otherKey⟩)
          · exact .inr (.inl rfl)
          · exact .inl rfl
          · exact .inr (.inr ⟨inRest, otherKey⟩)

omit [LinearOrder κ] in
theorem nodup_map_replaceOrAppend
    [DecidableEq κ]
    {key : α → κ}
    {item : α}
    {items : List α}
    (distinct : (items.map key).Nodup) :
    ((replaceOrAppend key item items).map key).Nodup := by
  induction items with
  | nil =>
      simp [replaceOrAppend]
  | cons head rest inductionHypothesis =>
      have restDistinct := (List.nodup_cons.mp distinct).2
      unfold replaceOrAppend
      split_ifs with sameKey
      · simpa [sameKey] using distinct
      · refine List.nodup_cons.mpr ⟨?_, inductionHypothesis restDistinct⟩
        intro found
        obtain ⟨other, member, same⟩ := List.mem_map.mp found
        rcases (mem_replaceOrAppend restDistinct).mp member with
          rfl | ⟨inRest, _⟩
        · exact sameKey same.symm
        · exact (List.nodup_cons.mp distinct).1
            (same ▸ List.mem_map_of_mem inRest)

/-! ## Ascending enumerations -/

/-- The ascending enumeration of the set of the items. -/
def orderedSet (items : List κ) : List κ :=
  items.dedup.insertionSort (· ≤ ·)

@[simp] theorem mem_orderedSet
    {items : List κ}
    {item : κ} :
    item ∈ orderedSet items ↔ item ∈ items := by
  simp [orderedSet]

/-- The ascending enumeration of a set of pairs, compared lexicographically. -/
def orderedPairs
    [LinearOrder β]
    (items : List (κ × β)) :
    List (κ × β) :=
  items.dedup.insertionSort fun first second =>
    toLex first ≤ toLex second

@[simp] theorem mem_orderedPairs
    [LinearOrder β]
    {items : List (κ × β)}
    {item : κ × β} :
    item ∈ orderedPairs items ↔ item ∈ items := by
  simp [orderedPairs]

theorem nodup_orderedSet
    (items : List κ) :
    (orderedSet items).Nodup :=
  (List.perm_insertionSort _ _).nodup_iff.mpr (List.nodup_dedup items)

/-- Pairs that are given by a function of their keys have distinct keys. -/
theorem nodup_map_fst_orderedPairs
    [LinearOrder β]
    {items : List (κ × β)}
    (functional :
      ∀ first ∈ items, ∀ second ∈ items,
        first.1 = second.1 → first = second) :
    ((orderedPairs items).map Prod.fst).Nodup := by
  have distinct : (orderedPairs items).Nodup :=
    (List.perm_insertionSort _ _).nodup_iff.mpr (List.nodup_dedup items)
  rw [List.nodup_map_iff_inj_on distinct]
  intro first firstMember second secondMember sameKey
  exact functional first (mem_orderedPairs.mp firstMember) second
    (mem_orderedPairs.mp secondMember) sameKey

/-! ## Positions -/

/-- A filtered enumeration looks up exactly the values it was filtered from. -/
theorem map_getElem?_filterMap_zipIdx
    (keep : α → Bool)
    (values : List α) :
    (values.zipIdx.filterMap fun (value, index) =>
        if keep value then some index else none).map (values[·]?) =
      (values.filter keep).map some := by
  have lookedUp :
      values.zipIdx.filterMap (fun (value, index) =>
          if keep value then some values[index]? else none) =
        values.zipIdx.filterMap (fun (value, _) =>
          if keep value then some (some value) else none) := by
    apply List.filterMap_congr
    rintro ⟨value, index⟩ member
    simp only [List.mk_mem_zipIdx_iff_getElem?.mp member]
  have withoutIndices :
      values.zipIdx.filterMap (fun (value, _) =>
          if keep value then some (some value) else none) =
        (values.filter keep).map some := by
    have projected : values.zipIdx.map Prod.fst = values := by
      simp
    conv_rhs => rw [← projected]
    rw [← List.filterMap_eq_filter, List.map_filterMap, List.filterMap_map]
    apply List.filterMap_congr
    rintro ⟨value, index⟩ _
    by_cases kept : keep value <;> simp [kept, Option.guard]
  rw [← withoutIndices, ← lookedUp, List.map_filterMap]
  apply List.filterMap_congr
  rintro ⟨value, index⟩ _
  by_cases kept : keep value <;> simp [kept]

/-- Every item of the second list has its counterpart in the first. -/
theorem exists_of_mem_of_forall₂
    {related : α → β → Prop}
    {first : List α}
    {second : List β}
    (aligned : List.Forall₂ related first second)
    {item : β}
    (member : item ∈ second) :
    ∃ counterpart ∈ first, related counterpart item := by
  induction aligned with
  | nil =>
      simp at member
  | @cons head _ _ _ headRelated _ inductionHypothesis =>
      rcases List.mem_cons.mp member with rfl | later
      · exact ⟨head, by simp, headRelated⟩
      · obtain ⟨counterpart, found, counterpartRelated⟩ :=
          inductionHypothesis later
        exact ⟨counterpart, by simp [found], counterpartRelated⟩

/-! ## Sorting by a comparator -/

/-- Stable sort: an item stays before those that are not less than it. -/
def sortBy
    (less : α → α → Bool)
    (items : List α) : List α :=
  items.insertionSort fun first second => less second first = false

/-- On these items the comparator is the strict order of the ranks. -/
def RankedBy
    (less : α → α → Bool)
    (rank : α → κ)
    (items : List α) : Prop :=
  ∀ first ∈ items, ∀ second ∈ items,
    less first second = true ↔ rank first < rank second

theorem perm_sortBy
    (less : α → α → Bool)
    (items : List α) :
    (sortBy less items).Perm items :=
  List.perm_insertionSort _ items

@[simp] theorem mem_sortBy
    {less : α → α → Bool}
    {items : List α}
    {item : α} :
    item ∈ sortBy less items ↔ item ∈ items :=
  (perm_sortBy less items).mem_iff

@[simp] theorem length_sortBy
    (less : α → α → Bool)
    (items : List α) :
    (sortBy less items).length = items.length :=
  (perm_sortBy less items).length_eq

/-- Sorting commutes with a map that keeps comparisons. -/
theorem map_sortBy
    {less : α → α → Bool}
    {lessImage : β → β → Bool}
    {image : α → β}
    {items : List α}
    (compatible :
      ∀ first ∈ items, ∀ second ∈ items,
        less first second = lessImage (image first) (image second)) :
    (sortBy less items).map image = sortBy lessImage (items.map image) := by
  apply List.map_insertionSort
  intro first firstMember second secondMember
  rw [compatible second secondMember first firstMember]

/-- The ranks of sorted items ascend. -/
theorem pairwise_sortBy
    {less : α → α → Bool}
    {rank : α → κ}
    {items : List α}
    (ranked : RankedBy less rank items) :
    (sortBy less items).Pairwise fun first second =>
      rank first ≤ rank second := by
  have sameRanks :
      (sortBy less items).map rank =
        (items.map rank).insertionSort (· ≤ ·) := by
    apply List.map_insertionSort
    intro first firstMember second secondMember
    rw [← not_lt, ← ranked second secondMember first firstMember]
    simp
  have ascending :
      ((items.map rank).insertionSort (· ≤ ·)).Pairwise (· ≤ ·) :=
    List.pairwise_insertionSort (· ≤ ·) _
  rw [← sameRanks, List.pairwise_map] at ascending
  exact ascending

/-- With pairwise distinct ranks the order of the input does not matter. -/
theorem sortBy_eq_of_perm
    {less : α → α → Bool}
    {rank : α → κ}
    {first second : List α}
    (ranked : RankedBy less rank first)
    (injective :
      ∀ one ∈ first, ∀ other ∈ first, rank one = rank other → one = other)
    (permuted : first.Perm second) :
    sortBy less first = sortBy less second := by
  have rankedSecond : RankedBy less rank second := by
    intro one oneMember other otherMember
    exact ranked one (permuted.mem_iff.mpr oneMember) other
      (permuted.mem_iff.mpr otherMember)
  have sameItems :
      (sortBy less first).Perm (sortBy less second) :=
    ((perm_sortBy less first).trans permuted).trans
      (perm_sortBy less second).symm
  apply sameItems.eq_of_pairwise _
    (pairwise_sortBy ranked) (pairwise_sortBy rankedSecond)
  intro one other oneMember otherMember below above
  exact injective one (mem_sortBy.mp oneMember) other
    (permuted.mem_iff.mpr (mem_sortBy.mp otherMember))
    (le_antisymm below above)

end OrderedCollections
