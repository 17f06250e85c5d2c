/-! Finite maps with text keys, kept as a list of bindings in ascending order of their keys. The
order makes a map the same value however it was built, so two maps with the same bindings are
equal. -/

namespace Autotools

/-- A finite map from strings, as its bindings in strictly ascending order of their keys. -/
structure SortedMap (β : Type) where
  toList : List (String × β)
  sorted : toList.Pairwise (·.1 < ·.1)

namespace SortedMap

variable {β : Type}

/-- The binding list with `key` bound to `value`, at its place in the order. -/
def insertInto (key : String) (value : β) : List (String × β) → List (String × β)
  | [] => [(key, value)]
  | (k, v) :: rest =>
    if key < k then (key, value) :: (k, v) :: rest
    else if k < key then (k, v) :: insertInto key value rest
    else (key, value) :: rest

theorem mem_insertInto {key : String} {value : β} {l : List (String × β)} {b : String × β}
    (h : b ∈ insertInto key value l) : b = (key, value) ∨ b ∈ l := by
  induction l with
  | nil => simpa [insertInto] using h
  | cons head rest ih =>
    obtain ⟨k, v⟩ := head
    rw [insertInto] at h
    split at h
    · simpa using h
    · split at h
      · rcases List.mem_cons.1 h with h | h
        · exact .inr (by simp [h])
        · exact (ih h).imp_right (List.mem_cons_of_mem _)
      · exact (List.mem_cons.1 h).imp_right (List.mem_cons_of_mem _)

theorem sorted_insertInto (key : String) (value : β) {l : List (String × β)}
    (h : l.Pairwise (·.1 < ·.1)) : (insertInto key value l).Pairwise (·.1 < ·.1) := by
  induction l with
  | nil => simp [insertInto]
  | cons head rest ih =>
    obtain ⟨k, v⟩ := head
    obtain ⟨above, restSorted⟩ := List.pairwise_cons.1 h
    rw [insertInto]
    split
    · rename_i before
      refine List.pairwise_cons.2 ⟨fun b hb => ?_, h⟩
      rcases List.mem_cons.1 hb with rfl | hb
      · exact before
      · exact String.lt_trans before (above b hb)
    · rename_i notBefore
      split
      · rename_i after
        refine List.pairwise_cons.2 ⟨fun b hb => ?_, ih restSorted⟩
        rcases mem_insertInto hb with rfl | hb
        · exact after
        · exact above b hb
      · rename_i notAfter
        have same : k = key :=
          String.le_antisymm (String.not_lt.1 notBefore) (String.not_lt.1 notAfter)
        exact List.pairwise_cons.2 ⟨fun b hb => same ▸ above b hb, restSorted⟩

/-- The map without bindings. -/
def empty : SortedMap β := ⟨[], .nil⟩

instance : Inhabited (SortedMap β) := ⟨empty⟩

instance [Repr β] : Repr (SortedMap β) where
  reprPrec m n := reprPrec m.toList n

/-- Binds a key, in place of an earlier binding. -/
def insert (m : SortedMap β) (key : String) (value : β) : SortedMap β :=
  ⟨insertInto key value m.toList, sorted_insertInto key value m.sorted⟩

/-- The value bound to a key. -/
def get? (m : SortedMap β) (key : String) : Option β := m.toList.lookup key

/-- Removes the binding of a key. -/
def erase (m : SortedMap β) (key : String) : SortedMap β :=
  ⟨m.toList.filter (·.1 ≠ key), m.sorted.filter _⟩

/-- Binds every pair of a list, later pairs in place of earlier ones. -/
def insertAll (m : SortedMap β) (pairs : List (String × β)) : SortedMap β :=
  pairs.foldl (fun m pair => m.insert pair.1 pair.2) m

/-- The map of a list of pairs, later pairs in place of earlier ones. -/
def ofList (pairs : List (String × β)) : SortedMap β := empty.insertAll pairs

/-- The keys in ascending order. -/
def keys (m : SortedMap β) : List String := m.toList.map (·.1)

/-- The values in the order of their keys. -/
def values (m : SortedMap β) : List β := m.toList.map (·.2)

/-- The number of bindings. -/
def size (m : SortedMap β) : Nat := m.toList.length

def isEmpty (m : SortedMap β) : Bool := m.toList.isEmpty

theorem eq_of_toList_eq {m n : SortedMap β} (h : m.toList = n.toList) : m = n := by
  cases m
  cases n
  simp_all

@[simp] theorem get?_empty (key : String) : (empty : SortedMap β).get? key = none := rfl

section Lookup

variable {κ : Type} [BEq κ] [LawfulBEq κ] [DecidableEq κ]

theorem lookup_binding (k : κ) (v : β) (l : List (κ × β)) (key : κ) :
    ((k, v) :: l).lookup key = if key = k then some v else l.lookup key := by
  rw [List.lookup_cons]
  by_cases h : key = k
  · simp [h]
  · simp [h, beq_false_of_ne h]

theorem lookup_filter_ne (l : List (κ × β)) (k key : κ) :
    (l.filter (·.1 ≠ k)).lookup key = if key = k then none else l.lookup key := by
  induction l with
  | nil => simp
  | cons head rest ih =>
    obtain ⟨k', v'⟩ := head
    by_cases gone : k' = k
    · rw [List.filter_cons_of_neg (by simp [gone]), ih, lookup_binding, gone]
      by_cases here : key = k <;> simp [here]
    · rw [List.filter_cons_of_pos (by simp [gone]), lookup_binding, lookup_binding, ih]
      by_cases here : key = k
      · simp [here, Ne.symm gone]
      · simp [here]

end Lookup

theorem lookup_insertInto (k : String) (v : β) (l : List (String × β)) (key : String) :
    (insertInto k v l).lookup key = if key = k then some v else l.lookup key := by
  induction l with
  | nil => rw [insertInto, lookup_binding]
  | cons head rest ih =>
    obtain ⟨k', v'⟩ := head
    rw [insertInto]
    split
    · rw [lookup_binding]
    · rename_i notBefore
      split
      · rename_i after
        have differ : k ≠ k' := fun e => String.lt_irrefl _ (e ▸ after)
        rw [lookup_binding, lookup_binding, ih]
        by_cases same : key = k
        · simp [same, differ]
        · simp [same]
      · rename_i notAfter
        have same : k' = k :=
          String.le_antisymm (String.not_lt.1 notBefore) (String.not_lt.1 notAfter)
        rw [lookup_binding, lookup_binding, same]
        by_cases here : key = k <;> simp [here]

/-- The key just bound has the new value, and every other key the value it had. -/
@[simp] theorem get?_insert (m : SortedMap β) (k : String) (v : β) (key : String) :
    (m.insert k v).get? key = if key = k then some v else m.get? key :=
  lookup_insertInto k v m.toList key

/-- The key just removed has no value, and every other key the value it had. -/
@[simp] theorem get?_erase (m : SortedMap β) (k key : String) :
    (m.erase k).get? key = if key = k then none else m.get? key :=
  lookup_filter_ne m.toList k key

theorem lookup_eq_none_of_lt {l : List (String × β)} {key : String}
    (h : ∀ b ∈ l, key < b.1) : l.lookup key = none := by
  induction l with
  | nil => rfl
  | cons head rest ih =>
    have differ : key ≠ head.1 := fun e => String.lt_irrefl _ (e ▸ h head (by simp))
    rw [lookup_binding, if_neg differ, ih fun b hb => h b (by simp [hb])]

/-- Below the first key of an ascending list nothing is bound. -/
theorem lookup_eq_none_of_lt_head {k : String} {v : β} {l : List (String × β)} {key : String}
    (h : ((k, v) :: l).Pairwise (·.1 < ·.1)) (below : key < k) :
    ((k, v) :: l).lookup key = none := by
  refine lookup_eq_none_of_lt fun b hb => ?_
  rcases List.mem_cons.1 hb with rfl | hb
  · exact below
  · exact String.lt_trans below ((List.pairwise_cons.1 h).1 b hb)

theorem lookup_injective {l r : List (String × β)} (hl : l.Pairwise (·.1 < ·.1))
    (hr : r.Pairwise (·.1 < ·.1)) (h : ∀ key, l.lookup key = r.lookup key) : l = r := by
  induction l generalizing r with
  | nil =>
    cases r with
    | nil => rfl
    | cons head rest =>
      obtain ⟨k, v⟩ := head
      simpa [lookup_binding] using h k
  | cons left ls ih =>
    cases r with
    | nil => simpa [lookup_binding] using h left.1
    | cons right rs =>
      obtain ⟨k, v⟩ := left
      obtain ⟨k', v'⟩ := right
      have same : k = k' := by
        refine String.le_antisymm (String.not_lt.1 fun lt => ?_) (String.not_lt.1 fun lt => ?_)
        · simpa [lookup_eq_none_of_lt_head hl lt, lookup_binding] using h k'
        · simpa [lookup_eq_none_of_lt_head hr lt, lookup_binding] using h k
      subst same
      have value : v = v' := by simpa [lookup_binding] using h k
      subst value
      obtain ⟨leftBelow, leftSorted⟩ := List.pairwise_cons.1 hl
      obtain ⟨rightBelow, rightSorted⟩ := List.pairwise_cons.1 hr
      rw [ih leftSorted rightSorted fun key => ?_]
      by_cases here : key = k
      · subst here
        rw [lookup_eq_none_of_lt leftBelow, lookup_eq_none_of_lt rightBelow]
      · simpa [lookup_binding, here] using h key

/-- Two maps that bind every key alike are the same map. -/
theorem ext {m n : SortedMap β} (h : ∀ key, m.get? key = n.get? key) : m = n :=
  eq_of_toList_eq (lookup_injective m.sorted n.sorted h)

/-- A key above all others is bound at the end. -/
theorem insertInto_of_above {key : String} {l : List (String × β)} (h : ∀ b ∈ l, b.1 < key)
    (value : β) : insertInto key value l = l ++ [(key, value)] := by
  induction l with
  | nil => rfl
  | cons head rest ih =>
    obtain ⟨k, v⟩ := head
    have below : k < key := h (k, v) (by simp)
    rw [insertInto, if_neg (String.lt_asymm below), if_pos below,
      ih fun b hb => h b (List.mem_cons_of_mem _ hb)]
    rfl

/-- Bindings in ascending order, all above those of a map, come behind them one by one. -/
theorem toList_insertAll {pairs : List (String × β)} {m : SortedMap β}
    (h : (m.toList ++ pairs).Pairwise (·.1 < ·.1)) :
    (m.insertAll pairs).toList = m.toList ++ pairs := by
  induction pairs generalizing m with
  | nil => exact (List.append_nil _).symm
  | cons pair pairs ih =>
    have above : ∀ b ∈ m.toList, b.1 < pair.1 := fun b hb =>
      (List.pairwise_append.1 h).2.2 b hb pair (by simp)
    have grown : (m.insert pair.1 pair.2).toList = m.toList ++ [pair] :=
      insertInto_of_above above pair.2
    have step := ih (m := m.insert pair.1 pair.2) (by rw [grown]; simpa using h)
    rw [grown] at step
    simpa [insertAll] using step

/-- A map is made again from its bindings. -/
@[simp] theorem ofList_toList (m : SortedMap β) : ofList m.toList = m :=
  eq_of_toList_eq (toList_insertAll m.sorted)

end SortedMap

end Autotools
