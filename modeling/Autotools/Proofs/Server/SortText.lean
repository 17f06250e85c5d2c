import Autotools.Proofs.Text.Order
import Autotools.Server.Session
import Mathlib.Algebra.Group.Nat.Defs
import Mathlib.Data.List.Perm.Basic

/-! The order of completions at the client.  A client goes by the sort texts, which number the
completions with five digits or more.  Numbers of five digits are ordered like their texts, and the
first number of six digits comes before the last one of five, so the order of the server is the one
that a client shows if and only if there are at most 100000 completions. -/

namespace Autotools

open Json (Value)
open Syntax (Parser)

namespace Message

/-! ### Numbers of one width -/

/-- The last `width` decimal digits of a number. -/
def lastDigits : Nat → Nat → List Char
  | 0, _ => []
  | width + 1, n => lastDigits width (n / 10) ++ [Nat.digitChar (n % 10)]

theorem length_lastDigits (width n : Nat) : (lastDigits width n).length = width := by
  induction width generalizing n with
  | zero => rfl
  | succ width ih => simp [lastDigits, ih]

theorem lastDigits_zero (width : Nat) : lastDigits width 0 = List.replicate width '0' := by
  induction width with
  | zero => rfl
  | succ width ih =>
    rw [lastDigits, Nat.zero_div, ih, List.replicate_succ']
    rfl

/-- Zeros fill the digits of a number up to a width that it fits in. -/
theorem replicate_append_toDigits {width n : Nat} (pos : 0 < width) (fits : n < 10 ^ width) :
    List.replicate (width - (Nat.toDigits 10 n).length) '0' ++ Nat.toDigits 10 n =
      lastDigits width n := by
  -- the last digit is split off on both sides, and the zeros stay in front of the others
  induction width generalizing n with
  | zero => omega
  | succ width ih =>
    by_cases single : n < 10
    · rw [Nat.toDigits_of_lt_base single, lastDigits, Nat.div_eq_of_lt single,
        Nat.mod_eq_of_lt single, lastDigits_zero]
      rfl
    · have room : n / 10 < 10 ^ width := by
        rw [Nat.pow_succ] at fits
        omega
      have pos : 0 < width := by
        rcases Nat.eq_zero_or_pos width with rfl | pos
        · simp at fits
          omega
        · exact pos
      rw [Nat.toDigits_of_base_le (by omega) (by omega), lastDigits, ← ih pos room,
        List.length_append, List.length_singleton, Nat.add_sub_add_right, List.append_assoc]

theorem append_digit_lt {a b : List Char} {x y : Char} (size : a.length = b.length)
    (h : a < b ∨ a = b ∧ x < y) : a ++ [x] < b ++ [y] := by
  induction a generalizing b with
  | nil =>
    obtain rfl := List.eq_nil_of_length_eq_zero size.symm
    simpa [List.cons_lt_cons_iff] using h
  | cons c a ih =>
    cases b with
    | nil => cases size
    | cons d b =>
      have size : a.length = b.length := by simpa using size
      rw [List.cons_append, List.cons_append, List.cons_lt_cons_iff]
      rcases h with less | ⟨same, last⟩
      · rcases List.cons_lt_cons_iff.1 less with first | ⟨first, rest⟩
        · exact .inl first
        · exact .inr ⟨first, ih size (.inl rest)⟩
      · obtain ⟨first, rest⟩ := List.cons.inj same
        exact .inr ⟨first, ih size (.inr ⟨rest, last⟩)⟩

theorem digitChar_lt : ∀ a < 10, ∀ b < 10, a < b → Nat.digitChar a < Nat.digitChar b := by
  decide

theorem lastDigits_lt {width m n : Nat} (h : m < n) (fits : n < 10 ^ width) :
    lastDigits width m < lastDigits width n := by
  induction width generalizing m n with
  | zero =>
    simp at fits
    omega
  | succ width ih =>
    rw [lastDigits, lastDigits]
    apply append_digit_lt
    · rw [length_lastDigits, length_lastDigits]
    · by_cases front : m / 10 = n / 10
      · refine .inr ⟨by rw [front], digitChar_lt _ ?_ _ ?_ ?_⟩ <;> omega
      · refine .inl (ih ?_ ?_)
        · omega
        · rw [Nat.pow_succ] at fits
          omega

/-! ### Sort texts -/

theorem toList_sortText {n : Nat} (fits : n < 100000) : (sortText n).toList = lastDigits 5 n := by
  rw [← replicate_append_toDigits (by decide) (by simpa using fits)]
  simp [sortText, Nat.toString_eq_repr, Nat.toList_repr, ← String.length_toList]

theorem sortText_lt {m n : Nat} (h : m < n) (fits : n < 100000) : sortText m < sortText n := by
  rw [String.lt_iff, toList_sortText fits, toList_sortText (by omega)]
  exact lastDigits_lt h (by simpa using fits)

theorem sortText_lt_of_wider : sortText 100000 < sortText 99999 := by
  decide +kernel

theorem sortText_inj {m n : Nat} (hm : m < 100000) (hn : n < 100000)
    (h : sortText m = sortText n) : m = n := by
  rcases Nat.lt_trichotomy m n with less | same | more
  · have := sortText_lt less hn
    rw [h] at this
    exact absurd this (String.lt_irrefl _)
  · exact same
  · have := sortText_lt more hm
    rw [h] at this
    exact absurd this (String.lt_irrefl _)

def numbered (completions : List Completion) : List Value := completions.mapIdx ofCompletion

/-- The text by which a client sorts an item. -/
def sortKey (item : Value) : String := (text? item "sortText").getD ""

/-- A client that sorts items by their sort texts may show them as `shown`. -/
structure Shows (items shown : List Value) : Prop where
  perm : shown.Perm items
  sorted : shown.Pairwise fun a b => sortKey a ≤ sortKey b

variable (completions : List Completion)

theorem text?_sortText (index : Nat) (c : Completion) :
    text? (ofCompletion index c) "sortText" = some (sortText index) := rfl

theorem map_sortText_numbered :
    (numbered completions).map (text? · "sortText") =
      ((List.range completions.length).map sortText).map some := by
  apply List.ext_getElem
  · simp [numbered]
  · intro i _ _
    simp [numbered, text?_sortText]

theorem map_label_numbered :
    (numbered completions).map (text? · "label") = completions.map fun c => some c.label := by
  apply List.ext_getElem
  · simp [numbered]
  · intro i _ _
    simp [numbered]
    rfl

/-- The sort texts ascend if and only if no number has more than five digits. -/
theorem pairwise_sortText_iff (count : Nat) :
    ((List.range count).map sortText).Pairwise (· < ·) ↔ count ≤ 100000 := by
  constructor
  · intro ascending
    by_contra more
    have late := List.pairwise_iff_getElem.1 ascending 99999 100000 (by simp; omega)
      (by simp; omega) (by omega)
    simp only [List.getElem_map, List.getElem_range] at late
    exact String.lt_asymm late sortText_lt_of_wider
  · intro fits
    rw [List.pairwise_map]
    apply List.pairwise_lt_range.imp_of_mem
    intro m n _ hn less
    exact sortText_lt less (by rw [List.mem_range] at hn; omega)

theorem exists_of_mem_numbered {item : Value} (h : item ∈ numbered completions) :
    ∃ i c, completions[i]? = some c ∧ item = ofCompletion i c := by
  obtain ⟨i, inside, rfl⟩ := List.mem_mapIdx.1 h
  exact ⟨i, completions[i], List.getElem?_eq_getElem inside, rfl⟩

theorem sortKey_numbered {i : Nat} (h : i < (numbered completions).length) :
    sortKey (numbered completions)[i] = sortText i := by
  simp [numbered, sortKey, text?_sortText]

theorem shows_mergeSort (items : List Value) :
    Shows items (items.mergeSort fun a b => decide (sortKey a ≤ sortKey b)) :=
  ⟨List.mergeSort_perm _ _, Text.pairwise_mergeSort sortKey items⟩

/-- The list of the server is the only one that a client may show if and only if no number has more
than five digits. -/
theorem shows_only_iff :
    (∀ shown, Shows (numbered completions) shown → shown = numbered completions) ↔
      completions.length ≤ 100000 := by
  have size : (numbered completions).length = completions.length := List.length_mapIdx
  constructor
  · intro only
    by_contra more
    have shows := shows_mergeSort (numbered completions)
    have sorted := shows.sorted
    rw [only _ shows] at sorted
    have late := List.pairwise_iff_getElem.1 sorted 99999 100000 (by omega) (by omega) (by omega)
    rw [sortKey_numbered, sortKey_numbered] at late
    exact String.not_lt.2 late sortText_lt_of_wider
  · intro fits shown shows
    refine shows.perm.eq_of_pairwise ?_ shows.sorted ?_
    · -- two items with one sort text have one index, so they are one item
      intro a b inShown inItems le ge
      obtain ⟨i, c, found, rfl⟩ := exists_of_mem_numbered completions (shows.perm.mem_iff.1 inShown)
      obtain ⟨j, d, found', rfl⟩ := exists_of_mem_numbered completions inItems
      have hi := (List.getElem?_eq_some_iff.1 found).1
      have hj := (List.getElem?_eq_some_iff.1 found').1
      obtain rfl := sortText_inj (by omega) (by omega) (String.le_antisymm le ge)
      rw [Option.some.inj (found.symm.trans found')]
    · rw [List.pairwise_iff_getElem]
      intro i j hi hj less
      rw [sortKey_numbered, sortKey_numbered]
      exact String.not_lt.1 (String.lt_asymm (sortText_lt less (by omega)))

end Message

namespace Session

open Message

/-- The answer to a request for completions holds the completions of the workspace in their order,
each with a sort text.  These texts ascend if and only if there are at most 100000 completions, and
then and only then a client that sorts by them must show the completions in this order. -/
theorem sorted_completion_iff (s : Session) (parser : Parser) (env : Environment) (fs : FileSystem)
    (uri : String) (position : Point) :
    ∃ (items : List Value) (keys : List String),
      (s.serve parser env fs (.completion uri position)).answer = some (.ok (.array items)) ∧
      items.map (text? · "label") =
        (s.workspace.completions uri position).map (fun c => some c.label) ∧
      items.map (text? · "sortText") = keys.map some ∧
      (keys.Pairwise (· < ·) ↔ (s.workspace.completions uri position).length ≤ 100000) ∧
      ((∀ shown, Shows items shown → shown = items) ↔
        (s.workspace.completions uri position).length ≤ 100000) :=
  ⟨numbered (s.workspace.completions uri position), _, rfl, map_label_numbered _,
    map_sortText_numbered _, pairwise_sortText_iff _, shows_only_iff _⟩

/-! ### A table with many names -/

/-- Macros with names of seven characters, without descriptions. -/
def macros (count : Nat) (fits : count ≤ 1000000) : SortedMap String where
  toList := (List.range count).map fun n => (String.ofList ('M' :: lastDigits 6 n), "")
  sorted := by
    rw [List.pairwise_map]
    apply List.pairwise_lt_range.imp_of_mem
    intro m n _ inRange less
    have fits : n < 1000000 := Nat.lt_of_lt_of_le (List.mem_range.1 inRange) fits
    rw [String.lt_iff, String.toList_ofList, String.toList_ofList, List.cons_lt_cons_iff]
    exact .inr ⟨rfl, lastDigits_lt less (by simpa using fits)⟩

def configureFile : String := "file:///project/configure.ac"

def emptyDocument : Document := .ofText (fun _ => default) configureFile none "" 1

/-- A session with these macros in its table and an empty `configure.ac` open. -/
def withMacros (count : Nat) (fits : count ≤ 1000000) : Session :=
  ⟨.ready, default, (Workspace.ofTable ⟨macros count fits, .empty⟩).opened (fun _ => default)
    configureFile none "" 1⟩

theorem length_completions_withMacros (count : Nat) (fits : count ≤ 1000000) :
    ((withMacros count fits).workspace.completions configureFile ⟨0, 0⟩).length = count := by
  have opened : (withMacros count fits).workspace.store.get? configureFile =
      some emptyDocument := rfl
  have type : emptyDocument.fileType = some .config := by decide +kernel
  have start : Workspace.typed .config emptyDocument.text ⟨0, 0⟩ = [] := by decide +kernel
  rw [Workspace.completions, Workspace.View.completions, Workspace.document?_view, opened]
  simp only [type, start, List.append_nil, Workspace.View.builtinCompletions, List.length_map]
  show ((macros count fits).toList.filter _).length = count
  simp [macros]

theorem sorted_completion_twoMacros :
    ∃ (items : List Value) (keys : List String),
      ((withMacros 2 (by decide)).serve (fun _ => default) default default
        (.completion configureFile ⟨0, 0⟩)).answer = some (.ok (.array items)) ∧
      items.map (text? · "sortText") = keys.map some ∧ keys.Pairwise (· < ·) ∧
      ∀ shown, Shows items shown → shown = items := by
  obtain ⟨items, keys, answer, -, texts, ascending, only⟩ :=
    sorted_completion_iff (withMacros 2 (by decide)) (fun _ => default) default default
      configureFile ⟨0, 0⟩
  rw [length_completions_withMacros] at ascending only
  exact ⟨items, keys, answer, texts, ascending.2 (by decide), only.2 (by decide)⟩

/-- With 100001 macros to offer, the sort texts do not ascend, and a client that sorts by them may
show another list. -/
theorem unsorted_completion_manyMacros :
    ∃ (items : List Value) (keys : List String),
      ((withMacros 100001 (by decide)).serve (fun _ => default) default default
        (.completion configureFile ⟨0, 0⟩)).answer = some (.ok (.array items)) ∧
      items.map (text? · "sortText") = keys.map some ∧ ¬keys.Pairwise (· < ·) ∧
      ∃ shown, Shows items shown ∧ shown ≠ items := by
  have count := length_completions_withMacros 100001 (by decide)
  refine ⟨numbered ((withMacros 100001 (by decide)).workspace.completions configureFile ⟨0, 0⟩), _,
    rfl, map_sortText_numbered _, ?_, ?_⟩
  · rw [pairwise_sortText_iff, count]
    decide
  · by_contra none
    have fits := (shows_only_iff _).1 fun shown shows => by
      by_contra other
      exact none ⟨shown, shows, other⟩
    rw [count] at fits
    exact absurd fits (by decide)

end Session

end Autotools
