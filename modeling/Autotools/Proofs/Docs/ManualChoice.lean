import Autotools.Docs.Source
import Autotools.Proofs.Text.Order
import Mathlib.Data.List.Nodup

/-! Which file is read for a manual.  The first directory that lists a name starting with that of
the manual decides, and in it the least of these names, so the order in which names are listed plays
no part.  Once a file is chosen, nothing else is tried. -/

namespace Autotools

open Text (Decoded bytes)

theorem Text.text?_eq_some {units : List Decoded} {s : List Char} :
    text? units = some s ↔ units = s.map .char := by
  constructor
  · intro h
    induction units generalizing s with
    | nil =>
      cases h
      rfl
    | cons unit units ih =>
      cases unit with
      | malformed => cases h
      | char c =>
        obtain ⟨rest, read, rfl⟩ := Option.map_eq_some_iff.1 h
        rw [ih read]
        rfl
  · rintro rfl
    exact text?_map_char s

theorem Text.infix_intercalate (sep : List Char) {part : List Char} {parts : List (List Char)}
    (h : part ∈ parts) : part <:+: sep.intercalate parts := by
  induction parts with
  | nil => cases h
  | cons first rest ih =>
    cases rest with
    | nil =>
      obtain rfl := List.mem_singleton.1 h
      simp
    | cons next rest =>
      rw [List.intercalate_cons_cons]
      rcases List.mem_cons.1 h with rfl | later
      · rw [List.append_assoc]
        exact (List.prefix_append _ _).isInfix
      · exact (ih later).trans (List.suffix_append _ _).isInfix

theorem FileName.text?_eq_some {n : FileName} {s : String} :
    n.text? = some s ↔ n = ofString s := by
  rw [text?, Option.map_eq_some_iff]
  constructor
  · rintro ⟨chars, read, rfl⟩
    obtain ⟨units⟩ := n
    obtain rfl : units = chars.map .char := Text.text?_eq_some.1 read
    rw [ofString, String.toList_ofList]
  · rintro rfl
    exact ⟨s.toList, Text.text?_map_char _, String.ofList_toList⟩

/-! ### Names in a directory -/

namespace FileSystem

variable {fs other : FileSystem} {dir : Path} {n : FileName}

/-- A directory that can be read lists a name. -/
def Lists (fs : FileSystem) (dir : Path) (n : FileName) : Prop :=
  ∃ names, fs.list dir = .ok names ∧ n ∈ names

/-- Two file systems have the same names in a directory, and the same behind those that are
texts. -/
structure SameEntries (fs other : FileSystem) (dir : Path) : Prop where
  names : ∀ n, fs.Lists dir n ↔ other.Lists dir n
  contents : ∀ file, fs.Lists dir (.ofString file) →
    fs.read (dir.join file) = other.read (dir.join file)

theorem isSome_entry?_snoc {location : Location} :
    (fs.entry? (location ++ [n])).isSome = true ↔ ∃ e ∈ fs.entries, e.1 = location ++ [n] := by
  rw [FileSystem.entry?, if_neg (by simp), List.lookup_isSome_iff]
  simp only [beq_iff_eq]
  simp only [eq_comm]

theorem lists_iff :
    fs.Lists dir n ↔ ∃ location, fs.resolve dir = .ok location ∧
      fs.entry? location = some .directory ∧ (fs.entry? (location ++ [n])).isSome = true := by
  unfold Lists list
  cases fs.resolve dir with
  | error e => simp
  | ok location =>
    cases stored : fs.entry? location with
    | none => simp [stored]
    | some entry =>
      cases entry with
      | file content => simp [stored]
      | directory =>
        simp only [stored, Except.ok.injEq, exists_eq_left', true_and, isSome_entry?_snoc,
          List.mem_filterMap, List.mem_filter, Bool.and_eq_true, Bool.not_eq_true', beq_iff_eq]
        constructor
        · rintro ⟨e, ⟨member, -, above⟩, last⟩
          obtain ⟨front, whole⟩ := List.getLast?_eq_some_iff.1 last
          rw [whole, List.dropLast_concat] at above
          exact ⟨e, member, by rw [whole, above]⟩
        · rintro ⟨e, member, same⟩
          exact ⟨e, ⟨member, by simp [same], by simp [same]⟩, by simp [same]⟩

theorem enter_congr (same : ∀ l, fs.entry? l = other.entry? l) (here : Location)
    (segment : FileName) : fs.enter here segment = other.enter here segment := by
  simp only [enter, same]

theorem follow_congr (same : ∀ l, fs.entry? l = other.entry? l) (here : Location)
    (names : List FileName) : fs.follow here names = other.follow here names := by
  induction names generalizing here with
  | nil => rfl
  | cons segment names ih => simp only [follow, enter_congr same, ih]

theorem sameEntries_of_entry? (start : fs.workingDirectory = other.workingDirectory)
    (same : ∀ l, fs.entry? l = other.entry? l) (dir : Path) : SameEntries fs other dir := by
  have resolve (p : Path) : fs.resolve p = other.resolve p := by
    simp only [FileSystem.resolve, FileSystem.start, follow_congr same, start]
  constructor
  · intro n
    simp only [lists_iff, resolve, same]
  · intro file _
    simp only [read, resolve, same]

theorem lookup_eq_some_iff_mem {α β : Type} [BEq α] [LawfulBEq α] [DecidableEq α]
    {l : List (α × β)} {key : α} {v : β} (distinct : (l.map Prod.fst).Nodup) :
    l.lookup key = some v ↔ (key, v) ∈ l := by
  induction l with
  | nil => simp
  | cons entry rest ih =>
    obtain ⟨k, u⟩ := entry
    obtain ⟨fresh, distinct⟩ := List.nodup_cons.1 distinct
    rw [SortedMap.lookup_binding, List.mem_cons, Prod.mk.injEq]
    by_cases here : key = k
    · subst here
      have apart : (key, v) ∉ rest := by
        intro member
        apply fresh
        exact List.mem_map.2 ⟨(key, v), member, rfl⟩
      simp [apart, eq_comm]
    · simp [here, ih distinct]

/-- The order in which entries are stored, and so listed, does not matter. -/
theorem sameEntries_of_perm {entries : List (Location × Entry)} (perm : entries.Perm fs.entries)
    (distinct : (fs.entries.map Prod.fst).Nodup) (dir : Path) :
    SameEntries fs { fs with entries } dir := by
  apply sameEntries_of_entry? (rfl : fs.workingDirectory = { fs with entries }.workingDirectory)
  intro l
  have lookup : fs.entries.lookup l = entries.lookup l := by
    apply Option.ext
    intro e
    rw [lookup_eq_some_iff_mem distinct, lookup_eq_some_iff_mem, perm.mem_iff]
    exact (perm.map Prod.fst).nodup_iff.2 distinct
  simp only [FileSystem.entry?, lookup]

end FileSystem

namespace Docs

variable {fs : FileSystem} {name file : String} {dir : Path} {dirs : List Path}

/-- A directory that can be read has an entry of which the name is a text that starts with that of a
manual. -/
def Candidate (fs : FileSystem) (name : String) (dir : Path) (file : String) : Prop :=
  fs.Lists dir (.ofString file) ∧ name.toList <+: file.toList

/-- Of the candidates in a directory, `file` has the least bytes. -/
structure Least (fs : FileSystem) (name : String) (dir : Path) (file : String) : Prop where
  candidate : Candidate fs name dir file
  least : ∀ other, Candidate fs name dir other → bytes file.toList ≤ bytes other.toList

theorem head?_mergeSort {l : List String} {s : String} :
    (l.mergeSort (· ≤ ·)).head? = some s ↔ s ∈ l ∧ ∀ t ∈ l, s ≤ t := by
  have sorted : (l.mergeSort (· ≤ ·)).Pairwise (· ≤ ·) := Text.pairwise_mergeSort id l
  have members (t : String) : t ∈ l.mergeSort (· ≤ ·) ↔ t ∈ l := List.mem_mergeSort
  generalize l.mergeSort (· ≤ ·) = ordered at *
  cases ordered with
  | nil =>
    have none : l = [] := List.eq_nil_iff_forall_not_mem.2 fun t h => by simpa using (members t).2 h
    simp [none]
  | cons first rest =>
    have below : ∀ t ∈ l, first ≤ t := by
      intro t member
      rcases List.mem_cons.1 ((members t).2 member) with rfl | later
      · exact String.le_refl _
      · exact (List.pairwise_cons.1 sorted).1 t later
    have inside : first ∈ l := (members first).1 (by simp)
    simp only [List.head?_cons, Option.some.injEq]
    constructor
    · rintro rfl
      exact ⟨inside, below⟩
    · rintro ⟨member, least⟩
      exact String.le_antisymm (below s member) (least first inside)

/-- The candidates in a directory, as they are listed. -/
def candidates (fs : FileSystem) (name : String) (dir : Path) : List String :=
  match fs.list dir with
  | .error _ => []
  | .ok names =>
    (names.filterMap (·.text?)).filter fun n => name.toList.isPrefixOf n.toList

theorem candidate?_eq_head? (fs : FileSystem) (name : String) (dir : Path) :
    candidate? fs name dir = ((candidates fs name dir).mergeSort (· ≤ ·)).head? := by
  unfold candidate? candidates
  cases fs.list dir with
  | error e => simp
  | ok names => rfl

theorem mem_candidates : file ∈ candidates fs name dir ↔ Candidate fs name dir file := by
  unfold candidates Candidate FileSystem.Lists
  cases fs.list dir with
  | error e => simp
  | ok names => simp [List.mem_filter, FileName.text?_eq_some]

theorem least_iff :
    Least fs name dir file ↔
      file ∈ candidates fs name dir ∧ ∀ other ∈ candidates fs name dir, file ≤ other := by
  simp only [mem_candidates]
  constructor
  · rintro ⟨candidate, least⟩
    exact ⟨candidate, fun other h => Text.bytes_le_iff.1 (least other h)⟩
  · rintro ⟨candidate, least⟩
    exact ⟨candidate, fun other h => Text.bytes_le_iff.2 (least other h)⟩

theorem candidate?_eq_some : candidate? fs name dir = some file ↔ Least fs name dir file := by
  rw [candidate?_eq_head?, head?_mergeSort, least_iff]

theorem candidate?_eq_none :
    candidate? fs name dir = none ↔ ∀ file, ¬Candidate fs name dir file := by
  simp only [← mem_candidates, ← List.eq_nil_iff_forall_not_mem]
  rw [candidate?_eq_head?, List.head?_eq_none_iff, ← List.length_eq_zero_iff,
    List.length_mergeSort, List.length_eq_zero_iff]

/-! ### The choice -/

/-- Of the directories in order, `dir` is the first with a candidate, and `file` the least one
there. -/
structure Chosen (fs : FileSystem) (name : String) (dirs : List Path) (dir : Path) (file : String) :
    Prop where
  first : ∃ before after, dirs = before ++ dir :: after ∧
    ∀ d ∈ before, ∀ f, ¬Candidate fs name d f
  least : Least fs name dir file

/-- What a manual file gives: its text, decompressed if it is named so. -/
def manualText (fs : FileSystem) (path : Path) (file : String) : Except FileError String := do
  let content ← fs.read path
  if FileName.hasExtension file "gz" then content.decompress else return content.lossyText

theorem readManualFile_eq (fs : FileSystem) (path : Path) (file : String) :
    readManualFile fs path file = (manualText fs path file).mapError (.read path) := by
  unfold readManualFile manualText
  cases fs.read path with
  | error cause => rfl
  | ok content =>
    simp only [bind, Except.bind]
    split
    · cases content.decompress <;> rfl
    · rfl

/-- The choice as it is made: the first directory that gives a name, and this name. -/
def choice? (fs : FileSystem) (name : String) (dirs : List Path) : Option (Path × String) :=
  dirs.findSome? fun dir => (candidate? fs name dir).map fun file => (dir, file)

theorem choice?_eq_some :
    choice? fs name dirs = some (dir, file) ↔ Chosen fs name dirs dir file := by
  rw [choice?, List.findSome?_eq_some_iff]
  constructor
  · rintro ⟨before, d, after, split, found, none⟩
    obtain ⟨f, least, same⟩ := Option.map_eq_some_iff.1 found
    cases same
    refine ⟨⟨before, after, split, ?_⟩, candidate?_eq_some.1 least⟩
    intro d member
    exact candidate?_eq_none.1 (Option.map_eq_none_iff.1 (none d member))
  · rintro ⟨⟨before, after, split, none⟩, least⟩
    refine ⟨before, dir, after, split, by rw [candidate?_eq_some.2 least]; rfl, ?_⟩
    intro d member
    rw [candidate?_eq_none.2 (none d member)]
    rfl

theorem choice?_eq_none :
    choice? fs name dirs = none ↔ ∀ dir ∈ dirs, ∀ file, ¬Candidate fs name dir file := by
  simp only [choice?, List.findSome?_eq_none_iff, Option.map_eq_none_iff, candidate?_eq_none]

theorem readManual_of_chosen (h : Chosen fs name dirs dir file) :
    readManual fs name dirs =
      (manualText fs (dir.join file) file).mapError (.read (dir.join file)) := by
  have chosen : choice? fs name dirs = some (dir, file) := choice?_eq_some.2 h
  rw [← readManualFile_eq, readManual]
  unfold choice? at chosen
  rw [chosen]

theorem readManual_of_none (h : ∀ dir ∈ dirs, ∀ file, ¬Candidate fs name dir file) :
    readManual fs name dirs = .error (.manualNotFound name dirs) := by
  have none : choice? fs name dirs = none := choice?_eq_none.2 h
  rw [readManual]
  unfold choice? at none
  rw [none]

theorem exists_chosen (member : dir ∈ dirs) (h : Candidate fs name dir file) :
    ∃ dir file, Chosen fs name dirs dir file := by
  cases chosen : choice? fs name dirs with
  | none => exact absurd h (choice?_eq_none.1 chosen dir member file)
  | some found => exact ⟨found.1, found.2, choice?_eq_some.1 chosen⟩

theorem readManual_notFound_iff {n : String} {searched : List Path} :
    readManual fs name dirs = .error (.manualNotFound n searched) ↔
      (∀ dir ∈ dirs, ∀ file, ¬Candidate fs name dir file) ∧ n = name ∧ searched = dirs := by
  constructor
  · intro h
    cases chosen : choice? fs name dirs with
    | none =>
      have none := choice?_eq_none.1 chosen
      rw [readManual_of_none none] at h
      cases h
      exact ⟨none, rfl, rfl⟩
    | some found =>
      -- the failure to read a file that was chosen is another one
      rw [readManual_of_chosen (choice?_eq_some.1 chosen)] at h
      cases text : manualText fs (found.1.join found.2) found.2 <;> rw [text] at h <;> cases h
  · rintro ⟨none, rfl, rfl⟩
    exact readManual_of_none none

theorem display_infix_message (name : String) (member : dir ∈ dirs) :
    dir.display.toList <:+: (DocsError.manualNotFound name dirs).message.toList := by
  have among : dir.display.toList ∈ (dirs.map (·.display)).map String.toList := by
    rw [List.map_map]
    exact List.mem_map.2 ⟨dir, member, rfl⟩
  have inside := Text.infix_intercalate ":".toList among
  have text : (DocsError.manualNotFound name dirs).message =
      "manual " ++ name ++ " not found in " ++ ":".intercalate (dirs.map (·.display)) := rfl
  rw [text, String.toList_append, String.toList_intercalate]
  exact inside.trans (List.suffix_append _ _).isInfix

/-! ### What the choice depends on -/

variable {other : FileSystem}

theorem candidate_congr (same : fs.SameEntries other dir) :
    Candidate fs name dir file ↔ Candidate other name dir file :=
  and_congr_left' (same.names _)

theorem Chosen.congr (same : ∀ dir ∈ dirs, fs.SameEntries other dir)
    (h : Chosen fs name dirs dir file) : Chosen other name dirs dir file := by
  obtain ⟨⟨before, after, rfl, none⟩, candidate, least⟩ := h
  have here := same dir (by simp)
  refine ⟨⟨before, after, rfl, ?_⟩, (candidate_congr here).1 candidate, ?_⟩
  · intro d member f
    rw [← candidate_congr (same d (by simp [member]))]
    exact none d member f
  · intro f found
    exact least f ((candidate_congr here).2 found)

theorem readManual_congr (same : ∀ dir ∈ dirs, fs.SameEntries other dir) (name : String) :
    readManual other name dirs = readManual fs name dirs := by
  cases choice : choice? fs name dirs with
  | none =>
    have none := choice?_eq_none.1 choice
    rw [readManual_of_none none, readManual_of_none]
    intro dir member file
    rw [← candidate_congr (same dir member)]
    exact none dir member file
  | some found =>
    obtain ⟨dir, file⟩ := found
    have chosen := choice?_eq_some.1 choice
    obtain ⟨before, after, split, -⟩ := chosen.first
    have read := (same dir (by simp [split])).contents file chosen.least.candidate.1
    rw [readManual_of_chosen chosen, readManual_of_chosen (chosen.congr same), manualText,
      manualText, read]

theorem extract_congr (same : ∀ dir ∈ dirs, fs.SameEntries other dir) :
    extract other dirs = extract fs dirs := by
  simp only [extract, readMakeManual, readManual_congr same]

theorem exists_extract_iff :
    (∃ table, extract fs dirs = .ok table) ↔
      (∃ text, readManual fs "autoconf.info" dirs = .ok text) ∧
        ((∃ text, readManual fs "make.info-2" dirs = .ok text) ∨
          ∃ text, readManual fs "make.info" dirs = .ok text) := by
  unfold extract readMakeManual
  cases readManual fs "autoconf.info" dirs with
  | error e => simp
  | ok autoconf =>
    cases readManual fs "make.info-2" dirs with
    | ok second => simp
    | error e => cases readManual fs "make.info" dirs <;> simp

/-- In any file system, for any directories.  If one of them has a candidate for a manual, a file is
chosen: the least one, by its bytes, in the first directory that has any; and the answer is what
this file gives, or its failure.  No manual is found if and only if there is no candidate, and then
every directory is named.  Both the text of a manual and the table of all manuals are the same in
any two file systems with the same entries in these directories, such as one in which the entries
are stored and listed in another order.  There is a table if and only if the autoconf manual and one
of the two parts of the make manual can be read. -/
theorem readManual_exact (fs : FileSystem) (dirs : List Path) :
    (∀ name, (∃ dir ∈ dirs, ∃ file, Candidate fs name dir file) →
      ∃ dir file, Chosen fs name dirs dir file) ∧
    (∀ name dir file, Chosen fs name dirs dir file →
      readManual fs name dirs =
        (manualText fs (dir.join file) file).mapError (.read (dir.join file))) ∧
    (∀ name n searched, readManual fs name dirs = .error (.manualNotFound n searched) ↔
      (∀ dir ∈ dirs, ∀ file, ¬Candidate fs name dir file) ∧ n = name ∧ searched = dirs) ∧
    (∀ name, ∀ dir ∈ dirs,
      dir.display.toList <:+: (DocsError.manualNotFound name dirs).message.toList) ∧
    (∀ other : FileSystem, (∀ dir ∈ dirs, fs.SameEntries other dir) →
      (∀ name, readManual other name dirs = readManual fs name dirs) ∧
        extract other dirs = extract fs dirs) ∧
    (∀ entries : List (FileSystem.Location × Entry), entries.Perm fs.entries →
      (fs.entries.map Prod.fst).Nodup →
      (∀ name, readManual { fs with entries } name dirs = readManual fs name dirs) ∧
        extract { fs with entries } dirs = extract fs dirs) ∧
    ((∃ table, extract fs dirs = .ok table) ↔
      (∃ text, readManual fs "autoconf.info" dirs = .ok text) ∧
        ((∃ text, readManual fs "make.info-2" dirs = .ok text) ∨
          ∃ text, readManual fs "make.info" dirs = .ok text)) := by
  refine ⟨?_, fun _ _ _ => readManual_of_chosen, fun _ _ _ => readManual_notFound_iff,
    fun name _ => display_infix_message name, ?_, ?_, exists_extract_iff⟩
  · rintro name ⟨dir, member, file, candidate⟩
    exact exists_chosen member candidate
  · intro other same
    exact ⟨readManual_congr same, extract_congr same⟩
  · intro entries perm distinct
    have same := fun dir (_ : dir ∈ dirs) => FileSystem.sameEntries_of_perm perm distinct dir
    exact ⟨readManual_congr same, extract_congr same⟩

/-- A directory with two parts of a manual, the second one listed first, and of the make manual one
part that is not compressed as its name says. -/
def shelf : FileSystem :=
  let info := FileName.ofString "info"
  ⟨[([info], .directory),
    ([info, .ofString "autoconf.info-2"], .file (.text "Second part.\n")),
    ([info, .ofString "autoconf.info"], .file (.text "First part.\n")),
    ([info, .ofString "make.info-2.gz"], .file (.text "Not compressed.\n")),
    ([info, .ofString "make.info"], .file (.text "Functions.\n"))], []⟩

def shelfDirs : List Path := [.ofString "/missing", .ofString "/info"]

theorem chosen_shelf (name file : String)
    (none : candidates shelf name (.ofString "/missing") = [])
    (least : file ∈ candidates shelf name (.ofString "/info") ∧
      ∀ other ∈ candidates shelf name (.ofString "/info"), file ≤ other) :
    Chosen shelf name shelfDirs (.ofString "/info") file := by
  refine ⟨⟨[.ofString "/missing"], [], rfl, ?_⟩, least_iff.2 least⟩
  intro dir here other candidate
  rw [List.mem_singleton.1 here, ← mem_candidates, none] at candidate
  cases candidate

/-- The first part is read though the second one is listed first.  The make manual that cannot be
decompressed is an error, for which a table takes the other one. -/
theorem readManual_shelf :
    readManual shelf "autoconf.info" shelfDirs = .ok "First part.\n" ∧
    (∃ cause, readManual shelf "make.info-2" shelfDirs =
      .error (.read (.ofString "/info/make.info-2.gz") cause)) ∧
    readManual shelf "m4.info" shelfDirs = .error (.manualNotFound "m4.info" shelfDirs) ∧
    (∃ table, extract shelf shelfDirs = .ok table) ∧
    extract { shelf with entries := shelf.entries.reverse } shelfDirs =
      extract shelf shelfDirs := by
  obtain ⟨-, chosen, none, -, -, reordered, table⟩ := readManual_exact shelf shelfDirs
  have autoconf : readManual shelf "autoconf.info" shelfDirs = .ok "First part.\n" := by
    rw [chosen _ _ _ (chosen_shelf _ "autoconf.info" rfl (by decide +kernel))]
    rfl
  have make : readManual shelf "make.info" shelfDirs = .ok "Functions.\n" := by
    rw [chosen _ _ _ (chosen_shelf _ "make.info" rfl (by decide +kernel))]
    rfl
  refine ⟨autoconf, ?_, ?_, table.2 ⟨⟨_, autoconf⟩, .inr ⟨_, make⟩⟩, ?_⟩
  · rw [chosen _ _ _ (chosen_shelf _ "make.info-2.gz" rfl (by decide +kernel))]
    exact ⟨_, rfl⟩
  · have nothing : ∀ dir ∈ shelfDirs, candidates shelf "m4.info" dir = [] := by decide +kernel
    refine (none _ _ _).2 ⟨?_, rfl, rfl⟩
    intro dir member file candidate
    rw [← mem_candidates, nothing dir member] at candidate
    cases candidate
  · exact (reordered _ (List.reverse_perm _) (by decide +kernel)).2

end Docs

end Autotools
