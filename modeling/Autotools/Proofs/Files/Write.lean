import Autotools.Files.System
import Autotools.SortedMap

/-! What writing does to a file system.  Making directories adds directories and touches nothing
else, and a file that was written is what its path then leads to. -/

namespace Autotools

open Text (Decoded)

/-! ### The last segment of a path -/

namespace Path

theorem getLast?_intercalate_nil (sep : Decoded) (first : List Decoded)
    (parts : List (List Decoded)) :
    ([sep].intercalate (first :: (parts ++ [[]]))).getLast? = some sep := by
  induction parts generalizing first with
  | nil => simp [List.intercalate_cons_cons]
  | cons part parts ih =>
    rw [List.cons_append, List.intercalate_cons_cons, List.getLast?_append, ih]
    rfl

/-- A path that has nothing after its last slash ends in it. -/
theorem endsInSlash_of_segments {p : Path} {front : List FileName} {last : FileName}
    (h : p.segments = front ++ [last]) (blank : last.isEmpty = true) (named : p.isEmpty = false) :
    p.endsInSlash = true := by
  have whole : [slash].intercalate (p.segments.map (·.units)) = p.units := by
    rw [segments, split, List.map_map]
    show [slash].intercalate ((p.units.splitOn slash).map id) = _
    rw [List.map_id, List.intercalate_splitOn]
  have nothing : last.units = [] := by simpa [FileName.isEmpty] using blank
  rw [h, List.map_append, List.map_singleton, nothing] at whole
  cases front with
  | nil =>
    have empty : p.isEmpty = true := by
      rw [isEmpty, ← whole]
      rfl
    rw [empty] at named
    cases named
  | cons first front =>
    have ends := getLast?_intercalate_nil slash first.units (front.map (·.units))
    rw [List.map_cons, List.cons_append] at whole
    rw [whole] at ends
    simp [endsInSlash, ends]

end Path

namespace FileSystem

variable {fs : FileSystem}

theorem entry?_put (fs : FileSystem) {location : Location} (h : location ≠ []) (entry : Entry)
    (l : Location) :
    FileSystem.entry? (fs.put location entry) l =
      if l = location then some entry else fs.entry? l := by
  cases l with
  | nil => simp [ entry?, Ne.symm h]
  | cons name names =>
    simp only [ entry?, put, List.isEmpty_cons, Bool.false_eq_true, if_false,
      SortedMap.lookup_binding, SortedMap.lookup_filter_ne]
    split <;> rfl

/-! ### Steps along a path -/

theorem follow_append (fs : FileSystem) (here : Location) (first second : List FileName) :
    fs.follow here (first ++ second) =
      match fs.follow here first with
      | .ok there => fs.follow there second
      | .error e => .error e := by
  induction first generalizing here with
  | nil => rfl
  | cons name first ih =>
    rw [List.cons_append, follow, follow]
    cases fs.enter here name with
    | error e => rfl
    | ok next => exact ih next

/-- A step can only be taken in a directory. -/
theorem entry?_of_enter {here next : Location} {name : FileName}
    (h : fs.enter here name = .ok next) : fs.entry? here = some .directory := by
  unfold enter at h
  split at h
  · cases h
  · cases h
  · assumption

/-- A way that ends in a directory starts in one. -/
theorem entry?_of_follow {here there : Location} {names : List FileName}
    (h : fs.follow here names = .ok there) (ends : fs.entry? there = some .directory) :
    fs.entry? here = some .directory := by
  cases names with
  | nil =>
    cases h
    exact ends
  | cons name names =>
    rw [follow] at h
    split at h
    · rename_i next entered
      exact entry?_of_enter entered
    · cases h

/-- A way to a directory stays the same while all directories stay. -/
theorem follow_of_kept {after : FileSystem} {here there : Location} {names : List FileName}
    (kept : ∀ l, fs.entry? l = some .directory → after.entry? l = some .directory)
    (h : fs.follow here names = .ok there) (ends : fs.entry? there = some .directory) :
    after.follow here names = .ok there := by
  induction names generalizing here with
  | nil => exact h
  | cons name names ih =>
    rw [follow] at h ⊢
    split at h
    · rename_i next entered
      have start := entry?_of_enter entered
      have goal := entry?_of_follow h ends
      have same : after.enter here name = .ok next := by
        rw [enter, start] at entered
        rw [enter, kept here start]
        simp only at entered ⊢
        split at entered
        · rwa [if_pos ‹_›]
        · split at entered
          · rwa [if_neg ‹_›, if_pos ‹_›]
          · split at entered
            · cases entered
              rw [if_neg ‹_›, if_neg ‹_›, kept _ goal]
              rfl
            · cases entered
      rw [same]
      exact ih h
    · cases h

/-- Staying at the end of a way asks for a directory there. -/
theorem follow_snoc_here {here there : Location} {names : List FileName}
    (h : fs.follow here (names ++ [.here]) = .ok there) :
    fs.follow here names = .ok there ∧ fs.entry? there = some .directory := by
  rw [follow_append] at h
  split at h
  · rename_i reached way
    rw [follow] at h
    split at h
    · rename_i next entered
      cases h
      have stays := entry?_of_enter entered
      have same : reached = there := by
        rw [enter, stays] at entered
        simpa [FileName.isIdle] using entered
      subst same
      exact ⟨way, stays⟩
    · cases h
  · cases h

theorem enter_name {here : Location} {name : FileName} (start : fs.entry? here = some .directory)
    (idle : name.isIdle = false) (up : name ≠ .above)
    (there : (fs.entry? (here ++ [name])).isSome) : fs.enter here name = .ok (here ++ [name]) := by
  rw [enter, start]
  simp only [idle, Bool.false_eq_true, if_false, if_neg up, there, if_true]

/-! ### Directories -/

/-- From `before` to `after`, directories were made where nothing was, and nothing else changed. -/
structure AddsDirectories (before after : FileSystem) : Prop where
  workingDirectory : after.workingDirectory = before.workingDirectory
  entries : ∀ l, after.entry? l = before.entry? l ∨
    (before.entry? l = none ∧ after.entry? l = some .directory)

theorem AddsDirectories.refl (fs : FileSystem) : fs.AddsDirectories fs := ⟨rfl, fun _ => .inl rfl⟩

theorem AddsDirectories.trans {a b c : FileSystem} (h : a.AddsDirectories b)
    (h' : b.AddsDirectories c) : a.AddsDirectories c := by
  refine ⟨h'.workingDirectory.trans h.workingDirectory, ?_⟩
  intro l
  rcases h'.entries l with same | ⟨none, made⟩
  · rw [same]
    exact h.entries l
  · rcases h.entries l with same | ⟨none', made'⟩
    · exact .inr ⟨same ▸ none, made⟩
    · exact .inr ⟨none', made⟩

theorem addsDirectories_put {location : Location} (h : location ≠ [])
    (free : fs.entry? location = none) : fs.AddsDirectories (fs.put location .directory) := by
  refine ⟨rfl, ?_⟩
  intro l
  rw [entry?_put fs h]
  split
  · rename_i here
    exact .inr ⟨here ▸ free, rfl⟩
  · exact .inl rfl

theorem addsDirectories_makeDirectory {p : Path} {made : FileSystem}
    (h : fs.makeDirectory p = .ok made) : fs.AddsDirectories made := by
  unfold makeDirectory at h
  split at h
  · cases h
  · cases h
  · rename_i directory name _
    split at h
    · cases h
    · rename_i free
      cases h
      simp only [Bool.or_eq_true, not_or, Bool.not_eq_true, Option.isSome_eq_false_iff,
        Option.isNone_iff_eq_none] at free
      exact addsDirectories_put (by simp) free.2

theorem addsDirectories_ensureLast {p : Path} {made : FileSystem}
    (h : fs.ensureLast p = .ok made) : fs.AddsDirectories made := by
  unfold ensureLast at h
  split at h
  · rename_i made'
    cases h
    exact addsDirectories_makeDirectory ‹_›
  · split at h
    · cases h
      exact .refl fs
    · cases h

/-- Directories that were made stay when a later one fails. -/
theorem addsDirectories_ensureUpTo (depth : Nat) (fs : FileSystem) (p : Path) :
    fs.AddsDirectories (ensureUpTo depth fs p).1 := by
  induction depth generalizing p with
  | zero => exact .refl fs
  | succ depth ih =>
    unfold ensureUpTo
    split
    · exact .refl fs
    · split
      · exact addsDirectories_ensureLast ‹_›
      · split
        · exact .refl fs
        · rename_i parent _
          have above := ih parent
          split
          · rename_i stopped
            rwa [stopped] at above
          · rename_i ready
            rw [ready] at above
            split
            · exact above.trans (addsDirectories_ensureLast ‹_›)
            · exact above
      · exact .refl fs

theorem addsDirectories_ensureDirectory (fs : FileSystem) (p : Path) :
    fs.AddsDirectories (fs.ensureDirectory p).1 :=
  addsDirectories_ensureUpTo _ fs p

theorem addsDirectories_ensureAbove (fs : FileSystem) (p : Path) :
    fs.AddsDirectories (fs.ensureAbove p).1 := by
  unfold ensureAbove
  split
  · rename_i parent _
    exact fs.addsDirectories_ensureDirectory parent
  · exact .refl fs

/-! ### Files -/

/-- The site of a file is the directory that its path leads to before its last segment. -/
theorem site_eq_some {p : Path} {directory : Location} {name : FileName}
    (h : fs.site p = .ok (directory, some name)) (bare : p.endsInSlash = false) :
    p.isEmpty = false ∧ name.isEmpty = false ∧ ∃ above, p.segments = above ++ [name] ∧
      fs.follow (fs.start p) (above ++ [.here]) = .ok directory := by
  unfold site at h
  split at h
  · cases h
  · rename_i named
    rw [Bool.not_eq_true] at named
    split at h
    · cases h
    · rename_i last above found
      split at h
      · rename_i directory' reached
        cases h
        cases backward : p.segments.reverse with
        | nil =>
          rw [backward] at found
          cases found
        | cons segment segments =>
          have forward : p.segments = segments.reverse ++ [segment] := by
            rw [← List.reverse_cons, ← backward, List.reverse_reverse]
          have solid : segment.isEmpty = false := by
            cases blank : segment.isEmpty with
            | false => rfl
            | true =>
              have slash := Path.endsInSlash_of_segments forward blank named
              rw [bare] at slash
              cases slash
          rw [backward, List.dropWhile_cons_of_neg (by simp [solid])] at found
          cases found
          exact ⟨named, solid, _, forward, reached⟩
      · cases h

theorem write_eq_ok {p : Path} {content : Content} {written : FileSystem}
    (h : fs.write p content = .ok written) :
    ∃ directory name, fs.site p = .ok (directory, some name) ∧ p.endsInSlash = false ∧
      name.isDots = false ∧ fs.entry? (directory ++ [name]) ≠ some .directory ∧
      written = fs.put (directory ++ [name]) (.file content) := by
  unfold write at h
  split at h
  · cases h
  · cases h
  · rename_i directory name found
    split at h
    · cases h
    · rename_i plain
      simp only [Bool.or_eq_true, not_or, Bool.not_eq_true] at plain
      split at h
      · cases h
      · rename_i free
        cases h
        exact ⟨directory, name, found, plain.1, plain.2, free, rfl⟩

/-- The path of a file that was just written leads to it, and no other entry has changed. -/
theorem resolve_of_write {p : Path} {content : Content} {written : FileSystem}
    (h : fs.write p content = .ok written) :
    ∃ location, written.resolve p = .ok location ∧
      written.workingDirectory = fs.workingDirectory ∧
      ∀ l, written.entry? l = if l = location then some (.file content) else fs.entry? l := by
  obtain ⟨directory, name, found, bare, plain, free, rfl⟩ := write_eq_ok h
  obtain ⟨named, solid, above, segments, reached⟩ := site_eq_some found bare
  obtain ⟨way, ends⟩ := follow_snoc_here reached
  have new : directory ++ [name] ≠ [] := by simp
  have entries := entry?_put fs new (.file content)
  have kept : ∀ l, fs.entry? l = some .directory →
      FileSystem.entry? (fs.put (directory ++ [name]) (.file content)) l = some .directory := by
    intro l there
    rw [entries, if_neg]
    · exact there
    · rintro rfl
      exact free there
  have idle : name.isIdle = false ∧ name ≠ .above := by
    simp only [FileName.isDots, Bool.or_eq_false_iff, decide_eq_false_iff_not] at plain
    simp [FileName.isIdle, solid, plain.1, plain.2]
  have entered := enter_name (kept directory ends) idle.1 idle.2 (by rw [entries]; simp)
  refine ⟨directory ++ [name], ?_, rfl, entries⟩
  rw [resolve, if_neg (by simp [named]), segments, follow_append]
  show (match follow _ (fs.start p) above with
    | .ok there => follow _ there [name]
    | .error e => .error e) = _
  rw [follow_of_kept kept way ends]
  simp only [follow, entered]

/-- What a path leads to can be read if it is a file. -/
theorem read_of_find? {p : Path} {content : Content} (h : fs.find? p = some (.file content)) :
    fs.read p = .ok content := by
  unfold find? at h
  unfold read
  split at h
  · rename_i location found
    rw [found]
    simp only [h]
  · cases h

theorem isFile_of_find? {p : Path} {content : Content} (h : fs.find? p = some (.file content)) :
    fs.isFile p = true := by
  unfold isFile
  rw [h]

end FileSystem

end Autotools
