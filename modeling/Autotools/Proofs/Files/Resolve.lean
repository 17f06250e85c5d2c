import Autotools.Files.System

/-! Paths that lead to the same file.  The directory of a file that is named without any directory
is written as the empty path or as a dot, and a name taken from either leads to the same place. -/

namespace Autotools

open Text (Decoded)

namespace Path

/-- The directory of a file that is named without any directory. -/
def nowhere : Path := ⟨[]⟩

theorem eq_nowhere {p : Path} (h : p.isEmpty = true) : p = nowhere := by
  cases p with
  | mk units =>
    cases units with
    | nil => rfl
    | cons unit units => cases h

theorem join_of_absolute (p : Path) {q : String} (h : (ofString q).isAbsolute = true) :
    p.join q = ofString q := by
  rw [join, if_pos h]

theorem nowhere_join {q : String} (h : (ofString q).isAbsolute = false) :
    nowhere.join q = ofString q := by
  rw [join, if_neg (by simp [h]), if_pos (by decide)]
  rfl

theorem here_join {q : String} (h : (ofString q).isAbsolute = false) :
    (ofString ".").join q = ⟨.char '.' :: slash :: (ofString q).units⟩ := by
  rw [join, if_neg (by simp [h]), if_neg (by decide)]
  simp [append, ofString, slash]

/-- A path after a dot has the dot in front of its own segments. -/
theorem segments_here (units : List Decoded) :
    segments ⟨.char '.' :: slash :: units⟩ = .here :: segments ⟨units⟩ := by
  have apart : slash ∉ [Decoded.char '.'] := by decide
  have cut := List.splitOn_append_cons_self_of_not_mem apart units
  rw [List.singleton_append] at cut
  rw [segments, split, cut]
  rfl

theorem segments_ne_nil (p : Path) : p.segments ≠ [] := by
  simp [segments, split, List.splitOn_ne_nil]

end Path

namespace FileSystem

/-- A path that goes on may start by staying where it is. -/
theorem follow_here (fs : FileSystem) (location : Location) {names : List FileName}
    (h : names ≠ []) : fs.follow location (.here :: names) = fs.follow location names := by
  obtain ⟨first, rest, rfl⟩ := List.exists_cons_of_ne_nil h
  cases found : fs.entry? location with
  | none => simp only [follow, enter, found]
  | some entry =>
    cases entry with
    | file content => simp only [follow, enter, found]
    | directory =>
      have stay : fs.enter location .here = .ok location := by
        rw [enter, found]
        exact if_pos (by decide)
      rw [follow, stay]

/-- A step that leads nowhere can only be taken in a directory. -/
theorem entry?_of_follow_idle {fs : FileSystem} {here location : Location} {name : FileName}
    (idle : name.isIdle = true) (h : fs.follow here [name] = .ok location) :
    fs.entry? location = some .directory := by
  cases found : fs.entry? here with
  | none => simp [follow, enter, found] at h
  | some entry =>
    cases entry with
    | file content => simp [follow, enter, found] at h
    | directory =>
      obtain rfl : here = location := by simpa [follow, enter, found, idle] using h
      exact found

theorem isFile_eq_false_of_directory {fs : FileSystem} {p : Path}
    (h : ∀ location, fs.resolve p = .ok location → fs.entry? location = some .directory) :
    fs.isFile p = false := by
  rw [isFile, find?]
  cases found : fs.resolve p with
  | error e => rfl
  | ok location => simp only [h location found]

/-- The path of a name after a dot is followed from the working directory, like the name. -/
theorem resolve_here (fs : FileSystem) (units : List Decoded) :
    fs.resolve ⟨.char '.' :: Path.slash :: units⟩ =
      fs.follow fs.workingDirectory (Path.segments ⟨units⟩) := by
  rw [resolve, if_neg (by simp [Path.isEmpty]), Path.segments_here,
    fs.follow_here _ (Path.segments_ne_nil _), start, if_neg (by simp [Path.isAbsolute, Path.slash])]

/-- A name leads to a file from a dot if and only if it does so by itself. -/
theorem isFile_here_join (fs : FileSystem) (q : String) :
    fs.isFile ((Path.ofString ".").join q) = fs.isFile (Path.nowhere.join q) := by
  cases absolute : (Path.ofString q).isAbsolute with
  | true => rw [Path.join_of_absolute _ absolute, Path.join_of_absolute _ absolute]
  | false =>
    rw [Path.here_join absolute, Path.nowhere_join absolute]
    cases blank : (Path.ofString q).isEmpty with
    | true =>
      -- a dot and a slash name a directory, and the empty path names nothing
      have nothing : fs.isFile (Path.ofString q) = false := by
        rw [isFile, find?, resolve, if_pos blank]
      rw [nothing]
      refine isFile_eq_false_of_directory ?_
      intro location found
      rw [Path.eq_nowhere blank, resolve_here] at found
      exact entry?_of_follow_idle (by decide) found
    | false =>
      have same : fs.resolve ⟨.char '.' :: Path.slash :: (Path.ofString q).units⟩ =
          fs.resolve (Path.ofString q) := by
        rw [resolve_here, resolve, if_neg (by simp [blank]), start, if_neg (by simp [absolute])]
      rw [isFile, isFile, find?, find?, same]

end FileSystem

end Autotools
