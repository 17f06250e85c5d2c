import Autotools.Proofs.Document.History
import Mathlib.Data.List.TakeWhile

/-! The type of a file in a directory.  The type is told by what stands behind the last slash, but
a path is first cut at a question mark or a hash, as a URI is at its query or fragment.  So the
name of a file decides only in directories without these characters; in any other directory all
files have one type, that of the path up to the cut. -/

namespace Autotools

open Syntax

namespace FileType

/-- A path is cut at a character that begins a query or a fragment. -/
def Cuts (c : Char) : Prop := c = '?' ∨ c = '#'

instance (c : Char) : Decidable (Cuts c) := inferInstanceAs (Decidable (c = '?' ∨ c = '#'))

/-- A directory in which no path is cut. -/
def IsPlain (directory : String) : Prop := ∀ c ∈ directory.toList, ¬Cuts c

instance (directory : String) : Decidable (IsPlain directory) :=
  List.decidableBAll (fun c => ¬Cuts c) directory.toList

/-- A name that contains neither a slash of either kind nor a character at which a path is cut. -/
def IsSegment (name : String) : Prop := ∀ c ∈ name.toList, c ≠ '/' ∧ c ≠ '\\' ∧ ¬Cuts c

instance (name : String) : Decidable (IsSegment name) :=
  List.decidableBAll (fun c => c ≠ '/' ∧ c ≠ '\\' ∧ ¬Cuts c) name.toList

theorem not_cuts_iff (c : Char) : ¬Cuts c ↔ (c ≠ '?' && c ≠ '#') = true := by
  simp [Cuts]

/-- The base name of a path that is not cut is what follows its last slash. -/
theorem baseName_append {before name : List Char} (uncut : ∀ c ∈ before ++ name, ¬Cuts c)
    (unbroken : ∀ c ∈ name, c ≠ '/' ∧ c ≠ '\\')
    (ends : before = [] ∨ ∃ directory, before = directory ++ ['/']) :
    baseName (before ++ name) = name := by
  have whole : (before ++ name).takeWhile (fun c => c ≠ '?' && c ≠ '#') = before ++ name := by
    rw [List.takeWhile_eq_self_iff]
    intro c inside
    exact (not_cuts_iff c).1 (uncut c inside)
  -- read from the end, the name stops at the slash, or at the start of the path
  have last : (name.reverse ++ before.reverse).takeWhile (fun c => c ≠ '/' && c ≠ '\\') =
      name.reverse := by
    have within : ∀ c ∈ name.reverse, (c ≠ '/' && c ≠ '\\') = true := by
      intro c inside
      simpa using unbroken c (List.mem_reverse.1 inside)
    rw [List.takeWhile_append_of_pos within]
    rcases ends with rfl | ⟨directory, rfl⟩ <;> simp
  rw [baseName, whole, List.reverse_append, last, List.reverse_reverse]

/-- What follows a cut has no part in the base name. -/
theorem baseName_append_of_cut {before : List Char} (after : List Char)
    (cut : ¬∀ c ∈ before, ¬Cuts c) :
    baseName (before ++ after) = baseName before := by
  have short : (before.takeWhile fun c => c ≠ '?' && c ≠ '#').length ≠ before.length := by
    intro long
    have whole := (List.takeWhile_sublist _).eq_of_length long
    apply cut
    intro c inside
    exact (not_cuts_iff c).2 (List.takeWhile_eq_self_iff.1 whole c inside)
  rw [baseName, List.takeWhile_append, if_neg short, baseName]

/-- The type of a file in a directory: that of its name, or that of the directory if the path is
cut there. -/
theorem detect?_append_slash (directory : String) {name : String} (segment : IsSegment name) :
    detect? (directory ++ "/" ++ name) =
      if IsPlain directory then detect? name else detect? directory := by
  have path : (directory ++ "/" ++ name).toList = directory.toList ++ ['/'] ++ name.toList := by
    simp [String.toList_append]
  have unbroken : ∀ c ∈ name.toList, c ≠ '/' ∧ c ≠ '\\' := by
    intro c inside
    exact ⟨(segment c inside).1, (segment c inside).2.1⟩
  have uncut : ∀ c ∈ name.toList, ¬Cuts c := fun c inside => (segment c inside).2.2
  rw [detect?, path]
  split
  · next plain =>
    have uncutPath : ∀ c ∈ directory.toList ++ ['/'] ++ name.toList, ¬Cuts c := by
      intro c inside
      rcases List.mem_append.1 inside with before | behind
      · rcases List.mem_append.1 before with above | slash
        · exact plain c above
        · rw [List.mem_singleton.1 slash]
          decide
      · exact uncut c behind
    have alone : baseName ([] ++ name.toList) = name.toList :=
      baseName_append uncut unbroken (.inl rfl)
    rw [List.nil_append] at alone
    rw [baseName_append uncutPath unbroken (.inr ⟨_, rfl⟩), detect?, alone]
  · next cut =>
    rw [List.append_assoc, baseName_append_of_cut _ cut, detect?]

end FileType

open FileType

/-- For every directory and every name without slashes, question marks and hashes: the file in the
directory has the type of its name if and only if the directory has neither question mark nor hash,
or the directory up to the first of these characters happens to be of the same type.  A document
that is opened with this path has the type of its name if the directory is plain, and that of the
cut directory otherwise, and it has a tree just if this type is make. -/
theorem Document.type_inDirectory (directory name : String) (segment : IsSegment name) :
    (detect? (directory ++ "/" ++ name) = detect? name ↔
      IsPlain directory ∨ detect? directory = detect? name) ∧
    ∀ (s : Store) (parser : Parser) (uri text : String) (version : Int), ∃ d,
      (s.opened parser uri (some (.ofString (directory ++ "/" ++ name))) text version).get? uri =
        some d ∧
      d.fileType = (if IsPlain directory then detect? name else detect? directory) ∧
      (d.tree.isSome ↔ d.fileType = some .make) := by
  have type := detect?_append_slash directory segment
  refine ⟨?_, ?_⟩
  · rw [type]
    split
    · next plain => simp [plain]
    · next cut => simp [cut]
  · intro s parser uri text version
    refine ⟨.ofText parser uri (some (.ofString (directory ++ "/" ++ name))) text version,
      ?_, ?_, ?_⟩
    · rw [Store.get?_opened, if_pos rfl]
    · rw [← type, ofText, nameOf, Option.bind_some, Path.text?_ofString, Option.getD_some]
    · exact isSome_tree_ofText

theorem Document.type_inPlainDirectory :
    IsSegment "Makefile.am" ∧
    detect? ("/home/me/c++ (old)" ++ "/" ++ "Makefile.am") = some .make ∧
    ∀ parser text, ∃ d, (Store.empty.opened parser "untitled:1"
      (some (.ofString ("/home/me/c++ (old)" ++ "/" ++ "Makefile.am"))) text 1).get? "untitled:1" =
        some d ∧ d.tree.isSome := by
  have segment : IsSegment "Makefile.am" := by decide
  have plain : IsPlain "/home/me/c++ (old)" := by decide
  have make : detect? "Makefile.am" = some .make := by decide
  obtain ⟨same, opened⟩ := type_inDirectory "/home/me/c++ (old)" "Makefile.am" segment
  refine ⟨segment, (same.2 (.inl plain)).trans make, ?_⟩
  intro parser text
  obtain ⟨d, found, type, tree⟩ := opened Store.empty parser "untitled:1" text 1
  rw [if_pos plain, make] at type
  exact ⟨d, found, tree.2 type⟩

/-- A make file in a directory with a hash in its name is not known as one. -/
theorem Document.type_inHashDirectory :
    ¬∀ directory name : String, IsSegment name →
      detect? (directory ++ "/" ++ name) = detect? name := by
  intro same
  have make := same "/home/me/c#" "Makefile" (by decide)
  revert make
  decide

end Autotools
