import Autotools.Docs.Source
import Autotools.Proofs.Docs.Artifact
import Autotools.Proofs.Files.Write

/-! Artifact files and the cache.  An artifact that could be written is read back as the table it
was written for.  A cache that is there is read and nothing else happens; one that is not there is
written at most once, and a table that was extracted is never lost. -/

namespace Autotools

/-- From `before` to `after`, directories were made where nothing was, the file that `path` leads to
may have been written with `text`, and nothing else changed. -/
structure FileSystem.WritesOnly (before after : FileSystem) (path : Path) (text : String) :
    Prop where
  workingDirectory : after.workingDirectory = before.workingDirectory
  entries : ∀ l, after.entry? l = before.entry? l ∨
    (before.entry? l = none ∧ after.entry? l = some .directory) ∨
    (after.resolve path = .ok l ∧ after.entry? l = some (.file (.text text)))

theorem FileSystem.AddsDirectories.writesOnly {before after : FileSystem}
    (h : before.AddsDirectories after) (path : Path) (text : String) :
    before.WritesOnly after path text := by
  refine ⟨h.workingDirectory, ?_⟩
  intro l
  rcases h.entries l with same | made
  · exact .inl same
  · exact .inr (.inl made)

namespace Docs

variable {fs : FileSystem} {path : Path} {table : Table}

/-- The directories above an artifact are made first; it is written if they all could be made. -/
theorem writeArtifact_cases (fs : FileSystem) (path : Path) (table : Table) :
    ∃ ready, fs.AddsDirectories ready ∧
      ((∃ e, writeArtifact fs path table = (ready, .error e)) ∨
        ∃ written, ready.write path (.text (Artifact.render table)) = .ok written ∧
          writeArtifact fs path table = (written, .ok ())) := by
  have adds := fs.addsDirectories_ensureAbove path
  rcases above : fs.ensureAbove path with ⟨ready, failure⟩
  rw [above] at adds
  refine ⟨ready, adds, ?_⟩
  unfold writeArtifact
  rw [above]
  cases failure with
  | some cause => exact .inl ⟨_, rfl⟩
  | none =>
    cases result : ready.write path (.text (Artifact.render table)) with
    | error cause => exact .inl ⟨.write path cause, by simp only [result]⟩
    | ok written => exact .inr ⟨written, rfl, by simp only [result]⟩

theorem writesOnly_writeArtifact (fs : FileSystem) (path : Path) (table : Table) :
    fs.WritesOnly (writeArtifact fs path table).1 path (Artifact.render table) := by
  obtain ⟨ready, adds, ⟨e, failed⟩ | ⟨written, wrote, done⟩⟩ := writeArtifact_cases fs path table
  · rw [failed]
    exact adds.writesOnly path _
  · rw [done]
    obtain ⟨location, found, directory, entries⟩ := FileSystem.resolve_of_write wrote
    refine ⟨directory.trans adds.workingDirectory, ?_⟩
    intro l
    by_cases here : l = location
    · subst here
      exact .inr (.inr ⟨found, by rw [entries, if_pos rfl]⟩)
    · rw [entries, if_neg here]
      rcases adds.entries l with same | made
      · exact .inl same
      · exact .inr (.inl made)

theorem find?_of_writeArtifact {after : FileSystem}
    (h : writeArtifact fs path table = (after, .ok ())) :
    after.find? path = some (.file (.text (Artifact.render table))) := by
  obtain ⟨ready, _, ⟨e, failed⟩ | ⟨written, wrote, done⟩⟩ := writeArtifact_cases fs path table
  · rw [failed] at h
    cases h
  · rw [done] at h
    cases h
    obtain ⟨location, found, _, entries⟩ := FileSystem.resolve_of_write wrote
    unfold FileSystem.find?
    rw [found]
    simp only [entries, if_pos]

theorem readText_of_find? {text : String} (h : fs.find? path = some (.file (.text text))) :
    fs.readText path = .ok text := by
  unfold FileSystem.readText
  rw [FileSystem.read_of_find? h]
  rfl

theorem readArtifact_of_find?
    (h : fs.find? path = some (.file (.text (Artifact.render table)))) :
    readArtifact fs path = .ok table := by
  unfold readArtifact
  rw [readText_of_find? h]
  simp only [Artifact.read?_render]

/-- The text of an artifact holds the table it was made for, and reading an artifact file that was
just written gives the table that was written. -/
theorem readArtifact_writeArtifact (table : Table) :
    Artifact.read? (Artifact.render table) = some table ∧
    ∀ fs path after, writeArtifact fs path table = (after, .ok ()) →
      after.readText path = .ok (Artifact.render table) ∧
      readArtifact after path = .ok table := by
  refine ⟨Artifact.read?_render table, ?_⟩
  intro fs path after wrote
  have there := find?_of_writeArtifact wrote
  exact ⟨readText_of_find? there, readArtifact_of_find? there⟩

/-- An artifact below a directory that is not there yet. -/
def nestedCache : Path := .ofString "nested/autotools.json"

theorem readArtifact_nestedCache :
    let table := (Table.empty.insert .make "x" "\"y\"\n").insert .config "AC_INIT" "é"
    let text := "\x7b\"config\":\x7b\"AC_INIT\":\"é\"\x7d,"
      ++ "\"make\":\x7b\"x\":\"\\\"y\\\"\\n\"\x7d\x7d"
    ∃ after, writeArtifact default nestedCache table = (after, .ok ()) ∧
      after.readText nestedCache = .ok text ∧ readArtifact after nestedCache = .ok table := by
  intro table text
  have rendered : Artifact.render table = text := by decide +kernel
  have wrote : writeArtifact default nestedCache table =
      ((writeArtifact default nestedCache table).1, .ok ()) := rfl
  rw [← rendered]
  exact ⟨_, wrote, (readArtifact_writeArtifact table).2 _ _ _ wrote⟩

/-- A cache file that is there decides, and no extraction is run. -/
theorem loadOrExtract_of_isFile {m : Type → Type} [Monad m] (h : fs.isFile path = true)
    (extraction : m (Except DocsError Table)) :
    loadOrExtract fs path extraction = pure (fs, readArtifact fs path) := by
  unfold loadOrExtract
  rw [if_pos h]

/-- Whatever effects an extraction has, in any file system: if the cache file is there, it is read,
the file system stays as it is and none of these effects takes place.  If it is not there, the
extraction is run; its failure is passed on and leaves the file system as it is, and its table is
returned whether or not it could be written.  Then only directories were made and only the file at
the path was written, and if that went well, every later call returns this table without running
its own extraction, in every file system where the path still leads to what was written. -/
theorem loadOrExtract_protocol {m : Type → Type} [Monad m] (fs : FileSystem) (path : Path)
    (extraction : m (Except DocsError Table)) :
    (fs.isFile path = true →
      loadOrExtract fs path extraction = pure (fs, readArtifact fs path)) ∧
    (fs.isFile path = false → ∃ outcome,
      loadOrExtract fs path extraction = outcome <$> extraction ∧
      (∀ e, outcome (.error e) = (fs, .error e)) ∧
      ∀ table, ∃ after, outcome (.ok table) = (after, .ok table) ∧
        fs.WritesOnly after path (Artifact.render table) ∧
        ((writeArtifact fs path table).2 = .ok () →
          ∀ later : FileSystem, later.find? path = after.find? path →
            ∀ {n : Type → Type} [Monad n] (other : n (Except DocsError Table)),
              loadOrExtract later path other = pure (later, .ok table))) := by
  refine ⟨fun present => loadOrExtract_of_isFile present extraction, ?_⟩
  intro absent
  refine ⟨cacheOutcome fs path, ?_, fun e => rfl, ?_⟩
  · unfold loadOrExtract
    rw [if_neg (by simp [absent])]
  · intro table
    rcases wrote : writeArtifact fs path table with ⟨after, result⟩
    have only := writesOnly_writeArtifact fs path table
    rw [wrote] at only
    refine ⟨after, by rw [cacheOutcome, wrote], only, ?_⟩
    rintro rfl later untouched n _ other
    rw [find?_of_writeArtifact wrote] at untouched
    rw [loadOrExtract_of_isFile (FileSystem.isFile_of_find? untouched),
      readArtifact_of_find? untouched]

/-- An extraction that counts its runs. -/
def counted (outcome : Except DocsError Table) : StateM Nat (Except DocsError Table) := do
  modify (· + 1)
  return outcome

theorem loadOrExtract_nestedCache :
    let fs : FileSystem := default
    let table := Table.empty.insert .make "x" "y"
    ∃ after, (loadOrExtract fs nestedCache (counted (.ok table))).run 0 = ((after, .ok table), 1) ∧
      (loadOrExtract after nestedCache (counted (.error .noCacheDirectory))).run 1 =
        ((after, .ok table), 1) := by
  intro fs table
  have absent : fs.isFile nestedCache = false := by decide +kernel
  have wrote : (writeArtifact fs nestedCache table).2 = .ok () := by rfl
  obtain ⟨outcome, run, -, made⟩ :=
    (loadOrExtract_protocol fs nestedCache (counted (.ok table))).2 absent
  obtain ⟨after, result, -, again⟩ := made table
  refine ⟨after, ?_, ?_⟩
  · rw [run]
    show ((outcome (.ok table), 1) : _ × Nat) = _
    rw [result]
  · rw [again wrote after rfl]
    rfl

end Docs

end Autotools
