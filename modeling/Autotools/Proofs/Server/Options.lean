import Autotools.Proofs.Docs.Cache
import Autotools.Server.Config

/-! The options of a client.  A value gives options in one of three forms, and no other value is
read.  The table that options ask for is the one at their path, or else that of their source,
whatever the command line said; to look for it writes no file unless it is extracted for the
cache. -/

namespace Autotools

open Json (Value)

/-! ### Options in a value -/

theorem DocsSource.ofName?_eq_some {name : String} {source : DocsSource} :
    ofName? name = some source ↔ name = source.name := by
  constructor
  · intro named
    unfold ofName? at named
    split at named <;> cases named <;> rfl
  · rintro rfl
    cases source <;> rfl

namespace Options

/-- A value names a source, or is null and names none. -/
inductive NamesSource : Value → Option DocsSource → Prop
  | null : NamesSource .null none
  | name (source : DocsSource) : NamesSource (.string source.name) (some source)
  | key (source : DocsSource) : NamesSource (.object [(source.name, .null)]) (some source)

/-- A value names a path, or is null and names none. -/
inductive NamesPath : Value → Option Path → Prop
  | null : NamesPath .null none
  | text (path : String) : NamesPath (.string path) (some (.ofString path))

/-- A value gives options: it is null, or an object with a source under at most one of two keys and
a path, or an array of a source and a path.  What is absent counts as null. -/
inductive Gives : Value → Options → Prop
  | null : Gives .null .empty
  | object {members : List (String × Value)} {o : Options}
      (once : Json.member? (.object members) "documentationSource" = none ∨
        Json.member? (.object members) "method" = none)
      (source : NamesSource (.ofOption ((Json.member? (.object members) "documentationSource").or
        (Json.member? (.object members) "method"))) o.source)
      (path : NamesPath (.ofOption (Json.member? (.object members) "documentationPath")) o.path) :
      Gives (.object members) o
  | array {items : List Value} {o : Options} (short : items.length ≤ 2)
      (source : NamesSource (.ofOption items[0]?) o.source)
      (path : NamesPath (.ofOption items[1]?) o.path) : Gives (.array items) o

theorem source?_eq_some {v : Value} {source : Option DocsSource} :
    source? v = some source ↔ NamesSource v source := by
  constructor
  · intro read
    unfold source? at read
    split at read
    · cases read
      exact .null
    · obtain ⟨found, named, rfl⟩ := Option.map_eq_some_iff.1 read
      rw [DocsSource.ofName?_eq_some.1 named]
      exact .name found
    · obtain ⟨found, named, rfl⟩ := Option.map_eq_some_iff.1 read
      rw [DocsSource.ofName?_eq_some.1 named]
      exact .key found
    · cases read
  · rintro (_ | source | source)
    · rfl
    · rw [source?, DocsSource.ofName?_eq_some.2 rfl, Option.map_some]
    · rw [source?, DocsSource.ofName?_eq_some.2 rfl, Option.map_some]

theorem path?_eq_some {v : Value} {path : Option Path} :
    path? v = some path ↔ NamesPath v path := by
  constructor
  · intro read
    unfold path? at read
    split at read
    · cases read
      exact .null
    · cases read
      exact .text _
    · cases read
  · rintro (_ | path) <;> rfl

/-- The options of a source and a path that are read one after the other. -/
def ofFields? (source path : Value) : Option Options := do
  return ⟨← source? source, ← path? path⟩

theorem ofFields?_eq_some {source path : Value} {o : Options} :
    ofFields? source path = some o ↔ NamesSource source o.source ∧ NamesPath path o.path := by
  rw [← source?_eq_some, ← path?_eq_some, ofFields?]
  cases o with
  | mk s p => cases source? source <;> cases path? path <;> simp

theorem ofValue?_array {items : List Value} (short : items.length ≤ 2) :
    ofValue? (.array items) = ofFields? (.ofOption items[0]?) (.ofOption items[1]?) := by
  match items, short with
  | [], _ => rfl
  | [source], _ =>
    show (do return ⟨← source? source, none⟩) = ofFields? source .null
    rw [ofFields?]
    cases source? source <;> rfl
  | [source, path], _ => rfl

theorem ofValue?_array_of_long {items : List Value} (long : ¬items.length ≤ 2) :
    ofValue? (.array items) = none := by
  match items, long with
  | [], long => simp at long
  | [_], long => simp at long
  | [_, _], long => simp at long
  | _ :: _ :: _ :: _, _ => rfl

theorem ofValue?_object {members : List (String × Value)}
    (once : Json.member? (.object members) "documentationSource" = none ∨
      Json.member? (.object members) "method" = none) :
    ofValue? (.object members) =
      ofFields? (.ofOption ((Json.member? (.object members) "documentationSource").or
        (Json.member? (.object members) "method")))
        (.ofOption (Json.member? (.object members) "documentationPath")) := by
  simp only [ofValue?, ofFields?, memberOrNull, Json.ofOption]
  rcases once with absent | absent
  · cases other : Json.member? (.object members) "method" <;> simp [absent, other]
  · cases named : Json.member? (.object members) "documentationSource" <;> simp [absent, named]

theorem ofValue?_object_of_twice {members : List (String × Value)}
    (twice : ¬(Json.member? (.object members) "documentationSource" = none ∨
      Json.member? (.object members) "method" = none)) :
    ofValue? (.object members) = none := by
  rw [not_or, ← ne_eq, ← ne_eq, Option.ne_none_iff_isSome, Option.ne_none_iff_isSome] at twice
  simp only [ofValue?, twice.1, twice.2, Bool.and_self, if_true]

/-- Options are read from the values that give them and from no others. -/
theorem ofValue?_eq_some {v : Value} {o : Options} : ofValue? v = some o ↔ Gives v o := by
  cases v with
  | null =>
    constructor
    · rintro ⟨⟩
      exact .null
    · rintro ⟨⟩
      rfl
  | bool b => exact ⟨by rintro ⟨⟩, by rintro ⟨⟩⟩
  | number literal => exact ⟨by rintro ⟨⟩, by rintro ⟨⟩⟩
  | string s => exact ⟨by rintro ⟨⟩, by rintro ⟨⟩⟩
  | array items =>
    by_cases short : items.length ≤ 2
    · rw [ofValue?_array short, ofFields?_eq_some]
      exact ⟨fun fields => .array short fields.1 fields.2, fun | .array _ s p => ⟨s, p⟩⟩
    · rw [ofValue?_array_of_long short]
      exact ⟨by rintro ⟨⟩, fun | .array short' _ _ => absurd short' short⟩
  | object members =>
    by_cases once : Json.member? (.object members) "documentationSource" = none ∨
        Json.member? (.object members) "method" = none
    · rw [ofValue?_object once, ofFields?_eq_some]
      exact ⟨fun fields => .object once fields.1 fields.2, fun | .object _ s p => ⟨s, p⟩⟩
    · rw [ofValue?_object_of_twice once]
      exact ⟨by rintro ⟨⟩, fun | .object once' _ _ => absurd once' once⟩

end Options

/-! ### The table that options ask for -/

namespace Docs

variable {env : Environment} {fs after : FileSystem} {path : Path} {source : DocsSource}
  {result : Except DocsError Table}

/-- What the file at a path holds as an artifact: the table in its text, or the cause why it has
none. -/
inductive Holds (fs : FileSystem) (path : Path) : Except DocsError Table → Prop
  | table {text : String} {docs : Table} (read : fs.readText path = .ok text)
      (found : Artifact.read? text = some docs) : Holds fs path (.ok docs)
  | malformed {text : String} (read : fs.readText path = .ok text)
      (none : Artifact.read? text = none) : Holds fs path (.error (.artifact path))
  | unread {cause : FileError} (failed : fs.readText path = .error cause) :
      Holds fs path (.error (.read path cause))

theorem readArtifact_eq_iff : readArtifact fs path = result ↔ Holds fs path result := by
  constructor
  · rintro rfl
    rw [readArtifact]
    cases read : fs.readText path with
    | error cause => exact .unread read
    | ok text =>
      cases found : Artifact.read? text with
      | none => simpa only [found] using .malformed read found
      | some docs => simpa only [found] using .table read found
  · rintro (⟨read, found⟩ | ⟨read, none⟩ | failed)
    · simp only [readArtifact, read, found]
    · simp only [readArtifact, read, none]
    · simp only [readArtifact, failed]

/-- What a source gives, and the file system after that.  The cache is read if it is there.  If it is
not, the manuals of the system are, and their table is written to it as far as that can be done. -/
inductive Supplies (env : Environment) (fs : FileSystem) :
    DocsSource → FileSystem → Except DocsError Table → Prop
  | builtin : Supplies env fs .builtin fs (.ok .builtin)
  | system {result : Except DocsError Table} (extracted : extract fs (infoDirs env) = result) :
      Supplies env fs .system fs result
  | homeless (nowhere : cachePath? env = none) :
      Supplies env fs .cache fs (.error .noCacheDirectory)
  | cached {cache : Path} {result : Except DocsError Table} (place : cachePath? env = some cache)
      (there : fs.isFile cache = true) (holds : Holds fs cache result) :
      Supplies env fs .cache fs result
  | failed {cache : Path} {cause : DocsError} (place : cachePath? env = some cache)
      (absent : fs.isFile cache = false) (failed : extract fs (infoDirs env) = .error cause) :
      Supplies env fs .cache fs (.error cause)
  | extracted {cache : Path} {docs : Table} (place : cachePath? env = some cache)
      (absent : fs.isFile cache = false) (extracted : extract fs (infoDirs env) = .ok docs) :
      Supplies env fs .cache (writeArtifact fs cache docs).1 (.ok docs)

theorem loadCache_eq (fs : FileSystem) (path : Path) (extraction : Except DocsError Table) :
    loadCache fs path extraction =
      if fs.isFile path then (fs, readArtifact fs path) else cacheOutcome fs path extraction := by
  unfold loadCache loadOrExtract
  split <;> rfl

theorem supplies_loadSource (env : Environment) (fs : FileSystem) (source : DocsSource) :
    Supplies env fs source (loadSource env fs source).1 (loadSource env fs source).2 := by
  cases source with
  | builtin => exact .builtin
  | system => exact .system rfl
  | cache =>
    rw [loadSource]
    cases place : cachePath? env with
    | none => exact .homeless place
    | some cache =>
      simp only [loadCache_eq]
      cases there : fs.isFile cache with
      | true => exact .cached place there (readArtifact_eq_iff.1 rfl)
      | false =>
        cases extraction : extract fs (infoDirs env) with
        | error cause => exact .failed place there extraction
        | ok docs => exact .extracted place there extraction

theorem Supplies.loadSource_eq (h : Supplies env fs source after result) :
    loadSource env fs source = (after, result) := by
  cases h with
  | builtin => rfl
  | system extracted => rw [loadSource, extracted]
  | homeless nowhere => rw [loadSource, nowhere]
  | cached place there holds =>
    simp only [loadSource, place, loadCache_eq, there, if_true, readArtifact_eq_iff.2 holds]
  | failed place absent failed =>
    simp [loadSource, place, loadCache_eq, absent, failed, cacheOutcome]
  | extracted place absent extracted =>
    simp [loadSource, place, loadCache_eq, absent, extracted, cacheOutcome]

end Docs

namespace Options

variable {env : Environment} {fs after : FileSystem} {o : Options}
  {result : Except DocsError Table}

/-- What options lead to: what the file at their path holds, or else what their source gives. -/
inductive Loads (env : Environment) (fs : FileSystem) :
    Options → FileSystem → Except DocsError Table → Prop
  | path {source : Option DocsSource} {path : Path} {result : Except DocsError Table}
      (holds : Docs.Holds fs path result) : Loads env fs ⟨source, some path⟩ fs result
  | source {source : DocsSource} {after : FileSystem} {result : Except DocsError Table}
      (supplies : Docs.Supplies env fs source after result) :
      Loads env fs ⟨some source, none⟩ after result

theorem Loads.isEmpty_eq_false (h : o.Loads env fs after result) : o.isEmpty = false := by
  cases h <;> simp [isEmpty]

theorem asks_of_isEmpty (h : o.isEmpty = false) : o.source ≠ none ∨ o.path ≠ none := by
  rcases o with ⟨_ | source, _ | path⟩ <;> simp_all [isEmpty]

theorem exists_loads (env : Environment) (fs : FileSystem)
    (asks : o.source ≠ none ∨ o.path ≠ none) : ∃ after result, o.Loads env fs after result := by
  rcases o with ⟨source, _ | path⟩
  · cases source with
    | none => simp at asks
    | some source => exact ⟨_, _, .source (Docs.supplies_loadSource env fs source)⟩
  · exact ⟨fs, _, .path (Docs.readArtifact_eq_iff.1 rfl)⟩

/-- What options ask for is loaded whatever configuration they are merged with: their path stands in
front of the source, and their source drops the path of the command line. -/
theorem load_merge (c : ServerConfig) (h : o.Loads env fs after result) :
    (c.merge o).load env fs = (after, result) := by
  cases h with
  | @path source _ _ holds =>
    rw [← Docs.readArtifact_eq_iff.2 holds]
    cases source <;> rfl
  | source supplies => exact supplies.loadSource_eq

/-- Files are written only for a table that was extracted for the cache, and only there. -/
theorem Loads.files (h : o.Loads env fs after result) :
    after = fs ∨ ∃ cache docs, o.path = none ∧ o.source = some .cache ∧
      Docs.cachePath? env = some cache ∧ result = .ok docs ∧
      fs.WritesOnly after cache (Artifact.render docs) := by
  cases h with
  | path => exact .inl rfl
  | source supplies =>
    cases supplies with
    | @extracted cache docs place =>
      exact .inr ⟨cache, docs, rfl, rfl, place, rfl, Docs.writesOnly_writeArtifact fs cache docs⟩
    | _ => exact .inl rfl

theorem Loads.files_of_error {cause : DocsError} (h : o.Loads env fs after (.error cause)) :
    after = fs := by
  rcases h.files with same | ⟨_, _, _, _, _, ok, _⟩
  · exact same
  · cases ok

end Options

end Autotools
