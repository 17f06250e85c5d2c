import Autotools.Proofs.Docs.Names
import Autotools.Proofs.Server.Options
import Autotools.Server.Session
import Mathlib.Data.List.Nodup

/-! The first request of a client.  Options that cannot be read, or that name a table which cannot
be had, are refused, and then the session and the files are as if the request had not been sent.
Options that ask for nothing change nothing, and all others replace the table of the session by the
one they name. -/

namespace Autotools

open Json (Value)
open Message
open Syntax (Parser)

/-! ### The options in a message -/

namespace Shape

theorem lookup_readMembers (aside : Bool) (fields : List (String × Shape))
    (members : List (String × Value)) (key : String) :
    (readMembers aside fields members).lookup key =
      (fields.lookup key).bind fun shape => (members.lookup key).map (read aside shape) := by
  induction fields with
  | nil => rw [readMembers]; rfl
  | cons field fields ih =>
    obtain ⟨name, shape⟩ := field
    rw [readMembers, SortedMap.lookup_binding]
    cases there : members.lookup name with
    | some v =>
      simp only [SortedMap.lookup_binding]
      split
      · next here => simp [here, there]
      · exact ih
    | none =>
      dsimp only
      rw [ih]
      split
      · next here => simp [here, there]
      · rfl

theorem sublist_readMembers (aside : Bool) (fields : List (String × Shape))
    (members : List (String × Value)) :
    ((readMembers aside fields members).map (·.1)).Sublist (fields.map (·.1)) := by
  induction fields with
  | nil => rw [readMembers]; exact .slnil
  | cons field fields ih =>
    obtain ⟨name, shape⟩ := field
    rw [readMembers]
    cases members.lookup name with
    | some v => exact ih.cons_cons name
    | none => exact ih.cons name

theorem lookup_results {found : List (String × Except Complaint Value)}
    (once : (found.map (·.1)).Nodup) (key : String) :
    (found.filterMap fun f => f.2.toOption.map fun v => (f.1, v)).reverse.lookup key =
      (found.lookup key).bind Except.toOption := by
  induction found with
  | nil => rfl
  | cons f found ih =>
    obtain ⟨name, result⟩ := f
    rw [List.map_cons, List.nodup_cons] at once
    have others := ih once.2
    -- the look-up starts at the end, so it matters that the first name does not come again
    have alone : key = name → found.lookup key = none := by
      rintro rfl
      rw [List.lookup_eq_none_iff]
      intro f inside
      have other : key ≠ f.1 := fun same => once.1 (List.mem_map.2 ⟨f, inside, same.symm⟩)
      simpa using other
    rw [SortedMap.lookup_binding]
    cases result with
    | error complaint =>
      rw [List.filterMap_cons_none (by rfl), others]
      split
      · next here => rw [alone here]; rfl
      · rfl
    | ok v =>
      rw [List.filterMap_cons_some (by rfl), List.reverse_cons, List.lookup_append, others,
        SortedMap.lookup_binding]
      split
      · next here => rw [alone here]; rfl
      · exact Option.or_none

/-- In what an object gives for a record, a field has the value that was read for it. -/
theorem member?_record {title : String} {fields : List (String × Shape)}
    {members : List (String × Value)} {v : Value} (distinct : (fields.map (·.1)).Nodup)
    (shaped : (record title fields).ofValue (.object members) = .ok v) (key : String) :
    v.member? key = ((fields.lookup key).bind fun shape =>
      (members.lookup key).map (read false shape)).bind Except.toOption := by
  have once : ((readMembers false fields members).map (·.1)).Nodup :=
    distinct.sublist (sublist_readMembers false fields members)
  rw [ofValue, read] at shaped
  simp only [settle] at shaped
  split at shaped
  · cases shaped
  · split at shaped <;> cases shaped
    rw [Json.member?, lookup_results once, lookup_readMembers]

theorem read_optional_anything (aside : Bool) (v : Value) :
    read aside (.optional .anything) v = .ok v := by
  cases v <;> rfl

/-- The options of a client are read as they were sent. -/
theorem member?_introduction {members : List (String × Value)} {v : Value}
    (shaped : introduction.ofValue (.object members) = .ok v) :
    v.member? "initializationOptions" = members.lookup "initializationOptions" := by
  rw [member?_record (by decide) shaped]
  show ((members.lookup "initializationOptions").map (read false (.optional .anything))).bind
    Except.toOption = _
  cases members.lookup "initializationOptions" with
  | none => rfl
  | some options =>
    rw [Option.map_some, read_optional_anything]
    rfl

end Shape

/-- The method of the first request. -/
def Method.introduction : Method :=
  ⟨"initialize", false, some Shape.introduction, some .introduce⟩

/-- The options of the first request are the value under their key. -/
theorem Message.readCall_introduction {members : List (String × Value)} {v : Value}
    (shaped : Shape.introduction.ofValue (.object members) = .ok v) :
    readCall .introduction (some (.object members)) =
      .ok (.introduce (.ofOption (members.lookup "initializationOptions")) (offersUtf8 v)) := by
  have params : readParams .introduction (some (.object members)) = .ok v := by
    show (Shape.introduction.ofValue (.object members)).mapError Refusal.invalidParams = .ok v
    rw [shaped]
    rfl
  rw [← Shape.member?_introduction shaped, readCall, params]
  rfl

theorem Message.call_of_readCall_introduction {params : Option Value} {call : Call}
    (read : readCall .introduction params = .ok call) :
    ∃ options utf8, call = .introduce options utf8 := by
  rw [readCall] at read
  cases found : readParams .introduction params with
  | error refusal =>
    rw [found] at read
    cases read
  | ok v =>
    rw [found] at read
    cases read
    exact ⟨_, _, rfl⟩

/-! ### The answer -/

namespace Session

variable {parser : Parser} {env : Environment} {fs after : FileSystem} {s : Session}
  {options : Value} {utf8 : Bool} {o : Options} {m : Incoming} {refusal : Refusal}

theorem introduce_of_unfit (unfit : ∀ o, ¬Options.Gives options o) :
    s.introduce env fs options utf8 = ⟨s, fs, some (.error .invalidOptions), []⟩ := by
  have unread : Options.ofValue? options = none := by
    rw [Option.eq_none_iff_forall_ne_some]
    intro o read
    exact unfit o (Options.ofValue?_eq_some.1 read)
  simp only [introduce, configure, unread]

theorem introduce_of_nothing (given : Options.Gives options o) (blank : o.isEmpty = true) :
    s.introduce env fs options utf8 =
      ⟨{ s with phase := .ready }, fs, some (.ok (welcome utf8)), []⟩ := by
  have read := Options.ofValue?_eq_some.2 given
  simp only [introduce, configure, read, blank, if_true]

theorem introduce_of_loads {result : Except DocsError Table} (given : Options.Gives options o)
    (loaded : o.Loads env fs after result) :
    s.introduce env fs options utf8 =
      match result with
      | .error cause => ⟨s, after, some (.error (.cannotLoad cause)), []⟩
      | .ok docs => ⟨{ s with phase := .ready, workspace := s.workspace.withDocs docs }, after,
          some (.ok (welcome utf8)), []⟩ := by
  have read := Options.ofValue?_eq_some.2 given
  have asks := loaded.isEmpty_eq_false
  simp only [introduce, configure, read, asks, Options.load_merge s.config loaded]
  cases result <;> rfl

theorem introduce_of_failed {cause : DocsError} (given : Options.Gives options o)
    (failed : o.Loads env fs after (.error cause)) :
    s.introduce env fs options utf8 = ⟨s, fs, some (.error (.cannotLoad cause)), []⟩ := by
  obtain rfl := failed.files_of_error
  exact introduce_of_loads given failed

/-- Options are refused, or taken up. -/
theorem introduce_cases (s : Session) (env : Environment) (fs : FileSystem) (options : Value)
    (utf8 : Bool) :
    (∃ refusal, s.introduce env fs options utf8 = ⟨s, fs, some (.error refusal), []⟩) ∨
      ∃ next after, s.introduce env fs options utf8 =
        ⟨next, after, some (.ok (welcome utf8)), []⟩ := by
  by_cases fit : ∃ o, Options.Gives options o
  · obtain ⟨o, given⟩ := fit
    cases blank : o.isEmpty with
    | true => exact .inr ⟨_, _, introduce_of_nothing given blank⟩
    | false =>
      obtain ⟨after, _ | docs, loaded⟩ := o.exists_loads env fs (Options.asks_of_isEmpty blank)
      · exact .inl ⟨_, introduce_of_failed given loaded⟩
      · exact .inr ⟨_, _, introduce_of_loads given loaded⟩
  · exact .inl ⟨_, introduce_of_unfit (not_exists.1 fit)⟩

theorem react_introduction (named : m.method = "initialize") :
    s.react parser env fs m = Reaction.forRequest m (s.dispatch parser env fs .introduction m) := by
  have found : Method.find? m.method = some .introduction := by
    rw [named]
    rfl
  rw [react, if_neg (by rw [named]; decide), if_neg (by rw [named]; decide), found]

/-- The first request of a session is refused before its options are read, or its options are taken
up or refused. -/
theorem dispatch_introduction (s : Session) (parser : Parser) (env : Environment) (fs : FileSystem)
    (m : Incoming) :
    (∃ refusal, s.dispatch parser env fs .introduction m =
      ⟨s, fs, some (.error refusal), []⟩) ∨
    ∃ options utf8, s.dispatch parser env fs .introduction m =
      s.introduce env fs options utf8 := by
  -- only the last request of a session changes its phase before it is served
  have entered : s.entered .introduction = s := rfl
  unfold dispatch
  cases s.refusal? .introduction with
  | some refusal => exact .inl ⟨refusal, rfl⟩
  | none =>
    dsimp only
    rw [entered]
    split
    · exact .inl ⟨_, rfl⟩
    · cases read : readCall .introduction m.params with
      | error refusal => exact .inl ⟨refusal, rfl⟩
      | ok call =>
        obtain ⟨options, utf8, rfl⟩ := call_of_readCall_introduction read
        exact .inr ⟨options, utf8, rfl⟩

theorem react_introduction_refused (named : m.method = "initialize")
    (refused : (s.react parser env fs m).answer = some (.error refusal)) :
    s.react parser env fs m = ⟨s, fs, some (.error refusal), []⟩ := by
  rw [react_introduction named, Reaction.forRequest] at refused ⊢
  split at refused
  · -- a notice has no answer
    cases refused
  · next request =>
    rw [if_neg request]
    rcases s.dispatch_introduction parser env fs m with ⟨_, done⟩ | ⟨options, utf8, done⟩
    · rw [done] at refused ⊢
      cases refused
      rfl
    · rcases s.introduce_cases env fs options utf8 with ⟨_, unmoved⟩ | ⟨_, _, moved⟩
      · rw [done, unmoved] at refused ⊢
        cases refused
        rfl
      · rw [done, moved] at refused
        cases refused

/-- In a fresh session the options of a first request that has its shape are looked at. -/
theorem react_introduction_fresh {members : List (String × Value)} {v : Value}
    (fresh : s.phase = .fresh) (named : m.method = "initialize") (request : m.isNotice = false)
    (params : m.params = some (.object members))
    (shaped : Shape.introduction.ofValue (.object members) = .ok v) :
    s.react parser env fs m =
      s.introduce env fs (.ofOption (members.lookup "initializationOptions")) (offersUtf8 v) := by
  have timely : s.refusal? .introduction = none := by
    have first : Method.introduction.service = some .introduce := rfl
    rw [refusal?, if_pos first, if_pos fresh]
  have kind : ¬m.isNotice ≠ Method.introduction.isNotice := by
    rw [request]
    decide
  rw [react_introduction named, Reaction.forRequest, if_neg (by simp [request]), dispatch, timely]
  simp only [if_neg kind, params, readCall_introduction shaped]
  rfl

/-- What a session answers and sends for messages one after the other. -/
def transcript (parser : Parser) (env : Environment) :
    Session → FileSystem → List Incoming → List (Option (Except Refusal Value) × List Notice)
  | _, _, [] => []
  | s, fs, m :: later =>
    let reaction := s.react parser env fs m
    (reaction.answer, reaction.sent) ::
      transcript parser env reaction.session reaction.files later

/-- In any session and file system: if the request `initialize` is answered with a refusal, the
session and the files are as they were, and every later message is answered as if the request had
not been sent.  In a fresh session a request with parameters of the right shape is decided by its
options, and absent options count as null.  For any options: those that give nothing readable are
refused; those that ask for no table change nothing but that the session is ready; all others lead
to the table in the file at their path, or to that of their source if they have no path, or to the
cause why there is none.  With a cause they are refused.  With a table nothing changes but that the
session is ready and has this table, and that a table extracted for the cache may have been written
to the cache file. -/
theorem introduction_protocol (parser : Parser) (env : Environment) (fs : FileSystem)
    (s : Session) :
    (∀ (m : Incoming) (refusal : Refusal), m.method = "initialize" →
      (s.react parser env fs m).answer = some (.error refusal) →
      (s.react parser env fs m).session = s ∧ (s.react parser env fs m).files = fs ∧
      ∀ later, transcript parser env s fs (m :: later) =
        (some (.error refusal), []) :: transcript parser env s fs later) ∧
    (∀ (m : Incoming) (members : List (String × Value)) (params : Value), s.phase = .fresh →
      m.method = "initialize" → m.isNotice = false → m.params = some (.object members) →
      Shape.introduction.ofValue (.object members) = .ok params →
      s.react parser env fs m = s.introduce env fs
        (.ofOption (members.lookup "initializationOptions")) (offersUtf8 params)) ∧
    ∀ (options : Value) (utf8 : Bool),
      ((∀ o, ¬Options.Gives options o) → s.introduce env fs options utf8 =
        ⟨s, fs, some (.error .invalidOptions), []⟩) ∧
      ∀ o, Options.Gives options o →
        (o.source = none → o.path = none → s.introduce env fs options utf8 =
          ⟨{ s with phase := .ready }, fs, some (.ok (welcome utf8)), []⟩) ∧
        (o.source ≠ none ∨ o.path ≠ none → ∃ after result, o.Loads env fs after result) ∧
        (∀ after cause, o.Loads env fs after (.error cause) →
          s.introduce env fs options utf8 = ⟨s, fs, some (.error (.cannotLoad cause)), []⟩) ∧
        ∀ after docs, o.Loads env fs after (.ok docs) →
          s.introduce env fs options utf8 =
            ⟨{ s with phase := .ready, workspace := { s.workspace with docs } }, after,
              some (.ok (welcome utf8)), []⟩ ∧
          (after = fs ∨ ∃ cache, o.path = none ∧ o.source = some .cache ∧
            Docs.cachePath? env = some cache ∧
            fs.WritesOnly after cache (Artifact.render docs)) := by
  refine ⟨?_, ?_, ?_⟩
  · intro m refusal named refused
    have unmoved := react_introduction_refused named refused
    refine ⟨by rw [unmoved], by rw [unmoved], ?_⟩
    intro later
    rw [transcript, unmoved]
  · intro m members params fresh named request given shaped
    exact react_introduction_fresh fresh named request given shaped
  · intro options utf8
    refine ⟨introduce_of_unfit, ?_⟩
    intro o given
    refine ⟨?_, Options.exists_loads env fs, ?_, ?_⟩
    · intro noSource noPath
      exact introduce_of_nothing given (by simp [Options.isEmpty, noSource, noPath])
    · intro after cause failed
      exact introduce_of_failed given failed
    · intro after docs loaded
      refine ⟨introduce_of_loads given loaded, ?_⟩
      rcases loaded.files with same | ⟨cache, written, noPath, source, place, ok, only⟩
      · exact .inl same
      · cases ok
        exact .inr ⟨cache, noPath, source, place, only⟩

/-- An artifact with one name. -/
def artifactText : String := "\x7b\"config\":\x7b\x7d,\"make\":\x7b\"x\":\"y\"\x7d\x7d"

/-- The manuals in one of the usual directories, a file with a table and one without. -/
def installed : FileSystem :=
  let info := [FileName.ofString "usr", .ofString "share", .ofString "info"]
  ⟨[(info.take 1, .directory), (info.take 2, .directory), (info, .directory),
    (info ++ [.ofString "autoconf.info"],
      .file (.text " -- Macro: AC_INIT (PACKAGE)\n     Process arguments.\n")),
    (info ++ [.ofString "make.info"], .file (.text "Functions.\n")),
    ([.ofString "docs.json"], .file (.text artifactText)),
    ([.ofString "notes.txt"], .file (.text "No table.\n"))], []⟩

/-- An environment with a home directory, and the cache below it. -/
def inHome : Environment := ⟨none, none, some "/home/me"⟩

def homeCache : Path := .ofString "/home/me/.cache/autotools-language-server/autotools.json"

/-- A session with a document open and a path on its command line. -/
def withDocument : Session :=
  ⟨.fresh, ⟨.system, some (.ofString "/etc/docs.json")⟩,
    (Workspace.ofTable .empty).opened (fun _ => default) "file:///p/Makefile" none "x:\n" 1⟩

theorem holds_docs :
    Docs.Holds installed (.ofString "/docs.json") (.ok (Table.empty.insert .make "x" "y")) := by
  have read : installed.readText (.ofString "/docs.json") = .ok artifactText := rfl
  have text : artifactText = Artifact.render (Table.empty.insert .make "x" "y") := by
    decide +kernel
  refine .table read ?_
  rw [text, Artifact.read?_render]

theorem exists_extracted : ∃ docs, Docs.extract installed (Docs.infoDirs inHome) = .ok docs ∧
    docs.describe? "AC_INIT" .config =
      some "```m4\nAC_INIT (PACKAGE)\n```\nProcess arguments." := by
  have described : (Docs.extract installed (Docs.infoDirs inHome)).toOption.bind
      (·.describe? "AC_INIT" .config) =
        some "```m4\nAC_INIT (PACKAGE)\n```\nProcess arguments." := by decide +kernel
  cases extracted : Docs.extract installed (Docs.infoDirs inHome) with
  | error cause =>
    rw [extracted] at described
    cases described
  | ok docs =>
    rw [extracted] at described
    exact ⟨docs, rfl, described⟩

/-- The directories above the cache are made with it. -/
theorem supplies_homeCache {docs : Table}
    (extracted : Docs.extract installed (Docs.infoDirs inHome) = .ok docs) :
    ∃ after, Docs.Supplies inHome installed .cache after (.ok docs) ∧
      after.readText homeCache = .ok (Artifact.render docs) := by
  have place : Docs.cachePath? inHome = some homeCache := by decide +kernel
  have absent : installed.isFile homeCache = false := by decide +kernel
  have wrote : Docs.writeArtifact installed homeCache docs =
      ((Docs.writeArtifact installed homeCache docs).1, .ok ()) := rfl
  exact ⟨_, .extracted place absent extracted,
    Docs.readText_of_find? (Docs.find?_of_writeArtifact wrote)⟩

/-- A path or a source that can be loaded gives the session its table, and the table for the cache
is written there.  Everything else that is asked for leaves the session with its document as it
is. -/
theorem introduction_withDocument :
    let s := withDocument
    let asked (options : List (String × Value)) : Reaction :=
      s.introduce inHome installed (.object options) true
    let ready (docs : Table) (files : FileSystem) : Reaction :=
      ⟨⟨.ready, s.config, s.workspace.store, docs⟩, files, some (.ok (welcome true)), []⟩
    let refused (refusal : Refusal) : Reaction := ⟨s, installed, some (.error refusal), []⟩
    asked [("documentationPath", .string "/docs.json")] =
      ready (Table.empty.insert .make "x" "y") installed ∧
    asked [("method", .string "system"), ("documentationPath", .string "/docs.json")] =
      ready (Table.empty.insert .make "x" "y") installed ∧
    (asked [("method", .string "builtin")] = ready .builtin installed ∧
      (Table.builtin.describe? "CC" .make).isSome = true) ∧
    (∃ docs after, asked [("method", .string "system")] = ready docs installed ∧
      asked [("method", .string "cache")] = ready docs after ∧
      docs.describe? "AC_INIT" .config =
        some "```m4\nAC_INIT (PACKAGE)\n```\nProcess arguments." ∧
      after.readText homeCache = .ok (Artifact.render docs)) ∧
    asked [] = ready .empty installed ∧
    asked [("documentationPath", .string "/none.json")] =
      refused (.cannotLoad (.read (.ofString "/none.json") .notFound)) ∧
    asked [("documentationPath", .string "/notes.txt")] =
      refused (.cannotLoad (.artifact (.ofString "/notes.txt"))) ∧
    asked [("method", .string "manual")] = refused .invalidOptions ∧
    asked [("method", .string "system"), ("documentationSource", .string "system")] =
      refused .invalidOptions ∧
    ∀ later, transcript (fun _ => default) inHome s installed
      (⟨"initialize", some (.object [("capabilities", .object []),
        ("initializationOptions", .object [("documentationPath", .string "/none.json")])]),
        false⟩ :: later) =
      (some (.error (.cannotLoad (.read (.ofString "/none.json") .notFound))), []) ::
        transcript (fun _ => default) inHome s installed later := by
  intro s asked ready refused
  obtain ⟨kept, served, decided⟩ := introduction_protocol (fun _ => default) inHome installed s
  have taken {options : Value} {o : Options} (given : Options.Gives options o) {docs : Table}
      {after : FileSystem} (loaded : o.Loads inHome installed after (.ok docs)) :
      s.introduce inHome installed options true = ready docs after :=
    (((decided options true).2 o given).2.2.2 after docs loaded).1
  have failed {options : Value} {o : Options} (given : Options.Gives options o) {utf8 : Bool}
      {cause : DocsError} (loaded : o.Loads inHome installed installed (.error cause)) :
      s.introduce inHome installed options utf8 = refused (.cannotLoad cause) :=
    ((decided options utf8).2 o given).2.2.1 installed cause loaded
  have unread {options : Value} (unfit : Options.ofValue? options = none) :
      s.introduce inHome installed options true = refused .invalidOptions := by
    refine (decided options true).1 fun o => ?_
    rw [← Options.ofValue?_eq_some, unfit]
    exact nofun
  have path (name : String) : Options.Gives (.object [("documentationPath", .string name)])
      ⟨none, some (.ofString name)⟩ := .object (.inl rfl) .null (.text name)
  have source (source : DocsSource) : Options.Gives (.object [("method", .string source.name)])
      ⟨some source, none⟩ := .object (.inl rfl) (.name source) .null
  have both : Options.Gives
      (.object [("method", .string "system"), ("documentationPath", .string "/docs.json")])
      ⟨some .system, some (.ofString "/docs.json")⟩ :=
    .object (.inl rfl) (.name .system) (.text "/docs.json")
  have nothing : Options.Gives (.object []) .empty := .object (.inl rfl) .null .null
  have missing : Options.Loads inHome installed ⟨none, some (.ofString "/none.json")⟩ installed
      (.error (.read (.ofString "/none.json") .notFound)) := .path (.unread rfl)
  have malformed : Options.Loads inHome installed ⟨none, some (.ofString "/notes.txt")⟩ installed
      (.error (.artifact (.ofString "/notes.txt"))) := by
    have read : installed.readText (.ofString "/notes.txt") = .ok "No table.\n" := rfl
    exact .path (.malformed read rfl)
  refine ⟨?_, ?_, ⟨?_, ?_⟩, ?_, ?_, ?_, ?_, ?_, ?_, ?_⟩
  · exact taken (path _) (.path holds_docs)
  · exact taken both (.path holds_docs)
  · exact taken (source .builtin) (.source .builtin)
  · exact SortedMap.isSome_get?_insertAll.2 (.inr (by decide +kernel))
  · obtain ⟨docs, extracted, described⟩ := exists_extracted
    obtain ⟨after, supplied, written⟩ := supplies_homeCache extracted
    refine ⟨docs, after, ?_, ?_, described, written⟩
    · exact taken (source .system) (.source (.system extracted))
    · exact taken (source .cache) (.source supplied)
  · exact ((decided _ true).2 _ nothing).1 rfl rfl
  · exact failed (path _) missing
  · exact failed (path _) malformed
  · exact unread rfl
  · exact unread rfl
  · refine (kept _ _ rfl ?_).2.2
    rw [served _ _ _ rfl rfl rfl rfl (by rfl)]
    exact congrArg Reaction.answer (failed (path _) missing)

end Session

end Autotools
