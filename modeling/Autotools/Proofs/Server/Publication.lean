import Autotools.Proofs.Workspace.Reachable
import Autotools.Server.Session
import Mathlib.Data.List.Forall2

/-! What a client was last told about its documents.  A conversation takes the notifications about
documents in their order and collects the notices that the server sends.  After every
notification, the last notice about a URI gives the findings and the version of the document that
the server holds there, or no findings and no version once it is closed. -/

namespace Autotools

open Json (Value)
open Message
open Syntax

/-! ### Notices about findings -/

namespace Message

/-- A value gives the row and column of a point. -/
structure GivesPoint (p : Point) (v : Value) : Prop where
  line : v.member? "line" = some (.nat p.row.toNat)
  character : v.member? "character" = some (.nat p.column.toNat)

/-- A value gives the range, the severity and the message of a finding. -/
structure Describes (f : Finding) (v : Value) : Prop where
  range : ∃ range start stop, v.member? "range" = some range ∧
    range.member? "start" = some start ∧ GivesPoint f.range.start start ∧
    range.member? "end" = some stop ∧ GivesPoint f.range.stop stop
  severity : v.member? "severity" = some (.nat (if f.severity = .error then 1 else 2))
  message : v.member? "message" = some (.string f.message)

/-- A notice gives exactly these findings of a document, in their order, and this version. -/
structure Notice.Carries (n : Notice) (uri : String) (findings : List Finding)
    (version : Option Int) : Prop where
  method : n.method = "textDocument/publishDiagnostics"
  uri : n.params.member? "uri" = some (.string uri)
  version : n.params.member? "version" = version.map .int
  diagnostics : ∃ items, n.params.member? "diagnostics" = some (.array items) ∧
    List.Forall₂ Describes findings items

/-- The document whose findings a notice gives. -/
def Notice.subject? (n : Notice) : Option String :=
  if n.method = "textDocument/publishDiagnostics" then text? n.params "uri" else none

/-- The last notice that gives the findings of a document. -/
def lastAbout (uri : String) (sent : List Notice) : Option Notice :=
  (sent.filter (·.subject? = some uri)).getLast?

theorem givesPoint_ofPoint (p : Point) : GivesPoint p (ofPoint p) := ⟨rfl, rfl⟩

theorem describes_ofFinding (f : Finding) : Describes f (ofFinding f) := by
  constructor
  · exact ⟨ofRange f.range, ofPoint f.range.start, ofPoint f.range.stop, rfl, rfl,
      givesPoint_ofPoint _, rfl, givesPoint_ofPoint _⟩
  · cases h : f.severity <;> simp [ofFinding, severityNumber, h] <;> rfl
  · rfl

theorem carries_published (uri : String) (findings : List Finding) (version : Option Int) :
    (published uri findings version).Carries uri findings version := by
  have described : List.Forall₂ Describes findings (findings.map ofFinding) := by
    rw [List.forall₂_map_right_iff]
    exact List.forall₂_same.2 fun f _ => describes_ofFinding f
  cases version with
  | none => exact ⟨rfl, rfl, rfl, findings.map ofFinding, rfl, described⟩
  | some n => exact ⟨rfl, rfl, rfl, findings.map ofFinding, rfl, described⟩

theorem subject?_published (uri : String) (findings : List Finding) (version : Option Int) :
    (published uri findings version).subject? = some uri := by
  cases version <;> rfl

theorem lastAbout_snoc (uri : String) (sent : List Notice) (n : Notice) :
    lastAbout uri (sent ++ [n]) = if n.subject? = some uri then some n else lastAbout uri sent := by
  rw [lastAbout, List.filter_append]
  by_cases about : n.subject? = some uri
  · rw [if_pos about, List.filter_cons_of_pos (by simpa using about), List.getLast?_append]
    rfl
  · rw [if_neg about, List.filter_cons_of_neg (by simpa using about), List.filter_nil,
      List.append_nil, lastAbout]

end Message

/-! ### Conversations -/

/-- What a client tells the server about its documents. -/
inductive Notification where
  | didOpen (uri text : String) (version : Int)
  | didChange (uri : String) (version : Int) (texts : List String)
  | didClose (uri : String)
deriving DecidableEq, Inhabited

def Notification.call : Notification → Call
  | .didOpen uri text version => .didOpen uri text version
  | .didChange uri version texts => .didChange uri version texts
  | .didClose uri => .didClose uri

/-- What a notification does with the documents.  Of several texts the last one counts, and no
text is no change. -/
def Notification.operations : Notification → List Operation
  | .didOpen uri text version => [.opens uri (Uri.filePathOf? uri) text version]
  | .didChange uri version texts => texts.getLast?.toList.map (.changes uri · version)
  | .didClose uri => [.closes uri]

/-- A session, the files around it, and the notices that the server has sent. -/
structure Conversation where
  session : Session
  files : FileSystem
  sent : List Notice

namespace Conversation

/-- The start of a conversation with a server that has no document open. -/
def start (phase : Phase) (config : ServerConfig) (docs : Table) (fs : FileSystem) : Conversation :=
  ⟨⟨phase, config, .ofTable docs⟩, fs, []⟩

/-- The conversation after one more notification. -/
def next (parser : Parser) (env : Environment) (c : Conversation) (n : Notification) :
    Conversation :=
  let reaction := c.session.serve parser env c.files n.call
  ⟨reaction.session, reaction.files, c.sent ++ reaction.sent⟩

/-- The conversation after a sequence of notifications. -/
def run (parser : Parser) (env : Environment) (c : Conversation) (ns : List Notification) :
    Conversation :=
  ns.foldl (next parser env) c

def store (c : Conversation) : Store := c.session.workspace.store

/-- The conversation after the text of a document was taken up and its findings were published. -/
def written (parser : Parser) (c : Conversation) (uri : String) (path : Option Path)
    (text : String) (version : Int) : Conversation :=
  let workspace := c.session.workspace.opened parser uri path text version
  ⟨{ c.session with workspace }, c.files,
    c.sent ++ [published uri (workspace.findings c.files uri) (some version)]⟩

/-- The conversation after a document was closed and its findings were taken back. -/
def dropped (c : Conversation) (uri : String) : Conversation :=
  ⟨{ c.session with workspace := c.session.workspace.closed uri }, c.files,
    c.sent ++ [published uri [] none]⟩

variable {parser : Parser} {env : Environment} {c : Conversation} {fs : FileSystem}
  {ns : List Notification} {u : String}

theorem next_didOpen (uri text : String) (version : Int) :
    c.next parser env (.didOpen uri text version) =
      c.written parser uri (Uri.filePathOf? uri) text version := rfl

/-- Of several texts the last one counts. -/
theorem next_didChange (uri : String) (version : Int) (texts : List String) (text : String) :
    c.next parser env (.didChange uri version (texts ++ [text])) =
      c.written parser uri (c.store.pathOf uri) text version := by
  simp only [next, Notification.call, Session.serve, Session.didChange,
    List.getLast?_append, List.getLast?_singleton, Option.some_or]
  rfl

theorem next_didChange_nil (uri : String) (version : Int) :
    c.next parser env (.didChange uri version []) = c := by
  simp [next, Notification.call, Session.serve, Session.didChange]

theorem next_didClose (uri : String) :
    c.next parser env (.didClose uri) = c.dropped uri := rfl

theorem store_next (n : Notification) :
    (c.next parser env n).store = n.operations.foldl (Store.after parser) c.store := by
  cases n with
  | didOpen uri text version => rfl
  | didChange uri version texts =>
    rcases List.eq_nil_or_concat texts with rfl | ⟨earlier, text, rfl⟩
    · rw [next_didChange_nil]
      rfl
    · rw [List.concat_eq_append, next_didChange]
      simp [Notification.operations]
      rfl
  | didClose uri => rfl

/-- The store of a conversation is the run of what its notifications do. -/
theorem store_run (phase : Phase) (config : ServerConfig) (docs : Table)
    (ns : List Notification) :
    ((start phase config docs fs).run parser env ns).store =
      Store.run parser (ns.flatMap (·.operations)) := by
  induction ns using List.reverseRecOn with
  | nil => rfl
  | append_singleton ns n ih =>
    rw [run, List.foldl_append, List.flatMap_append, Store.run, List.foldl_append]
    refine (store_next n).trans ?_
    rw [← run, ih]
    simp [Store.run]

/-- What the client was last told about `u` is what the server holds there, after the
notifications `ns`. -/
structure Mirrors (fs : FileSystem) (ns : List Notification) (u : String)
    (c : Conversation) : Prop where
  files : c.files = fs
  opened : ∀ d, c.store.get? u = some d →
    lastAbout u c.sent = some (published u (d.findings fs) (some d.version))
  closed : c.store.get? u = none →
    lastAbout u c.sent = if .didClose u ∈ ns then some (published u [] none) else none

theorem mirrors_start (phase : Phase) (config : ServerConfig) (docs : Table) :
    (start phase config docs fs).Mirrors fs [] u := by
  constructor
  · rfl
  · intro d opened
    cases opened
  · intro _
    rfl

/-- A notification about another document, or a change without texts, leaves `u` as it was. -/
theorem Mirrors.snoc {c' : Conversation} {n : Notification} (h : c.Mirrors fs ns u)
    (files : c'.files = c.files) (same : c'.store.get? u = c.store.get? u)
    (silent : lastAbout u c'.sent = lastAbout u c.sent) (kept : n ≠ .didClose u) :
    c'.Mirrors fs (ns ++ [n]) u := by
  constructor
  · rw [files, h.files]
  · intro d opened
    rw [silent]
    exact h.opened d (same ▸ opened)
  · intro closed
    have member : .didClose u ∈ ns ++ [n] ↔ .didClose u ∈ ns := by simp [Ne.symm kept]
    rw [silent, h.closed (same ▸ closed)]
    simp only [member]

theorem Mirrors.written {n : Notification} (h : c.Mirrors fs ns u) (kept : n ≠ .didClose u)
    (uri : String) (path : Option Path) (text : String) (version : Int) :
    (c.written parser uri path text version).Mirrors fs (ns ++ [n]) u := by
  have holds : (c.written parser uri path text version).store.get? u =
      if u = uri then some (.ofText parser uri path text version) else c.store.get? u :=
    Store.get?_opened ..
  have told := lastAbout_snoc u c.sent (published uri
    ((c.session.workspace.opened parser uri path text version).findings c.files uri) (some version))
  rw [subject?_published] at told
  by_cases here : u = uri
  · subst here
    rw [if_pos rfl] at holds told
    refine ⟨h.files, ?_, ?_⟩
    · intro d opened
      obtain rfl : .ofText parser u path text version = d := by
        rw [holds] at opened
        exact Option.some.inj opened
      rw [Conversation.written, told, Workspace.findings_opened, h.files]
      rfl
    · intro closed
      rw [holds] at closed
      cases closed
  · rw [if_neg here] at holds
    rw [if_neg (by simpa using Ne.symm here)] at told
    exact h.snoc rfl holds told kept

theorem Mirrors.dropped (h : c.Mirrors fs ns u) (uri : String) :
    (c.dropped uri).Mirrors fs (ns ++ [.didClose uri]) u := by
  have holds : (c.dropped uri).store.get? u = if u = uri then none else c.store.get? u :=
    Store.get?_closed ..
  have told := lastAbout_snoc u c.sent (published uri [] none)
  rw [subject?_published] at told
  by_cases here : u = uri
  · subst here
    rw [if_pos rfl] at holds told
    refine ⟨h.files, ?_, ?_⟩
    · intro d opened
      rw [holds] at opened
      cases opened
    · intro _
      rw [if_pos (by simp)]
      exact told
  · rw [if_neg here] at holds
    rw [if_neg (by simpa using Ne.symm here)] at told
    exact h.snoc rfl holds told (by simpa using Ne.symm here)

/-- One notification keeps what the client was told and what the server holds together. -/
theorem Mirrors.next (h : c.Mirrors fs ns u) (n : Notification) :
    (c.next parser env n).Mirrors fs (ns ++ [n]) u := by
  cases n with
  | didOpen uri text version =>
    rw [next_didOpen]
    exact h.written (by simp) uri _ text version
  | didChange uri version texts =>
    rcases List.eq_nil_or_concat texts with rfl | ⟨earlier, text, rfl⟩
    · rw [next_didChange_nil]
      exact h.snoc rfl rfl rfl (by simp)
    · rw [List.concat_eq_append, next_didChange]
      exact h.written (by simp) uri _ text version
  | didClose uri =>
    rw [next_didClose]
    exact h.dropped uri

theorem mirrors_run (phase : Phase) (config : ServerConfig) (docs : Table)
    (ns : List Notification) :
    ((start phase config docs fs).run parser env ns).Mirrors fs ns u := by
  induction ns using List.reverseRecOn with
  | nil => exact mirrors_start phase config docs
  | append_singleton ns n ih =>
    rw [run, List.foldl_append]
    exact ih.next n

/-- After any sequence of notifications to a server without documents, with `fs` as its files all
along, the store is the run of what the notifications do, and for every URI `u`: if `u` is open,
the last notice about it carries the version of its document and the findings of the tree of its
text, which are none unless it is a make file; if `u` is not open, the last notice about it carries
no finding and no version when it was closed, and there is none otherwise.  A change without texts
does nothing, and one with several texts does what one with the last of them does. -/
theorem lastAbout_run (parser : Parser) (env : Environment) (phase : Phase)
    (config : ServerConfig) (docs : Table) (fs : FileSystem) (ns : List Notification)
    (u : String) :
    let c := (start phase config docs fs).run parser env ns
    c.store = Store.run parser (ns.flatMap (·.operations)) ∧
    (∀ d, c.store.get? u = some d → ∃ n, lastAbout u c.sent = some n ∧
      n.Carries u
        (if d.fileType = some .make then
          diagnose fs (SyntaxTree.parse parser d.text) d.directory? else [])
        (some d.version)) ∧
    (c.store.get? u = none →
      (.didClose u ∈ ns → ∃ n, lastAbout u c.sent = some n ∧ n.Carries u [] none) ∧
      (.didClose u ∉ ns → lastAbout u c.sent = none)) ∧
    (∀ uri version, c.next parser env (.didChange uri version []) = c) ∧
    ∀ uri version texts text,
      c.next parser env (.didChange uri version (texts ++ [text])) =
        c.next parser env (.didChange uri version [text]) := by
  intro c
  have store : c.store = Store.run parser (ns.flatMap (·.operations)) :=
    store_run phase config docs ns
  have mirrors : c.Mirrors fs ns u := mirrors_run phase config docs ns
  refine ⟨store, ?_, ?_, ?_, ?_⟩
  · intro d opened
    have made := Store.eq_ofText_of_get?_run parser (store ▸ opened)
    refine ⟨_, mirrors.opened d opened, ?_⟩
    rw [← Document.findings_eq made]
    exact carries_published u (d.findings fs) (some d.version)
  · intro closed
    have told := mirrors.closed closed
    constructor
    · intro once
      rw [if_pos once] at told
      exact ⟨_, told, carries_published u [] none⟩
    · intro never
      rw [told, if_neg never]
  · intro uri version
    exact next_didChange_nil uri version
  · intro uri version texts text
    rw [next_didChange]
    exact (next_didChange uri version [] text).symm

end Conversation

end Autotools
