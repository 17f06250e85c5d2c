import Autotools.Proofs.Report.Lines
import Autotools.Proofs.Symbol.Effective
import Autotools.Report.Diagnosis

/-! Where a report says that its finding is.  The bounds of a finding count bytes, and a report
takes them as numbers of characters in the lines of running text.  So for a finding inside the text
its header names the row and the character in that row if and only if the text before the finding is
plain: one byte for every character, and no line end but newlines. -/

namespace Autotools

open Syntax

/-! ### Findings and nodes -/

/-- The bounds of a finding are those of a node. -/
structure Finding.IsAt (f : Finding) (n : Node) : Prop where
  start : f.start = n.start
  stop : f.stop = n.stop
  range : f.range = n.range

theorem Shadowed.node_mem_nodes {t : SyntaxTree} {s : Shadowed} (h : s ∈ ofTree t) :
    s.node ∈ t.nodes := by
  rw [ofTree_eq] at h
  obtain ⟨_, before, after, split, _⟩ := (mem_later_shadowed t.targets s).1 h
  have target : s.node ∈ t.targets := by rw [split]; simp
  exact (List.mem_filter.1 target).1

/-- Every finding of a tree is at one of its nodes. -/
theorem exists_node_of_mem_diagnose {fs : FileSystem} {t : SyntaxTree} {directory : Option Path}
    {f : Finding} (h : f ∈ diagnose fs t directory) : ∃ n ∈ t.nodes, f.IsAt n := by
  have atFiltered {p : Node → Bool} {make : Node → Finding} (same : ∀ n, (make n).IsAt n)
      (member : f ∈ (t.nodes.filter p).map make) : ∃ n ∈ t.nodes, f.IsAt n := by
    obtain ⟨n, kept, rfl⟩ := List.mem_map.1 member
    exact ⟨n, (List.mem_filter.1 kept).1, same n⟩
  rw [diagnose] at h
  simp only [List.mem_append] at h
  rcases h with ((missing | unparsed) | unresolved) | repeated
  · exact atFiltered (fun _ => ⟨rfl, rfl, rfl⟩) missing
  · exact atFiltered (fun _ => ⟨rfl, rfl, rfl⟩) unparsed
  · cases directory with
    | none => cases unresolved
    | some directory =>
      rw [Option.map_some, Option.getD_some, Diagnosis.unresolved, Diagnosis.requiredPaths,
        List.filter_filter] at unresolved
      exact atFiltered (fun _ => ⟨rfl, rfl, rfl⟩) unresolved
  · obtain ⟨s, shadowed, rfl⟩ := List.mem_map.1 repeated
    exact ⟨s.node, Shadowed.node_mem_nodes shadowed, ⟨rfl, rfl, rfl⟩⟩

/-- Every node of a tree ends no earlier than it starts, and starts between two characters of the
source, at an offset that is a word of 32 bits. -/
structure Syntax.SyntaxTree.WellFormed (t : SyntaxTree) : Prop where
  ordered : ∀ n ∈ t.nodes, n.start ≤ n.stop
  between : ∀ n ∈ t.nodes, (Text.splitAtByte? t.source.toList n.start).isSome
  words : ∀ n ∈ t.nodes, n.start < 4294967296

/-- Reading a text counts its newlines. -/
theorem Position.advance_append (row column : Nat) (before after : List Char) :
    (advance row column (before ++ after) (Text.byteLength before)).1 =
      row + before.count '\n' := by
  induction before generalizing row column with
  | nil =>
    cases after with
    | nil => rfl
    | cons c after => simp [advance, Char.utf8Size_pos]
  | cons c before ih =>
    have fits : ¬c.utf8Size + Text.byteLength before < c.utf8Size := by omega
    rw [List.cons_append, Text.byteLength_cons, advance, if_neg fits, Nat.add_sub_cancel_left]
    by_cases newline : c = '\n'
    · rw [if_pos newline, ih, newline, List.count_cons_self]
      omega
    · rw [if_neg newline, ih, List.count_cons_of_ne newline]

theorem Text.length_le_byteLength (s : List Char) : s.length ≤ byteLength s := by
  induction s with
  | nil => simp
  | cons c s ih =>
    have := c.utf8Size_pos
    simp only [List.length_cons, byteLength_cons]
    omega

theorem Text.byteLength_eq_length {s : List Char} :
    byteLength s = s.length ↔ ∀ c ∈ s, c.toNat < 128 := by
  induction s with
  | nil => simp
  | cons c s ih =>
    have positive := c.utf8Size_pos
    have rest := length_le_byteLength s
    have single : c.utf8Size = 1 ↔ c.toNat < 128 := by
      rw [Char.utf8Size_eq_one_iff, UInt32.le_iff_toNat_le]
      exact Nat.lt_succ_iff.symm
    rw [List.forall_mem_cons, ← ih, ← single, byteLength_cons, List.length_cons]
    omega

/-! ### Headers -/

namespace Terminal

/-- The first line of a report. -/
def title (color : Bool) (f : Finding) : String :=
  paint color (shadeOf f.severity) (opening f.severity) ++ " " ++ f.message ++ "\n"

/-- The second line of a report with a drawing, which names a line and a column. -/
def header (color : Bool) (width : Nat) (filename : String) (line column : Nat) : String :=
  times width " " ++ paint color marginShade "╭" ++ paint color marginShade "─" ++
    paint color marginShade "[" ++ " " ++ filename ++ ":" ++ toString line ++ ":" ++
    toString column ++ " " ++ paint color marginShade "]" ++ "\n"

/-- The report of a finding names a line and a column of a file. -/
def Names (report : String) (color : Bool) (f : Finding) (filename : String)
    (line column : Nat) : Prop :=
  ∃ width rest, report = title color f ++ header color width filename line column ++ rest

/-- What stands before the first of two separators is determined. -/
theorem append_cons_inj {c : Char} {xs ys s t : List Char} (hx : c ∉ xs) (hy : c ∉ ys)
    (h : xs ++ c :: s = ys ++ c :: t) : xs = ys ∧ s = t := by
  have split := congrArg (List.splitOn c) h
  rw [List.splitOn_append_cons_self_of_not_mem hx, List.splitOn_append_cons_self_of_not_mem hy]
    at split
  obtain rfl := (List.cons.inj split).1
  exact ⟨rfl, List.cons.inj (List.append_cancel_left h) |>.2⟩

theorem toString_append_cons_inj {c : Char} (notDigit : c.isDigit = false) {m n : Nat}
    {s t : List Char} (h : (toString m).toList ++ c :: s = (toString n).toList ++ c :: t) :
    m = n ∧ s = t := by
  have free (k : Nat) : c ∉ (toString k).toList := by
    intro digit
    rw [Nat.toString_eq_repr, Nat.toList_repr] at digit
    rw [Nat.isDigit_of_mem_toDigits (by decide) (by decide) digit] at notDigit
    cases notDigit
  obtain ⟨digits, rest⟩ := append_cons_inj (free m) (free n) h
  rw [Nat.toString_eq_repr, Nat.toList_repr, Nat.toString_eq_repr, Nat.toList_repr] at digits
  refine ⟨?_, rest⟩
  calc m = Nat.ofDigitChars 10 (Nat.toDigits 10 m) 0 := Nat.ofDigitChars_ten_toDigits.symm
    _ = Nat.ofDigitChars 10 (Nat.toDigits 10 n) 0 := by rw [digits]
    _ = n := Nat.ofDigitChars_ten_toDigits

theorem toList_times_space (n : Nat) : (times n " ").toList = List.replicate n ' ' := by
  rw [times, String.toList_join]
  induction n with
  | zero => rfl
  | succ n ih => rw [List.replicate_succ, List.flatMap_cons, ih]; rfl

/-- A header names one line and one column. -/
theorem header_inj {color : Bool} {filename rest rest' : String}
    {width width' line line' column column' : Nat}
    (h : header color width filename line column ++ rest =
      header color width' filename line' column' ++ rest') : line = line' ∧ column = column' := by
  obtain ⟨mark, corner, frame, notBlank⟩ : ∃ mark corner,
      (paint color marginShade "╭").toList = mark :: corner ∧ mark ≠ ' ' := by
    cases color <;> exact ⟨_, _, rfl, by decide⟩
  have free (n : Nat) : mark ∉ List.replicate n ' ' := by
    intro blank
    exact notBlank (List.eq_of_mem_replicate blank)
  have chars := congrArg String.toList h
  simp only [header, String.toList_append, toList_times_space, frame, List.append_assoc,
    List.cons_append] at chars
  have behind := (append_cons_inj (free width) (free width') chars).2
  simp only [List.append_cancel_left_eq] at behind
  obtain ⟨sameLine, behindLine⟩ := toString_append_cons_inj (c := ':') rfl behind
  exact ⟨sameLine, (toString_append_cons_inj (c := ' ') rfl behindLine).1⟩

/-- A finding is drawn if its bounds, as numbers of characters, are in the source. -/
def IsDrawn (source : List Char) (f : Finding) : Prop :=
  f.start ≤ source.length ∧ (f.start < f.stop → f.stop ≤ source.length + 1)

theorem Drawing.exists_render (d : Drawing) (filename : String) :
    ∃ width rest, d.render filename =
      header d.color width filename (location d.lines d.start).1 (location d.lines d.start).2 ++
        rest := by
  let body := if d.stop > d.start && lineOf d.lines (d.stop - 1) ≠ d.firstRow then d.spread
    else d.single
  refine ⟨d.numberWidth + 2,
    times (d.numberWidth + 2) " " ++ paint d.color marginShade "│" ++ "\n" ++ body ++
      paint d.color marginShade (times (d.numberWidth + 2) "─" ++ "╯") ++ "\n", ?_⟩
  simp only [Drawing.render, Drawing.head, header, body, String.append_assoc]

theorem renderFinding_of_drawn {source : List Char} {f : Finding} (drawn : IsDrawn source f)
    (filename : String) (color : Bool) :
    ∃ width rest, renderFinding source filename color f = title color f ++
      header color width filename (location (sourceLines source) f.start).1
        (location (sourceLines source) f.start).2 ++ rest := by
  have inside : ¬(decide (f.start > source.length) ||
      (decide (f.stop > f.start) && decide (f.stop - 1 > source.length))) = true := by
    obtain ⟨start, stop⟩ := drawn
    simp only [gt_iff_lt, Bool.or_eq_true, Bool.and_eq_true, decide_eq_true_eq]
    omega
  obtain ⟨width, rest, drawing⟩ := Drawing.exists_render
    ⟨sourceLines source, color, shadeOf f.severity, f.start, f.stop, f.label.getD f.message⟩
    filename
  refine ⟨width, rest, ?_⟩
  rw [renderFinding]
  simp only [if_neg inside, drawing, title, String.append_assoc]

theorem renderFinding_of_not_drawn {source : List Char} {f : Finding} (h : ¬IsDrawn source f)
    (filename : String) (color : Bool) :
    renderFinding source filename color f = title color f := by
  have outside : (decide (f.start > source.length) ||
      (decide (f.stop > f.start) && decide (f.stop - 1 > source.length))) = true := by
    rw [IsDrawn] at h
    simp only [gt_iff_lt, Bool.or_eq_true, Bool.and_eq_true, decide_eq_true_eq]
    omega
  simp only [renderFinding, if_pos outside, title, String.append_empty]

/-- The report of a finding names a place if and only if it is drawn and its start, as a number of
characters, is there. -/
theorem names_iff {source : List Char} {f : Finding} {filename : String} {color : Bool}
    {line column : Nat} :
    Names (renderFinding source filename color f) color f filename line column ↔
      IsDrawn source f ∧ location (sourceLines source) f.start = (line, column) := by
  constructor
  · rintro ⟨width, rest, report⟩
    by_cases drawn : IsDrawn source f
    · obtain ⟨width', rest', same⟩ := renderFinding_of_drawn drawn filename color
      rw [same, String.append_assoc, String.append_assoc] at report
      obtain ⟨sameLine, sameColumn⟩ := header_inj (String.append_right_inj _ |>.1 report)
      exact ⟨drawn, Prod.ext sameLine sameColumn⟩
    · rw [renderFinding_of_not_drawn drawn, String.append_assoc] at report
      have none := congrArg String.length report
      simp [header] at none
  · rintro ⟨drawn, place⟩
    obtain ⟨width, rest, report⟩ := renderFinding_of_drawn drawn filename color
    rw [place] at report
    exact ⟨width, rest, report⟩

/-! ### Plain text -/

/-- The text before a place, with the text after it, is plain: every character is one byte, and
every line end is a newline, or a carriage return in front of one. -/
structure Plain (before after : List Char) : Prop where
  ascii : ∀ c ∈ before, c.toNat < 128
  newlines : ∀ front c back, before = front ++ c :: back → isLineEnd c = true →
    c = '\n' ∨ c = '\r' ∧ (back ++ after).head? = some '\n'

theorem otherEnds_eq_zero {before after : List Char} :
    otherEnds before after = 0 ↔ ∀ front c back, before = front ++ c :: back →
      isLineEnd c = true → c = '\n' ∨ c = '\r' ∧ (back ++ after).head? = some '\n' := by
  induction before with
  | nil => simp [otherEnds]
  | cons d before ih =>
    have first : (if isLineEnd d && d != '\n' &&
        !(d == '\r' && (before ++ after).head? == some '\n') then 1 else 0) = 0 ↔
        (isLineEnd d = true → d = '\n' ∨ d = '\r' ∧ (before ++ after).head? = some '\n') := by
      generalize (before ++ after).head? = next
      by_cases newline : d = '\n' <;> by_cases ends : isLineEnd d = true <;>
        simp [newline, ends]
    rw [otherEnds, Nat.add_eq_zero_iff, first, ih]
    constructor
    · rintro ⟨here, later⟩ front c back split
      cases front with
      | nil =>
        obtain ⟨rfl, rfl⟩ := List.cons.inj split
        exact here
      | cons _ front => exact later front c back (List.cons.inj split).2
    · intro all
      refine ⟨all [] d before rfl, fun front c back split => all (d :: front) c back ?_⟩
      rw [split, List.cons_append]

theorem plain_iff {before after : List Char} :
    Plain before after ↔
      Text.byteLength before = before.length ∧ otherEnds before after = 0 := by
  rw [Text.byteLength_eq_length, otherEnds_eq_zero]
  exact ⟨fun plain => ⟨plain.ascii, plain.newlines⟩, fun h => ⟨h.1, h.2⟩⟩

end Terminal

open Terminal

variable {t : SyntaxTree} {fs : FileSystem} {directory : Option Path} {f : Finding}

/-- Every finding of a well-formed tree can be drawn or left undrawn, but none stops the report. -/
theorem render?_diagnose (wellFormed : t.WellFormed) (filename : String) (color : Bool) :
    render? t.source filename (diagnose fs t directory) color =
      some (String.join ((diagnose fs t directory).map
        (renderFinding t.source.toList filename color))) := by
  refine if_pos (List.all_eq_true.2 fun f member => ?_)
  obtain ⟨n, node, place⟩ := exists_node_of_mem_diagnose member
  have := wellFormed.ordered n node
  simp [place.start, place.stop, this]

/-- The text before a finding. -/
theorem exists_before (wellFormed : t.WellFormed) (member : f ∈ diagnose fs t directory) :
    ∃ before after, t.source.toList = before ++ after ∧ Text.byteLength before = f.start ∧
      f.range.start.row.toNat = before.count '\n' := by
  obtain ⟨n, node, place⟩ := exists_node_of_mem_diagnose member
  obtain ⟨⟨before, after⟩, cut⟩ := Option.isSome_iff_exists.1 (wellFormed.between n node)
  obtain ⟨split, length⟩ := Text.splitAtByte?_eq_some cut
  refine ⟨before, after, split, by rw [length, place.start], ?_⟩
  have small : before.count '\n' < UInt32.size := by
    have := wellFormed.words n node
    have := Text.length_le_byteLength before
    have := List.count_le_length (a := '\n') (l := before)
    rw [UInt32.size]
    omega
  rw [place.range, Node.range, Position.rangeAt, Position.pointAt, Point.ofNat,
    SyntaxTree.source_of_mem_nodes node, split, ← length, Position.advance_append, Nat.zero_add]
  exact UInt32.toNat_ofNat_of_lt' small

/-- Let the source of a well-formed tree end in a newline.  All findings of the tree are reported.
The report of a finding names in its header the row of the finding, and the number of its first
character in that row, both counted from one, if and only if the text before the finding is plain,
there is some text after its start, and its end counted in bytes is at most one more than the number
of characters of the source. -/
theorem names_place_iff (wellFormed : t.WellFormed)
    (closed : t.source.toList.getLast? = some '\n') (fs : FileSystem) (directory : Option Path)
    (filename : String) (color : Bool) :
    render? t.source filename (diagnose fs t directory) color =
      some (String.join ((diagnose fs t directory).map
        (renderFinding t.source.toList filename color))) ∧
    ∀ f ∈ diagnose fs t directory, ∃ before after,
      t.source.toList = before ++ after ∧ Text.byteLength before = f.start ∧
      (Names (renderFinding t.source.toList filename color f) color f filename
          (f.range.start.row.toNat + 1) (sinceNewline before + 1) ↔
        Plain before after ∧ after ≠ [] ∧ f.stop ≤ t.source.toList.length + 1) := by
  refine ⟨render?_diagnose wellFormed filename color, ?_⟩
  intro f member
  obtain ⟨before, after, split, length, row⟩ := exists_before wellFormed member
  refine ⟨before, after, split, length, ?_⟩
  rw [split] at closed ⊢
  have low := Text.length_le_byteLength before
  have total : (before ++ after).length = before.length + after.length := List.length_append
  rw [names_iff, row, plain_iff, length]
  constructor
  · rintro ⟨⟨start, stop⟩, place⟩
    obtain ⟨same, more, plain⟩ := (location_eq_iff closed (by omega) start).1 place
    exact ⟨⟨same, plain⟩, more, by omega⟩
  · rintro ⟨⟨same, plain⟩, more, stop⟩
    refine ⟨⟨by omega, fun _ => stop⟩, ?_⟩
    exact (location_eq_iff closed (by omega) (by omega)).2 ⟨same, more, plain⟩

/-- The tree of a text with a comment on its first line and the word `all` on its second, which
starts at an offset and cannot be parsed. -/
def commented (text : String) (start : Nat) : SyntaxTree where
  source := text
  root := .node ⟨"makefile", true, false, true, 0, start + 5, none⟩
    [.node ⟨"comment", true, false, false, 0, start - 1, none⟩ [],
     .node ⟨"ERROR", true, false, true, start, start + 3, none⟩
      [.node ⟨"word", true, false, false, start, start + 3, none⟩ []]]

theorem names_place_plain :
    ∃ f ∈ diagnose default (commented "# e\nall\n\n" 4) none,
      f.range.start.row.toNat = 1 ∧
      Names (renderFinding "# e\nall\n\n".toList "Makefile" false f) false f "Makefile" 2 1 := by
  have wellFormed : (commented "# e\nall\n\n" 4).WellFormed :=
    ⟨by decide +kernel, by decide +kernel, by decide +kernel⟩
  obtain ⟨f, only⟩ : ∃ f, diagnose default (commented "# e\nall\n\n" 4) none = [f] :=
    List.length_eq_one_iff.1 (by decide +kernel)
  have place : (diagnose default (commented "# e\nall\n\n" 4) none).map
      (fun f => (f.start, f.stop, f.range.start.row.toNat)) = [(4, 7, 1)] := by decide +kernel
  simp only [only, List.map_cons, List.map_nil, List.cons.injEq, Prod.mk.injEq, and_true] at place
  obtain ⟨start, stop, row⟩ := place
  obtain ⟨before, after, split, length, named⟩ :=
    (names_place_iff wellFormed (by decide) default none "Makefile" false).2 f (by simp [only])
  have text : before ++ after = "# e\nall\n\n".toList := split.symm
  have ascii : ∀ c ∈ before, c.toNat < 128 := by
    intro c member
    have all : "# e\nall\n\n".toList.all (·.toNat < 128) = true := by decide
    rw [← text] at all
    simpa using List.all_eq_true.1 all c (List.mem_append_left _ member)
  obtain rfl : before = "# e\n".toList := by
    have four : before.length = 4 := by rw [← Text.byteLength_eq_length.2 ascii, length, start]
    rw [← List.take_left' four, text]
    rfl
  obtain rfl : after = "all\n\n".toList := List.append_cancel_left (text.trans rfl)
  refine ⟨f, by simp [only], row, ?_⟩
  rw [row] at named
  refine named.2 ⟨plain_iff.2 (by decide), by decide, ?_⟩
  rw [stop]
  decide

/-- Behind a character of two bytes, the report of a finding at the start of its row names the
second column of the row. -/
theorem names_place_accented :
    let before := "# é\n".toList
    ∃ f ∈ diagnose default (commented "# é\nall\n\n" 5) none,
      (commented "# é\nall\n\n" 5).WellFormed ∧ Text.byteLength before = f.start ∧
      f.range.start.row.toNat + 1 = 2 ∧ sinceNewline before + 1 = 1 ∧
      Names (renderFinding "# é\nall\n\n".toList "Makefile" false f) false f "Makefile" 2 2 ∧
      ¬Names (renderFinding "# é\nall\n\n".toList "Makefile" false f) false f "Makefile"
        (f.range.start.row.toNat + 1) (sinceNewline before + 1) := by
  intro before
  have wellFormed : (commented "# é\nall\n\n" 5).WellFormed :=
    ⟨by decide +kernel, by decide +kernel, by decide +kernel⟩
  obtain ⟨f, only⟩ : ∃ f, diagnose default (commented "# é\nall\n\n" 5) none = [f] :=
    List.length_eq_one_iff.1 (by decide +kernel)
  have place : (diagnose default (commented "# é\nall\n\n" 5) none).map
      (fun f => (f.start, f.stop, f.range.start.row.toNat)) = [(5, 8, 1)] := by decide +kernel
  simp only [only, List.map_cons, List.map_nil, List.cons.injEq, Prod.mk.injEq, and_true] at place
  obtain ⟨start, stop, row⟩ := place
  have shown : location (sourceLines "# é\nall\n\n".toList) f.start = (2, 2) := by
    rw [start]
    decide +kernel
  have drawn : IsDrawn "# é\nall\n\n".toList f := by
    rw [IsDrawn, start, stop]
    decide
  refine ⟨f, by simp [only], wellFormed, by rw [start]; decide, by rw [row], by decide,
    names_iff.2 ⟨drawn, shown⟩, ?_⟩
  rw [names_iff, shown, row]
  rintro ⟨-, same⟩
  exact absurd same (by decide)

end Autotools
