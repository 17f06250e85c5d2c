import Autotools.Docs.Artifact
import Autotools.Proofs.Json.Reading

/-! A table is read back from its artifact.  The names of a section are written in ascending order,
so taking them up one by one gives the section again. -/

namespace Autotools.Artifact

open Json (Reads)

/-- What the text of a section is read as. -/
def sectionRead (entries : SortedMap String) : Json (Option String) :=
  .object (entries.toList.map fun entry => (some entry.1, .string (some entry.2)))

/-- What the text of a table is read as. -/
def tableRead (t : Table) : Json (Option String) :=
  .object [(some "config", sectionRead t.config), (some "make", sectionRead t.make)]

theorem reads_section (entries : SortedMap String) :
    Reads (sectionValue entries).compact (sectionRead entries) := by
  apply Json.reads_compact_object Prod.fst entries.toList
  intro entry _
  exact Json.reads_quote entry.2

theorem reads_value (t : Table) : Reads (value t).compact (tableRead t) := by
  have parts := Json.reads_compact_object Prod.fst [("config", t.config), ("make", t.make)]
    fun part _ => reads_section part.2
  exact parts

theorem section?_sectionRead (entries : SortedMap String) :
    Artifact.section? (sectionRead entries) = some entries := by
  simp only [sectionRead, section?, List.mapM_map]
  -- each member is read as the entry it was written for
  show (entries.toList.mapM fun entry => (pure (id entry) : Option (String × String))) >>=
    (fun read => some (SortedMap.ofList read)) = some entries
  rw [List.mapM_pure, List.map_id, pure_bind, SortedMap.ofList_toList]

theorem ofValue?_tableRead (t : Table) : ofValue? (tableRead t) = some t := by
  simp [tableRead, ofValue?, sectionAt?, section?_sectionRead]

/-- The artifact of any table holds this table. -/
theorem read?_render (t : Table) : read? (render t) = some t := by
  have parsed : Json.parse? (render t) = some (tableRead t) := Json.parse?_of_reads (reads_value t)
  rw [read?, parsed]
  exact ofValue?_tableRead t

example : render (Table.empty.insert .make "a\"b" "é\n\x01") =
    "\x7b\"config\":\x7b\x7d,\"make\":\x7b\"a\\\"b\":\"é\\n\\u0001\"\x7d\x7d" := by
  decide +kernel

end Autotools.Artifact
