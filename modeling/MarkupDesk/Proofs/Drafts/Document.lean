/-
`Proofs/Drafts/Document.lean` -- drafts and indexes read back from their files.

A draft, an index or an id that is written to a file is read from it again, provided that
its times are ones that are read back from their texts (`Calendar.Timestamp.ReadsBack`)
and, for an index, that no draft is mentioned twice.
-/
import MarkupDesk.Drafts.Document
import MarkupDesk.Files.Record
import MarkupDesk.Proofs.Json.ReadBack

set_option autoImplicit false

namespace MarkupDesk

/-- The time is read back from its text. -/
def Calendar.Timestamp.ReadsBack (time : Calendar.Timestamp) : Prop :=
  ofText? time.toText = some time

instance (time : Calendar.Timestamp) : Decidable time.ReadsBack := inferInstanceAs (Decidable (_ = _))

namespace Drafts

open Calendar (Timestamp)
open Json (Reader reads_quote reads_parsed reads_optional reads_strings reads_dictionary reads_shape
  passesBlank_string passesBlank_parsed passesBlank_list passesBlank_dictionary passesBlank_shape)

/-- A time is a string of its own form, so it reads back if its text does. Whether it does is
a matter of the calendar (`Calendar.Timestamp.Proper.readsBack`). -/
theorem reads_time {time : Timestamp} (h : time.ReadsBack) (depth level : Nat) :
    timeReader.Reads depth (Json.prettyAt level (timeJson time)) time := by
  rw [timeJson, Json.prettyAt]
  refine reads_parsed depth ?_
  rw [h]

/-- The times of the draft are read back. -/
def Draft.ReadsBack (draft : Draft) : Prop := draft.created.ReadsBack ∧ draft.updated.ReadsBack

/-- **Drafts read back.** Field by field, in the order in which they are written; what the
reader has collected behind the last one is the draft. -/
theorem reads_draft {draft : Draft} (h : draft.ReadsBack) (depth level : Nat) :
    Draft.shape.reader.Reads (depth + 1) (Json.prettyAt level draft.toJson) draft := by
  obtain ⟨hcreated, hupdated⟩ := h
  have hstring : ∀ t : Text, Reader.string.Reads depth (Json.prettyAt (level + 1) (.string t)) t :=
    fun t => reads_quote depth t
  have htime : ∀ time : Timestamp, time.ReadsBack →
      timeReader.Reads depth (Json.prettyAt (level + 1) (timeJson time)) time :=
    fun time h => reads_time h depth (level + 1)
  have htimeBlank : timeReader.PassesBlank := passesBlank_parsed _ _
  refine reads_shape ⟨some draft.id, some draft.name, some draft.content.title,
    some draft.content.filename, some draft.content.source, some draft.created,
    some draft.updated⟩ ?_ rfl
  refine .cons _ rfl rfl (Json.Field.read_make passesBlank_string (hstring draft.id)) ?_
  refine .cons _ rfl rfl (Json.Field.read_make passesBlank_string (hstring draft.name)) ?_
  refine .cons _ rfl rfl (Json.Field.read_make passesBlank_string (hstring draft.content.title)) ?_
  refine .cons _ rfl rfl (Json.Field.read_make passesBlank_string (hstring draft.content.filename)) ?_
  refine .cons _ rfl rfl (Json.Field.read_make passesBlank_string (hstring draft.content.source)) ?_
  -- only here is it used that the times read back
  refine .cons _ rfl rfl (Json.Field.read_make htimeBlank (htime draft.created hcreated)) ?_
  refine .cons _ rfl rfl (Json.Field.read_make htimeBlank (htime draft.updated hupdated)) ?_
  exact .nil _

/-- What the index says of a draft reads back. It stands two levels below the index, which is
why depth and level are left open. -/
theorem reads_mention {mention : Mention} (h : mention.updated.ReadsBack) (depth level : Nat) :
    Mention.shape.reader.Reads (depth + 1) (Json.prettyAt level mention.toJson) mention := by
  refine reads_shape ⟨some mention.name, some mention.updated⟩ ?_ rfl
  refine .cons _ rfl rfl (Json.Field.read_make passesBlank_string (reads_quote depth mention.name)) ?_
  refine .cons _ rfl rfl (Json.Field.read_make (passesBlank_parsed _ _) (reads_time h depth _)) ?_
  exact .nil _

/-- Every draft is mentioned at most once, and the times are read back. -/
structure Index.ReadsBack (index : Index) : Prop where
  distinct : (Dictionary.keys index.mentions).Nodup
  times : ∀ pair ∈ index.mentions, pair.2.updated.ReadsBack

/-- **Indexes read back.** The list is one of strings, and the mentions are a dictionary,
which is read pair by pair and so needs its keys to be distinct. -/
theorem reads_index {index : Index} (h : index.ReadsBack) (depth level : Nat) :
    Index.shape.reader.Reads (depth + 3) (Json.prettyAt level index.toJson) index := by
  refine reads_shape ⟨some index.order, some index.mentions⟩ ?_ rfl
  have hmentions := reads_dictionary (level + 1) Mention.toJson
    (passesBlank_shape Mention.shape) h.distinct
    fun pair hpair => reads_mention (h.times pair hpair) depth (level + 1 + 1)
  refine .cons _ rfl rfl (Json.Field.read_make (passesBlank_list _)
    (reads_strings (depth + 1) (level + 1) index.order)) ?_
  refine .cons _ rfl rfl (Json.Field.read_make (passesBlank_dictionary _) hmentions) ?_
  exact .nil _

/-! ## Whole files -/

/-- What is read from the file of a draft that was written. A reader of a draft that may be
missing looks at the first character, which is a brace here. -/
theorem decodeOr_draft {draft : Draft} (h : draft.ReadsBack) :
    Files.decodeOr (Reader.optional Draft.shape.reader) none draft.toJson.pretty = some draft := by
  have hread : Draft.shape.reader.Reads Json.maxDepth draft.toJson.pretty draft :=
    reads_draft h 126 0
  obtain ⟨t, ht⟩ : ∃ t, draft.toJson.pretty = '{' :: t := ⟨_, rfl⟩
  rw [ht] at hread
  rw [Files.decodeOr, ht, (reads_optional (by decide) (by decide) hread).run]

/-- What is read from the file of an index that was written. The fallback, an empty index, is
not what is read. -/
theorem decodeOr_index {index : Index} (h : index.ReadsBack) :
    Files.decodeOr Index.shape.reader .empty index.toJson.pretty = index := by
  have hread : Index.shape.reader.Reads Json.maxDepth index.toJson.pretty index :=
    reads_index h 124 0
  rw [Files.decodeOr, hread.run]

/-- The file of the draft that was opened last holds its id as a string, and any string reads
back. -/
theorem decodeOr_id (fallback id : Text) :
    Files.decodeOr Reader.string fallback (Json.string id).pretty = id := by
  have hread : Reader.string.Reads Json.maxDepth (Json.string id).pretty id := reads_quote _ id
  rw [Files.decodeOr, hread.run]

end Drafts

end MarkupDesk
