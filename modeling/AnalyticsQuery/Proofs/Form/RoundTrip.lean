import AnalyticsQuery.Calendar.Zone.Yearly
import AnalyticsQuery.Form.DateRange
import AnalyticsQuery.Proofs.Form.Interchange
import AnalyticsQuery.Proofs.Form.Settings

/-!
# Round trips

What the writer makes of a node is one of its notations, so that reading undoes writing at
every nesting of filters, and for queries and date ranges with any of their parts left out.
Of settings, those that were read once are read back.
-/

namespace AnalyticsQuery

open Calendar (ZoneDatabase)

/-! ## Nodes -/

theorem Field.read_toDocument (field : Field) : read field.toDocument = .ok field :=
  read_of_written field.written_toDocument

theorem Operand.read_toDocument (operand : Operand) : read operand.toDocument = .ok operand :=
  read_of_written operand.written_toDocument

theorem Filter.read_toDocument (filter : Filter) : read filter.toDocument = .ok filter :=
  read_of_written filter.written_toDocument

/-- A written filter does not stand for the absence of a filter. -/
theorem Filter.readOptional_toDocument (filter : Option Filter) :
    readOptional (filter.elim .null toDocument) = .ok filter := by
  cases filter with
  | none => rfl
  | some filter => exact readOptional_of_written (.filter filter.written_toDocument)

theorem Query.read_toDocument (query : Query) : read query.toDocument = .ok query :=
  read_of_written query.written_toDocument

/-! ## Date ranges -/

namespace DateRange

theorem readBound_text (bound : Option String) :
    readBound (bound.elim .null .text) = .ok bound := by
  cases bound <;> rfl

theorem apart_labels : [firstLabel, lastLabel].Pairwise Label.Apart := by decide

/-- Bounds are read under either name, and a missing one is null or left out. -/
theorem read_of_given {range : DateRange} {entries : Document.Entries}
    {first last : Option Document} (h : Given [(firstLabel, first), (lastLabel, last)] entries)
    (hfirst : Optionally (· = range.first.elim .null .text) (range.first = none) first)
    (hlast : Optionally (· = range.last.elim .null .text) (range.last = none) last) :
    read (.object entries) = .ok range := by
  have hreadFirst : firstLabel.optional entries none readBound = .ok range.first :=
    h.optional apart_labels (by simp) hfirst
      (fun _ hdocument => hdocument ▸ readBound_text range.first) id
  have hreadLast : lastLabel.optional entries none readBound = .ok range.last :=
    h.optional apart_labels (by simp) hlast
      (fun _ hdocument => hdocument ▸ readBound_text range.last) id
  rw [read, Reading.record, Reading.ok_andThen, hreadFirst, hreadLast]
  exact h.sealed apart_labels range

theorem read_toDocument (range : DateRange) : read range.toDocument = .ok range :=
  read_of_given
    (.entriesOf_dropNulls
      [(firstLabel, range.first.elim .null .text), (lastLabel, range.last.elim .null .text)])
    (.elim_unlessNull (by simp) range.first)
    (.elim_unlessNull (by simp) range.last)

end DateRange

/-- Reading undoes writing in every family.  Every field, operand, filter, query and date
range is read back as it was written, and so are settings that were accepted once. -/
theorem read_toDocument_families :
    (∀ field : Field, Field.read field.toDocument = .ok field) ∧
    (∀ operand : Operand, Operand.read operand.toDocument = .ok operand) ∧
    (∀ filter : Filter, Filter.read filter.toDocument = .ok filter) ∧
    (∀ filter : Option Filter,
      Filter.readOptional (filter.elim .null Filter.toDocument) = .ok filter) ∧
    (∀ query : Query, Query.read query.toDocument = .ok query) ∧
    (∀ range : DateRange, DateRange.read range.toDocument = .ok range) ∧
    (∀ (zones : ZoneDatabase) (document : Document) (config : Config),
      Config.read zones document = .ok config →
        Config.read zones config.toDocument = .ok config) :=
  ⟨Field.read_toDocument, Operand.read_toDocument, Filter.read_toDocument,
    Filter.readOptional_toDocument, Query.read_toDocument, DateRange.read_toDocument,
    fun _ _ _ h => Config.read_toDocument (Config.valid_of_read h)⟩

/-- Settings given in other types than their own, and a query whose filter compares with
a literal that looks like an operand. -/
theorem read_toDocument_families_lookalike :
    let settings : Document := .record [("max_results", .text " +5_0.0 "),
      ("earliest_date", .text "2020-W01"), ("include_empty_rows", .text "yes"),
      ("report_timezone", .text "Asia/Tokyo")]
    let config : Config :=
      { earliestDate := "2020-W01", maxResults := 50, zone := .tokyo, includeEmptyRows := true }
    let literal : Document := .record [("kind", .text "relative-datetime"), ("amount", .null)]
    let query : Query :=
      { sourceTable := .name "blog", aggregations := [.reference (-1)], breakout := []
        filter := some (.negation (.junction .or
          [.condition (.comparison .equal (.bucketed (.id 3) .isoWeek)
            (.literal literal (some [("value", .list [.text "value"])]))),
            .junction .and []]))
        orders := [⟨.descending, .aggregation 0⟩], limit := none }
    Config.read .yearly settings = .ok config ∧
      Config.read .yearly config.toDocument = .ok config ∧
      Query.read query.toDocument = .ok query := by
  intro settings config literal query
  obtain ⟨_, _, _, _, hquery, _, hconfig⟩ := read_toDocument_families
  have hread : Config.read .yearly settings = .ok config := by rfl
  exact ⟨hread, hconfig .yearly settings config hread, hquery query⟩

end AnalyticsQuery
