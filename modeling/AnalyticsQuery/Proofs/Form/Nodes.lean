import AnalyticsQuery.Proofs.Form.Notations

/-!
# Reading fields, operands, aggregations and orders

Each of these nodes is read from whatever was written for it.  A list is first expanded
into an object of the same parts, and how the parts are found in an object does not depend
on their order or names.  A literal operand has a tag of its own, so that its value is not
looked at again: a list or an object in it stays what it was, even one that looks like
another operand.
-/

namespace AnalyticsQuery

open Calendar (CalendarUnit)
open Document (Entries Parts entriesOf)

/-! ## Scalars -/

@[simp]
theorem Reading.int_int (value : Int) : Reading.int (.int value) = .ok value := rfl

@[simp]
theorem Reading.string_text (value : String) : Reading.string (.text value) = .ok value := rfl

@[simp]
theorem Identifier.readNumberFirst_toDocument (identifier : Identifier) :
    readNumberFirst identifier.toDocument = .ok identifier := by
  cases identifier <;> rfl

@[simp]
theorem Identifier.readNameFirst_toDocument (identifier : Identifier) :
    readNameFirst identifier.toDocument = .ok identifier := by
  cases identifier <;> rfl

theorem Direction.choice_name (direction : Direction) :
    Reading.choice ofName? (.text direction.name) = .ok direction := by
  cases direction <;> rfl

theorem choice_unitDocument (unit : CalendarUnit) :
    Reading.choice CalendarUnit.ofName? (unitDocument unit) = .ok unit := by
  rw [unitDocument, Reading.choice, CalendarUnit.ofName?_name]

theorem readUnit_of_given {parts : List (Label × Option Document)} {entries : Entries}
    {part : Option Document} {unit : CalendarUnit} (h : Given parts entries)
    (hapart : (parts.map Prod.fst).Pairwise Label.Apart) (hpart : (unitLabel, part) ∈ parts)
    (hunit : Optionally (· = unitDocument unit) (unit = .default) part) :
    readUnit entries = .ok unit := by
  apply h.optional hapart hpart hunit
  · rintro document rfl
    exact choice_unitDocument unit
  · exact id

/-! ## Fields -/

theorem FieldTag.ofName?_name (tag : FieldTag) : ofName? tag.name = some tag := by
  cases tag with
  | plain tag => cases tag <;> decide
  | bucketed => decide

namespace PlainField

variable {field : PlainField} {document : Document} {entries : Entries} {kind : Option Document}

theorem apart_id : [kindLabel, idLabel].Pairwise Label.Apart := by decide

theorem apart_literal : [kindLabel, nameLabel].Pairwise Label.Apart := by decide

theorem readParts_id {number : Int}
    (h : Given [(kindLabel, kind), (idLabel, some (.int number))] entries) :
    readParts .id entries = .ok (id number) := by
  rw [readParts, h.required apart_id (by simp) (Reading.int_int number)]
  exact h.sealed apart_id _

theorem readParts_literal {name : String}
    (h : Given [(kindLabel, kind), (nameLabel, some (.text name))] entries) :
    readParts .literal entries = .ok (literal name) := by
  rw [readParts, h.required apart_literal (by simp) (Reading.string_text name)]
  exact h.sealed apart_literal _

theorem exists_tag_of_written (h : field.Written (.object entries)) :
    ∃ tag : PlainFieldTag, Document.find? "kind" entries = some (.text tag.name) ∧
      readParts tag entries = .ok field := by
  cases h with
  | id h =>
      cases h with
      | object h => exact ⟨.id, h.find?_tag apart_id, readParts_id h⟩
  | literal h =>
      cases h with
      | object h => exact ⟨.literal, h.find?_tag apart_literal, readParts_literal h⟩

theorem readNode_of_written (h : field.Written (.object entries)) :
    readNode (.object entries) = .ok field := by
  obtain ⟨tag, hname, hparts⟩ := exists_tag_of_written h
  have htag : PlainFieldTag.ofName? tag.name = some tag := by cases tag <;> decide
  exact Reading.readNode_of_find? hname htag hparts

/-- A list is expanded into an object in which the same field is written. -/
theorem exists_entries_of_written (h : field.Written document) :
    ∃ entries, Field.expand document = .ok (.object entries) ∧
      field.Written (.object entries) := by
  cases h with
  | id h =>
      cases h with
      | list => exact ⟨_, rfl, .id (.object (.cons (.inl rfl) (.cons (.inr rfl) .nil)))⟩
      | object h => exact ⟨_, rfl, .id (.object h)⟩
  | literal h =>
      cases h with
      | list => exact ⟨_, rfl, .literal (.object (.cons (.inl rfl) (.cons (.inr rfl) .nil)))⟩
      | object h => exact ⟨_, rfl, .literal (.object h)⟩

theorem written_toDocument (field : PlainField) : field.Written field.toDocument := by
  cases field with
  | id number => exact .id (.object (.cons (.inl rfl) (.cons (.inl rfl) .nil)))
  | literal name => exact .literal (.object (.cons (.inl rfl) (.cons (.inl rfl) .nil)))

end PlainField

namespace Field

variable {field : Field} {document : Document} {entries : Entries} {kind : Option Document}

theorem apart_bucketed : [kindLabel, baseLabel, unitLabel].Pairwise Label.Apart := by decide

theorem readBase_of_written {base : PlainField} (h : base.Written document) :
    readBase document = .ok base := by
  obtain ⟨entries, hexpand, hwritten⟩ := PlainField.exists_entries_of_written h
  rw [readBase, hexpand, Reading.ofExcept, Reading.ok_andThen,
    PlainField.readNode_of_written hwritten, Reading.located_ok]

theorem readParts_bucketed {base : PlainField} {unit : CalendarUnit} {part : Option Document}
    (hbase : base.Written document)
    (hunit : Optionally (· = unitDocument unit) (unit = .default) part)
    (h : Given [(kindLabel, kind), (baseLabel, some document), (unitLabel, part)] entries) :
    readParts .bucketed entries = .ok (bucketed base unit) := by
  rw [readParts, h.required apart_bucketed (by simp) (readBase_of_written hbase),
    readUnit_of_given h apart_bucketed (by simp) hunit]
  exact h.sealed apart_bucketed _

theorem exists_tag_of_written (h : field.Written (.object entries)) :
    ∃ tag : FieldTag, Document.find? "kind" entries = some (.text tag.name) ∧
      readParts tag entries = .ok field := by
  cases h with
  | plain h =>
      obtain ⟨tag, hname, hparts⟩ := PlainField.exists_tag_of_written h
      exact ⟨.plain tag, hname, congrArg (Reading.map plain) hparts⟩
  | bucketed hbase hunit h =>
      cases h with
      | object h =>
          exact ⟨.bucketed, h.find?_tag apart_bucketed, readParts_bucketed hbase hunit h⟩

theorem readNode_of_written (h : field.Written (.object entries)) :
    readNode (.object entries) = .ok field := by
  obtain ⟨tag, hname, hparts⟩ := exists_tag_of_written h
  exact Reading.readNode_of_find? hname tag.ofName?_name hparts

theorem exists_entries_of_written (h : field.Written document) :
    ∃ entries, expand document = .ok (.object entries) ∧ field.Written (.object entries) := by
  cases h with
  | plain h =>
      obtain ⟨entries, hexpand, hwritten⟩ := PlainField.exists_entries_of_written h
      exact ⟨entries, hexpand, .plain hwritten⟩
  | bucketed hbase hunit h =>
      cases h with
      | list =>
          obtain ⟨inner, hinner, hwritten⟩ := PlainField.exists_entries_of_written hbase
          rcases hunit with ⟨rfl⟩ | ⟨rfl⟩ <;>
            exact ⟨_, congrArg (Except.map _) hinner, .bucketed hwritten (.given rfl)
              (.object (.cons (.inl rfl) (.cons (.inl rfl) (.cons (.inl rfl) .nil))))⟩
      | object h => exact ⟨_, rfl, .bucketed hbase hunit (.object h)⟩

theorem read_of_written (h : field.Written document) : read document = .ok field := by
  obtain ⟨entries, hexpand, hwritten⟩ := exists_entries_of_written h
  rw [read, hexpand, Reading.ofExcept, Reading.ok_andThen, readNode_of_written hwritten]

theorem written_toDocument (field : Field) : field.Written field.toDocument := by
  cases field with
  | plain field => exact .plain field.written_toDocument
  | bucketed field unit =>
      exact .bucketed field.written_toDocument (.given rfl)
        (.object (.cons (.inl rfl) (.cons (.inl rfl) (.cons (.inl rfl) .nil))))

end Field

/-! ## Operands -/

namespace Operand

variable {operand : Operand} {document : Document} {entries : Entries}
  {kind part : Option Document} {unit : CalendarUnit}

theorem readTypeInfo_record (parts : Parts) : readTypeInfo (.record parts) = .ok parts := by
  induction parts with
  | nil => rfl
  | cons part parts ih =>
      have hrest := congrArg (Reading.map (part :: ·)) ih
      exact hrest

theorem nullable_readTypeInfo (typeInfo : Option Parts) :
    Reading.nullable readTypeInfo (typeInfo.elim .null .record) = .ok typeInfo := by
  cases typeInfo with
  | none => rfl
  | some parts =>
      change (readTypeInfo (.record parts)).map some = _
      rw [readTypeInfo_record]
      rfl

theorem apart_literal : [kindLabel, valueLabel, typeInfoLabel].Pairwise Label.Apart := by decide

theorem apart_relative : [kindLabel, amountLabel, unitLabel].Pairwise Label.Apart := by decide

theorem apart_absolute : [kindLabel, timestampLabel, unitLabel].Pairwise Label.Apart := by decide

theorem readParts_literal {value : Document} {typeInfo : Option Parts}
    {valuePart : Option Document} (hvalue : Optionally (· = value) (value = .null) valuePart)
    (hpart : Optionally (· = typeInfo.elim .null .record) (typeInfo = none) part)
    (h : Given [(kindLabel, kind), (valueLabel, valuePart), (typeInfoLabel, part)] entries) :
    readParts .literal entries = .ok (literal value typeInfo) := by
  have hread : valueLabel.optional entries .null .ok = .ok value :=
    h.optional apart_literal (by simp) hvalue (fun _ => congrArg _) id
  have hreadTypeInfo : typeInfoLabel.optional entries none (Reading.nullable readTypeInfo) =
      .ok typeInfo := by
    apply h.optional apart_literal (by simp) hpart
    · rintro document rfl
      exact nullable_readTypeInfo typeInfo
    · exact id
  rw [readParts, hread, hreadTypeInfo]
  exact h.sealed apart_literal _

theorem readParts_relative {amount : Int}
    (hunit : Optionally (· = unitDocument unit) (unit = .default) part)
    (h : Given [(kindLabel, kind), (amountLabel, some (.int amount)), (unitLabel, part)]
      entries) : readParts .relative entries = .ok (relative amount unit) := by
  rw [readParts, h.required apart_relative (by simp) (Reading.int_int amount),
    readUnit_of_given h apart_relative (by simp) hunit]
  exact h.sealed apart_relative _

theorem readParts_absolute {timestamp : Calendar.Timestamp} {moment : Document}
    (hmoment : Reading.timestamp moment = .ok timestamp)
    (hunit : Optionally (· = unitDocument unit) (unit = .default) part)
    (h : Given [(kindLabel, kind), (timestampLabel, some moment), (unitLabel, part)] entries) :
    readParts .absolute entries = .ok (absolute timestamp unit) := by
  rw [readParts, h.required apart_absolute (by simp) hmoment,
    readUnit_of_given h apart_absolute (by simp) hunit]
  exact h.sealed apart_absolute _

theorem exists_tag_of_written (h : operand.Written (.object entries)) :
    ∃ tag : OperandTag, Document.find? "kind" entries = some (.text tag.name) ∧
      readParts tag entries = .ok operand := by
  cases h with
  | literal hpart h =>
      cases h with
      | object h =>
          exact ⟨.literal, h.find?_tag apart_literal, readParts_literal (.given rfl) hpart h⟩
  | literalNull hpart h =>
      exact ⟨.literal, h.find?_tag apart_literal, readParts_literal (.leftOut rfl) hpart h⟩
  | relative hunit h =>
      cases h with
      | object h => exact ⟨.relative, h.find?_tag apart_relative, readParts_relative hunit h⟩
  | absolute hmoment hunit h =>
      cases h with
      | object h =>
          exact ⟨.absolute, h.find?_tag apart_absolute, readParts_absolute hmoment hunit h⟩

theorem readNode_of_written (h : operand.Written (.object entries)) :
    readNode (.object entries) = .ok operand := by
  obtain ⟨tag, hname, hparts⟩ := exists_tag_of_written h
  have htag : OperandTag.ofName? tag.name = some tag := by cases tag <;> decide
  exact Reading.readNode_of_find? hname htag hparts

/-- An object with a tag is no literal of its own. -/
theorem expand_of_written (h : operand.Written (.object entries)) :
    expand (.object entries) = .ok (.object entries) := by
  obtain ⟨tag, hname, _⟩ := exists_tag_of_written h
  rw [expand, hname]
  rfl

theorem exists_entries_of_written (h : operand.Written document) :
    ∃ entries, expand document = .ok (.object entries) ∧ operand.Written (.object entries) := by
  cases h with
  | literal hpart h =>
      cases h with
      | list =>
          rcases hpart with ⟨rfl⟩ | ⟨rfl⟩ <;>
            exact ⟨_, rfl, .literal (.given rfl)
              (.object (.cons (.inl rfl) (.cons (.inl rfl) (.cons (.inr rfl) .nil))))⟩
      | object h =>
          have hwritten := Written.literal hpart (.object h)
          exact ⟨_, expand_of_written hwritten, hwritten⟩
  | literalNull hpart h =>
      have hwritten := Written.literalNull hpart h
      exact ⟨_, expand_of_written hwritten, hwritten⟩
  | relative hunit h =>
      cases h with
      | list =>
          rcases hunit with ⟨rfl⟩ | ⟨rfl⟩ <;>
            exact ⟨_, rfl, .relative (.given rfl)
              (.object (.cons (.inl rfl) (.cons (.inl rfl) (.cons (.inl rfl) .nil))))⟩
      | object h =>
          have hwritten := Written.relative hunit (.object h)
          exact ⟨_, expand_of_written hwritten, hwritten⟩
  | absolute hmoment hunit h =>
      cases h with
      | list =>
          rcases hunit with ⟨rfl⟩ | ⟨rfl⟩ <;>
            exact ⟨_, rfl, .absolute hmoment (.given rfl)
              (.object (.cons (.inl rfl) (.cons (.inl rfl) (.cons (.inl rfl) .nil))))⟩
      | object h =>
          have hwritten := Written.absolute hmoment hunit (.object h)
          exact ⟨_, expand_of_written hwritten, hwritten⟩

theorem read_of_written (h : operand.Written document) : read document = .ok operand := by
  obtain ⟨entries, hexpand, hwritten⟩ := exists_entries_of_written h
  rw [read, hexpand, Reading.ofExcept, Reading.ok_andThen, readNode_of_written hwritten]

theorem written_toDocument (operand : Operand) : operand.Written operand.toDocument := by
  cases operand with
  | literal value typeInfo =>
      have hgiven : Given [(kindLabel, some (.text "value")), (valueLabel, value.unlessNull),
          (typeInfoLabel, (typeInfo.elim .null .record : Document).unlessNull)]
          (entriesOf (("kind", .text "value") :: Document.dropNulls
            [("value", value), ("type-info", typeInfo.elim .null .record)])) :=
        .cons (.inl rfl) (.entriesOf_dropNulls
          [(valueLabel, value), (typeInfoLabel, typeInfo.elim .null .record)])
      have hpart : Optionally (· = typeInfo.elim .null .record) (typeInfo = none)
          (typeInfo.elim .null .record : Document).unlessNull :=
        .elim_unlessNull (by simp [Document.record]) typeInfo
      by_cases hnull : value = .null
      · subst hnull
        exact .literalNull hpart hgiven
      · rw [Document.unlessNull_of_ne_null hnull] at hgiven
        exact .literal hpart (.object hgiven)
  | relative amount unit =>
      exact .relative (.given rfl)
        (.object (.cons (.inl rfl) (.cons (.inl rfl) (.cons (.inl rfl) .nil))))
  | absolute timestamp unit =>
      exact .absolute rfl (.given rfl)
        (.object (.cons (.inl rfl) (.cons (.inl rfl) (.cons (.inl rfl) .nil))))

end Operand

/-! ## Aggregations -/

namespace Aggregation

variable {aggregation : Aggregation} {document : Document} {entries : Entries}
  {kind : Option Document}

theorem apart_metric : [kindLabel, nameLabel].Pairwise Label.Apart := by decide

theorem apart_reference : [kindLabel, indexLabel].Pairwise Label.Apart := by decide

theorem readParts_metric {name : Identifier}
    (h : Given [(kindLabel, kind), (nameLabel, some name.toDocument)] entries) :
    readParts .metric entries = .ok (metric name) := by
  rw [readParts, h.required apart_metric (by simp) name.readNameFirst_toDocument]
  exact h.sealed apart_metric _

theorem readIndex_of_given {index : Int}
    (h : Given [(kindLabel, kind), (indexLabel, some (.int index))] entries) :
    readIndex entries = .ok index := by
  rw [readIndex, h.required apart_reference (by simp) (Reading.int_int index)]
  exact h.sealed apart_reference _

theorem readNode_of_written (h : aggregation.Written (.object entries)) :
    readNode (.object entries) = .ok aggregation := by
  cases h with
  | metric h =>
      cases h with
      | object h =>
          exact Reading.readNode_of_find? (h.find?_tag apart_metric) rfl (readParts_metric h)
  | reference h =>
      cases h with
      | object h =>
          have hparts : readParts .reference entries = .ok (reference _) :=
            congrArg (Reading.map reference) (readIndex_of_given h)
          exact Reading.readNode_of_find? (h.find?_tag apart_reference) rfl hparts

theorem exists_entries_of_written (h : aggregation.Written document) :
    ∃ entries, expand document = .ok (.object entries) ∧
      aggregation.Written (.object entries) := by
  cases h with
  | metric h =>
      cases h with
      | list => exact ⟨_, rfl, .metric (.object (.cons (.inl rfl) (.cons (.inl rfl) .nil)))⟩
      | object h => exact ⟨_, rfl, .metric (.object h)⟩
  | reference h =>
      cases h with
      | list => exact ⟨_, rfl, .reference (.object (.cons (.inl rfl) (.cons (.inl rfl) .nil)))⟩
      | object h => exact ⟨_, rfl, .reference (.object h)⟩

theorem written_toDocument (aggregation : Aggregation) :
    aggregation.Written aggregation.toDocument := by
  cases aggregation with
  | metric name => exact .metric (.object (.cons (.inl rfl) (.cons (.inl rfl) .nil)))
  | reference index => exact .reference (.object (.cons (.inl rfl) (.cons (.inl rfl) .nil)))

end Aggregation

/-! ## Orders -/

theorem OrderTargetTag.ofName?_name (tag : OrderTargetTag) : ofName? tag.name = some tag := by
  cases tag with
  | field tag =>
      cases tag with
      | plain tag => cases tag <;> decide
      | bucketed => decide
  | aggregation => decide

namespace OrderTarget

variable {target : OrderTarget} {document : Document} {entries : Entries}

theorem exists_tag_of_written (h : target.Written (.object entries)) :
    ∃ tag : OrderTargetTag, Document.find? "kind" entries = some (.text tag.name) ∧
      readParts tag entries = .ok target := by
  cases h with
  | field h =>
      obtain ⟨tag, hname, hparts⟩ := Field.exists_tag_of_written h
      exact ⟨.field tag, hname, congrArg (Reading.map field) hparts⟩
  | aggregation h =>
      cases h with
      | object h =>
          exact ⟨.aggregation, h.find?_tag Aggregation.apart_reference,
            congrArg (Reading.map aggregation) (Aggregation.readIndex_of_given h)⟩

theorem readNode_of_written (h : target.Written (.object entries)) :
    readNode (.object entries) = .ok target := by
  obtain ⟨tag, hname, hparts⟩ := exists_tag_of_written h
  exact Reading.readNode_of_find? hname tag.ofName?_name hparts

/-- The list of a field never starts with the tag of an aggregation. -/
theorem not_isAggregationForm_of_written {field : Field} (h : field.Written document) :
    isAggregationForm document = false := by
  cases h with
  | plain h =>
      cases h with
      | id h => cases h <;> rfl
      | literal h => cases h <;> rfl
  | bucketed hbase hunit h => cases h <;> rfl

theorem exists_entries_of_written (h : target.Written document) :
    ∃ entries, expand document = .ok (.object entries) ∧ target.Written (.object entries) := by
  cases h with
  | field h =>
      obtain ⟨entries, hexpand, hwritten⟩ := Field.exists_entries_of_written h
      refine ⟨entries, ?_, .field hwritten⟩
      rw [expand, not_isAggregationForm_of_written h]
      exact hexpand
  | aggregation h =>
      cases h with
      | list => exact ⟨_, rfl, .aggregation (.object (.cons (.inl rfl) (.cons (.inl rfl) .nil)))⟩
      | object h => exact ⟨_, rfl, .aggregation (.object h)⟩

theorem read_of_written (h : target.Written document) : read document = .ok target := by
  obtain ⟨entries, hexpand, hwritten⟩ := exists_entries_of_written h
  rw [read, hexpand, Reading.ofExcept, Reading.ok_andThen, readNode_of_written hwritten,
    Reading.located_ok]

theorem written_toDocument (target : OrderTarget) : target.Written target.toDocument := by
  cases target with
  | field field => exact .field field.written_toDocument
  | aggregation index =>
      exact .aggregation (.object (.cons (.inl rfl) (.cons (.inl rfl) .nil)))

end OrderTarget

namespace Order

variable {order : Order} {document : Document} {entries : Entries}

theorem apart_labels : [directionLabel, targetLabel].Pairwise Label.Apart := by decide

theorem readNode_of_written (h : order.Written (.object entries)) :
    readNode (.object entries) = .ok order := by
  cases h with
  | @object direction target _ _ _ htarget hdirection h =>
      have hread : directionLabel.optional entries .ascending
          (Reading.choice Direction.ofName?) = .ok direction := by
        apply h.optional apart_labels (by simp) hdirection
        · rintro document rfl
          exact direction.choice_name
        · exact id
      change readParts entries = _
      rw [readParts, hread,
        h.required apart_labels (by simp) (OrderTarget.read_of_written htarget)]
      exact h.sealed apart_labels _

theorem exists_entries_of_written (h : order.Written document) :
    ∃ entries, expand document = .ok (.object entries) ∧ order.Written (.object entries) := by
  cases h with
  | list htarget =>
      exact ⟨_, rfl, .object htarget (.given rfl) (.cons (.inl rfl) (.cons (.inl rfl) .nil))⟩
  | object htarget hdirection h => exact ⟨_, rfl, .object htarget hdirection h⟩

theorem written_toDocument (order : Order) : order.Written order.toDocument :=
  .object order.target.written_toDocument (.given rfl)
    (.cons (.inl rfl) (.cons (.inl rfl) .nil))

end Order

end AnalyticsQuery
