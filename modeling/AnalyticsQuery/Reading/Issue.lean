import AnalyticsQuery.Calendar.Iso
import AnalyticsQuery.Calendar.Named
import AnalyticsQuery.Document.Text

/-!
# What can be wrong with a document

A reader either rejects a document with a list of issues, each at a path from the
root, or breaks off at a fault that is not tied to a place.
-/

namespace AnalyticsQuery

/-- A value of the right type that means nothing. -/
inductive FormError where
  | emptyForm
  | unknownField (head : Document)
  | unknownClause (head : Document)
  | unsupportedAggregation (head : Document)
  /-- An order entry that is a list, but not of two items. -/
  | orderPair (count : Nat)
  | date (text : String) (error : Calendar.Iso.DateReadError)
  | unknownZone (name : String)
  deriving DecidableEq

def FormError.dateMessage (text : String) : Calendar.Iso.DateReadError → String
  | .malformed => "Invalid isoformat string: " ++ Text.quoted text
  | .fault fault => fault.message

/-- A message that ends with a document, if that can be written. -/
def FormError.showing (message : String) (head : Document) : String :=
  if head.hasLongNumber then Numeral.longMessage else message ++ head.quotedText

def FormError.message : FormError → String
  | emptyForm => "not enough values to unpack (expected at least 1, got 0)"
  | unknownField head => showing "unknown field reference " head
  | unknownClause head => showing "unknown filter clause " head
  | unsupportedAggregation head => showing "unsupported aggregation " head
  | orderPair count =>
      if count < 2 then
        "not enough values to unpack (expected 2, got " ++ Numeral.natText count ++ ")"
      else "too many values to unpack (expected 2)"
  | date text error => dateMessage text error
  | unknownZone name => "unknown time zone " ++ Text.quoted name

/-- Why a place of a document is rejected. -/
inductive IssueCause where
  | missing
  | extraForbidden
  /-- A record has an entry whose key is no text. -/
  | invalidKey
  | modelType
  | modelAttributesType
  | unionTagNotFound
  | unionTagInvalid
  | stringType
  | listType
  | dictType
  | enum
  | greaterThan
  | frozenInstance
  | noSuchAttribute
  | intType
  | intParsing
  | intParsingSize
  | intFromFloat
  | finiteNumber
  | boolType
  | boolParsing
  | datetimeType
  | datetimeParsing
  | datetimeFromDateParsing
  | dateType
  | dateParsing
  | dateFromDatetimeParsing
  | dateFromDatetimeInexact
  | valueError (error : FormError)
  deriving DecidableEq

def IssueCause.code : IssueCause → String
  | missing => "missing"
  | extraForbidden => "extra_forbidden"
  | invalidKey => "invalid_key"
  | modelType => "model_type"
  | modelAttributesType => "model_attributes_type"
  | unionTagNotFound => "union_tag_not_found"
  | unionTagInvalid => "union_tag_invalid"
  | stringType => "string_type"
  | listType => "list_type"
  | dictType => "dict_type"
  | enum => "enum"
  | greaterThan => "greater_than"
  | frozenInstance => "frozen_instance"
  | noSuchAttribute => "no_such_attribute"
  | intType => "int_type"
  | intParsing => "int_parsing"
  | intParsingSize => "int_parsing_size"
  | intFromFloat => "int_from_float"
  | finiteNumber => "finite_number"
  | boolType => "bool_type"
  | boolParsing => "bool_parsing"
  | datetimeType => "datetime_type"
  | datetimeParsing => "datetime_parsing"
  | datetimeFromDateParsing => "datetime_from_date_parsing"
  | dateType => "date_type"
  | dateParsing => "date_parsing"
  | dateFromDatetimeParsing => "date_from_datetime_parsing"
  | dateFromDatetimeInexact => "date_from_datetime_inexact"
  | valueError _ => "value_error"

structure Issue where
  path : List String
  cause : IssueCause
  deriving DecidableEq

def Issue.here (cause : IssueCause) : Issue := ⟨[], cause⟩

/-- Why a reader breaks off without saying where. -/
inductive Fault where
  /-- A list form has too few items. -/
  | missingArgument
  /-- Something is used as a collection that is none. -/
  | wrongType
  /-- A name is assigned that cannot be assigned to. -/
  | lockedAttribute
  | malformed (error : FormError)
  deriving DecidableEq

end AnalyticsQuery
