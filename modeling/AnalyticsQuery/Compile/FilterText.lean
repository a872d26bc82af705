import AnalyticsQuery.Compile.Basic
import AnalyticsQuery.Filter.Prune
import AnalyticsQuery.Text.Blank

/-!
# Filter text

The API writes a filter as clauses joined by `;` for "and" and by `,` for "or",
with `!` in front of what is negated.  A clause is a field, an operator and a
value; the separators and the backslash are escaped in it.  Text matches become
regular expressions, whose operators are escaped in the matched text.
-/

namespace AnalyticsQuery

namespace FilterText

def regexCharacters : List Char :=
  ['.', '\\', '+', '*', '?', '[', '^', ']', '$', '(', ')', '\x7b', '\x7d', '=', '!', '<',
    '>', '|', ':']

def clauseCharacters : List Char := [',', ';', '\\']

/-- Puts a backslash in front of every special character. -/
def escapeChars (special chars : List Char) : List Char :=
  chars.flatMap fun char => if char ∈ special then ['\\', char] else [char]

def escape (special : List Char) (text : String) : String :=
  String.ofList (escapeChars special text.toList)

def escapeRegex : String → String := escape regexCharacters

def escapeClause : String → String := escape clauseCharacters

/-- One escaped clause from its parts. -/
def clause (parts : List String) : String := escapeClause (String.join parts)

def andSeparator : String := ";"

def orSeparator : String := ","

end FilterText

open FilterText

/-- The operator of the filter language. -/
def Comparison.filterOperator : Comparison → String
  | equal => "=="
  | operator => operator.symbol

def Junction.separator : Junction → String
  | and => andSeparator
  | or => orSeparator

/-- Where the matched text has to stand. -/
def TextMatch.anchor (operator : TextMatch) (pattern : String) : String :=
  match operator with
  | contains => pattern
  | startsWith => "^" ++ pattern
  | endsWith => pattern ++ "$"

def caseFlag (caseSensitive : Bool) : String := if caseSensitive then "(?-i)" else "(?i)"

namespace Compiler

variable (compiler : Compiler)

/-- The clauses of a condition before they are escaped: one, or two for a range. -/
def clauseTexts : Condition → Except CompileError (List String)
  | .comparison operator field value => do
      let name ← compiler.fieldName field
      let text ← compiler.operandText value
      return [name ++ operator.filterOperator ++ text]
  | .between field lower upper => do
      let name ← compiler.fieldName field
      let lowerText ← compiler.operandText lower
      let upperText ← compiler.operandText upper
      return [name ++ ">=" ++ lowerText, name ++ "<=" ++ upperText]
  | .textMatch operator field value caseSensitive => do
      let text ← compiler.operandText value
      let name ← compiler.fieldName field
      return [name ++ "=~" ++ caseFlag caseSensitive ++ operator.anchor (escapeRegex text)]
  | .segment id => .error (CompileError.unlessLong id.isLong (.unexpandedSegment id))

def conditionText (condition : Condition) : Except CompileError String := do
  let clauses ← compiler.clauseTexts condition
  return andSeparator.intercalate (clauses.map escapeClause)

/-- The texts that say something. -/
def nonEmpty (texts : List (Option String)) : List String :=
  texts.filterMap fun text => text.filter (· ≠ "")

mutual

/-- Text of a filter.  Parts without conditions leave no trace: an empty junction
has the empty text, and the negation of one has none. -/
def filterText : Filter → Except CompileError (Option String)
  | .condition leaf => do return some (← compiler.conditionText leaf)
  | .junction operator children => do
      return some (operator.separator.intercalate (nonEmpty (← filterTexts children)))
  | .negation child => do
      return ((← filterText child).filter (· ≠ "")).map ("!" ++ ·)

def filterTexts : List Filter → Except CompileError (List (Option String))
  | [] => .ok []
  | child :: children => do
      let text ← filterText child
      return text :: (← filterTexts children)

end

/-- Text of an optional filter. -/
def optionalFilterText : Option Filter → Except CompileError (Option String)
  | none => .ok none
  | some filter => compiler.filterText filter

/-- Text of the conditions that belong into it; `none` when there is nothing to say. -/
def requestFilter (filter : Option Filter) : Except CompileError (Option String) := do
  return (← compiler.optionalFilterText (filter.bind Filter.textHalf)).filter fun text =>
    !Text.allBlank text

end Compiler

end AnalyticsQuery
