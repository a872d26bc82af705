/-!
# Dictionaries

Lists of entries with distinct keys, in the order in which the keys were first
stored.
-/

namespace AnalyticsQuery

/-- Entries with distinct keys; storing under a known key keeps its place. -/
def storeEntry {Key Value : Type} [DecidableEq Key] (key : Key) (value : Value) :
    List (Key × Value) → List (Key × Value)
  | [] => [(key, value)]
  | (known, old) :: entries =>
      if known = key then (known, value) :: entries
      else (known, old) :: storeEntry key value entries

/-- A dictionary in which the last value given for a key counts. -/
def dictionaryOf {Key Value : Type} [DecidableEq Key] (entries : List (Key × Value)) :
    List (Key × Value) :=
  entries.foldl (fun dictionary entry => storeEntry entry.1 entry.2 dictionary) []

end AnalyticsQuery
