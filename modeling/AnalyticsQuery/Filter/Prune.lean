import AnalyticsQuery.Query.Filter

/-!
# Pruning filters

A filter is split in two: the conditions that become filter text, and those that
become the date range.  Each half is what remains when the other conditions are
dropped; a junction or negation left without children goes with them.
-/

namespace AnalyticsQuery.Filter

section Asking

variable {m : Type → Type} [Monad m]

mutual

/-- Prunes by a test that may have effects; each condition is asked once, in order. -/
def pruneAsking (drop : Condition → m Bool) : Filter → m (Option Filter)
  | condition leaf => do
      return if ← drop leaf then none else some (condition leaf)
  | junction operator children => do
      match ← pruneEachAsking drop children with
      | [] => return none
      | kept => return some (junction operator kept)
  | negation child => do
      return (← pruneAsking drop child).map negation

/-- What remains of several filters, without those of which nothing does. -/
def pruneEachAsking (drop : Condition → m Bool) : List Filter → m (List Filter)
  | [] => return []
  | child :: children => do
      match ← pruneAsking drop child with
      | none => pruneEachAsking drop children
      | some kept => return kept :: (← pruneEachAsking drop children)

end

end Asking

def prune (drop : Condition → Bool) (filter : Filter) : Option Filter :=
  Id.run (filter.pruneAsking fun leaf => pure (drop leaf))

/-- The half that becomes filter text. -/
def textHalf : Filter → Option Filter :=
  prune fun leaf => leaf.onBucketedField || leaf.isBuiltinSegment

/-- The half that becomes the date range. -/
def dateHalf : Filter → Option Filter :=
  prune fun leaf => !leaf.isDateRange

end AnalyticsQuery.Filter
