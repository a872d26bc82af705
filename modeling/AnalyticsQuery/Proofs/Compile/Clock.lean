import AnalyticsQuery.Proofs.Compile.Agreement

/-!
# Days counted back from today

The API counts days back from today by itself.  A query whose relative moments are all such
counts is compiled without asking what time it is.
-/

namespace AnalyticsQuery

open Calendar (TimeRelation ZonedTime)
open Fallible

/-- Whether an operand, if it is relative, counts days to a day that is not too late. -/
def Operand.countsDays (latest : Int) : Operand → Bool
  | literal _ _ => true
  | relative amount unit => unit.normalize = .day && amount ≤ latest
  | absolute _ _ => true

namespace Condition

def operands : Condition → List Operand
  | comparison _ _ value => [value]
  | between _ lower upper => [lower, upper]
  | textMatch _ _ value _ => [value]
  | segment _ => []

/-- The latest day that the operands of a condition may count to; there is none for a
condition that is dropped. -/
def latestDay? : Condition → Option Int
  | comparison operator (.bucketed _ _) _ => operator.timeRelation?.map TimeRelation.latestDay
  | textMatch _ (.bucketed _ _) _ _ => none
  | _ => some 0

/-- Whether all relative operands of a condition are days counted back from today. -/
def countsDays (leaf : Condition) : Bool :=
  leaf.operands.all fun operand => leaf.latestDay?.all fun latest => operand.countsDays latest

end Condition

namespace Compiler

variable {compiler : Compiler} {query : Query} {clock : ZonedTime}

theorem operandText_of_countsDays {operand : Operand} (h : operand.countsDays 0 = true) :
    { compiler with clock }.operandText operand = compiler.operandText operand := by
  cases operand with
  | literal value typeInfo => rfl
  | absolute timestamp unit => rfl
  | relative amount unit =>
      have hpast : unit.normalize = .day ∧ amount ≤ 0 := by
        simpa [Operand.countsDays] using h
      rw [operandText, operandText, if_pos hpast, if_pos hpast]

theorem operandBounds_of_countsDays {relation : TimeRelation} {operand : Operand}
    (unit : Calendar.CalendarUnit) (h : operand.countsDays relation.latestDay = true) :
    { compiler with clock }.operandBounds relation unit operand =
      compiler.operandBounds relation unit operand := by
  cases operand with
  | literal value typeInfo => rfl
  | absolute timestamp valueUnit => rfl
  | relative amount valueUnit =>
      obtain ⟨hunit, hamount⟩ : valueUnit.normalize = .day ∧ amount ≤ relation.latestDay := by
        simpa [Operand.countsDays] using h
      obtain ⟨bounds, hbounds⟩ :=
        Option.isSome_iff_exists.1 (relativeDayBounds?_isSome_iff.2 hamount)
      rw [operandBounds, operandBounds, if_pos hunit, hbounds]

theorem conditionRange_of_countsDays {leaf : Condition} (h : leaf.countsDays = true) :
    { compiler with clock }.conditionRange leaf = compiler.conditionRange leaf := by
  cases leaf with
  | comparison operator field value =>
      cases field with
      | plain field => rfl
      | bucketed field unit =>
          cases hrelation : operator.timeRelation? with
          | none => simp only [conditionRange, conditionBounds, hrelation]
          | some relation =>
              have hvalue : value.countsDays relation.latestDay = true := by
                simpa [Condition.countsDays, Condition.operands, Condition.latestDay?, hrelation]
                  using h
              simp only [conditionRange, conditionBounds, hrelation,
                operandBounds_of_countsDays unit hvalue]
  | between field lower upper =>
      cases field with
      | plain field => rfl
      | bucketed field unit =>
          obtain ⟨hlower, hupper⟩ : lower.countsDays TimeRelation.notBefore.latestDay = true ∧
              upper.countsDays TimeRelation.notAfter.latestDay = true := by
            simpa [Condition.countsDays, Condition.operands, Condition.latestDay?,
              TimeRelation.latestDay] using h
          rw [conditionRange, conditionRange, conditionBounds, conditionBounds,
            operandBounds_of_countsDays unit hlower, operandBounds_of_countsDays unit hupper]
  | textMatch operator field value caseSensitive => rfl
  | segment id => rfl

theorem clauseTexts_of_countsDays {leaf : Condition} (hplain : leaf.onBucketedField = false)
    (h : leaf.countsDays = true) :
    { compiler with clock }.clauseTexts leaf = compiler.clauseTexts leaf := by
  have hoperands : ∀ operand ∈ leaf.operands,
      { compiler with clock }.operandText operand = compiler.operandText operand := by
    intro operand hoperand
    have hlatest : leaf.latestDay? = some 0 := by
      cases leaf with
      | comparison operator field value =>
          cases field with
          | plain field => rfl
          | bucketed field unit => exact nomatch hplain
      | between field lower upper => rfl
      | textMatch operator field value caseSensitive =>
          cases field with
          | plain field => rfl
          | bucketed field unit => exact nomatch hplain
      | segment id => rfl
    rw [Condition.countsDays, hlatest, List.all_eq_true] at h
    exact operandText_of_countsDays (h operand hoperand)
  cases leaf with
  | comparison operator field value =>
      rw [clauseTexts, clauseTexts, hoperands value (List.mem_singleton_self value)]
      rfl
  | between field lower upper =>
      rw [clauseTexts, clauseTexts, hoperands lower List.mem_cons_self,
        hoperands upper (List.mem_cons_of_mem _ (List.mem_singleton_self upper))]
      rfl
  | textMatch operator field value caseSensitive =>
      rw [clauseTexts, clauseTexts, hoperands value (List.mem_singleton_self value)]
      rfl
  | segment id => rfl

theorem agreesOn_of_countsDays (h : ∀ leaf ∈ query.leaves, leaf.countsDays = true) :
    { compiler with clock }.AgreesOn compiler query where
  config := rfl
  table := rfl
  dimensions := fun _ _ => rfl
  targets := fun _ _ => rfl
  ranges := fun leaf hleaf => conditionRange_of_countsDays (h leaf hleaf)
  clauses := fun leaf hleaf hplain _ => clauseTexts_of_countsDays hplain (h leaf hleaf)

/-- If every relative moment is a day counted back from today, the time at which a query is
compiled does not matter, not even for whether it compiles. -/
theorem compile_of_counted_days (compiler : Compiler) {query : Query}
    (h : ∀ leaf ∈ query.leaves, leaf.countsDays = true) (first second : ZonedTime) :
    { compiler with clock := first }.compile query =
      { compiler with clock := second }.compile query :=
  (agreesOn_of_countsDays h).compile_eq.trans (agreesOn_of_countsDays h).compile_eq.symm

/-- A query about the days up to today, compiled at the first and the last midnight of the
calendar.  The months after now are compared by a condition that is dropped. -/
theorem compile_of_counted_days_up_to_today :
    let date : Field := .bucketed (.id 7) .month
    let query : Query :=
      { sourceTable := .number 1, aggregations := [.metric (.name "ga:hits")], breakout := [date]
        filter := some (.junction .and
          [.junction .and
            [.condition (.comparison .greater date (.relative (-31) .default)),
              .condition (.comparison .less date (.relative 1 .day))],
            .condition (.comparison .notEqual date (.relative 3 .month)),
            .condition (.between (.plain (.literal "ga:lastDate")) (.relative (-7) .day)
              (.relative 0 .day))])
        orders := [], limit := none }
    let compiler : Compiler :=
      { bare with metadata := Metadata.provider { tables := [(.number 1, "123")] } }
    let last : ZonedTime := ⟨.midnight ⟨3652058, by decide⟩, 0⟩
    (∀ leaf ∈ query.leaves, leaf.countsDays = true) ∧
      { compiler with clock := bare.clock }.compile query =
        { compiler with clock := last }.compile query := by
  intro date query compiler last
  have hcounted : ∀ leaf ∈ query.leaves, leaf.countsDays = true := by decide
  exact ⟨hcounted, compile_of_counted_days compiler hcounted bare.clock last⟩

end Compiler

end AnalyticsQuery
