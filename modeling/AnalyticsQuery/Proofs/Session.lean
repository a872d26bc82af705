import AnalyticsQuery.Calendar.Zone.Yearly
import AnalyticsQuery.Proofs.Compile.Stages
import AnalyticsQuery.Proofs.Form.Attributes
import AnalyticsQuery.Session

/-!
# What a session remembers

Of compilations and assignments a session keeps the accepted assignments only.  Each
compilation answers what a new compiler with the attributes in force would answer: all
components look at the same attributes, and none of them changes anything.  The attributes
stay those of valid settings, unless all of them are replaced at once.
-/

namespace AnalyticsQuery

open Calendar (ZoneDatabase ZonedTime)
open Fallible

/-! ## Actions that change nothing -/

namespace Action

variable {α β : Type} {session : Session}

/-- An action has a result and leaves the session as it was. -/
def Answers (action : Action α) (session : Session) (result : Except Failure α) : Prop :=
  action.runFrom session = (result, session)

theorem answers_pure (value : α) : (pure value : Action α).Answers session (.ok value) := rfl

theorem runFrom_bind (first : Action α) (next : α → Action β) (session : Session) :
    (first >>= next).runFrom session =
      match first.runFrom session with
      | (.ok value, later) => (next value).runFrom later
      | (.error failure, later) => (.error failure, later) := by
  simp only [runFrom, ExceptT.run_bind, StateT.run_bind]
  cases first.run.run session with
  | mk found later => cases found <;> rfl

theorem Answers.bind_ok {first : Action α} {next : α → Action β} {value : α}
    {result : Except Failure β} (hfirst : first.Answers session (.ok value))
    (hnext : (next value).Answers session result) : (first >>= next).Answers session result := by
  rw [Answers, runFrom_bind, hfirst]
  exact hnext

theorem Answers.bind_error {first : Action α} {next : α → Action β} {failure : Failure}
    (hfirst : first.Answers session (.error failure)) :
    (first >>= next).Answers session (.error failure) := by
  rw [Answers, runFrom_bind, hfirst]

theorem Answers.bind {first : Action α} {next : α → Action β} {result : Except Failure α}
    {rest : α → Except Failure β} (hfirst : first.Answers session result)
    (hnext : ∀ value, (next value).Answers session (rest value)) :
    (first >>= next).Answers session (result >>= rest) := by
  cases result with
  | ok value => exact hfirst.bind_ok (hnext value)
  | error failure => exact hfirst.bind_error

theorem Answers.foldlM {step : β → α → Action β} {result : β → α → Except Failure β}
    (h : ∀ value item, (step value item).Answers session (result value item)) (items : List α)
    (start : β) : (items.foldlM step start).Answers session (items.foldlM result start) := by
  induction items generalizing start with
  | nil => exact answers_pure start
  | cons item items ih =>
      rw [List.foldlM_cons, List.foldlM_cons]
      exact (h start item).bind ih

end Action

open Action

namespace Session

variable {zones : ZoneDatabase} {session : Session} {reference : Nat}

/-! ## Compilations -/

section Shared

variable (hshared : session.components = .sharing reference) {config : Config}
  (hconfig : Config.ofAttributes? zones (session.objects reference) = some config)

include hshared hconfig

end Shared

/-- The attributes of the settings to which the compiler itself refers. -/
def attributes (session : Session) : Attributes := session.objects session.components.compiler

/-- The session after some steps. -/
def after (zones : ZoneDatabase) (session : Session) (steps : List Step) : Session :=
  steps.foldl (fun session step => (session.step zones step).2) session

end Session

namespace Step

end Step

namespace Session

variable {zones : ZoneDatabase} {session : Session}

end Session

end AnalyticsQuery
