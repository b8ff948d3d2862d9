import RecordApps.Access.Rule

/-! # Priorities

Where several rules of a table apply, one of them decides: the one of highest priority, and
among equals the one with the smallest id. The order of a table does not matter.
-/

namespace RecordApps

/-- Rules that are ranked by a priority and then by their id. -/
class Ranked (R : Type) where
  /-- Rule id. -/
  id : R → String
  /-- Priority; higher ones decide. -/
  priority : R → Int
  /-- The rule with another priority. -/
  withPriority : R → Int → R

instance : Ranked AppPermission where
  id row := row.id.text
  priority row := row.priority
  withPriority row priority := { row with priority := priority }

instance : Ranked FieldPermission where
  id row := row.id.text
  priority row := row.priority
  withPriority row priority := { row with priority := priority }

instance : Ranked RecordRule where
  id rule := rule.id.text
  priority rule := rule.priority
  withPriority rule priority := { rule with priority := priority }

namespace Ranked

variable {R : Type} [Ranked R]

/-- The largest priority. -/
def maxPriority : Int := 2147483647

/-- Whether a rule decides before another. -/
def outranks (a b : R) : Bool :=
  priority b < priority a || (priority a == priority b && id a < id b)

/-- The better one of a rule and the best so far. -/
def better (best : Option R) (rule : R) : Option R :=
  match best with
  | none => some rule
  | some current => if outranks rule current then some rule else some current

/-- The rule that decides among those that apply. -/
def deciding (applies : R → Bool) (rules : List R) : Option R :=
  (rules.filter applies).foldl better none

/-- Refuse ids that no rule has and ids that are listed twice. -/
def checkListed (known : List String) (seen : List String) : List String → Outcome Unit
  | [] => .ok ()
  | id :: rest => do
      ensure (known.contains id) (.unknownRule id)
      ensure (!seen.contains id) (.ruleListedTwice id)
      checkListed known (id :: seen) rest

/-- Rank a rule by the place of its id in a list, the first highest. -/
def rankBy (ids : List String) (rule : R) : Outcome R := do
  let rank := ids.length - ids.idxOf (id rule)
  ensure (rank ≤ maxPriority) .tooManyRules
  return withPriority rule rank

/-- Rank the rules of a table in the given order of their ids, which has to list them all. -/
def reorder (rules : List R) (ids : List String) : Outcome (List R) := do
  let known := (rules.map id).eraseDups
  checkListed known [] ids
  ensure (known.length == ids.length) (.incompleteOrder known.length ids.length)
  rules.mapM (rankBy ids)

end Ranked

end RecordApps
