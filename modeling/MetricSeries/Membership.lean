import MetricSeries.Ident

/-!
# Groups and their members

A definition may name groups of systems. `resolveSystems` turns a list of identifiers into the
distinct systems that they name: groups are replaced by their members, and of a system that is
named more than once the first place counts.

Every listed identifier is checked against the database before any group is looked up, and every
member of a group again when the group is expanded.
-/

namespace MetricSeries

/-- The members of each group. A group that is not known has none. -/
abbrev Membership := GroupId → List SystemId

namespace Membership

def empty : Membership := fun _ => []

def insert (m : Membership) (group : GroupId) (systems : List SystemId) : Membership :=
  fun g => if g = group then systems else m g

/-- The table of a list of groups, of which a later one replaces an earlier one of the same
name. -/
def ofList (groups : List (GroupId × List SystemId)) : Membership :=
  groups.foldl (fun m g => m.insert g.1 g.2) empty

end Membership

def Ident.systems (m : Membership) : Ident → List SystemId
  | .system s => [s]
  | .group g => m g

/-- The systems that an identifier stands for, each in the scope of the database. -/
def Ident.expand (db : Database) (m : Membership) (i : Ident) : Except Error (List SystemId) := do
  let systems := i.systems m
  systems.forM fun s => (Ident.system s).ensureScope db
  return systems

/-- The list without the repetitions of what came earlier. -/
def firstOccurrences (systems : List SystemId) : List SystemId :=
  systems.foldl (fun seen s => if s ∈ seen then seen else seen ++ [s]) []

/-- The distinct systems that a list of identifiers names, in the order of their first
occurrence. -/
def resolveSystems (db : Database) (m : Membership) (idents : List Ident) :
    Except Error (List SystemId) := do
  idents.forM (·.ensureScope db)
  -- All identifiers are in scope now, but the members of groups need not be.
  let expanded ← idents.mapM (·.expand db m)
  return firstOccurrences expanded.flatten

end MetricSeries
