import MetricSeries.Error
import MetricSeries.Text.Blank

/-!
# Aggregation methods

A method says how the values of the contributing rows and systems are combined. A field offers
some of the five methods and names one of them as its default.
-/

namespace MetricSeries

inductive Method where
  | sum
  | max
  | min
  | average
  /-- The combination that the field itself defines: a quotient of sums, or a rate. -/
  | natural
  deriving DecidableEq, Repr

namespace Method

def all : List Method := [sum, max, min, average, natural]

def name : Method → String
  | sum => "SUM"
  | max => "MAX"
  | min => "MIN"
  | average => "AVERAGE"
  | natural => "NATURAL"

def rank : Method → Nat
  | sum => 0
  | max => 1
  | min => 2
  | average => 3
  | natural => 4

instance : Ord Method := ⟨fun a b => compare a.rank b.rank⟩

theorem compare_eq (a b : Method) : compare a b = compare a.rank b.rank := rfl

theorem rank_injective {a b : Method} (h : a.rank = b.rank) : a = b := by
  cases a <;> cases b <;> simp_all [rank]

instance : Std.TransOrd Method where
  eq_swap {a b} := by
    rw [compare_eq, compare_eq]
    exact Std.OrientedCmp.eq_swap
  isLE_trans {a b c} hab hbc := by
    rw [compare_eq] at *
    exact Std.TransCmp.isLE_trans hab hbc

instance : Std.LawfulEqOrd Method where
  eq_of_compare {a b} h := rank_injective (Std.LawfulEqCmp.eq_of_compare (compare_eq a b ▸ h))

/-- The method of a name, in capitals as written. -/
def ofName? (name : String) : Option Method := all.find? fun m => m.name = name

def parse (token : String) : Except Error Method :=
  match ofName? token with
  | some m => .ok m
  | none => .error (.invalidMethod token)

@[simp] theorem ofName?_name (m : Method) : ofName? m.name = some m := by
  cases m <;> decide

end Method

end MetricSeries
