import Numerus.Text.Basic

/-!
Plural categories, and the two families of rules that choose among them.

The categories have an order, in which the rules of a locale are tried; the last category is the
one for all numbers that no other category claims.
-/

namespace Numerus

/-- A plural category. The names are those of grammatical classes and not of numbers. -/
inductive Category where
  | zero
  | one
  | two
  | few
  | many
  | other
  deriving DecidableEq

namespace Category

/-- All categories, in the order in which their rules are tried. -/
def all : List Category := [zero, one, two, few, many, other]

/-- The tag of a category in rule data. -/
def tag : Category → Text
  | zero => "zero"
  | one => "one"
  | two => "two"
  | few => "few"
  | many => "many"
  | other => "other"

/-- The category with the given tag. -/
def ofTag? (tag : Text) : Option Category := all.find? (·.tag = tag)

/-- The place of a category in the order of all categories. -/
def rank : Category → Nat
  | zero => 0
  | one => 1
  | two => 2
  | few => 3
  | many => 4
  | other => 5

theorem mem_all (c : Category) : c ∈ all := by cases c <;> simp [all]

@[simp] theorem ofTag?_tag (c : Category) : ofTag? c.tag = some c := by cases c <;> rfl

theorem tag_of_ofTag? {tag : Text} {c : Category} (h : ofTag? tag = some c) : c.tag = tag := by
  have := List.find?_some h
  simpa using this

theorem eq_of_tag_eq {c d : Category} (h : c.tag = d.tag) : c = d := by
  have := congrArg ofTag? h
  simpa using this

/-- No two categories have the same place. -/
theorem eq_of_rank_eq {c d : Category} (h : c.rank = d.rank) : c = d := by
  cases c <;> cases d <;> first | rfl | cases h

end Category

/-- A family of plural rules. -/
inductive Family where
  /-- The rules for counting: one file, two files. -/
  | cardinal
  /-- The rules for ranking: first, second, third. -/
  | ordinal
  deriving DecidableEq

namespace Family

/-- All families. -/
def all : List Family := [cardinal, ordinal]

/-- The tag of a family. -/
def tag : Family → Text
  | cardinal => "cardinal"
  | ordinal => "ordinal"

end Family

end Numerus
