/-!
Sorting by a strict order given as a Boolean test. `sort` keeps every element; `sortSet` keeps
one of the elements that come neither before nor after each other, so its result is strictly
ascending.
-/

namespace DependencyAudit.Ascending

variable {α : Type}

/-- Puts an element behind those that come before it. -/
def insert (lt : α → α → Bool) (a : α) : List α → List α
  | [] => [a]
  | b :: l => if lt b a then b :: insert lt a l else a :: b :: l

def sort (lt : α → α → Bool) (l : List α) : List α := l.foldr (insert lt) []

/-- Puts an element in its place, unless its place is taken. -/
def insertNew (lt : α → α → Bool) (a : α) : List α → List α
  | [] => [a]
  | b :: l =>
    if lt a b then a :: b :: l
    else if lt b a then b :: insertNew lt a l
    else b :: l

/-- The distinct elements in ascending order. -/
def sortSet (lt : α → α → Bool) (l : List α) : List α := l.foldr (insertNew lt) []

/-- The order of strings by code points. -/
def stringBefore (a b : String) : Bool := a < b

/-- The order of lists by the first place where they differ; a list comes before its
continuations. -/
def listBefore (lt : α → α → Bool) : List α → List α → Bool
  | _, [] => false
  | [], _ :: _ => true
  | a :: l, b :: k => lt a b || (!lt b a && listBefore lt l k)

def strings (l : List String) : List String := sortSet stringBefore l

end DependencyAudit.Ascending
