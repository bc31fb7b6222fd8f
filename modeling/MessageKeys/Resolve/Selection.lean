import MessageKeys.Resolve.Reference

/-!
# Selection among several documents

A key is looked up in every document of its namespace. The *most resolved* reference speaks for the
key, and the *least resolved* one shows what is missing; of equals the earliest is taken.

## Main definitions

* `MessageKeys.firstBy` — the first item that no other beats.
* `MessageKeys.mostResolvedBy?`, `MessageKeys.leastResolvedBy?` — the item whose reference has the
  longest or the shortest resolved path.
* `MessageKeys.resolveIn?` — the most resolved reference of a key in several trees.
-/

namespace MessageKeys

/-- The first item, unless a later one is better; of those the first that no later one beats. -/
def firstBy {α : Type} (better : α → α → Bool) : List α → Option α
  | [] => none
  | item :: items =>
    some (items.foldl (fun best next => if better next best then next else best) item)

/-- The item whose reference has the longest resolved path, the earliest of equals. -/
def mostResolvedBy? {α : Type} (reference : α → Reference) (items : List α) : Option α :=
  firstBy (fun x y => decide ((reference y).path.length < (reference x).path.length)) items

/-- The item whose reference has the shortest resolved path, the earliest of equals. -/
def leastResolvedBy? {α : Type} (reference : α → Reference) (items : List α) : Option α :=
  firstBy (fun x y => decide ((reference x).path.length < (reference y).path.length)) items

/-- The most resolved of some references. -/
def mostResolved? (references : List Reference) : Option Reference :=
  mostResolvedBy? id references

/-- The least resolved of some references. -/
def leastResolved? (references : List Reference) : Option Reference :=
  leastResolvedBy? id references

/-- The most resolved reference of a key in several trees. -/
def resolveIn? (rules : PluralRules) (key : List String) (roots : List Tree) : Option Reference :=
  mostResolved? (roots.map fun root => root.resolve rules key)

end MessageKeys
