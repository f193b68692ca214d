/-
  Tables while TOML text is read. A table knows how it came about, because that decides what may
  still be added to it: a header declares a table once, and dotted keys extend only tables that
  dotted keys made.
-/
import DocCorpus.Tree

namespace DocCorpus.Toml

/-- How a table came about. -/
inductive Origin
  /-- A header names it, or it is a table by itself. -/
  | declared
  /-- A header names a table inside it. -/
  | implied
  /-- A dotted key leads through it. -/
  | dotted
  deriving DecidableEq

/-- A member of a table. -/
inductive Item
  | value (t : Tree)
  | table (origin : Origin) (members : List (String × Item))
  /-- A list of tables, each under a header of its own. -/
  | tables (list : List (List (String × Item)))

abbrev Members := List (String × Item)

namespace Members

/-- The members with one of them replaced. -/
def replace (ms : Members) (key : String) (item : Item) : Members :=
  ms.map fun m => if m.1 = key then (key, item) else m

/-- Edits the table that a path of keys leads to from a table. Missing tables are made; of a list
of tables the last is meant. A dotted path must not pass through declared tables. -/
def edit? (through : Origin) (f : Origin → Members → Option Members) :
    List String → Origin → Members → Option Members
  | [], origin, ms => f origin ms
  | key :: path, _, ms =>
    match ms.lookup key with
    | none =>
      (edit? through f path through []).map fun inner => ms ++ [(key, .table through inner)]
    | some (.value _) => none
    | some (.table origin inner) =>
      if through = .dotted ∧ origin = .declared then none
      else
        (edit? through f path origin inner).map fun inner =>
          ms.replace key (.table origin inner)
    | some (.tables list) =>
      match list.getLast? with
      | none => none
      | some last =>
        (edit? through f path .declared last).map fun inner =>
          ms.replace key (.tables (list.dropLast ++ [inner]))

/-- Adds a value under the last of some keys, to the table that the others lead to. Only a dotted
key reaches a table that dotted keys made. -/
def insert? (path : List String) (key : String) (t : Tree) (origin : Origin) (ms : Members) :
    Option Members :=
  edit? .dotted (fun origin ms =>
    if (origin = .dotted ↔ path = []) ∨ (ms.lookup key).isSome then none
    else some (ms ++ [(key, .value t)])) path origin ms

/-- Declares a table. One that is only implied keeps its members and moves to the end. -/
def declare? (path : List String) (key : String) (ms : Members) : Option Members :=
  edit? .implied (fun _ ms =>
    match ms.lookup key with
    | none => some (ms ++ [(key, .table .declared [])])
    | some (.table .implied inner) =>
      some (ms.filter (·.1 ≠ key) ++ [(key, .table .declared inner)])
    | some _ => none) path .declared ms

/-- Adds a table to a list of tables. -/
def extend? (path : List String) (key : String) (ms : Members) : Option Members :=
  edit? .implied (fun _ ms =>
    match ms.lookup key with
    | none => some (ms ++ [(key, .tables [[]])])
    | some (.tables list) => some (ms.replace key (.tables (list ++ [[]])))
    | some _ => none) path .declared ms

end Members

/-! ## Trees -/

mutual

def Item.toTree : Item → Tree
  | .value t => t
  | .table _ members => .table (membersToTrees members)
  | .tables list => .list (tablesToTrees list)

def membersToTrees : Members → List (String × Tree)
  | [] => []
  | (key, item) :: rest => (key, item.toTree) :: membersToTrees rest

def tablesToTrees : List Members → List Tree
  | [] => []
  | members :: rest => .table (membersToTrees members) :: tablesToTrees rest

end

end DocCorpus.Toml
