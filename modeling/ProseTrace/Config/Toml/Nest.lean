import ProseTrace.Config.Toml.Lexical
import ProseTrace.Config.Value

/-!
# Tables within tables

Entries are put into tables by dotted keys.  Tables on the way are made where they are missing, and
behind a list stands the last of its tables.  Which names may still be opened or extended is kept as
marks: a declared table is not declared again, and nothing is added within a sealed value.
-/

namespace ProseTrace.Config.Toml

def setEntry (entries : Table) (key : String) (value : Value) : Table :=
  match entries with
  | [] => [(key, value)]
  | (name, old) :: rest =>
    if name = key then (name, value) :: rest else (name, old) :: setEntry rest key value

/-- Change the table behind a key; with `throughLists` the way may lead to the last table of a
list. -/
def changeNest (throughLists : Bool) (change : Table → Option Table) : Key → Table → Option Table
  | [], entries => change entries
  | name :: names, entries =>
    match entries.lookup name with
    | none => do
      return entries ++ [(name, .table (← changeNest throughLists change names []))]
    | some (.table inner) => do
      return setEntry entries name (.table (← changeNest throughLists change names inner))
    | some (.list items) =>
      match throughLists, items.getLast? with
      | true, some (.table inner) => do
        let changed ← changeNest throughLists change names inner
        return setEntry entries name (.list (items.dropLast ++ [.table changed]))
      | _, _ => none
    | some _ => none

def addEntry (key : String) (value : Value) (entries : Table) : Option Table :=
  match entries.lookup key with
  | none => some (entries ++ [(key, value)])
  | some _ => none

def addListTable (key : String) (entries : Table) : Option Table :=
  match entries.lookup key with
  | none => some (entries ++ [(key, .list [.table []])])
  | some (.list items) => some (setEntry entries key (.list (items ++ [.table []])))
  | some _ => none

/-- What may no longer be done with the names of a document. -/
structure Marks where
  /-- Tables that were declared, or opened by a dotted key in an earlier section. -/
  declared : List Key
  /-- Values within which nothing is added. -/
  frozen : List Key
  /-- Tables that dotted keys opened in this section. -/
  opened : List Key

namespace Marks

def empty : Marks := ⟨[], [], []⟩

def isDeclared (m : Marks) (key : Key) : Bool := m.declared.contains key

def isFrozen (m : Marks) (key : Key) : Bool := m.frozen.any (·.isPrefixOf key)

def declare (m : Marks) (key : Key) : Marks := { m with declared := key :: m.declared }

def freeze (m : Marks) (key : Key) : Marks := { m with frozen := key :: m.frozen }

def openTable (m : Marks) (key : Key) : Marks := { m with opened := key :: m.opened }

/-- A section ends: the tables opened in it count as declared. -/
def endSection (m : Marks) : Marks := { m with declared := m.opened ++ m.declared, opened := [] }

def clear (m : Marks) (key : Key) : Marks :=
  { m with
    declared := m.declared.filter (!key.isPrefixOf ·)
    frozen := m.frozen.filter (!key.isPrefixOf ·) }

end Marks

/-- Lists and tables are sealed when they are written as values. -/
def isSealedValue : Value → Bool
  | .list _ => true
  | .table _ => true
  | _ => false

end ProseTrace.Config.Toml
