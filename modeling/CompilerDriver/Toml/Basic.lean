/-!
# Configurations

A configuration in the language TOML is a table of named values. Here a value is a text, a table, or a list
without items: no setting of the driver is anything else, and a configuration with a number, a date, a truth
value or a filled list in it is not read at all.

Every table remembers how it came about, because that decides what may still be added to it:

* a *header* `[a.b]` opens the table `b`, once, and everything up to the next header goes into it;
* the table `a` on the way is *implied*, and may be opened by a header of its own later;
* a *dotted* key `a.b = …` makes the table `a`, and other dotted keys may add to it;
* a table between braces is *closed* where it ends.
-/

namespace CompilerDriver

/-- How a table came about. -/
inductive TableOrigin where
  | header
  | implied
  | dotted
  | closed
deriving DecidableEq, Repr

/-- A value of a configuration. -/
inductive Toml where
  | text (value : String)
  /-- A list without items. -/
  | emptyList
  | table (origin : TableOrigin) (entries : List (String × Toml))
deriving Repr

/-- The entries of a table. -/
abbrev TomlEntries := List (String × Toml)

namespace TomlEntries

/-- The value of a key. -/
def get? (entries : TomlEntries) (key : String) : Option Toml :=
  (entries.find? fun entry => entry.1 == key).map (·.2)

/-- Gives a new value to a key that is there. -/
def update (entries : TomlEntries) (key : String) (value : Toml) : TomlEntries :=
  entries.map fun entry => if entry.1 == key then (key, value) else entry

/-- Gives a value to a dotted key. The key must be new; the tables on the way to it must be new or made by
dotted keys. -/
def assign (value : Toml) : (path : List String) → TomlEntries → Option TomlEntries
  | [], _ => none
  | [key], entries =>
    match entries.get? key with
    | none => some (entries ++ [(key, value)])
    | some _ => none
  | key :: path, entries =>
    match entries.get? key with
    | none => (assign value path []).map fun inner => entries ++ [(key, .table .dotted inner)]
    | some (.table .dotted inner) =>
      (assign value path inner).map fun inner => entries.update key (.table .dotted inner)
    | some _ => none

/-- Opens a table by its header. The table must be new or implied. -/
def openTable : (path : List String) → TomlEntries → Option TomlEntries
  | [], _ => none
  | [key], entries =>
    match entries.get? key with
    | none => some (entries ++ [(key, .table .header [])])
    | some (.table .implied inner) => some (entries.update key (.table .header inner))
    | some _ => none
  | key :: path, entries =>
    match entries.get? key with
    | none => (openTable path []).map fun inner => entries ++ [(key, .table .implied inner)]
    | some (.table .closed _) => none
    | some (.table origin inner) =>
      (openTable path inner).map fun inner => entries.update key (.table origin inner)
    | some _ => none

/-- Gives a value to a dotted key of the table that the header `header` has opened. -/
def assignUnder (value : Toml) (path : List String) :
    (header : List String) → TomlEntries → Option TomlEntries
  | [], entries => assign value path entries
  | key :: header, entries =>
    match entries.get? key with
    | some (.table origin inner) =>
      (assignUnder value path header inner).map fun inner =>
        entries.update key (.table origin inner)
    | _ => none

end TomlEntries

end CompilerDriver
