/-!
# TOML values

A table remembers how it came to be, because that decides what may still be added to it.
-/

namespace SafeReadme.Toml

inductive Origin where
  | braces
  | header
  /-- On the way to the table of a longer header. -/
  | implied
  /-- On the way to the value of a dotted key. -/
  | dotted
  | element
  deriving DecidableEq, Repr

/-- A TOML value. Tables keep their entries in the order in which they were written. -/
inductive Value where
  | string (text : String)
  | integer (number : Int)
  /-- A floating-point number. No setting is one, so its value is not kept. -/
  | float
  | boolean (flag : Bool)
  | moment (text : String)
  | array (values : List Value)
  | table (origin : Origin) (entries : List (String × Value))
  | tables (tables : List (List (String × Value)))
  deriving Repr

abbrev Entries : Type := List (String × Value)

/-! ## Adding to tables

A table is given once: under one header, or between braces, or by dotted keys. What was only
implied can still be given, and tables in double brackets are always added to their last one.
-/

namespace Entries

def find? (es : Entries) (key : String) : Option Value :=
  es.lookup key

def replace (es : Entries) (key : String) (value : Value) : Entries :=
  es.map fun e => if e.1 == key then (key, value) else e

def add (es : Entries) (key : String) (value : Value) : Entries :=
  es ++ [(key, value)]

def erase (es : Entries) (key : String) : Entries :=
  es.filter fun e => e.1 != key

/-- Changes the table under a key if its origin allows it. Without one, the change makes a new
table of the origin `made`. -/
def enter (es : Entries) (made : Origin) (mayEnter : Origin → Bool) (key : String)
    (change : Entries → Option Entries) : Option Entries :=
  match es.find? key with
  | none => do return es.add key (.table made (← change []))
  | some (.table origin inner) =>
      if mayEnter origin then do return es.replace key (.table origin (← change inner)) else none
  | some (.tables ts) =>
      match ts.getLast? with
      | some last =>
          if mayEnter .element then do
            return es.replace key (.tables (ts.dropLast ++ [← change last]))
          else none
      | none => none
  | some _ => none

def within (change : Entries → Option Entries) : List String → Entries → Option Entries
  | [], es => change es
  | key :: keys, es => es.enter .implied (· != .braces) key (within change keys)

def addNew (es : Entries) (key : String) (value : Value) : Option Entries :=
  match es.find? key with
  | none => some (es.add key value)
  | some _ => none

/-- Adds a value under dotted keys. The innermost table must be one that dotted keys have made; on
the way to it lie tables that are not given by themselves. -/
def assign (value : Value) : List String → Entries → Option Entries
  | [], _ => none
  | [key], es => es.addNew key value
  | [table, key], es => es.enter .dotted (· == .dotted) table fun inner => inner.addNew key value
  | table :: keys, es =>
      es.enter .dotted (fun origin => [.dotted, .implied, .element].contains origin) table
        (assign value keys)

/-- Begins the table under a header: it is new, or was implied by longer headers. -/
def openTable (key : String) (es : Entries) : Option Entries :=
  match es.find? key with
  | none => some (es.add key (.table .header []))
  | some (.table .implied inner) => some ((es.erase key).add key (.table .header inner))
  | some _ => none

def openElement (key : String) (es : Entries) : Option Entries :=
  match es.find? key with
  | none => some (es.add key (.tables [[]]))
  | some (.tables ts) => some (es.replace key (.tables (ts ++ [[]])))
  | some _ => none

end Entries

end SafeReadme.Toml
