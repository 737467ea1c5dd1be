import NonlinearProgram.Arith.Double
import NonlinearProgram.Decimal.Shortest

/-!
# Solver options

An option is a key with a text, an integer or a real as its value. A table holds options in the
order in which their keys were first set; setting a key again replaces its value in place. Before an
option is handed to a solver its key, and a text value, are checked: a solver reads ASCII only and
limits the length of keys.
-/

namespace NonlinearProgram

inductive OptionValue (R : Type) where
  | text (value : String)
  | integer (value : Int)
  | real (value : R)
  deriving DecidableEq, Repr

def OptionValue.display : OptionValue Double → String
  | text value => value
  | integer value => toString value
  | real value => Decimal.shortest value.value

/-- Why an option is withheld from the solver. -/
inductive OptionFault where
  | keyTooLong
  | keyNotAscii
  | valueNotAscii
  deriving DecidableEq, Repr

/-- Length of the longest key a solver accepts. -/
def keyLengthLimit : Nat := 55

def isAscii (text : String) : Bool := text.toList.all fun char => char.toNat < 128

/-- What is wrong with a key. The length is not looked at when the key is not ASCII. -/
def keyFault? (key : String) : Option OptionFault :=
  if !isAscii key then some .keyNotAscii
  else if keyLengthLimit < key.length then some .keyTooLong
  else none

/-- What is wrong with an option, the key first. -/
def optionFault? {R : Type} (key : String) (value : OptionValue R) : Option OptionFault :=
  match keyFault? key, value with
  | some fault, _ => some fault
  | none, .text value => if isAscii value then none else some .valueNotAscii
  | none, _ => none

/-- Options in the order in which their keys were first set. -/
structure OptionTable (R : Type) where
  entries : List (String × OptionValue R) := []
  deriving DecidableEq, Repr

namespace OptionTable

variable {R : Type}

def size (table : OptionTable R) : Nat := table.entries.length

def isEmpty (table : OptionTable R) : Bool := table.entries.isEmpty

def get? (table : OptionTable R) (key : String) : Option (OptionValue R) :=
  table.entries.lookup key

/-- Replaces the value of a key in a list of entries, or adds the key at the end. -/
def setEntry (key : String) (value : OptionValue R) :
    List (String × OptionValue R) → List (String × OptionValue R)
  | [] => [(key, value)]
  | entry :: rest =>
      if entry.1 = key then (key, value) :: rest else entry :: setEntry key value rest

/-- Sets a key, in place if it is known. -/
def set (table : OptionTable R) (key : String) (value : OptionValue R) : OptionTable R :=
  ⟨setEntry key value table.entries⟩

def erase (table : OptionTable R) (key : String) : OptionTable R :=
  ⟨table.entries.eraseP fun entry => entry.1 == key⟩

/-- Removes a key and gives the value that it had. -/
def remove (table : OptionTable R) (key : String) : Option (OptionValue R) × OptionTable R :=
  match table.entries.findIdx? fun entry => entry.1 == key with
  | none => (none, table)
  | some index => (table.entries[index]?.map Prod.snd, ⟨table.entries.eraseIdx index⟩)

end OptionTable

end NonlinearProgram
