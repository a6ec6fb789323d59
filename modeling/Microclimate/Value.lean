import Microclimate.Decimal.Display
import Microclimate.Decimal.Numeral
import Microclimate.Text.Quoted

/-!
# Values of any kind

Zone identifiers, cells of a data row and settings come from outside and may be anything that a data
file can hold. A `Value` is such a thing.

* `Microclimate.Value` – nothing, a truth value, an integer, a double, a text, a list, a dictionary;
* `Microclimate.Value.describe` – a value as it is shown inside another one, texts in quotes;
* `Microclimate.Value.display` – a value as it is shown on its own: a text as it is;
* `Microclimate.Value.isWritable` – whether it can be shown at all.
-/

namespace Microclimate

/-- A value of any kind. A dictionary keeps the order in which its keys were written first. -/
inductive Value where
  /-- Nothing. -/
  | null
  /-- A truth value. -/
  | bool (b : Bool)
  /-- An integer of any size. -/
  | int (n : Int)
  /-- A double. -/
  | float (x : Float)
  /-- A text. -/
  | text (t : Text)
  /-- A list of values. -/
  | list (items : List Value)
  /-- Keys with their values. -/
  | dict (entries : List (Value × Value))
  deriving Inhabited

namespace Value

mutual

/-- A value as it is shown inside another one. -/
def describe : Value → Text
  | null => "None"
  | bool b => if b then "True" else "False"
  | int n => Text.ofInt n
  | float x => Display.full x
  | text t => t.quoted
  | list items => "[" ++ Text.join ", " (describeItems items) ++ "]"
  | dict entries => "\x7b" ++ Text.join ", " (describeEntries entries) ++ "\x7d"

/-- Each item of a list, described. -/
def describeItems : List Value → List Text
  | [] => []
  | v :: rest => describe v :: describeItems rest

/-- Each entry of a dictionary, described. -/
def describeEntries : List (Value × Value) → List Text
  | [] => []
  | (k, v) :: rest => (describe k ++ ": " ++ describe v) :: describeEntries rest

end

/-- A value as it is shown on its own. -/
def display : Value → Text
  | text t => t
  | v => v.describe

mutual

/-- Can a value be shown? An integer in it may have too many digits to be written down. -/
def isWritable : Value → Bool
  | int n => Numeral.isWritable n
  | list items => areWritable items
  | dict entries => haveWritable entries
  | null | bool _ | float _ | text _ => true

/-- Can all items of a list be shown? -/
def areWritable : List Value → Bool
  | [] => true
  | v :: rest => isWritable v && areWritable rest

/-- Can all entries of a dictionary be shown? -/
def haveWritable : List (Value × Value) → Bool
  | [] => true
  | (k, v) :: rest => isWritable k && isWritable v && haveWritable rest

end

/-- Is the value this very text? -/
def isText (v : Value) (s : Text) : Bool :=
  match v with
  | text t => t = s
  | _ => false

end Value

end Microclimate
