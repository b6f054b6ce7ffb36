import SqlWeave.Calendar.Timestamp
import SqlWeave.Uuid

/-!
# Values

The constants that a statement can carry.  A value reaches a database as the
value of a parameter and never as a part of the statement's text.
-/

namespace SqlWeave

/-- A constant. -/
inductive Value where
  | null
  | bool (value : Bool)
  | int (value : Int64)
  | float (value : Float)
  | text (value : String)
  | bytes (octets : List UInt8)
  | date (day : Calendar.Date)
  | dateTime (timestamp : Calendar.Timestamp)
  /-- A point in time, held in UTC. -/
  | instant (timestamp : Calendar.Timestamp)
  | time (clock : Calendar.Time)
  | uuid (key : Uuid)
  /-- Several values, such as the right-hand side of `IN`. -/
  | list (items : List Value)
  deriving Inhabited

namespace Value

/-- Whether the value is null. -/
def isNull : Value → Bool
  | null => true
  | _ => false

mutual

/-- Whether two values are equal.  Doubles compare as numbers, so a NaN is not
equal to itself. -/
def same : Value → Value → Bool
  | null, null => true
  | bool left, bool right => left == right
  | int left, int right => left == right
  | float left, float right => left == right
  | text left, text right => left == right
  | bytes left, bytes right => left == right
  | date left, date right => left == right
  | dateTime left, dateTime right => left == right
  | instant left, instant right => left == right
  | time left, time right => left == right
  | uuid left, uuid right => left == right
  | list left, list right => sameItems left right
  | _, _ => false

/-- Whether two lists hold equal values in the same order. -/
def sameItems : List Value → List Value → Bool
  | [], [] => true
  | left :: lefts, right :: rights => same left right && sameItems lefts rights
  | _, _ => false

end

instance : BEq Value := ⟨same⟩

end Value

end SqlWeave
