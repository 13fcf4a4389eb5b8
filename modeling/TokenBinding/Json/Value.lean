import TokenBinding.Json.Binary

/-!
# JSON values

A value as the library holds it: text is decoded, whole numbers are told apart from all others, and
the members of an object keep their order and their repetitions.

Whole numbers without fraction and exponent from -2⁶³ to 2⁶⁴ - 1 are `integer`. Every other number,
minus zero included, is `real`: a binary fraction.

`canonical` sorts the members of every object by name, and of two members of one name keeps the
later. Names are compared by code points, which is also the order of their UTF-8 bytes.
-/

namespace TokenBinding.Json

inductive Value where
  | null
  | bool (b : Bool)
  | integer (n : Int)
  | real (x : Binary)
  | text (s : String)
  | array (items : List Value)
  | object (members : List (String × Value))
  deriving Repr, Inhabited

namespace Value

/-- Puts a member into a list sorted by name, over one of the same name. -/
def insertMember (name : String) (v : Value) : List (String × Value) → List (String × Value)
  | [] => [(name, v)]
  | (other, w) :: rest =>
    if name < other then (name, v) :: (other, w) :: rest
    else if name = other then (name, v) :: rest
    else (other, w) :: insertMember name v rest

/-- The members sorted by name, the later of two with one name. -/
def sortMembers (members : List (String × Value)) : List (String × Value) :=
  members.foldl (fun sorted m => insertMember m.1 m.2 sorted) []

mutual
/-- The value with the members of all its objects sorted by name and single. -/
def canonical : Value → Value
  | array items => array (canonicalItems items)
  | object members => object (sortMembers (canonicalMembers members))
  | v => v
/-- `canonical` on each item. -/
def canonicalItems : List Value → List Value
  | [] => []
  | v :: rest => canonical v :: canonicalItems rest
/-- `canonical` on each member's value. -/
def canonicalMembers : List (String × Value) → List (String × Value)
  | [] => []
  | (name, v) :: rest => (name, canonical v) :: canonicalMembers rest
end

def isNull : Value → Bool
  | null => true
  | _ => false

/-- Whether a value has nothing in it: `null`, or an object without members. -/
def isVoid : Value → Bool
  | null => true
  | object [] => true
  | _ => false

/-- The first member of this name in an object. -/
def member? (name : String) : Value → Option Value
  | object members => members.lookup name
  | _ => none

end Value

end TokenBinding.Json
