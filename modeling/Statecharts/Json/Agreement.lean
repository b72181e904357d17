import Statecharts.Json.Basic

/-!
# Agreement of JSON values

Two values agree when they are equal up to the way their numbers are written: numbers are compared
as doubles, so `1` agrees with `1.0`.
-/

namespace Statecharts.Json

mutual

def agrees : Json → Json → Bool
  | .null, .null => true
  | .bool a, .bool b => a == b
  | .number a, .number b => a.toDouble == b.toDouble
  | .string a, .string b => a == b
  | .array as, .array bs => agreesItems as bs
  | .object as, .object bs => as.length == bs.length && agreesFields as bs
  | _, _ => false

def agreesItems : List Json → List Json → Bool
  | [], [] => true
  | a :: as, b :: bs => agrees a b && agreesItems as bs
  | _, _ => false

/-- Every field of the first list is in the second one, with a value that agrees. -/
def agreesFields : List (String × Json) → List (String × Json) → Bool
  | [], _ => true
  | (key, a) :: as, bs =>
    (match bs.lookup key with
      | some b => agrees a b
      | none => false) && agreesFields as bs

end

end Statecharts.Json
