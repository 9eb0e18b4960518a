/-! # JSON values

Numbers are integers, or decimals kept as they are written. An object keeps all its members in order;
of two members with one name the later one counts.
-/
namespace CanonicalLR

inductive Json where
  | null
  | bool (value : Bool)
  | integer (value : Int)
  | decimal (literal : String)
  | string (value : String)
  | array (items : List Json)
  | object (members : List (String × Json))

namespace Json

def strings (texts : List String) : Json := array (texts.map string)

/-- The value of a name in a list of members, and null without one. -/
def member (name : String) : List (String × Json) → Json
  | [] => null
  | (other, value) :: rest =>
    if rest.any (·.1 = name) then member name rest
    else if other = name then value
    else null

end Json

end CanonicalLR
