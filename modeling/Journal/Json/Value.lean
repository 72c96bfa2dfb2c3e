/-!
JSON values. A literal can be well formed and still stand for nothing: a number beyond the range of a
double, or a string that is no Unicode text. Such literals are kept, because a reader that skips a
member does not care, and one that wants its value refuses it.
-/

set_option autoImplicit false

namespace Journal

inductive Literal
  | null
  | bool (value : Bool)
  | int (value : Int)
  -- Written with a fraction or an exponent, or as a negative zero.
  | real (finite : Bool)
  | text (value : Option String)
deriving DecidableEq, Repr

inductive Json
  | literal (value : Literal)
  | array (items : List Json)
  | object (members : List (Option String × Json))

def Literal.isSound : Literal → Bool
  | .real finite => finite
  | .text value => value.isSome
  | _ => true

namespace Json

def null : Json := .literal .null

def bool (value : Bool) : Json := .literal (.bool value)

def int (value : Int) : Json := .literal (.int value)

def text (value : String) : Json := .literal (.text (some value))

def isSound : (levels : Nat) → Json → Bool
  | _, .literal value => value.isSound
  | 0, _ => false
  | levels + 1, .array items => items.all (isSound levels)
  | levels + 1, .object members =>
    members.all fun member => member.1.isSome && isSound levels member.2

def collect (name : String) (found : List Json) : List (Option String × Json) → List Json
  | [] => found
  | (some key, value) :: rest =>
    if key = name then collect name (value :: found) rest else collect name found rest
  | (none, _) :: rest => collect name found rest

def valuesOf (name : String) (members : List (Option String × Json)) : List Json :=
  (collect name [] members).reverse

theorem valuesOf_eq (name : String) (members : List (Option String × Json)) :
    valuesOf name members =
      members.filterMap fun member => if member.1 = some name then some member.2 else none := by
  suffices all : ∀ found, collect name found members =
      (members.filterMap fun member =>
        if member.1 = some name then some member.2 else none).reverse ++ found by
    simp [valuesOf, all]
  induction members with
  | nil => simp [collect]
  | cons member rest ih =>
    intro found
    obtain ⟨key, value⟩ := member
    cases key with
    | none => simp [collect, ih]
    | some key => by_cases same : key = name <;> simp [collect, ih, same]

end Json

end Journal
