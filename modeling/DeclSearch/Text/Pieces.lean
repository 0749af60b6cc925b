/-
# Cutting and joining at a separator

Plain cutting at one character, where separators at the ends and neighbouring ones give
empty parts, and joining with a text in between.
-/

namespace DeclSearch
namespace Text

/-- Cuts the rest of a text behind the parts found and the part read so far, both kept
last one first. -/
def cutOnto (sep : Char) (parts : List (List Char)) (part : List Char) :
    List Char → List (List Char)
  | [] => (part.reverse :: parts).reverse
  | c :: rest =>
    if c = sep then cutOnto sep (part.reverse :: parts) [] rest
    else cutOnto sep parts (c :: part) rest

/-- The parts of a list of characters between the separators. -/
def cutChars (sep : Char) (cs : List Char) : List (List Char) := cutOnto sep [] [] cs

/-- The parts of a text between the separators; there is always at least one. -/
def cut (sep : Char) (s : String) : List String := (cutChars sep s.toList).map String.ofList

/-- The texts one after another with `sep` between neighbours. -/
def join (sep : String) (parts : List String) : String := sep.intercalate parts

/-- Whether `sub` occurs in `cs`. -/
def occursIn (sub cs : List Char) : Bool :=
  sub.isPrefixOf cs || match cs with
    | [] => false
    | _ :: rest => occursIn sub rest

/-- Whether `sub` occurs in `s`. -/
def occurs (sub s : String) : Bool := occursIn sub.toList s.toList

end Text
end DeclSearch
