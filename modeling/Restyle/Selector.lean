import Restyle.Script

/-!
# Class selectors

A class selector is a dot with a name after it. `selectors` lists those of a text from left to
right: at a dot it takes the longest run of name symbols, and a dot without a name is passed over.
Only the symbols count, so a selector is found in comments and quoted text as well.

`replaceFirst` puts a new text in the place of the first occurrence of an old one.
-/

namespace Restyle

variable {α : Type} [DecidableEq α]

/-- The class selectors of a text, from left to right. -/
def selectors [Script α] : List α → List (List α)
  | [] => []
  | c :: rest =>
    if c = Script.dot then
      match rest.takeWhile Script.isName with
      | [] => selectors rest
      | name => (c :: name) :: selectors (rest.dropWhile Script.isName)
    else selectors rest
termination_by text => text.length
decreasing_by
  · exact Nat.lt_succ_self _
  · exact Nat.lt_succ_of_le (List.dropWhile_sublist _).length_le
  · exact Nat.lt_succ_self _

/-- A text with `new` in the place of the first occurrence of `old`, if there is one. -/
def replaceFirst (old new : List α) : List α → List α
  | [] => []
  | c :: rest =>
    if old.isPrefixOf (c :: rest) then new ++ (c :: rest).drop old.length
    else c :: replaceFirst old new rest

end Restyle
