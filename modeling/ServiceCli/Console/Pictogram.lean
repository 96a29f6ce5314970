import ServiceCli.Console.Pictogram.Names
import ServiceCli.Text.Character
import ServiceCli.Text.LetterCase
import ServiceCli.Text.Split

set_option autoImplicit false
set_option relaxedAutoImplicit false

namespace ServiceCli.Console

/-- The picture of a name, which is found in its lower case. -/
def picture? (name : List Char) : Option (List Char) :=
  let name := (Text.lower (String.ofList name)).toList
  pictureRows.findSome? fun row =>
    (Text.splitAt ' ' row.toList).findSome? fun entry =>
      let fields := Text.splitAt '=' entry
      if fields.dropLast.contains name then fields.getLast? else none

/-- The ends of names that ask for a variant, with the selector of the variant. -/
def pictureVariants : List (List Char × Char) :=
  [("-emoji".toList, '\ufe0f'), ("-text".toList, '\ufe0e')]

/-- What stands between two colons, as a picture. -/
def namedPicture? (body : List Char) : Option (List Char) :=
  match pictureVariants.find? fun (ending, _) => ending.isSuffixOf body with
  | some (ending, selector) =>
    (picture? (body.take (body.length - ending.length))).map (· ++ [selector])
  | none => picture? body

theorem length_lt_of_drop_eq_cons {c : Char} {rest tail : List Char} {n : Nat}
    (h : rest.drop n = c :: tail) : tail.length < rest.length :=
  calc tail.length < (c :: tail).length := Nat.lt_succ_self _
    _ = (rest.drop n).length := by rw [h]
    _ ≤ rest.length := (List.drop_suffix n rest).length_le

def withPictures : List Char → List Char
  | [] => []
  | c :: rest =>
    if c = ':' then
      let body := rest.takeWhile fun c => c != ':' && !Text.isBlank c
      match h : rest.drop body.length with
      | ':' :: tail =>
        have := length_lt_of_drop_eq_cons h
        -- colons around no name stay, and the second one begins no other pair
        (namedPicture? body).getD (':' :: body ++ [':']) ++ withPictures tail
      | _ => ':' :: withPictures rest
    else c :: withPictures rest
termination_by cs => cs.length
decreasing_by
  · exact Nat.lt_succ_of_lt this
  · exact Nat.lt_succ_self _
  · exact Nat.lt_succ_self _

end ServiceCli.Console
