import Gatehouse.Settings.Place

/-!
# Settings in the environment

A variable whose name starts with the mark of the gateway holds a setting: the rest of the
name is the place, two underscores standing for each dot. Case makes no difference.

## Main definitions

* `Environment`: Variables with their values.
* `Environment.place?`: The place that a variable is about.
* `Setting.addEnvironment`: A tree with the settings of an environment.
-/

namespace Gatehouse

/-- Variables with their values. -/
abbrev Environment := List (String × String)

namespace Environment

/-- What the names of the variables of the gateway start with, in lower case. -/
def mark : String := "trackgate__"

/-- A name with a dot for each two underscores. -/
def dots : List Char → List Char
  | '_' :: '_' :: rest => '.' :: dots rest
  | c :: rest => c :: dots rest
  | [] => []

/-- The place that a variable is about, if it is one of the gateway. -/
def place? (name : String) : Option Place :=
  let text := (Setting.lower name).toList
  if mark.toList.isPrefixOf text then
    some (Place.ofText (String.ofList (dots (text.drop mark.length))))
  else none

example : dots ['a', '_', '_', '_', 'b'] = ['a', '.', '_', 'b'] := by decide

end Environment

namespace Setting

/-- A tree with the settings of an environment, each as a text. -/
def addEnvironment (environment : Environment) (root : Setting) : Setting :=
  environment.foldl (fun root (name, value) =>
    match Environment.place? name with
    | some place => putAt (.text value) place root
    | none => root) root

end Setting

end Gatehouse
