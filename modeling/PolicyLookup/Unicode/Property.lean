import PolicyLookup.Text.Blank
import PolicyLookup.Unicode.Ages
import PolicyLookup.Unicode.Categories
import PolicyLookup.Unicode.Foldings
import PolicyLookup.Unicode.Properties
import PolicyLookup.Unicode.ScriptExtensions
import PolicyLookup.Unicode.Scripts
import PolicyLookup.Unicode.Segmentation

set_option autoImplicit false

namespace PolicyLookup.Unicode

inductive Query where
  | named (name : Text)
  | valued (name value : Text)
deriving DecidableEq

def normalize (name : Text) : String :=
  let (body, marked) := match name with
    | a :: b :: rest => if a.toLower = 'i' ∧ b.toLower = 's' then (rest, true) else (name, false)
    | _ => (name, false)
  let kept := (body.filter fun c => c.toNat < 0x80 ∧ c ≠ ' ' ∧ c ≠ '_' ∧ c ≠ '-').map Char.toLower
  if marked ∧ kept = ['c'] then "isc" else String.ofList kept

def unionOf (sets : List CharSet) : CharSet := CharSet.ofRanges (sets.flatMap CharSet.ranges)

def categoriesOf (names : List String) : CharSet := unionOf (names.filterMap (find? categories))

def categoryGroups : List (List String × List String) := [
  (["l", "letter"], ["lu", "ll", "lt", "lm", "lo"]),
  (["lc", "casedletter"], ["lu", "ll", "lt"]),
  (["m", "mark", "combiningmark"], ["mn", "mc", "me"]),
  (["n", "number"], ["nd", "nl", "no"]),
  (["p", "punctuation", "punct"], ["pc", "pd", "ps", "pe", "pi", "pf", "po"]),
  (["s", "symbol"], ["sm", "sc", "sk", "so"]),
  (["z", "separator"], ["zs", "zl", "zp"])]

def surrogates : CharSet := ⟨[(0xD800, 0xDFFF)]⟩

def assigned : CharSet := unionOf (categories.map fun row => readTable row.table)

def unassigned : CharSet := (assigned.union surrogates).complement

def category? (name : String) : Option CharSet :=
  if name == "any" then some CharSet.all
  else if name == "ascii" then some ⟨[(0, 0x7F)]⟩
  else if name == "assigned" then some assigned
  else if name == "cn" || name == "unassigned" then some unassigned
  else if name == "c" || name == "other" then
    some ((categoriesOf ["cc", "cf", "co"]).union unassigned)
  else match categoryGroups.find? (·.1.contains name) with
    | some (_, members) => some (categoriesOf members)
    | none => find? categories name

def age? (name : String) : Option CharSet :=
  if ages.any (·.names.contains name) then
    let older := ages.takeWhile fun row => !row.names.contains name
    some (unionOf ((older.map fun row => readTable row.table) ++ (find? ages name).toList))
  else none

-- What one name stands for: a property first, then a category, then a script. The three names
-- that mean a category although a property has them too are no obstacle: no such property is here.
def named? (name : String) : Option CharSet :=
  (find? properties name).or ((category? name).or (find? scripts name))

def valued? (name value : String) : Option CharSet :=
  if name == "gc" || name == "generalcategory" then category? value
  else if name == "sc" || name == "script" then find? scripts value
  else if name == "scx" || name == "scriptextensions" then find? scriptExtensions value
  else if name == "age" then age? value
  else if name == "gcb" || name == "graphemeclusterbreak" then find? graphemeBreaks value
  else if name == "wb" || name == "wordbreak" then find? wordBreaks value
  else if name == "sb" || name == "sentencebreak" then find? sentenceBreaks value
  else none

def Query.set? : Query → Option CharSet
  | .named name => named? (normalize name)
  | .valued name value => valued? (normalize name) (normalize value)

def property (name : String) : CharSet := (find? properties name).getD .empty

def alphabetic : CharSet := property "alphabetic"

def blank : CharSet := property "whitespace"

def decimal : CharSet := categoriesOf ["nd"]

def numeric : CharSet := categoriesOf ["nd", "nl", "no"]

def word : CharSet :=
  unionOf [alphabetic, categoriesOf ["mn", "mc", "me", "nd", "pc"], property "joincontrol"]

def foldingClasses : List (List Nat) :=
  (pieces (· = ',') foldings.toList).map fun line => (words line).map number16

def foldCase (s : CharSet) : CharSet :=
  match foldingClasses.filter (·.any s.containsNat) with
  | [] => s
  | classes => CharSet.ofRanges (s.ranges ++ classes.flatten.map fun n => (n, n))

def foldAscii (s : CharSet) : CharSet :=
  let letters := (List.range 26).flatMap fun n =>
    let small := 0x61 + n
    let capital := 0x41 + n
    if s.containsNat small || s.containsNat capital then [(small, small), (capital, capital)] else []
  if letters.isEmpty then s else CharSet.ofRanges (s.ranges ++ letters)

end PolicyLookup.Unicode
