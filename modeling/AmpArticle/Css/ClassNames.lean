import AmpArticle.Fault

/-!
Class names as they are given to elements and rules: one name, or a sequence of names that may be nested to any depth.
-/

namespace AmpArticle.Css

/-- a name, a sequence of names, or a value that is neither -/
inductive ClassNames where
  | name (text : String)
  | many (items : List ClassNames)
  | other (value : Json)
  deriving Inhabited

namespace ClassNames

mutual
/-- a decoded value as class names; an object stands for its keys -/
def ofJson : Json → ClassNames
  | .text s => .name s
  | .list items => .many (ofJsons items)
  | .object entries => .many (entries.map fun e => .name e.1)
  | value => .other value

/-- each value as class names -/
def ofJsons : List Json → List ClassNames
  | [] => []
  | item :: rest => ofJson item :: ofJsons rest
end

mutual
/-- the selector of the names, each behind a point and `classPrefix`, joined by commas -/
def selector (classPrefix : String) : ClassNames → Except Fault String
  | .name text => .ok ("." ++ classPrefix ++ text)
  | .many items => do return Text.joinWith ", " (← selectors classPrefix items)
  | .other value => .error (.selectorKind value.kindName)

/-- the selectors of the items -/
def selectors (classPrefix : String) : List ClassNames → Except Fault (List String)
  | [] => .ok []
  | item :: rest => do
    let first ← selector classPrefix item
    return first :: (← selectors classPrefix rest)
end

mutual
/-- the class attribute of the names, each behind `classPrefix`, joined by spaces -/
def classAttribute (classPrefix : String) : ClassNames → Except Fault String
  | .name text => .ok (classPrefix ++ text)
  | .many items => do return Text.joinWith " " (← classAttributes classPrefix items)
  | .other value => .error (.notIterable value.kindName)

/-- the class attributes of the items -/
def classAttributes (classPrefix : String) : List ClassNames → Except Fault (List String)
  | [] => .ok []
  | item :: rest => do
    let first ← classAttribute classPrefix item
    return first :: (← classAttributes classPrefix rest)
end

/-- whether there is anything to write: a non-empty name or a non-empty sequence -/
def isPresent : ClassNames → Bool
  | .name text => !text.isEmpty
  | .many items => !items.isEmpty
  | .other value => value.isTruthy

end ClassNames

end AmpArticle.Css
