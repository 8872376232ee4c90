namespace SvgPage.Css

/-- What a reserved word means. A list of keywords knows the reserved words besides its own entries,
    and what it finds under them is never a number. -/
inductive Reserved where
  | object
  | function (name : String)
deriving DecidableEq, Repr

namespace Reserved

/-- The reserved words that mean the function of their own name. -/
def functionWords : List String :=
  ["hasOwnProperty", "isPrototypeOf", "propertyIsEnumerable", "toLocaleString", "toString", "valueOf",
    "__defineGetter__", "__defineSetter__", "__lookupGetter__", "__lookupSetter__"]

/-- The meaning of a word, if it is reserved. Upper and lower case differ. -/
def ofWord? (word : String) : Option Reserved :=
  if word == "__proto__" then some object
  else if word == "constructor" then some (function "Object")
  else if functionWords.contains word then some (function word)
  else none

/-- What is written for a meaning where a number is expected. -/
def text : Reserved → String
  | object => "[object Object]"
  | function name => "function " ++ name ++ "() \x7b [native code] \x7d"

end Reserved

end SvgPage.Css
