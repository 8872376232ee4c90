namespace SvgPage

/-- Values under names, in the order in which the names were first given a value. -/
structure Table (β : Type) where
  entries : List (String × β) := []
deriving DecidableEq

namespace Table

variable {β γ : Type}

instance : Inhabited (Table β) := ⟨{}⟩

def ofList (entries : List (String × β)) : Table β := ⟨entries⟩

def get? (t : Table β) (name : String) : Option β := t.entries.lookup name

def contains (t : Table β) (name : String) : Bool := (t.get? name).isSome

def names (t : Table β) : List String := t.entries.map Prod.fst

def size (t : Table β) : Nat := t.entries.length

/-- Gives `name` the value `value`: in its place if there is one, else at the end. -/
def setEntry (name : String) (value : β) : List (String × β) → List (String × β)
  | [] => [(name, value)]
  | (key, old) :: rest =>
    if key == name then (key, value) :: rest else (key, old) :: setEntry name value rest

def set (t : Table β) (name : String) (value : β) : Table β := ⟨setEntry name value t.entries⟩

/-- Sets all entries of the second table in the first, in order. -/
def setAll (t : Table β) (entries : List (String × β)) : Table β :=
  entries.foldl (fun t (name, value) => t.set name value) t

def erase (t : Table β) (name : String) : Table β := ⟨t.entries.filter fun entry => entry.1 != name⟩

/-- Changes the value under a name, if there is one. -/
def modify (t : Table β) (name : String) (change : β → β) : Table β :=
  ⟨t.entries.map fun entry => if entry.1 == name then (entry.1, change entry.2) else entry⟩

end Table

/-- The attributes of a start tag. -/
abbrev Attributes := Table String

end SvgPage
