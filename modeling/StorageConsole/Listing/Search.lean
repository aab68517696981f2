/-!
Searching and sorting of lists by a label. Only the word characters of ASCII count in a search,
and their case does not.
-/
namespace StorageConsole.Listing
variable {α : Type}

def isWordChar (c : Char) : Bool := c.isAlphanum || c == '_'

/-- The word characters of a text in lower case. -/
def normalizeChars (cs : List Char) : List Char := (cs.filter isWordChar).map Char.toLower

def normalize (text : String) : String := String.ofList (normalizeChars text.toList)

/-- Whether `needle` stands somewhere within `cs`, without a gap. -/
def occursIn (needle : List Char) : List Char → Bool
  | [] => needle.isEmpty
  | c :: cs => needle.isPrefixOf (c :: cs) || occursIn needle cs

/-- The items whose label holds the query, both normalized. -/
def search (items : List α) (query : String) (label : α → String) : List α :=
  let needle := normalizeChars query.toList
  if needle.isEmpty then items
  else items.filter fun item => occursIn needle (normalizeChars (label item).toList)

/-- Sorts by label in the order of code points; items of one label keep their order. -/
def sortByLabel (label : α → String) (items : List α) : List α :=
  items.mergeSort fun a b => decide (label a ≤ label b)

end StorageConsole.Listing
