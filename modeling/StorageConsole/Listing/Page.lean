import StorageConsole.Text.Blank
import StorageConsole.Text.Integer

/-!
Pages of a list, numbered from one. A page number and a page size are 64-bit words, of which zero
acts as one, and the index of a page's first item stays at the largest word when it would pass it.
-/
namespace StorageConsole.Listing
variable {α : Type}

/-- The number at the front of a text, behind blanks; without one, or beyond 64 bits, page one. -/
def parsePage (raw : Option String) : Nat :=
  let digits := (Text.trimStart (raw.getD "").toList).takeWhile Char.isDigit
  match Text.readUnsigned digits with
  | some page => max page 1
  | none => 1

def pageCount (length size : Nat) : Nat := (length + max size 1 - 1) / max size 1

/-- The index of a page's first item. -/
def pageStart (page size : Nat) : Nat := min ((page - 1) * max size 1) (UInt64.size - 1)

/-- The items of one page; beyond the last page there are none. -/
def pageItems (items : List α) (page size : Nat) : List α :=
  (items.drop (pageStart page size)).take (max size 1)

/-- One page of a list, with its place among the others. -/
structure Page (α : Type) where
  items : List α
  current : Nat
  count : Nat
  total : Nat
  deriving Repr

def paginate (items : List α) (page size : Nat) : Page α where
  items := pageItems items page size
  current := page
  count := pageCount items.length size
  total := items.length

end StorageConsole.Listing
