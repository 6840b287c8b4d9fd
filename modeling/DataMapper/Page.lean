import DataMapper.Value.Arith

namespace DataMapper

/-- One page of results: its items, its number (from one), the size of a full page, and the
row count of the unpaged query. The number and the size are kept as given; they only have to
be numbers not below one. -/
structure Page (α : Type) where
  content : List α
  number : Value
  size : Value
  total : Value

namespace Page

/-- A page, refused when the number or the size is below one (the number is checked first);
a number or size that does not order against one is refused as the comparison fails. -/
def make? {α : Type} (content : List α) (number size : Value) (total : Value) :
    Except Failure (Page α) := do
  if ← number.relate .lt (.int 1) then throw (.value "page must be >= 1.")
  if ← size.relate .lt (.int 1) then throw (.value "size must be >= 1.")
  pure ⟨content, number, size, total⟩

/-- The number of pages: the row count over the page size, rounded up. Integers divide as
doubles, so very large counts lose their low digits; decimals divide in the decimal
context. -/
def totalPages {α : Type} (p : Page α) : Except Failure Int := do
  (← Value.arith .div p.total p.size).ceil

def offset {α : Type} (p : Page α) : Except Failure Value := do
  Value.arith .mul (← Value.arith .sub p.number (.int 1)) p.size

def hasPrevious {α : Type} (p : Page α) : Except Failure Bool := p.number.relate .gt (.int 1)

def isFirst {α : Type} (p : Page α) : Bool := Value.pyEq p.number (.int 1)

def hasNext {α : Type} (p : Page α) : Except Failure Bool := do
  p.number.relate .lt (.int (← p.totalPages))

def isLast {α : Type} (p : Page α) : Except Failure Bool := do
  let pages := Value.int (← p.totalPages)
  return (← p.number.relate .gt pages) || Value.pyEq p.number pages

def map {α β : Type} (f : α → β) (p : Page α) : Page β :=
  { p with content := p.content.map f }

theorem map_content {α β : Type} (f : α → β) (p : Page α) :
    (p.map f).content = p.content.map f := rfl

theorem map_number {α β : Type} (f : α → β) (p : Page α) : (p.map f).number = p.number := rfl

end Page

end DataMapper
