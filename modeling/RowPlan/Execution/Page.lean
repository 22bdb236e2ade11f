/-!
# Pages

A request for a page gives its number, counted from zero, and the number of
rows on a page. Numbers are signed 64-bit; results beyond them are cut off at
the nearest number that fits.
-/

namespace RowPlan

/-- The nearest signed 64-bit number. -/
def saturate (number : Int) : Int :=
  max Int64.minValue.toInt (min Int64.maxValue.toInt number)

/-- A request for a page. -/
structure Pageable where
  /-- Number of the page, counted from zero. -/
  page : Int := 0
  /-- Rows on a page. -/
  size : Int := 100
  deriving DecidableEq, Repr

namespace Pageable

/-- The number of rows to fetch at most. -/
def limit (request : Pageable) : Int :=
  request.size

/-- The number of rows before the page. -/
def offset (request : Pageable) : Int :=
  saturate (request.page * request.size)

/-- The request for the page that follows. -/
def next (request : Pageable) : Pageable where
  page := saturate (request.page + 1)
  size := request.size

/-- A request and those for the pages that follow. -/
def following (request : Pageable) : Nat → List Pageable
  | 0 => [request]
  | count + 1 => request :: request.next.following count

end Pageable

/-- The rows of a page. -/
structure Page (α : Type) where
  request : Pageable
  content : List α

namespace Page

/-- Whether a page may follow: only a page that is not full shows that none does. None follows
a page whose rows a signed 64-bit number cannot count. -/
def mayHaveNext {α : Type} (page : Page α) : Bool :=
  let length : Int := page.content.length
  length ≤ Int64.maxValue.toInt && page.request.size ≤ length

/-- Converts the rows. -/
def map {α β : Type} (convert : α → β) (page : Page α) : Page β where
  request := page.request
  content := page.content.map convert

end Page

end RowPlan
