import RowPlan.Execution.Order
import RowPlan.Sql

/-!
# Suffixes

What comes after the condition of a query: a sort clause or the marker for one,
then a limit, then the limit and offset of a page.
-/

namespace RowPlan

/-- A limit on the number of rows. -/
inductive RowLimit where
  | literal (rows : Nat)
  /-- A number that is bound. -/
  | bound (slot : BindSlot)
  /-- Only the first row is wanted. -/
  | first
  /-- Enough rows to notice that there are too many. -/
  | cap (rows : Nat)

/-- What comes after the condition of a query. -/
structure Suffix where
  /-- Sort keys as they are given. -/
  orderBy : Option String
  /-- Parameter whose sort clause is put in when the method runs. -/
  orderParameter : Option String
  limit : Option RowLimit
  /-- Parameter that asks for a page. -/
  pageable : Option String

namespace Suffix

/-- The sort clause, or the marker that is replaced by one. -/
def orderClause (suffix : Suffix) : SqlText :=
  if suffix.orderParameter.isSome then [.text (" " ++ orderMarker)]
  else match suffix.orderBy with
    | some keys => [.text (" ORDER BY " ++ keys)]
    | none => []

/-- The limit other than that of a page. -/
def limitClause (suffix : Suffix) : SqlText :=
  match suffix.limit with
  | some (.literal rows) => [.text s!" LIMIT {rows}"]
  | some (.bound slot) => [.text " LIMIT ", .slot none slot]
  | some .first => [.text " LIMIT 1"]
  | some (.cap rows) => [.text s!" LIMIT {rows}"]
  | none => []

/-- The slot for a part of a page request. -/
def pageSlot (pageable part : String) : BindSlot :=
  { path := [pageable, part], type := .named "i64", columnType := some .bigInt }

/-- The limit and offset of a page. -/
def pageClause (suffix : Suffix) : SqlText :=
  match suffix.pageable with
  | some pageable =>
      [.text " LIMIT ", .slot none (pageSlot pageable "limit"),
        .text " OFFSET ", .slot none (pageSlot pageable "offset")]
  | none => []

/-- The clauses in the order in which they have to stand. -/
def text (suffix : Suffix) : SqlText :=
  suffix.orderClause ++ suffix.limitClause ++ suffix.pageClause

end Suffix

end RowPlan
