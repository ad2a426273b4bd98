import GridSource.Report

/-!
# Pages

A page is the records of one load and the number of all records that match, as
far as the backend says it.  A backend answers with an envelope of data and
total, or with a bare list, whose length then is the total.
-/

namespace GridSource

structure Page where
  records : Value
  total : Value

namespace Page

def unexpectedBody (body : Value) : Report :=
  .responseFormat "Expected a \x7bdata, total\x7d envelope or a JSON array"
    (.record [("body_type", .text body.kindName)])

def ofBody (body : Value) : Except Report Page :=
  match body with
  | .list items => .ok ⟨.list items, .int items.length⟩
  | .object members =>
      match Members.named? members "data" with
      | some (.list items) => .ok ⟨.list items, (Members.named? members "total").getD .null⟩
      | _ => .error (unexpectedBody body)
  | _ => .error (unexpectedBody body)

def toValue (page : Page) : Value :=
  .record [("data", page.records), ("totalCount", page.total)]

end Page

end GridSource
