import KeyedDelivery.Text.Blank

/-!
# Tag filters

A subscription takes all messages of a topic, or those with one of the tags it lists between double
bars.
-/

namespace KeyedDelivery

/-- Which tags a subscription takes. -/
inductive TagFilter where
  | all
  | tags (tags : List String)
  deriving DecidableEq, Repr, Inhabited

namespace TagFilter

/-- The segments of a text between double bars. -/
def segments : List Char → List (List Char)
  | [] => [[]]
  | '|' :: '|' :: r => [] :: segments r
  | c :: r =>
    match segments r with
    | [] => [[c]]
    | s :: ss => (c :: s) :: ss

/-- Reads a subscription. The empty text, `*` alone, and a list without tags take everything. -/
def parse (expression : String) : TagFilter :=
  let cs := Text.trim expression.toList
  if cs.isEmpty || cs == ['*'] then .all
  else
    match ((segments cs).map Text.trim).filter (! ·.isEmpty) with
    | [] => .all
    | ts => .tags (ts.map String.ofList)

/-- Whether a subscription takes a tag. -/
def accepts (f : TagFilter) (tag : String) : Bool :=
  match f with
  | .all => true
  | .tags ts => ts.contains tag

end TagFilter

end KeyedDelivery
