import GoStyle.Go.Outline

/-!
# Comments on items

Which comments speak about an item is decided by rows. Comments on adjacent rows are a group; a mark
or an item ends it. A group that begins on the row of what precedes it is a remark on that and stays
on its row. Any other group that ends on the row above an item is the comment on the item.
`Event.commented` attaches groups to items, and keeps with each item all groups before it.
-/

namespace GoStyle

/-- The comments seen so far: the finished groups, the comments of the last one, whether that one is
a remark on what precedes it, and the row of the last item or mark. -/
structure DocTracker where
  done : List (List Token)
  pending : List Token
  trailing : Bool
  lastRow : Option Nat
deriving Repr, DecidableEq

/-- Nothing has been seen. -/
def DocTracker.empty : DocTracker :=
  ⟨[], [], false, none⟩

/-- The groups seen so far. -/
def DocTracker.groups (d : DocTracker) : List (List Token) :=
  if d.pending.isEmpty then d.done else d.done ++ [d.pending]

/-- Finish the last group; what comes next stands on the given row. -/
def DocTracker.finish (d : DocTracker) (row : Nat) : DocTracker :=
  ⟨d.groups, [], false, some row⟩

/-- Whether a comment that begins on the given row belongs to the last group. -/
def DocTracker.joins (d : DocTracker) (row : Nat) : Bool :=
  match d.pending.getLast? with
  | none => false
  | some last => if d.trailing then row == last.stop.row else row ≤ last.stop.row + 1

/-- See a comment. -/
def DocTracker.comment (d : DocTracker) (t : Token) : DocTracker :=
  if d.joins t.start.row then { d with pending := d.pending ++ [t] }
  else ⟨d.groups, [t], d.lastRow == some t.start.row, d.lastRow⟩

/-- The comment on an item that begins on the given row. -/
def DocTracker.doc? (d : DocTracker) (row : Nat) : Option (List Token) :=
  match d.pending.getLast? with
  | none => none
  | some last => if !d.trailing && last.stop.row + 1 == row then some d.pending else none

/-- An item with the comment on it and all groups of comments before it. -/
structure Commented (Item : Type) where
  item : Item
  doc : Option (List Token)
  before : List (List Token)

/-- The items of an outline with their comments, `d` being what has been seen before. -/
def Event.commented {Item : Type} (d : DocTracker) : List (Event Item) → List (Commented Item)
  | [] => []
  | .comment t :: es => commented (d.comment t) es
  | .mark row :: es => commented (d.finish row) es
  | .code item first last :: es => ⟨item, d.doc? first, d.groups⟩ :: commented (d.finish last) es

/-- A group of comments as it is kept with a file. -/
def groupOf (ts : List Token) : CommentGroup :=
  let start := (ts.head?.map (·.start.pos)).getD Pos.start
  let group := CommentGroup.ofRaw start (ts.map fun t => String.ofList t.text)
  match ts.getLast? with
  | none => group
  | some last => { group with endLine := last.stop.row + 1 }

end GoStyle
