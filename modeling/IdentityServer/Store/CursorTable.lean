import IdentityServer.Fields

/-!
# Cursors

How much of the log each peer has acknowledged. A cursor never moves back.
-/

namespace IdentityServer

/-- The last place that a peer acknowledged, and when that was last written. -/
structure Cursor where
  position : Int64
  updatedAt : Int64
  deriving DecidableEq, Repr

/-- The cursors by the name of the peer. -/
structure CursorTable where
  rows : Dictionary Cursor := .empty
  deriving DecidableEq

namespace CursorTable

/-- The last place that a peer acknowledged, or 0 if it never did. -/
def get (table : CursorTable) (peer : String) : Int64 :=
  ((table.rows.get? peer).map (·.position)).getD 0

/-- Moves the cursor of a peer to a place, unless it is beyond it already. -/
def advance (table : CursorTable) (peer : String) (position now : Int64) : CursorTable :=
  let position := match table.rows.get? peer with
    | some cursor => max cursor.position position
    | none => position
  ⟨table.rows.insert peer ⟨position, now⟩⟩

end CursorTable

end IdentityServer
