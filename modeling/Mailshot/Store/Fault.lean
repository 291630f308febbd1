/-!
# Why the store refuses

Constraints of the tables, columns that are not what they should be, and the state of the
connection.  The text of a fault names a constraint by table and column.
-/

set_option autoImplicit false

namespace Mailshot

/-- Why a statement was not carried out. -/
inductive StoreFault where
  /-- A row refers to a row that is not there. -/
  | foreignKey
  /-- Another row has the same key in this column. -/
  | unique (column : String)
  /-- This column must not be empty. -/
  | notNull (column : String)
  /-- A row breaks the rule of its table, which reads like this. -/
  | check (rule : String)
  /-- An event that was appended stays as it is. -/
  | appendOnly
  /-- A column that should hold a text holds something else. -/
  | notText
  /-- The connection is closed. -/
  | closed
deriving DecidableEq

/-- A fault in words. -/
def StoreFault.message : StoreFault → String
  | .foreignKey => "error returned from database: (code: 787) FOREIGN KEY constraint failed"
  | .unique column =>
    "error returned from database: (code: 1555) UNIQUE constraint failed: " ++ column
  | .notNull column =>
    "error returned from database: (code: 1299) NOT NULL constraint failed: " ++ column
  | .check rule => "error returned from database: (code: 275) CHECK constraint failed: " ++ rule
  | .appendOnly => "error returned from database: (code: 1811) send_events is append-only"
  | .notText => "error occurred while decoding column"
  | .closed => "attempted to acquire a connection on a closed pool"

end Mailshot
