import FluentSql.Template
import FluentSql.Value.Access

/-! The heads of statements that change rows, and the columns and values they name. -/
namespace FluentSql

namespace Assignment

def single (column value : Value) : Template :=
  [.text (column.shown ++ " = "), .slot .double value]

/-- The assignments of a map from columns to values. -/
def clause (data : Value) : Except Fault Template := do
  if ← data.isVoid then .error .nothingToAssign
  else
    let entries ← data.entriesFor .items
    return Template.join ", " (entries.map fun e => single e.1 e.2)

end Assignment

namespace Clause

def requireTable (table : Value) : Except Fault Unit :=
  if table.isGiven then .ok () else .error .missingTable

/-- One row with its columns and values, which stand in single quotes. -/
def insertion (table data : Value) : Except Fault Template := do
  requireTable table
  if ← data.isVoid then .error .nothingToInsert
  else
    let entries ← data.entriesFor .keys
    let columns ← Value.texts (entries.map Prod.fst)
    return .text ("INSERT INTO " ++ table.shown ++ " (" ++ Text.join "," columns ++ ") VALUES (") ::
      Template.join "," (entries.map fun e => [.slot .single e.2]) ++ [.text ")"]

/-- What becomes of a row whose key is there already; nothing if no assignments are given. -/
def conflict (updates : Value) : Except Fault Template := do
  if ← updates.isVoid then return []
  else return .text "ON DUPLICATE KEY UPDATE " :: (← Assignment.clause updates)

def update (table data : Value) : Except Fault Template := do
  requireTable table
  return .text ("UPDATE " ++ table.shown ++ " SET ") :: (← Assignment.clause data)

def deletion (table : Value) : Except Fault Template := do
  requireTable table
  return .ofText ("DELETE FROM " ++ table.shown)

end Clause

end FluentSql
