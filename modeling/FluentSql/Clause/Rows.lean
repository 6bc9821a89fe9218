import FluentSql.Value.Access

/-! The clauses about the source table and about grouping, ordering and limiting its rows. Each
needs its argument to be given. -/
namespace FluentSql.Clause

def source (table : Value) : Except Fault String :=
  if table.isGiven then .ok ("FROM " ++ table.shown) else .error .missingTable

/-- One key as text, or several in a list. -/
def groupKeys : Value → Except Fault String
  | .text s => .ok s
  | v => v.joinTexts ", "

def grouping (key : Value) : Except Fault String :=
  if key.isGiven then (groupKeys key).map ("GROUP BY " ++ ·) else .error .missingGroupKey

/-- The direction named by a value in any case; without a name it is ascending. -/
def direction (v : Value) : Except Fault Direction := do
  let name ← (if v.isGiven then v else .text Direction.ascending.word).upper
  match name with
  | .text s =>
    match Direction.ofWord? s with
    | some d => return d
    | none => .error (.unknownDirection name)
  | _ => .error (.unknownDirection name)

def ordering (key : Value) (order : Value) : Except Fault String :=
  if !key.isGiven then .error .missingOrderKey
  else (direction order).map fun d => "ORDER BY " ++ key.shown ++ " " ++ d.word

def limit (number : Value) : Except Fault String :=
  if number.isGiven then .ok ("LIMIT " ++ number.shown) else .error .missingLimit

def offset (number : Value) : Except Fault String :=
  if number.isGiven then .ok ("OFFSET " ++ number.shown) else .error .missingOffset

end FluentSql.Clause
