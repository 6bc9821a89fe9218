import FluentSql.Value.Written

/-! Statement text with slots for values. A slot is filled with the value itself, quoted as its
place in the statement asks, or with a placeholder to which the value is bound later. -/
namespace FluentSql

inductive Quote where
  | double | single | bare
  deriving DecidableEq, Repr

/-- No escaping takes place. -/
def Quote.around (quote : Quote) (s : String) : String :=
  match quote with
  | .double => "\x22" ++ s ++ "\x22"
  | .single => "'" ++ s ++ "'"
  | .bare => s

inductive Piece where
  | text (s : String)
  | slot (quote : Quote) (value : Value)

abbrev Template := List Piece

def placeholder : String := "?"

def Piece.fill (prepared : Bool) : Piece → String
  | .text s => s
  | .slot quote v => if prepared then placeholder else quote.around v.shown

namespace Template

/-- The text of a template: with placeholders if `prepared`, with the values themselves if not. -/
def fill (prepared : Bool) : Template → String
  | [] => ""
  | p :: rest => p.fill prepared ++ fill prepared rest

/-- The values of the slots, in the order in which they are to be bound. -/
def values : Template → List Value
  | [] => []
  | .text _ :: rest => values rest
  | .slot _ v :: rest => v :: values rest

def ofText (s : String) : Template := [.text s]

/-- The templates in order with a text between neighbours. -/
def join (separator : String) : List Template → Template
  | [] => []
  | [t] => t
  | t :: u :: rest => t ++ .text separator :: join separator (u :: rest)

@[simp] theorem fill_ofText (prepared : Bool) (s : String) : fill prepared (ofText s) = s := by
  simp [fill, ofText, Piece.fill]

@[simp] theorem fill_text (prepared : Bool) (s : String) (t : Template) :
    fill prepared (.text s :: t) = s ++ fill prepared t := rfl

@[simp] theorem fill_append (prepared : Bool) (t u : Template) :
    fill prepared (t ++ u) = fill prepared t ++ fill prepared u := by
  induction t with
  | nil => simp [fill]
  | cons p rest ih => simp [fill, ih, String.append_assoc]

@[simp] theorem values_append (t u : Template) : values (t ++ u) = values t ++ values u := by
  induction t with
  | nil => rfl
  | cons p rest ih => cases p <;> simp [values, ih]

theorem fill_join (prepared : Bool) (separator : String) (ts : List Template) :
    fill prepared (join separator ts) = Text.join separator (ts.map (fill prepared)) := by
  fun_induction join separator ts with
  | case1 => rfl
  | case2 => rfl
  | case3 t u rest ih => simp [fill, Piece.fill, Text.join, ih, String.append_assoc]

theorem values_join (separator : String) (ts : List Template) :
    values (join separator ts) = ts.flatMap values := by
  fun_induction join separator ts with
  | case1 => rfl
  | case2 => simp
  | case3 t u rest ih => simp [values, ih]

end Template

end FluentSql
