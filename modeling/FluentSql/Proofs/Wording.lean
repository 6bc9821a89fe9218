import FluentSql.Proofs.Grouping
import FluentSql.Proofs.Widening

/-! The wording of a selection, written out text by text: the tests with placeholders or with their
values, the groups that they make, and the clauses around them. Main results: each condition has
the wording of its items, a selection is its clauses one space apart, and the clauses that calls
leave in a query have the wording of what the calls were given. -/
namespace FluentSql

theorem Text.join_eq_intercalate (separator : String) (texts : List String) :
    join separator texts = separator.intercalate texts := by
  fun_induction join separator texts with
  | case1 => simp
  | case2 s => simp
  | case3 s t rest ih => rw [ih, String.intercalate_cons_cons]

/-- A value stands in double quotes where no placeholder stands for it. -/
def Value.wording (prepared : Bool) (v : Value) : String :=
  if prepared then "?" else "\x22" ++ v.shown ++ "\x22"

/-- Only the bounds of a range stand without quotes. -/
def Test.wording (prepared : Bool) : Test → String
  | .comparison p => p.column.shown ++ " " ++ p.operator.shown ++ " " ++ p.value.wording prepared
  | .inclusion column candidates =>
    column.shown ++ " IN (" ++ ",".intercalate (candidates.map (Value.wording prepared)) ++ ")"
  | .pattern column like => column.shown ++ " LIKE " ++ like.wording prepared
  | .range column low high =>
    if prepared then column.shown ++ " BETWEEN ? AND ?"
    else column.shown ++ " BETWEEN " ++ low.shown ++ " AND " ++ high.shown

def Token.wording (prepared : Bool) : Token Test → String
  | .test t => t.wording prepared
  | .link .and => " AND "
  | .link .or => " OR "
  | .opening => "("
  | .closing => ")"

/-- Tokens one after the other, with nothing between them. -/
def spelled (prepared : Bool) (ts : List (Token Test)) : String :=
  ts.foldr (fun t text => t.wording prepared ++ text) ""

theorem Piece.fill_double (prepared : Bool) (v : Value) :
    fill prepared (.slot .double v) = v.wording prepared := by
  cases prepared <;> rfl

theorem Inclusion.fill_slots (prepared : Bool) (candidates : List Value) :
    (slots candidates).fill prepared =
      ",".intercalate (candidates.map (Value.wording prepared)) := by
  have hs : ∀ v : Value, Template.fill prepared [.slot .double v] = v.wording prepared := by
    simp [Template.fill, Piece.fill_double]
  rw [slots, Template.fill_join, List.map_map, Text.join_eq_intercalate]
  simp only [Function.comp_def, hs]

theorem Test.fill_template_eq_wording (prepared : Bool) (t : Test) :
    t.template.fill prepared = t.wording prepared := by
  cases t with
  | comparison p =>
    simp [template, wording, Predicate.term, Template.fill, Piece.fill_double, String.append_assoc]
  | inclusion column candidates =>
    simp [template, wording, Inclusion.member, Inclusion.fill_slots, Template.fill, Piece.fill,
      String.append_assoc]
  | pattern column like =>
    simp [template, wording, Pattern.test, Template.fill, Piece.fill_double, String.append_assoc]
  | range column low high =>
    cases prepared <;>
      simp [template, wording, Range.test, Template.fill, Piece.fill, Quote.around, placeholder,
        String.append_assoc]

theorem Token.fill_template_eq_wording (prepared : Bool) (t : Token Test) :
    t.template.fill prepared = t.wording prepared := by
  cases t with
  | test t => exact t.fill_template_eq_wording prepared
  | link connective => cases connective <;> exact Template.fill_ofText prepared _
  | opening => exact Template.fill_ofText prepared "("
  | closing => exact Template.fill_ofText prepared ")"

theorem fill_spell_eq_spelled (prepared : Bool) (ts : List (Token Test)) :
    (spell ts).fill prepared = spelled prepared ts := by
  induction ts with
  | nil => rfl
  | cons t rest ih =>
    have hs : spell (t :: rest) = t.template ++ spell rest := List.flatMap_cons
    rw [hs, Template.fill_append, t.fill_template_eq_wording, ih]
    rfl

/-- Joined tables stand one after the other under one kind. -/
def Join.wording (kind : JoinKind) (joins : Keyed Value) : String :=
  let word :=
    match kind with
    | .inner => "INNER"
    | .left => "LEFT"
    | .right => "RIGHT"
    | .full => "FULL"
  " ".intercalate (joins.map fun j => word ++ " JOIN " ++ j.1.shown ++ " ON " ++ j.2.shown)

theorem Join.segment_eq_wording (kind : JoinKind) (joins : Keyed Value) :
    segment kind joins = wording kind joins := by
  rw [segment, Text.join_eq_intercalate]
  cases kind <;> rfl

namespace Query

theorem isEmpty_items (q : Query) (f : Filter) : (q.items f).isEmpty = (q.size f == 0) := by
  rw [Bool.eq_iff_iff]
  cases f <;> simp [items, size, Comparison.items]

/-- The wording of a family's condition, without the word that opens its segment. -/
def wording (q : Query) (prepared : Bool) (f : Filter) : String :=
  spelled prepared (Item.chained (q.items f))

theorem fill_condition_eq_wording (q : Query) (prepared : Bool) (f : Filter) :
    (q.condition f).fill prepared = q.wording prepared f := by
  rw [condition_eq_spell, fill_spell_eq_spelled, wording]

theorem fill_opened_eq_wording (q : Query) (prepared : Bool) :
    (Template.opened (q.filters.map q.condition)).map (Template.fill prepared) =
      Text.opened (q.filters.map (q.wording prepared)) := by
  rw [Template.fill_opened, List.map_map]
  simp only [Function.comp_def, fill_condition_eq_wording]

/-- The clauses of a selection in grammar order, each one that is asked for. -/
def clauses (q : Query) (prepared : Bool) : List String :=
  [if q.projection.isEmpty then "SELECT *" else q.projection, "FROM " ++ q.table.shown] ++
    (if q.joins.entries.isEmpty then [] else [Join.wording q.joins.kind q.joins.entries]) ++
    Text.opened (q.filters.map (q.wording prepared)) ++
    [q.grouping, q.ordering, q.limit, q.offset].filter (!·.isEmpty)

theorem fill_clauseTemplates (q : Query) (prepared : Bool) :
    q.clauseTemplates.map (Template.fill prepared) = q.clauses prepared := by
  have ht : ∀ texts : List String, (texts.map Template.ofText).map (Template.fill prepared) =
      texts := fun texts => by
    simp [Function.comp_def]
  simp only [clauseTemplates, clauses, List.map_append, fill_opened_eq_wording, tailClauses, ht,
    Join.segment_eq_wording]
  cases q.joins.entries.isEmpty <;> simp [projectionClause]

/-- A selection is its clauses, one space apart and with one closing mark. -/
theorem Coherent.render_select_eq_clauses {q : Query} (h : q.Coherent) (hp : q.Projected)
    (ht : q.table.isGiven = true) :
    q.render .select = .ok (" ".intercalate (q.clauses q.options.prepared) ++ ";") := by
  rw [h.render_select hp ht, fill_clauseTemplates, Text.join_eq_intercalate]

end Query

/-! The clauses that calls leave in a query. -/

theorem Value.eq_map_shown_of_texts {items : List Value} {written : List String}
    (h : texts items = .ok written) : written = items.map shown := by
  suffices hf : ∀ n written, textsFrom n items = .ok written → written = items.map shown from
    hf 0 written h
  clear h
  induction items with
  | nil => exact fun n written h => (Except.ok.inj h).symm
  | cons v rest ih =>
    intro n written h
    cases v with
    | text s =>
      obtain ⟨later, hl, rfl⟩ := eq_ok_of_map h
      rw [ih (n + 1) later hl, List.map_cons, shown_text]
    | _ => cases h

namespace Columns

/-- What a projection asks for, if it does not ask for everything. -/
inductive Asked where
  | list (names : List Value)
  | raw (text : Value)

namespace Asked

/-- The value from which aliases are made. -/
def source : Asked → Value
  | .list names => .list names
  | .raw text => text

def wording : Asked → String
  | .list names => ", ".intercalate (names.map Value.shown)
  | .raw text => text.shown

end Asked

def asked? (c : Columns) : Option Asked :=
  if c.isAll then none
  else if c.names.isEmpty then some (.raw c.text)
  else some (.list c.names)

def Source.asked? : Source → Option Asked
  | .columns c => c.asked?
  | .value (.text s) => if Wide s then none else some (.raw (.text s))
  | .value (.list names) | .value (.tuple names) =>
    if names.isEmpty then none else some (.list names)
  | .value _ => none

/-- The clause for what is asked for, with camel case aliases or without. -/
def clauseFor (aliased : Bool) : Option Asked → Except Fault String
  | none => .ok "SELECT *"
  | some asked =>
    if aliased then (Alias.projection asked.source (.text "_")).map clauseOfText
    else .ok ("SELECT " ++ asked.wording)

theorem asked?_ofNames (names : List Value) :
    (ofNames names).asked? = if names.isEmpty then none else some (.list names) := by
  cases names <;> rfl

theorem asked?_of_ofSource {columns : Source} {c : Columns} (h : ofSource columns = .ok c) :
    columns.asked? = c.asked? := by
  cases columns with
  | columns c' => rw [← Except.ok.inj h]; rfl
  | value v =>
    cases v with
    | null => rw [← Except.ok.inj h]; rfl
    | text s =>
      rw [← Except.ok.inj ((ofText_text s).symm.trans h), Source.asked?]
      split <;> rfl
    | list names | tuple names => rw [← Except.ok.inj h, asked?_ofNames]; rfl
    | _ => cases h

theorem exists_asked {c : Columns} (ha : c.isAll = false) :
    ∃ asked, c.asked? = some asked ∧
      asked.source = (if c.names.isEmpty then c.text else .list c.names) ∧
      ∀ s, c.clause = .ok s → s = "SELECT " ++ asked.wording := by
  have hn : ¬ c.isAll = true := by simp [ha]
  simp only [asked?, clause, body, if_neg hn]
  split
  · exact ⟨.raw c.text, rfl, rfl, fun s h => (Except.ok.inj h).symm⟩
  · refine ⟨.list c.names, rfl, rfl, fun s h => ?_⟩
    obtain ⟨body, hb, rfl⟩ := eq_ok_of_map h
    obtain ⟨written, ht, rfl⟩ := eq_ok_of_map hb
    rw [Text.join_eq_intercalate, Value.eq_map_shown_of_texts ht]
    rfl

theorem clauseFor_of_all {c : Columns} (ha : c.isAll = true) (aliased : Bool) :
    clauseFor aliased c.asked? = c.clause := by
  rw [asked?, clause, body, if_pos ha, if_pos ha]
  rfl

theorem clauseFor_of_clause {c : Columns} {s : String} (h : c.clause = .ok s) :
    clauseFor false c.asked? = .ok s := by
  cases ha : c.isAll with
  | true => rw [clauseFor_of_all ha, h]
  | false =>
    obtain ⟨asked, he, -, hw⟩ := exists_asked ha
    rw [he, hw s h]
    rfl

theorem clauseFor_of_aliased {c : Columns} {s : String}
    (h : (do (← c.aliased).clause) = .ok s) : clauseFor true c.asked? = .ok s := by
  cases ha : c.isAll with
  | true =>
    have hc : c.aliased = .ok c := if_pos ha
    rw [clauseFor_of_all ha, ← h, hc]
    rfl
  | false =>
    obtain ⟨asked, he, hv, -⟩ := exists_asked ha
    rw [he, clauseFor, if_pos rfl]
    cases hp : Alias.projection asked.source (.text "_") with
    | error f =>
      have hc : c.aliased = .error f := by
        rw [aliased, if_neg (by simp [ha]), Alias.defaultDelimiter]
        simp only [← hv, hp]
        rfl
      rw [hc] at h
      cases h
    | ok text =>
      rw [hv] at hp
      exact (clause_aliased ha hp).symm.trans h

/-- A selection that is accepted leaves the clause of what it asks for. -/
theorem clauseFor_of_projectionOf {o : Options} {columns : Source} {flag : Value} {s : String}
    (h : Query.projectionOf o columns flag = .ok s) :
    clauseFor (Query.aliased o flag) columns.asked? = .ok s := by
  rw [Query.projectionOf_eq] at h
  obtain ⟨c, hc, h⟩ := eq_ok_of_bind h
  rw [asked?_of_ofSource hc]
  cases ha : Query.aliased o flag with
  | true =>
    rw [ha] at h
    exact clauseFor_of_aliased h
  | false =>
    rw [ha] at h
    exact clauseFor_of_clause h

end Columns

namespace Clause

/-- One key, or several keys one after the other. -/
def keys : Value → String
  | .text s => s
  | v => ", ".intercalate ((v.elements?.getD []).map Value.shown)

/-- A direction in capitals, or the ascending one where none is given. -/
def directionOf : Value → String
  | .text s => if s = "" then "ASC" else .ofList (Text.upper s.toList)
  | _ => "ASC"

theorem keys_of_groupKeys {key : Value} {s : String} (h : groupKeys key = .ok s) :
    s = keys key := by
  have hj : ∀ v : Value, v.joinTexts ", " = .ok s →
      s = ", ".intercalate ((v.elements?.getD []).map Value.shown) := by
    intro v hv
    unfold Value.joinTexts at hv
    split at hv
    · next items hi =>
      obtain ⟨written, ht, rfl⟩ := eq_ok_of_map hv
      rw [hi, Value.eq_map_shown_of_texts ht, Text.join_eq_intercalate, Option.getD_some]
    · cases hv
  cases key with
  | text t => exact (Except.ok.inj h).symm
  | _ =>
    simp only [groupKeys] at h
    exact hj _ h

theorem grouping_eq_ok {key : Value} {s : String} (h : grouping key = .ok s) :
    s = "GROUP BY " ++ keys key := by
  unfold grouping at h
  split at h
  · obtain ⟨written, hk, rfl⟩ := eq_ok_of_map h
    rw [keys_of_groupKeys hk]
  · cases h

theorem directionOf_of_direction {order : Value} {d : Direction} (h : direction order = .ok d) :
    directionOf order = d.word := by
  by_cases hg : order.isGiven = true
  · obtain ⟨name, hn, h⟩ := eq_ok_of_bind h
    rw [if_pos hg] at hn
    cases order with
    | text s =>
      have hs : s ≠ "" := by simpa [Value.isGiven] using hg
      obtain rfl := Except.ok.inj hn
      cases hw : Direction.ofWord? (.ofList (Text.upper s.toList)) with
      | none => simp [hw] at h
      | some e =>
        have hd : e = d := by simpa [hw, pure, Except.pure] using h
        have hf := List.find?_some hw
        rw [directionOf, if_neg hs, ← eq_of_beq hf, hd]
    | blob data =>
      obtain rfl := Except.ok.inj hn
      cases h
    | _ => cases hn
  · have ha : direction order = .ok .ascending := by
      rw [direction, if_neg hg]
      rfl
    rw [← Except.ok.inj (ha.symm.trans h)]
    cases order with
    | text s =>
      have hs : s = "" := by simpa [Value.isGiven] using hg
      rw [directionOf, if_pos hs]
      rfl
    | _ => rfl

theorem ordering_eq_ok {key order : Value} {s : String} (h : ordering key order = .ok s) :
    s = "ORDER BY " ++ key.shown ++ " " ++ directionOf order := by
  unfold ordering at h
  split at h
  · cases h
  · obtain ⟨d, hd, rfl⟩ := eq_ok_of_map h
    rw [directionOf_of_direction hd]

theorem limit_eq_ok {number : Value} {s : String} (h : limit number = .ok s) :
    s = "LIMIT " ++ number.shown := by
  unfold limit at h
  split at h
  · exact (Except.ok.inj h).symm
  · cases h

theorem offset_eq_ok {number : Value} {s : String} (h : offset number = .ok s) :
    s = "OFFSET " ++ number.shown := by
  unfold offset at h
  split at h
  · exact (Except.ok.inj h).symm
  · cases h

end Clause

end FluentSql
