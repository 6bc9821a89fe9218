import FluentSql.Proofs.Selection
import FluentSql.Proofs.Writes

/-! A selection told from the calls alone that led to it, with no query in between and in the
wording of its own clauses. Main result: a query that accepted all calls selects what its history
tells. -/
namespace FluentSql

/-- Columns and joined tables are given by name. -/
def Change.Named : Change → Prop
  | .join name _ _ | .compare name _ _ | .like name _ _ | .member name _ | .between name _ =>
    ∃ s, name = .text s
  | .compareAll _ conditions =>
    ∀ entries, conditions = .map entries → ∀ e ∈ entries, ∃ s, e.1 = .text s
  | _ => True

/-- The kind of a name, whatever its case and the blanks around it. -/
def JoinKind.called? (name : String) : Option JoinKind :=
  List.lookup (String.ofList (Text.upper (Text.trim name.toList)))
    [("INNER", .inner), ("LEFT", .left), ("RIGHT", .right), ("FULL", .full)]

/-- The kind that a join names, if it names one. -/
def JoinKind.Source.named? : Source → Option JoinKind
  | .kind k => some k
  | .value .null => none
  | .value v => called? v.shown

theorem JoinKind.called?_of_ofValue {v : Value} {k : JoinKind} (h : ofValue v = .ok k) :
    called? v.shown = some k := by
  unfold ofValue at h
  split at h
  · next found hw =>
    rw [← Except.ok.inj h, ← hw]
    simp only [called?, ofWord?, all, word, List.find?_cons, List.lookup_cons, List.find?_nil,
      List.lookup_nil, BEq.comm]
  · cases h

theorem JoinKind.orKeep_eq_ok {current k : JoinKind} {kind : Source}
    (h : current.orKeep kind = .ok k) : k = kind.named?.getD current := by
  cases kind with
  | kind k' => exact (Except.ok.inj h).symm
  | value v =>
    cases v with
    | null => exact (Except.ok.inj h).symm
    | _ =>
      simp only [orKeep] at h
      simp only [Source.named?, called?_of_ofValue h, Option.getD_some]

/-- The calls made on a query, the latest first. -/
abbrev History := List Change

namespace History

/-- The options in force after the calls, where `o` are those of the new query. -/
def options (o : Options) : History → Options
  | [] => o
  | .setOptions source overrides :: earlier =>
    (Options.change (options o earlier) source overrides).state
  | _ :: earlier => options o earlier

/-- The projection of the latest selection. It takes the options as they were at that call. -/
def projection (o : Options) : History → Except Fault String
  | [] => .ok "SELECT *"
  | .select columns flag :: earlier =>
    Columns.clauseFor (Query.aliased (options o earlier) flag) columns.asked?
  | _ :: earlier => projection o earlier

def table? (h : History) : Option Value :=
  h.findSome? fun
    | .source table => some table
    | _ => none

def joined : Change → Writes Value
  | .join table condition _ => [(table.shown, condition)]
  | _ => []

/-- All joins are of the kind that was named last. -/
def joinKind (h : History) : JoinKind :=
  (h.findSome? fun
    | .join _ _ kind => kind.named?
    | _ => none).getD .inner

/-- The connective of the latest group. -/
def connective (h : History) : Connective :=
  (h.findSome? fun
    | .compareAll connective _ => some connective
    | _ => none).getD .and

/-- The columns that a call compares, with operator and value. Without an operator they are compared
for equality. -/
def compared : Change → List (String × Value × Value)
  | .compare column value operator =>
    [(column.shown, if operator.isGiven then operator else .text "=", value)]
  | .compareAll _ (.map entries) => entries.map fun e => (e.1.shown, .text "=", e.2)
  | _ => []

def stamp (connective : Connective) (e : String × Value × Value) : String × Predicate :=
  (e.1, { column := .text e.1, operator := e.2.1, value := e.2.2, connective })

/-- A comparison has the connective of the latest group at or before it. -/
def comparisons : History → Writes Predicate
  | [] => []
  | c :: earlier =>
    ((compared c).map (stamp (connective (c :: earlier)))).reverse ++ comparisons earlier

def included : Change → Writes (List Value)
  | .member column candidates => [(column.shown, candidates.elements?.getD [])]
  | _ => []

def matched : Change → Writes Value
  | .like column pattern _ => [(column.shown, pattern)]
  | _ => []

/-- Pattern tests are linked as the latest one that asks for a way asks. -/
def anyOf (h : History) : Bool :=
  (h.findSome? fun
    | .like _ _ .null => none
    | .like _ _ flag => some flag.isGiven
    | _ => none).getD false

def bounded : Change → Writes (Value × Value)
  | .between column bounds =>
    [(column.shown, (bounds.at? 0).getD .null, (bounds.at? 1).getD .null)]
  | _ => []

def grouped? : Change → Option String
  | .group key => some ("GROUP BY " ++ Clause.keys key)
  | _ => none

def ordered? : Change → Option String
  | .order key order => some ("ORDER BY " ++ key.shown ++ " " ++ Clause.directionOf order)
  | _ => none

def limited? : Change → Option String
  | .limit number => some ("LIMIT " ++ number.shown)
  | _ => none

def offset? : Change → Option String
  | .offset number => some ("OFFSET " ++ number.shown)
  | _ => none

/-- The items that the tests of a family make. Only comparisons are grouped. -/
def items (h : History) : Filter → List Item
  | .comparison => Comparison.items (h.comparisons.table.map Prod.snd)
  | .inclusion => (Writes.table (h.flatMap included)).map fun e => ⟨.and, [.inclusion e.1 e.2]⟩
  | .pattern =>
    (Writes.table (h.flatMap matched)).map fun e =>
      ⟨if h.anyOf then .or else .and, [.pattern e.1 e.2]⟩
  | .range => (Writes.table (h.flatMap bounded)).map fun e => ⟨.and, [.range e.1 e.2.1 e.2.2]⟩

/-- The families that have a test, in grammar order. -/
def filters (h : History) : List Filter := Filter.all.filter fun f => !(h.items f).isEmpty

/-- The joined tables with their conditions. -/
def joins (h : History) : Keyed Value := Writes.table (h.flatMap joined)

/-- The clauses of a selection in grammar order, each one that is asked for. -/
def clauses (h : History) (prepared : Bool) (projection : String) (table : Value) : List String :=
  [projection, "FROM " ++ table.shown] ++
    (if h.joins.isEmpty then [] else [Join.wording h.joinKind h.joins]) ++
    Text.opened (h.filters.map fun f => spelled prepared (Item.chained (h.items f))) ++
    [h.findSome? grouped?, h.findSome? ordered?, h.findSome? limited?,
      h.findSome? offset?].filterMap id

/-- The text of a selection, with values written as the options ask at its end. -/
def selection (o : Options) (h : History) : Except Fault String :=
  match h.table? with
  | none => .error .missingTable
  | some table => do
    let projection ← h.projection o
    return " ".intercalate (h.clauses (h.options o).prepared projection table) ++ ";"

/-- A group writes its entries one after the other under one connective. -/
theorem entries_foldl_putEqual {c : Comparisons} {w : Writes Predicate}
    (hc : c.entries = w.table) {entries : List (Value × Value)}
    (hn : ∀ e ∈ entries, ∃ s, e.1 = .text s) :
    (entries.foldl Comparisons.putEqual c).entries =
        Writes.table ((entries.map fun e =>
          stamp c.connective (e.1.shown, .text "=", e.2)).reverse ++ w) ∧
      (entries.foldl Comparisons.putEqual c).connective = c.connective := by
  induction entries generalizing c w with
  | nil => exact ⟨hc, rfl⟩
  | cons e rest ih =>
    obtain ⟨s, hs⟩ := hn e List.mem_cons_self
    have hp : (c.putEqual e).entries =
        Writes.table (stamp c.connective (e.1.shown, .text "=", e.2) :: w) := by
      rw [hs, Value.shown_text, stamp, Writes.table_cons, ← hc, ← hs]
      rfl
    have hr := ih hp fun e' he' => hn e' (List.mem_cons_of_mem e he')
    have hk : (c.putEqual e).connective = c.connective := rfl
    simpa [hk] using hr

/-- The history of a query tells all that is in it. -/
structure Tells (o : Options) (h : History) (q : Query) : Prop where
  options : q.options = h.options o
  projection : h.projection o = .ok q.projectionClause
  table : q.table = h.table?.getD .null
  given : ∀ table, h.table? = some table → table.isGiven = true
  joins : q.joins.entries = h.joins
  joinKind : q.joins.kind = h.joinKind
  comparisons : q.comparisons.entries = h.comparisons.table
  connective : q.comparisons.connective = h.connective
  inclusions : q.inclusions.entries = Writes.table (h.flatMap included)
  patterns : q.patterns.entries = Writes.table (h.flatMap matched)
  anyOf : q.patterns.anyOf = h.anyOf
  ranges : q.ranges.entries = Writes.table (h.flatMap bounded)
  grouping : q.grouping = (h.findSome? grouped?).getD ""
  ordering : q.ordering = (h.findSome? ordered?).getD ""
  limit : q.limit = (h.findSome? limited?).getD ""
  offset : q.offset = (h.findSome? offset?).getD ""

theorem tells_nil (o : Options) : Tells o [] { options := o } := by
  constructor <;> first | rfl | simp [table?]

namespace Tells

variable {o : Options} {h : History} {q : Query}

theorem join (t : Tells o h q) {s : String} {condition : Value} {kind : JoinKind.Source}
    (hf : (q.apply (.join (.text s) condition kind)).fault = none) :
    Tells o (.join (.text s) condition kind :: h)
      (q.apply (.join (.text s) condition kind)).state := by
  obtain ⟨kind', hk, hs⟩ := Query.state_join hf
  rw [hs]
  have hj : q.joins.entries.put (.text s) condition =
      Writes.table ((s, condition) :: h.flatMap joined) := by
    rw [Writes.table_cons, t.joins, History.joins]
  have hk' : kind' = History.joinKind (.join (.text s) condition kind :: h) := by
    rw [JoinKind.orKeep_eq_ok hk, t.joinKind]
    simp only [History.joinKind, List.findSome?_cons]
    cases kind.named? <;> rfl
  exact { t with joins := hj, joinKind := hk' }

theorem compare (t : Tells o h q) {s : String} {value operator : Value}
    (hf : (q.apply (.compare (.text s) value operator)).fault = none) :
    Tells o (.compare (.text s) value operator :: h)
      (q.apply (.compare (.text s) value operator)).state := by
  rw [Query.state_compare hf]
  have hc : (q.comparisons.put (.text s) value (Comparisons.operatorOr operator)).entries =
      (History.comparisons (.compare (.text s) value operator :: h)).table := by
    simp only [Comparisons.put, Family.put, t.connective, t.comparisons]
    exact (Writes.table_cons s _ _).symm
  exact { t with comparisons := hc }

theorem compareAll (t : Tells o h q) {connective : Connective} {conditions : Value}
    (hn : Change.Named (.compareAll connective conditions))
    (hf : (q.apply (.compareAll connective conditions)).fault = none) :
    Tells o (.compareAll connective conditions :: h)
      (q.apply (.compareAll connective conditions)).state := by
  obtain ⟨entries, rfl, hs⟩ := Query.state_compareAll hf
  rw [hs]
  have hc := entries_foldl_putEqual (c := { q.comparisons with connective }) t.comparisons
    (hn entries rfl)
  have he : (entries.foldl Comparisons.putEqual { q.comparisons with connective }).entries =
      (History.comparisons (.compareAll connective (.map entries) :: h)).table := by
    rw [hc.1, History.comparisons, compared, List.map_map]
    rfl
  exact { t with comparisons := he, connective := hc.2 }

theorem like (t : Tells o h q) {s : String} {pattern flag : Value}
    (hf : (q.apply (.like (.text s) pattern flag)).fault = none) :
    Tells o (.like (.text s) pattern flag :: h) (q.apply (.like (.text s) pattern flag)).state := by
  rw [Query.state_like hf]
  have hp : q.patterns.entries.put (.text s) pattern =
      Writes.table ((s, pattern) :: h.flatMap matched) := by
    rw [Writes.table_cons, t.patterns]
  have hl : (q.patterns.linked flag).anyOf = History.anyOf (.like (.text s) pattern flag :: h) := by
    cases flag <;> first | rfl | exact t.anyOf
  exact { t with patterns := hp, anyOf := hl }

theorem member (t : Tells o h q) {s : String} {candidates : Value}
    (hf : (q.apply (.member (.text s) candidates)).fault = none) :
    Tells o (.member (.text s) candidates :: h) (q.apply (.member (.text s) candidates)).state := by
  obtain ⟨items, hi, -, hs⟩ := Query.state_member hf
  rw [hs]
  have hm : q.inclusions.entries.put (.text s) items =
      Writes.table ((s, candidates.elements?.getD []) :: h.flatMap included) := by
    rw [Writes.table_cons, t.inclusions, hi, Option.getD_some]
  exact { t with inclusions := hm }

theorem between (t : Tells o h q) {s : String} {bounds : Value}
    (hf : (q.apply (.between (.text s) bounds)).fault = none) :
    Tells o (.between (.text s) bounds :: h) (q.apply (.between (.text s) bounds)).state := by
  obtain ⟨low, high, h0, h1, hs⟩ := Query.state_between hf
  rw [hs]
  have hb : q.ranges.entries.put (.text s) (low, high) =
      Writes.table ((s, (bounds.at? 0).getD .null, (bounds.at? 1).getD .null) ::
        h.flatMap bounded) := by
    rw [Writes.table_cons, t.ranges, h0, h1, Option.getD_some, Option.getD_some]
  exact { t with ranges := hb }

/-- A clause that is accepted takes the place of the one before. -/
theorem clause_eq {before : String} {clause : Except Fault String} {c : Change}
    {latest : Change → Option String} (hc : ∀ s, clause = .ok s → latest c = some s)
    (hf : (Outcome.ofExcept before clause).fault = none) :
    (Outcome.ofExcept before clause).state = (List.findSome? latest (c :: h)).getD "" := by
  cases clause with
  | ok s =>
    rw [List.findSome?_cons, hc s rfl]
    rfl
  | error e => cases hf

theorem select (t : Tells o h q) {columns : Columns.Source} {flag : Value}
    (hf : (q.apply (.select columns flag)).fault = none) :
    Tells o (.select columns flag :: h) (q.apply (.select columns flag)).state := by
  simp only [Query.apply] at hf ⊢
  cases hp : Query.projectionOf q.options columns flag with
  | error e =>
    rw [hp] at hf
    cases hf
  | ok s =>
    obtain ⟨body, hb⟩ := Query.projectionOf_eq_ok hp
    have hc : Query.projectionClause { q with projection := s } = s := by
      simp [Query.projectionClause, hb, String.append_eq_empty_iff]
    have hh : History.projection o (.select columns flag :: h) =
        .ok (Query.projectionClause { q with projection := s }) := by
      rw [hc, History.projection, ← t.options]
      exact Columns.clauseFor_of_projectionOf hp
    exact { t with projection := hh }

theorem source (t : Tells o h q) {table : Value} (hf : (q.apply (.source table)).fault = none) :
    Tells o (.source table :: h) (q.apply (.source table)).state := by
  rcases q.apply_source table with ⟨ht, ha⟩ | ⟨ht, ha⟩
  · rw [ha]
    have hg : ∀ u, History.table? (.source table :: h) = some u → u.isGiven = true := by
      intro u hu
      exact Option.some.inj hu ▸ ht
    exact { t with table := rfl, given := hg }
  · rw [ha] at hf
    cases hf

theorem apply (t : Tells o h q) {c : Change} (hn : c.Named) (hf : (q.apply c).fault = none) :
    Tells o (c :: h) (q.apply c).state := by
  cases c with
  | setOptions source overrides =>
    have ho : (Options.change q.options source overrides).state =
        History.options o (.setOptions source overrides :: h) := by
      rw [t.options]
      rfl
    exact { t with options := ho }
  | select columns flag => exact t.select hf
  | source table => exact t.source hf
  | join table condition kind =>
    obtain ⟨s, rfl⟩ := hn
    exact t.join hf
  | compare column value operator =>
    obtain ⟨s, rfl⟩ := hn
    exact t.compare hf
  | compareAll connective conditions => exact t.compareAll hn hf
  | like column pattern flag =>
    obtain ⟨s, rfl⟩ := hn
    exact t.like hf
  | member column candidates =>
    obtain ⟨s, rfl⟩ := hn
    exact t.member hf
  | between column bounds =>
    obtain ⟨s, rfl⟩ := hn
    exact t.between hf
  | group key =>
    have hc : ∀ s, Clause.grouping key = .ok s → grouped? (.group key) = some s :=
      fun s hs => congrArg some (Clause.grouping_eq_ok hs).symm
    exact { t with grouping := clause_eq hc hf }
  | order key direction =>
    have hc : ∀ s, Clause.ordering key direction = .ok s →
        ordered? (.order key direction) = some s :=
      fun s hs => congrArg some (Clause.ordering_eq_ok hs).symm
    exact { t with ordering := clause_eq hc hf }
  | limit number =>
    have hc : ∀ s, Clause.limit number = .ok s → limited? (.limit number) = some s :=
      fun s hs => congrArg some (Clause.limit_eq_ok hs).symm
    exact { t with limit := clause_eq hc hf }
  | offset number =>
    have hc : ∀ s, Clause.offset number = .ok s → offset? (.offset number) = some s :=
      fun s hs => congrArg some (Clause.offset_eq_ok hs).symm
    exact { t with offset := clause_eq hc hf }

theorem applyAll (t : Tells o h q) {calls : List Change} (hn : ∀ c ∈ calls, c.Named)
    (ha : q.accepted calls = calls) : Tells o (calls.reverse ++ h) (q.applyAll calls) := by
  induction calls generalizing h q with
  | nil => exact t
  | cons c rest ih =>
    obtain ⟨hf, hr⟩ := Query.accepted_cons_eq ha
    have hs := ih (t.apply (hn c List.mem_cons_self) hf)
      (fun d hd => hn d (List.mem_cons_of_mem c hd)) hr
    rw [List.reverse_cons, List.append_assoc]
    exact hs

end Tells

/-- No clause is written as an empty text, so that an empty text stands for no clause. -/
theorem ne_empty_of_latest {h : History} {s : String}
    (hs : some s ∈ [h.findSome? grouped?, h.findSome? ordered?, h.findSome? limited?,
      h.findSome? offset?]) : s ≠ "" := by
  have hc : ∀ latest : Change → Option String, some s = h.findSome? latest →
      ∃ c, latest c = some s := by
    intro latest he
    obtain ⟨c, -, hc⟩ := List.exists_of_findSome?_eq_some he.symm
    exact ⟨c, hc⟩
  simp only [List.mem_cons, List.not_mem_nil, or_false] at hs
  rcases hs with hs | hs | hs | hs <;> obtain ⟨c, hc⟩ := hc _ hs <;> cases c <;>
    cases hc <;> simp [String.append_eq_empty_iff]

theorem filter_getD {clauses : List (Option String)} (h : ∀ s, some s ∈ clauses → s ≠ "") :
    (clauses.map (·.getD "")).filter (!·.isEmpty) = clauses.filterMap id := by
  induction clauses with
  | nil => rfl
  | cons c rest ih =>
    have hr := ih fun s hs => h s (List.mem_cons_of_mem c hs)
    cases c with
    | none => simpa using hr
    | some s =>
      have hs : s.isEmpty = false := by simpa using h s List.mem_cons_self
      simpa [hs] using hr

section Tells

variable {o : Options} {h : History} {q : Query}

theorem Tells.items_eq (t : Tells o h q) (f : Filter) : q.items f = h.items f := by
  cases f with
  | comparison => rw [Query.items, items, t.comparisons]
  | inclusion => rw [Query.items, items, t.inclusions]
  | pattern => rw [Query.items, items, t.patterns, t.anyOf]
  | range => rw [Query.items, items, t.ranges]

theorem Tells.filters_eq (t : Tells o h q) : q.filters = h.filters := by
  refine List.filter_congr fun f _ => ?_
  rw [← t.items_eq, q.isEmpty_items]
  rfl

theorem Tells.clauses_eq (t : Tells o h q) (prepared : Bool) :
    q.clauses prepared = h.clauses prepared q.projectionClause q.table := by
  have hf : q.wording prepared = fun f => spelled prepared (Item.chained (h.items f)) :=
    funext fun f => by rw [Query.wording, t.items_eq]
  have ht : [q.grouping, q.ordering, q.limit, q.offset].filter (!·.isEmpty) =
      [h.findSome? grouped?, h.findSome? ordered?, h.findSome? limited?,
        h.findSome? offset?].filterMap id := by
    rw [← filter_getD fun s => ne_empty_of_latest, t.grouping, t.ordering, t.limit, t.offset]
    rfl
  rw [Query.clauses, clauses, hf, ht, t.filters_eq, t.joins, t.joinKind]
  rfl

end Tells

end History

/-- A query that accepts all calls selects what its history tells, or is refused for a table that
no call has given. -/
theorem Query.selection_of_history {source : Options.Source} {q₀ : Query}
    (h₀ : Query.new source = .ok q₀) {calls : List Change} (ha : q₀.accepted calls = calls)
    (hn : ∀ c ∈ calls, c.Named) :
    (q₀.applyAll calls).render .select = History.selection q₀.options calls.reverse := by
  have hr : (q₀.applyAll calls).Reachable := ⟨source, q₀, calls, h₀, rfl⟩
  have t : History.Tells q₀.options calls.reverse (q₀.applyAll calls) := by
    have h := History.tells_nil q₀.options
    rw [← new_eq_ok h₀] at h
    simpa using h.applyAll hn ha
  generalize q₀.applyAll calls = q at hr t ⊢
  unfold History.selection
  cases ht : History.table? calls.reverse with
  | none =>
    have hg : q.table.isGiven = false := by
      rw [t.table, ht]
      rfl
    exact hr.coherent.render_select_of_no_table hg
  | some table =>
    have hq : q.table = table := by rw [t.table, ht, Option.getD_some]
    have hg : q.table.isGiven = true := hq ▸ t.given table ht
    rw [hr.coherent.render_select_eq_clauses hr.projected hg, t.clauses_eq, t.projection, t.options,
      hq]
    rfl

/-- The aliases come from the option that was in force when the columns were chosen, and the joins
take the kind that one of them named. The first comparison joins a group by being written again.
Placeholders or values are written as the last call asks. -/
theorem Query.selection_of_sticky_calls :
    let calls (prepared : Bool) : List Change :=
      [.setOptions (.value .null) [(.text "convert_columns_to_camel_case", .bool true)],
        .source (.text "s"), .select (.value (.list [.text "user_id", .text "u.name"])) .null,
        .setOptions (.value .null) [(.text "convert_columns_to_camel_case", .bool false)],
        .join (.text "u") (.text "u.a = t.a") (.value (.text "left")),
        .join (.text "v") (.text "v.a = t.a") (.value .null),
        .join (.text "u") (.text "u.b = t.b") (.value .null),
        .compare (.text "a") (.text "1") .null,
        .compareAll .or (.map [(.text "b", .text "2"), (.text "c", .text "3")]),
        .compare (.text "a") (.text "4") (.text ">"), .member (.text "d") (.list [.int 0]),
        .member (.text "e") (.tuple [.int 7]), .member (.text "d") (.list [.int 5, .int 6]),
        .like (.text "f") (.text "8%") (.bool true), .like (.text "g") (.text "9%") .null,
        .between (.text "h") (.list [.int 0, .int 0]),
        .between (.text "i") (.list [.int 3, .int 4]),
        .between (.text "h") (.tuple [.int 1, .int 2]), .group (.text "a"),
        .group (.list [.text "j", .text "k"]), .order (.text "l") (.text "desc"),
        .order (.text "m") .null, .order (.text "n") (.text "Desc"), .limit (.int 1),
        .limit (.int 20), .offset (.int 40), .source (.text "t"),
        .setOptions (.value .null) [(.text "prepared_statement", .bool prepared)]]
    (new (.value .null) = .ok {} ∧
      ∀ prepared, ({} : Query).accepted (calls prepared) = calls prepared ∧
        ∀ c ∈ calls prepared, c.Named) ∧
    (({} : Query).applyAll (calls true)).render .select =
      .ok ("SELECT user_id AS userId,u.name FROM t" ++
        " LEFT JOIN u ON u.b = t.b LEFT JOIN v ON v.a = t.a" ++
        " WHERE (a > ? OR b = ? OR c = ?) AND d IN (?,?) AND e IN (?) AND f LIKE ? OR g LIKE ?" ++
        " AND h BETWEEN ? AND ? AND i BETWEEN ? AND ?" ++
        " GROUP BY j, k ORDER BY n DESC LIMIT 20 OFFSET 40;") ∧
    (({} : Query).applyAll (calls false)).render .select =
      .ok ("SELECT user_id AS userId,u.name FROM t" ++
        " LEFT JOIN u ON u.b = t.b LEFT JOIN v ON v.a = t.a" ++
        " WHERE (a > \x224\x22 OR b = \x222\x22 OR c = \x223\x22)" ++
        " AND d IN (\x225\x22,\x226\x22) AND e IN (\x227\x22)" ++
        " AND f LIKE \x228%\x22 OR g LIKE \x229%\x22" ++
        " AND h BETWEEN 1 AND 2 AND i BETWEEN 3 AND 4" ++
        " GROUP BY j, k ORDER BY n DESC LIMIT 20 OFFSET 40;") := by
  intro calls
  have h₀ : new (.value .null) = .ok {} := rfl
  have ha : ∀ prepared, ({} : Query).accepted (calls prepared) = calls prepared := fun prepared =>
    accepted_eq_of_length (by cases prepared <;> decide +kernel)
  have hn : ∀ prepared, ∀ c ∈ calls prepared, c.Named := by
    simp only [calls, List.forall_mem_cons, Change.Named, Value.map.injEq, forall_eq']
    simp
  exact ⟨⟨h₀, fun prepared => ⟨ha prepared, hn prepared⟩⟩,
    (selection_of_history h₀ (ha true) (hn true)).trans (eq_ok_of_toOption (by decide +kernel)),
    (selection_of_history h₀ (ha false) (hn false)).trans (eq_ok_of_toOption (by decide +kernel))⟩

end FluentSql
