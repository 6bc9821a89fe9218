import FluentSql.Proofs.Binding

/-! Changes of options by name: which ones are accepted, which of several values for one option
counts, and what a refused change leaves. -/
namespace FluentSql

namespace Keyed

variable {β : Type} {table : Keyed β}

theorem distinct_put (h : Distinct table) (k : Value) (b : β) : Distinct (table.put k b) := by
  have hk : ∀ t : Keyed β, Distinct t ↔
      (t.map Prod.fst).Pairwise fun a b => a.sameKey b = false := fun t => by
    rw [Distinct, List.pairwise_map]
  rw [hk, keys_put]
  split
  · exact (hk table).mp h
  · next hn =>
    refine List.pairwise_append.mpr ⟨(hk table).mp h, List.pairwise_singleton _ _, ?_⟩
    simpa using hn

/-- What is told of a key is told of the same key in every spelling, so it does not matter which one
a table keeps. -/
theorem forall_key_put {p : Value → Prop} (hp : ∀ k k', k.sameKey k' = true → p k → p k')
    {k : Value} {b : β} :
    (∀ e ∈ table.put k b, p e.1) ↔ (∀ e ∈ table, p e.1) ∧ p k := by
  have hf : ∀ t : Keyed β, (∀ e ∈ t, p e.1) ↔ ∀ k ∈ t.map Prod.fst, p k := fun t => by
    rw [List.forall_mem_map]
  rw [hf, hf, keys_put]
  split
  · next ha =>
    obtain ⟨e, he, hk⟩ := List.any_eq_true.mp ha
    exact ⟨fun h => ⟨h, hp e.1 k hk (h e.1 (List.mem_map_of_mem he))⟩, And.left⟩
  · rw [List.forall_mem_append, List.forall_mem_singleton]

theorem forall_key_putAll {p : Value → Prop} (hp : ∀ k k', k.sameKey k' = true → p k → p k')
    (table : Keyed β) (entries : List (Value × β)) :
    (∀ e ∈ table.putAll entries, p e.1) ↔ ∀ e ∈ table ++ entries, p e.1 := by
  induction entries generalizing table with
  | nil => simp
  | cons e rest ih =>
    rw [putAll_cons, ih, List.forall_mem_append, forall_key_put hp, List.forall_mem_append,
      List.forall_mem_cons, and_assoc]

end Keyed

namespace Value

theorem sort_eq_nil_iff {items : List Value} : sort items = .ok [] ↔ items = [] := by
  constructor
  · intro h
    cases items with
    | nil => rfl
    | cons v rest =>
      obtain ⟨sorted, -, h⟩ := eq_ok_of_bind h
      cases sorted with
      | nil => cases h
      | cons w others =>
        obtain ⟨below, -, h⟩ := eq_ok_of_bind h
        cases below with
        | true => cases h
        | false =>
          obtain ⟨inserted, -, h⟩ := eq_ok_of_bind h
          cases h
  · rintro rfl
    rfl

theorem insertSorted_texts (s : String) (names : List String) :
    ∃ sorted : List String, insertSorted (.text s) (names.map .text) = .ok (sorted.map .text) := by
  induction names with
  | nil => exact ⟨[s], rfl⟩
  | cons t rest ih =>
    obtain ⟨sorted, hs⟩ := ih
    by_cases hl : s < t
    · refine ⟨s :: t :: rest, ?_⟩
      simp [insertSorted, less, hl, bind, Except.bind, pure, Except.pure]
    · refine ⟨t :: sorted, ?_⟩
      simp [insertSorted, less, hl, hs, bind, Except.bind, pure, Except.pure]

/-- Texts have an order, so that they can always be sorted. -/
theorem sort_texts (names : List String) :
    ∃ sorted : List String, sort (names.map .text) = .ok (sorted.map .text) := by
  induction names with
  | nil => exact ⟨[], rfl⟩
  | cons s rest ih =>
    obtain ⟨sorted, hs⟩ := ih
    obtain ⟨all, ha⟩ := insertSorted_texts s sorted
    exact ⟨all, by simp only [List.map_cons, sort, hs]; exact ha⟩

theorem exists_texts {items : List Value} (h : ∀ v ∈ items, ∃ s, v = .text s) :
    ∃ names : List String, items = names.map .text := by
  induction items with
  | nil => exact ⟨[], rfl⟩
  | cons v rest ih =>
    obtain ⟨s, rfl⟩ := h v List.mem_cons_self
    obtain ⟨names, rfl⟩ := ih fun w hw => h w (List.mem_cons_of_mem _ hw)
    exact ⟨s :: names, rfl⟩

/-- The keys met so far and then those of a list, each key once. -/
def distinctAfter (seen keys : List Value) : List Value :=
  keys.foldl (fun seen k => if seen.any (·.sameKey k) then seen else seen ++ [k]) seen

/-- What is told of a key is told of the same key in every spelling, so the spellings left out do
not matter. -/
theorem forall_mem_distinctAfter {p : Value → Prop}
    (hp : ∀ k k', k.sameKey k' = true → p k → p k') (seen keys : List Value) :
    (∀ k ∈ distinctAfter seen keys, p k) ↔ (∀ k ∈ seen, p k) ∧ ∀ k ∈ keys, p k := by
  induction keys generalizing seen with
  | nil => simp [distinctAfter]
  | cons first rest ih =>
    have hs : distinctAfter seen (first :: rest) =
        distinctAfter (if seen.any (·.sameKey first) then seen else seen ++ [first]) rest := rfl
    rw [hs, ih, List.forall_mem_cons]
    split
    · next ha =>
      obtain ⟨k, hk, hf⟩ := List.any_eq_true.mp ha
      exact ⟨fun h => ⟨h.1, hp k first hf (h.1 k hk), h.2⟩, fun h => ⟨h.1, h.2.2⟩⟩
    · rw [List.forall_mem_append, List.forall_mem_singleton, and_assoc]

theorem forall_mem_distinct {p : Value → Prop} (hp : ∀ k k', k.sameKey k' = true → p k → p k')
    (keys : List Value) : (∀ k ∈ distinct keys, p k) ↔ ∀ k ∈ keys, p k :=
  (forall_mem_distinctAfter hp [] keys).trans (by simp)

end Value

namespace Options

/-- The same key names the same option. -/
theorem nameOf?_congr {k k' : Value} (h : k.sameKey k' = true) : nameOf? k = nameOf? k' := by
  cases k <;> cases k' <;>
    simp_all [Value.sameKey, Value.sameNumber, Value.wholeNumber?, nameOf?]

theorem eq_text_of_nameOf? {k : Value} {name : Name} (h : nameOf? k = some name) :
    k = .text name.word := by
  cases k with
  | text s =>
    simp only [nameOf?, Name.ofWord?] at h
    have hw := List.find?_some h
    rw [beq_iff_eq.mp hw]
  | _ => cases h

/-- The values given for an option, in their order. -/
def given (name : Name) (entries : List (Value × Value)) : List Value :=
  (entries.filter fun e => nameOf? e.1 = some name).map Prod.snd

/-- Of the values given for an option the last one counts, by its truth. Without any the option is as
before. -/
def overwritten (o : Options) (entries : List (Value × Value)) (name : Name) : Bool :=
  ((given name entries).getLast?.map Value.isGiven).getD (o.get name)

theorem getLast?_given_append (name : Name) (entries others : List (Value × Value)) :
    (given name (entries ++ others)).getLast? =
      (given name others).getLast?.or (given name entries).getLast? := by
  rw [given, List.filter_append, List.map_append, List.getLast?_append]
  rfl

theorem getLast?_given_cons (name : Name) (e : Value × Value) (entries : List (Value × Value)) :
    (given name (e :: entries)).getLast? =
      (given name entries).getLast?.or (given name [e]).getLast? :=
  getLast?_given_append name [e] entries

theorem get_setAll (o : Options) (entries : List (Value × Value)) (name : Name) :
    (o.setAll entries).get name = o.overwritten entries name := by
  induction entries generalizing o with
  | nil => rfl
  | cons e rest ih =>
    have hs : o.setAll (e :: rest) = setAll (o.setAll [e]) rest := rfl
    have ho : (o.setAll [e]).get name = o.overwritten [e] name := by
      cases he : nameOf? e.1 with
      | none => simp [setAll, overwritten, given, he]
      | some other =>
        by_cases hn : name = other
        · simp [setAll, overwritten, given, he, get_set, hn]
        · simp [setAll, overwritten, given, he, get_set, hn, Ne.symm hn]
    rw [hs, ih, overwritten, ho, overwritten, overwritten, getLast?_given_cons name e rest]
    cases (given name rest).getLast? <;> rfl

/-- In a table no key stands twice, so a write counts wherever it goes. -/
theorem getLast?_given_put {table : Keyed Value} (h : Keyed.Distinct table) (name : Name)
    (k v : Value) : (given name (table.put k v)).getLast? =
      (given name (table ++ [(k, v)])).getLast? := by
  induction table with
  | nil => rfl
  | cons e rest ih =>
    obtain ⟨he, hr⟩ := List.pairwise_cons.mp h
    by_cases hk : e.1.sameKey k = true
    · have hp : Keyed.put k v (e :: rest) = (e.1, v) :: rest := by simp [Keyed.put, hk]
      have hn := nameOf?_congr hk
      rw [hp, getLast?_given_append, getLast?_given_cons name e rest,
        getLast?_given_cons name (e.1, v) rest]
      by_cases hw : nameOf? k = some name
      · have hg : given name rest = [] := by
          rw [given, List.map_eq_nil_iff, List.filter_eq_nil_iff]
          intro e' he' hw'
          have hs := he e' he'
          rw [eq_text_of_nameOf? (hn.trans hw), eq_text_of_nameOf? (of_decide_eq_true hw')] at hs
          simp at hs
        rw [hg]
        simp [given, hn, hw]
      · simp [given, hn, hw]
    · have hp : Keyed.put k v (e :: rest) = e :: Keyed.put k v rest := by simp [Keyed.put, hk]
      rw [hp, List.cons_append, getLast?_given_cons, ih hr, ← getLast?_given_cons name e]

theorem getLast?_given_putAll {table : Keyed Value} (h : Keyed.Distinct table) (name : Name)
    (entries : List (Value × Value)) : (given name (table.putAll entries)).getLast? =
      (given name (table ++ entries)).getLast? := by
  induction entries generalizing table with
  | nil => simp
  | cons e rest ih =>
    rw [Keyed.putAll_cons, ih (Keyed.distinct_put h _ _), getLast?_given_append,
      getLast?_given_put h, ← getLast?_given_append, List.append_assoc, List.singleton_append]

theorem forM_requireKey {keys : List Value} (h : ∀ k ∈ keys, ∃ s, k = .text s) :
    keys.forM Value.requireKey = .ok () := by
  induction keys with
  | nil => rfl
  | cons k rest ih =>
    obtain ⟨s, rfl⟩ := h k List.mem_cons_self
    have hr := ih fun v hv => h v (List.mem_cons_of_mem _ hv)
    simp only [List.forM, Value.requireKey_text]
    exact hr

theorem requireNames_eq_ok_iff {entries : List (Value × Value)} :
    requireNames (.map entries) = .ok () ↔ ∀ e ∈ entries, (nameOf? e.1).isSome := by
  have hk : (Value.map entries).elements = .ok (entries.map Prod.fst) := rfl
  have hu : (Value.distinct (entries.map Prod.fst)).filter (fun k => (nameOf? k).isNone) = [] ↔
      ∀ e ∈ entries, (nameOf? e.1).isSome := by
    have hd := Value.forall_mem_distinct (p := fun k => (nameOf? k).isSome)
      (fun k k' h hs => by rwa [← nameOf?_congr h]) (entries.map Prod.fst)
    rw [List.forall_mem_map] at hd
    rw [← hd]
    simp [List.filter_eq_nil_iff, Option.isSome_iff_ne_none]
  constructor
  · intro h
    obtain ⟨keys, hk', h⟩ := eq_ok_of_bind h
    obtain rfl := Except.ok.inj (hk.symm.trans hk')
    obtain ⟨-, -, h⟩ := eq_ok_of_bind h
    obtain ⟨unknown, hs, h⟩ := eq_ok_of_bind h
    split at h
    · next he =>
      rw [List.isEmpty_iff.mp he] at hs
      exact hu.mp (Value.sort_eq_nil_iff.mp hs)
    · obtain ⟨names, -, h⟩ := eq_ok_of_bind h
      cases h
  · intro h
    have ht : ∀ k ∈ entries.map Prod.fst, ∃ s, k = .text s := by
      rw [List.forall_mem_map]
      intro e he
      obtain ⟨name, hn⟩ := Option.isSome_iff_exists.mp (h e he)
      exact ⟨name.word, eq_text_of_nameOf? hn⟩
    simp only [requireNames, hk, bind, Except.bind, forM_requireKey ht, hu.mpr h,
      Value.sort_eq_nil_iff.mpr]
    rfl

/-- A text that names no option is refused by a rule of the grammar. -/
theorem isArgument_of_requireNames {entries : List (Value × Value)}
    (ht : ∀ e ∈ entries, ∃ s, e.1 = .text s) {f : Fault}
    (h : requireNames (.map entries) = .error f) : f.isArgument = true := by
  have hk : (Value.map entries).elements = .ok (entries.map Prod.fst) := rfl
  have ht' : ∀ k ∈ entries.map Prod.fst, ∃ s, k = .text s := by simpa using ht
  have hd : ∀ k ∈ Value.distinct (entries.map Prod.fst), ∃ s, k = .text s := by
    refine (Value.forall_mem_distinct ?_ _).mpr ht'
    rintro k k' hs ⟨s, rfl⟩
    exact ⟨s, Value.eq_text_of_sameKey hs⟩
  obtain ⟨names, hn⟩ := Value.exists_texts
    (fun k hk => hd k (List.mem_of_mem_filter hk) :
      ∀ k ∈ (Value.distinct (entries.map Prod.fst)).filter (fun k => (nameOf? k).isNone), _)
  obtain ⟨sorted, hs⟩ := Value.sort_texts names
  simp only [requireNames, hk, bind, Except.bind, forM_requireKey ht', hn, hs,
    Value.texts_map_text] at h
  split at h
  · cases h
  · rw [← Except.error.inj h]
    rfl

/-- The forms in which options can be handed over: whole, in a map or not at all. -/
def Source.Proper : Source → Prop
  | .options _ | .value .null => True
  | .value (.map entries) => Keyed.Distinct entries
  | .value _ => False

/-- The pairs of a source that is a map. -/
def Source.pairs : Source → Keyed Value
  | .value (.map entries) => entries
  | _ => []

variable {source : Source}

theorem Source.Proper.distinct (h : source.Proper) : Keyed.Distinct source.pairs := by
  unfold pairs
  split
  · exact h
  · exact List.Pairwise.nil

theorem Source.Proper.entries_eq (h : source.Proper) : source.entries = .ok source.pairs := by
  cases source with
  | options o => rfl
  | value v =>
    cases v with
    | null => rfl
    | map entries => cases entries <;> rfl
    | _ => exact h.elim

theorem Source.Proper.apply_eq (h : source.Proper) (base : Options)
    (overrides : List (Value × Value)) : source.apply base overrides =
      (requireNames (.map (source.pairs.putAll overrides))).map fun _ =>
        base.setAll (source.pairs.putAll overrides) := by
  have ha : source.apply base overrides =
      if (source.pairs.putAll overrides).isEmpty then .ok base
      else base.merge (.map (source.pairs.putAll overrides)) := by
    rw [apply, h.entries_eq]
    rfl
  rw [ha]
  cases source.pairs.putAll overrides with
  | nil => rfl
  | cons e rest =>
    unfold merge
    cases requireNames (.map (e :: rest)) <;> rfl

/-- Options by name are taken all together or not at all. -/
theorem Source.Proper.apply_cases (h : source.Proper) (base : Options)
    (overrides : List (Value × Value)) :
    ((∀ e ∈ source.pairs ++ overrides, (nameOf? e.1).isSome) ∧
      ∃ o, source.apply base overrides = .ok o ∧
        ∀ name, o.get name = base.overwritten (source.pairs ++ overrides) name) ∨
    ((¬ ∀ e ∈ source.pairs ++ overrides, (nameOf? e.1).isSome) ∧
      ∃ f, source.apply base overrides = .error f ∧
        ((∀ e ∈ source.pairs ++ overrides, ∃ s, e.1 = .text s) → f.isArgument = true)) := by
  have hn := Keyed.forall_key_putAll (p := fun k => (nameOf? k).isSome)
    (fun k k' hs hk => by rwa [← nameOf?_congr hs]) source.pairs overrides
  rw [← hn, h.apply_eq, ← requireNames_eq_ok_iff]
  cases hr : requireNames (.map (source.pairs.putAll overrides)) with
  | ok u =>
    refine .inl ⟨rfl, _, rfl, fun name => ?_⟩
    rw [get_setAll, overwritten, getLast?_given_putAll h.distinct, ← overwritten]
  | error f =>
    refine .inr ⟨nofun, f, rfl, fun ht => isArgument_of_requireNames ?_ hr⟩
    refine (Keyed.forall_key_putAll (p := fun k => ∃ s, k = .text s) ?_ _ _).mpr ht
    rintro k k' hs ⟨s, rfl⟩
    exact ⟨s, Value.eq_text_of_sameKey hs⟩

end Options

namespace Query

/-- A change of options is accepted exactly if it names nothing but options. Then the last value that
is given for an option counts, be it in the map or by name. A refused change leaves all options
as they were exactly if it does not hand over others as a whole, because these are taken first. -/
theorem options_kept_iff (q : Query) {source : Options.Source} (h : source.Proper)
    (overrides : List (Value × Value)) :
    let o := q.apply (.setOptions source overrides)
    let entries := source.pairs ++ overrides
    (o.fault = none ↔ ∀ e ∈ entries, (Options.nameOf? e.1).isSome) ∧
    (o.fault = none → ∃ options, o.state = { q with options } ∧
      ∀ name, options.get name = (source.base q.options).overwritten entries name) ∧
    ((∀ e ∈ entries, ∃ s, e.1 = .text s) → ∀ f, o.fault = some f → f.isArgument = true) ∧
    ∀ f, o.fault = some f →
      o.state = { q with options := source.base q.options } ∧
      (o.state.options = q.options ↔ ∀ whole, source = .options whole → whole = q.options) := by
  intro o entries
  have ho : o = (Outcome.ofExcept (source.base q.options)
      (source.apply (source.base q.options) overrides)).map fun options => { q with options } := rfl
  have hb : source.base q.options = q.options ↔
      ∀ whole, source = .options whole → whole = q.options := by
    cases source <;> simp [Options.Source.base]
  rcases h.apply_cases (source.base q.options) overrides with
    ⟨hn, options, ha, hg⟩ | ⟨hn, f, ha, hf⟩ <;> rw [ha] at ho <;> rw [ho]
  · exact ⟨iff_of_true rfl hn, fun _ => ⟨options, rfl, hg⟩, fun _ => nofun, nofun⟩
  · refine ⟨iff_of_false nofun hn, nofun, fun ht f' hf' => ?_, fun _ _ => ⟨rfl, hb⟩⟩
    exact Option.some.inj hf' ▸ hf ht

/-- What is given by name counts more than the map, and a wrong name keeps all of it out. -/
theorem options_kept_of_map :
    let q : Query := { options := { camelCase := true } }
    let source : Options.Source := .value (.map [(.text "prepared_statement", .int 1),
      (.text "convert_columns_to_camel_case", .text "")])
    let prepared : Value × Value := (.text "prepared_statement", .list [])
    let table : Value × Value := (.text "table", .text "users")
    source.Proper ∧
    ((q.apply (.setOptions source [])).fault = none ∧
      (q.apply (.setOptions source [])).state.options = { prepared := true }) ∧
    ((q.apply (.setOptions source [prepared])).fault = none ∧
      (q.apply (.setOptions source [prepared])).state.options = {}) ∧
    (q.apply (.setOptions source [prepared, table])).fault = some (.unknownOptions ["table"]) ∧
      (q.apply (.setOptions source [prepared, table])).state.options = q.options := by
  intro q source prepared table
  have h : source.Proper := by
    simp [source, Options.Source.Proper, Keyed.Distinct]
  have hf : (q.apply (.setOptions source [prepared, table])).fault =
      some (.unknownOptions ["table"]) := by rfl
  obtain ⟨-, -, -, hk⟩ := q.options_kept_iff h [prepared, table]
  have hw : ∀ whole, source = .options whole → whole = q.options := by
    intro whole hs
    simp [source] at hs
  exact ⟨h, ⟨rfl, rfl⟩, ⟨rfl, rfl⟩, hf, (hk _ hf).2.mpr hw⟩

/-- Options that are given as a whole are taken although what is given by name is refused. -/
theorem whole_options_kept_by_refusal :
    let q : Query := {}
    let o := q.apply (.setOptions (.options { prepared := true }) [(.text "table", .text "users")])
    o.fault = some (.unknownOptions ["table"]) ∧
    (Fault.unknownOptions ["table"]).isArgument = true ∧
    o.state.options = { prepared := true } ∧ o.state.options ≠ q.options := by
  intro q o
  exact ⟨rfl, rfl, rfl, by decide⟩

end Query

end FluentSql
