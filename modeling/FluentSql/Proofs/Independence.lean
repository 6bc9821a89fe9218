import FluentSql.Proofs.Run

/-! Calls on different parts of a query do not see each other. Main result: two lists of calls that
agree on every part, whatever the order across parts and wherever statements are asked for, get the
same answers and lead to the same query. -/
namespace FluentSql

/-- The parts of a query on which calls work. The projection is chosen under the options in
force. -/
inductive Part where
  | selection | source | joins | comparisons | inclusions | patterns | ranges
  | grouping | ordering | limit | offset
  deriving DecidableEq, Repr

/-- The part on which a change works. -/
def Change.part : Change → Part
  | .setOptions _ _ | .select _ _ => .selection
  | .source _ => .source
  | .join _ _ _ => .joins
  | .compare _ _ _ | .compareAll _ _ => .comparisons
  | .like _ _ _ => .patterns
  | .member _ _ => .inclusions
  | .between _ _ => .ranges
  | .group _ => .grouping
  | .order _ _ => .ordering
  | .limit _ => .limit
  | .offset _ => .offset

/-- Asking for a statement works on no part. -/
def Call.isOn (p : Part) : Call → Bool
  | .change c => c.part == p
  | _ => false

/-- The calls on each part are the same and come in the same order. Calls on different parts may
have changed places, and statements may be asked for anywhere. -/
def Call.Rearranged (calls others : List Call) : Prop :=
  ∀ p, calls.filter (Call.isOn p) = others.filter (Call.isOn p)

abbrev Part.Content : Part → Type
  | .selection => Options × String
  | .source => Value
  | .joins => Joins
  | .comparisons => Comparisons
  | .inclusions => Family (List Value)
  | .patterns => Patterns
  | .ranges => Family (Value × Value)
  | .grouping | .ordering | .limit | .offset => String

namespace Query

def content (q : Query) : (p : Part) → p.Content
  | .selection => (q.options, q.projection)
  | .source => q.table
  | .joins => q.joins
  | .comparisons => q.comparisons
  | .inclusions => q.inclusions
  | .patterns => q.patterns
  | .ranges => q.ranges
  | .grouping => q.grouping
  | .ordering => q.ordering
  | .limit => q.limit
  | .offset => q.offset

/-- A query has nothing but its parts. -/
theorem eq_of_content_eq {q r : Query} (h : ∀ p, q.content p = r.content p) : q = r := by
  obtain ⟨ho, hp⟩ := Prod.mk.inj (h .selection)
  have ht : q.table = r.table := h .source
  have hj : q.joins = r.joins := h .joins
  have hc : q.comparisons = r.comparisons := h .comparisons
  have hi : q.inclusions = r.inclusions := h .inclusions
  have hl : q.patterns = r.patterns := h .patterns
  have hb : q.ranges = r.ranges := h .ranges
  have hg : q.grouping = r.grouping := h .grouping
  have hd : q.ordering = r.ordering := h .ordering
  have hm : q.limit = r.limit := h .limit
  have hf : q.offset = r.offset := h .offset
  cases q
  cases r
  simp_all

/-- A change leaves the other parts alone, also when it is refused half way. -/
theorem content_apply_of_ne {c : Change} {p : Part} (h : c.part ≠ p) (q : Query) :
    (q.apply c).state.content p = q.content p := by
  cases c <;> cases p <;> first | rfl | exact absurd rfl h

/-- What a change does and answers depends on its part alone. -/
theorem apply_of_content_eq {q r : Query} {c : Change}
    (h : q.content c.part = r.content c.part) :
    (q.apply c).fault = (r.apply c).fault ∧
      (q.apply c).state.content c.part = (r.apply c).state.content c.part := by
  cases c with
  | setOptions source overrides =>
    obtain ⟨ho, hp⟩ := Prod.mk.inj h
    simp only [apply, Change.part, content, Outcome.fault_map, Outcome.state_map, ho, hp, and_self]
  | select columns camelCase =>
    obtain ⟨ho, hp⟩ := Prod.mk.inj h
    simp only [apply, Change.part, content, Outcome.fault_map, Outcome.state_map, ho, hp, and_self]
  | _ =>
    simp only [Change.part, content] at h
    simp only [apply, Change.part, content, Outcome.fault_map, Outcome.state_map, h, and_self]

theorem call_of_not_on {c : Call} {p : Part} (h : c.isOn p = false) (q : Query) :
    (q.call c).1.content p = q.content p := by
  cases c with
  | change c => exact content_apply_of_ne (by simpa [Call.isOn] using h) q
  | _ => rfl

theorem call_of_on {q r : Query} {c : Call} {p : Part} (h : c.isOn p = true)
    (hq : q.content p = r.content p) :
    (q.call c).2 = (r.call c).2 ∧ (q.call c).1.content p = (r.call c).1.content p := by
  cases c with
  | change c =>
    obtain rfl : c.part = p := by simpa [Call.isOn] using h
    obtain ⟨hf, hs⟩ := apply_of_content_eq hq
    exact ⟨by simp only [call, response, hf], hs⟩
  | _ => cases h

/-- A part and the answers of the calls on it are the same without all other calls. -/
theorem after_filter_on {q r : Query} {p : Part} (h : q.content p = r.content p)
    (calls : List Call) :
    (q.answers calls).filter (fun e => e.1.isOn p) = r.answers (calls.filter (Call.isOn p)) ∧
      (q.after calls).content p = (r.after (calls.filter (Call.isOn p))).content p := by
  induction calls generalizing q r with
  | nil => exact ⟨rfl, h⟩
  | cons c rest ih =>
    cases hc : c.isOn p with
    | true =>
      obtain ⟨ha, hs⟩ := call_of_on hc h
      obtain ⟨ihr, ihs⟩ := ih hs
      simp only [answers, after, List.filter_cons, hc, if_true, ha, ihr, ihs, and_self]
    | false =>
      have hs : (q.call c).1.content p = r.content p := (call_of_not_on hc q).trans h
      obtain ⟨ihr, ihs⟩ := ih hs
      simp only [answers, after, List.filter_cons, hc, Bool.false_eq_true, if_false, ihr, ihs,
        and_self]

/-- The order of calls on different parts does not matter, whether they are accepted or refused, nor
does asking for statements in between. -/
theorem rearranged_calls_agree {calls others : List Call} (h : Call.Rearranged calls others)
    (q : Query) :
    (∀ p, (q.answers calls).filter (fun e => e.1.isOn p) =
      (q.answers others).filter fun e => e.1.isOn p) ∧
    q.after calls = q.after others ∧
    ∀ c, (q.after calls).call c = (q.after others).call c := by
  have hp := fun p => after_filter_on (q := q) (p := p) rfl calls
  have hp' := fun p => after_filter_on (q := q) (p := p) rfl others
  have hq : q.after calls = q.after others := by
    apply eq_of_content_eq
    intro p
    rw [(hp p).2, (hp' p).2, h p]
  refine ⟨fun p => ?_, hq, fun c => by rw [hq]⟩
  rw [(hp p).1, (hp' p).1, h p]

/-- Among them a table and a limit that are refused, and a group that is no map. The group is
refused only after its connective has been taken, which the next comparison gets in either
order. -/
theorem refused_calls_rearranged :
    let group := Call.change (.compareAll .or (.list [.text "b"]))
    let first := Call.change (.compare (.text "a") (.int 1) .null)
    let second := Call.change (.compare (.text "c") (.int 2) .null)
    let nowhere := Call.change (.source (.text ""))
    let source := Call.change (.source (.text "t"))
    let zero := Call.change (.limit (.int 0))
    let five := Call.change (.limit (.int 5))
    let calls := [first, group, second, nowhere, source, zero, .make .select, five]
    let others := [zero, five, nowhere, first, .make .select, source, group, second]
    Call.Rearranged calls others ∧
    ((Query.answers {} others).map (fun e => e.2.answer.isOk) =
      [false, true, false, true, false, true, false, true]) ∧
    (Query.after {} others).render .select =
      .ok "SELECT * FROM t WHERE a = \x221\x22 OR c = \x222\x22 LIMIT 5;" := by
  intro group first second nowhere source zero five calls others
  have h : Call.Rearranged calls others := fun p => by cases p <;> rfl
  have hc : (Query.after {} calls).render .select =
      .ok "SELECT * FROM t WHERE a = \x221\x22 OR c = \x222\x22 LIMIT 5;" :=
    eq_ok_of_toOption (by decide +kernel)
  obtain ⟨-, hq, -⟩ := rearranged_calls_agree h {}
  exact ⟨h, rfl, hq ▸ hc⟩

end Query

end FluentSql
