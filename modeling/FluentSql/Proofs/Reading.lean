import FluentSql.Keyword

/-! How a written condition is read. It consists of tests, connectives and parentheses; `AND` binds
tighter than `OR`, and parentheses group. Main results: no condition has two readings, and a chain
of factors holds if all factors between two of its `OR`s do. -/
namespace FluentSql

variable {α β : Type}

inductive Token (α : Type) where
  | test (a : α)
  | link (connective : Connective)
  | opening
  | closing

/-- What binds tightest comes first. -/
inductive Level where
  | factor | conjunction | disjunction

/-- The grammar of conditions, with the truth of what is read on a row that passes the tests in
`row` and no others. -/
inductive Reads (row : α → Bool) : Level → List (Token α) → Bool → Prop where
  | test (a : α) : Reads row .factor [.test a] (row a)
  | group {ts : List (Token α)} {b : Bool} (h : Reads row .disjunction ts b) :
      Reads row .factor (.opening :: ts ++ [.closing]) b
  | conjunction {ts : List (Token α)} {b : Bool} (h : Reads row .factor ts b) :
      Reads row .conjunction ts b
  | and {ts us : List (Token α)} {b c : Bool} (h : Reads row .conjunction ts b)
      (h' : Reads row .factor us c) : Reads row .conjunction (ts ++ .link .and :: us) (b && c)
  | disjunction {ts : List (Token α)} {b : Bool} (h : Reads row .conjunction ts b) :
      Reads row .disjunction ts b
  | or {ts us : List (Token α)} {b c : Bool} (h : Reads row .disjunction ts b)
      (h' : Reads row .conjunction us c) : Reads row .disjunction (ts ++ .link .or :: us) (b || c)

/-! A scan from left to right finds the only truth that a condition can have. -/
section Scan

/-- An unfinished disjunction: whether one of its finished conjunctions holds, and whether the last
one does so far. -/
structure Frame where
  met : Bool := false
  current : Bool := true

def Frame.truth (f : Frame) : Bool := f.met || f.current

def Frame.take (f : Frame) (b : Bool) : Frame := { f with current := f.current && b }

/-- Every open parenthesis has its own frame. -/
def scan (row : α → Bool) : List Frame → Token α → List Frame
  | f :: fs, .test a => f.take (row a) :: fs
  | f :: fs, .link .or => { met := f.truth } :: fs
  | fs, .opening => {} :: fs
  | f :: g :: fs, .closing => g.take f.truth :: fs
  | fs, _ => fs

/-- What a scan makes of a frame when it has gone through something that was read. -/
def Scans (row : α → Bool) (ts : List (Token α)) (b : Bool) : Level → Prop
  | .factor | .conjunction => ∀ f fs, ts.foldl (scan row) (f :: fs) = f.take b :: fs
  | .disjunction => ∀ met fs, ∃ f, ts.foldl (scan row) ({ met } :: fs) = f :: fs ∧
      f.truth = (met || b)

theorem Reads.scans {row : α → Bool} {level : Level} {ts : List (Token α)} {b : Bool}
    (h : Reads row level ts b) : Scans row ts b level := by
  induction h with
  | test a => exact fun f fs => rfl
  | group h ih =>
    intro f fs
    obtain ⟨g, hg, ht⟩ := ih false (f :: fs)
    rw [List.cons_append, List.foldl_cons, List.foldl_append]
    show List.foldl (scan row) (List.foldl (scan row) ({ met := false } :: f :: fs) _) _ = _
    rw [hg]
    show f.take g.truth :: fs = _
    rw [ht, Bool.false_or]
  | conjunction h ih => exact ih
  | and h h' ih ih' =>
    intro f fs
    rw [List.foldl_append, ih f fs, List.foldl_cons]
    refine (ih' _ _).trans ?_
    simp [Frame.take, Bool.and_assoc]
  | disjunction h ih =>
    intro met fs
    exact ⟨_, ih { met } fs, by simp [Frame.truth, Frame.take]⟩
  | or h h' ih ih' =>
    intro met fs
    obtain ⟨f, hf, ht⟩ := ih met fs
    rw [List.foldl_append, hf, List.foldl_cons]
    refine ⟨_, ih' { met := f.truth } fs, ?_⟩
    simp only [Frame.take, ht, Bool.true_and]
    exact Bool.or_assoc met _ _

theorem Reads.unique {row : α → Bool} {ts : List (Token α)} {b c : Bool}
    (h : Reads row .disjunction ts b) (h' : Reads row .disjunction ts c) : b = c := by
  obtain ⟨f, hf, hb⟩ := h.scans false []
  obtain ⟨g, hg, hc⟩ := h'.scans false []
  obtain rfl : f = g := (List.cons.inj (hf.symm.trans hg)).1
  rw [Bool.false_or] at hb hc
  exact hb.symm.trans hc

end Scan

/-- Parts with connectives between them. The connective of the first part is not written. -/
def chain (link : β → Connective) (tokens : β → List (Token α)) : List β → List (Token α)
  | [] => []
  | x :: rest => tokens x ++ rest.flatMap fun y => .link (link y) :: tokens y

theorem chain_append (link : β → Connective) (tokens : β → List (Token α)) {xs : List β}
    (h : xs ≠ []) (ys : List β) :
    chain link tokens (xs ++ ys) =
      chain link tokens xs ++ ys.flatMap fun y => .link (link y) :: tokens y := by
  cases xs with
  | nil => exact absurd rfl h
  | cons x rest => simp [chain]

/-- The truth of a chain whose parts so far make a conjunction that is `current`. -/
def meaningFrom (current : Bool) : List (Connective × Bool) → Bool
  | [] => current
  | (.and, b) :: rest => meaningFrom (current && b) rest
  | (.or, b) :: rest => current || meaningFrom b rest

/-- The truth of a chain, from the truth of its parts. -/
def meaning : List (Connective × Bool) → Bool
  | [] => true
  | e :: rest => meaningFrom e.2 rest

section Meaning

variable {es fs : List (Connective × Bool)} {b : Bool}

theorem meaningFrom_append (b c : Bool) (es fs : List (Connective × Bool)) :
    meaningFrom b (es ++ (.or, c) :: fs) = (meaningFrom b es || meaningFrom c fs) := by
  fun_induction meaningFrom b es with
  | case1 => rfl
  | case2 b c rest ih => exact ih
  | case3 b c rest ih => rw [List.cons_append, meaningFrom, ih, Bool.or_assoc]

/-- An `OR` ends a conjunction, whatever comes before it and after it. -/
theorem meaning_append {e : Connective × Bool} (h : es ≠ []) (he : e.1 = .or) :
    meaning (es ++ e :: fs) = (meaning es || meaning (e :: fs)) := by
  obtain ⟨connective, b⟩ := e
  obtain rfl : connective = .or := he
  cases es with
  | nil => exact absurd rfl h
  | cons e' rest => exact meaningFrom_append e'.2 b rest fs

theorem meaningFrom_of_and (h : ∀ e ∈ es, e.1 = .and) (b : Bool) :
    meaningFrom b es = (b && es.all Prod.snd) := by
  induction es generalizing b with
  | nil => simp [meaningFrom]
  | cons e rest ih =>
    obtain ⟨connective, c⟩ := e
    obtain rfl : connective = .and := h _ List.mem_cons_self
    rw [meaningFrom, ih fun e he => h e (List.mem_cons_of_mem _ he), List.all_cons, Bool.and_assoc]

theorem meaning_of_and (h : ∀ e ∈ es.tail, e.1 = .and) : meaning es = es.all Prod.snd := by
  cases es with
  | nil => rfl
  | cons e rest =>
    have hr : ∀ e ∈ rest, e.1 = .and := h
    rw [meaning, meaningFrom_of_and hr, List.all_cons]

theorem meaningFrom_of_or (h : ∀ e ∈ es, e.1 = .or) (b : Bool) :
    meaningFrom b es = (b || es.any Prod.snd) := by
  induction es generalizing b with
  | nil => simp [meaningFrom]
  | cons e rest ih =>
    obtain ⟨connective, c⟩ := e
    obtain rfl : connective = .or := h _ List.mem_cons_self
    rw [meaningFrom, ih fun e he => h e (List.mem_cons_of_mem _ he), List.any_cons]

theorem meaning_of_or (hn : es ≠ []) (h : ∀ e ∈ es, e.1 = .or) : meaning es = es.any Prod.snd := by
  cases es with
  | nil => exact absurd rfl hn
  | cons e rest =>
    rw [meaning, meaningFrom_of_or fun e he => h e (List.mem_cons_of_mem _ he), List.any_cons]

theorem meaningFrom_of_agree (h : ∀ e ∈ es, e.2 = b) : meaningFrom b es = b := by
  induction es with
  | nil => rfl
  | cons e rest ih =>
    obtain ⟨connective, c⟩ := e
    obtain rfl : c = b := h _ List.mem_cons_self
    have hr := ih fun e he => h e (List.mem_cons_of_mem _ he)
    cases connective with
    | and => rw [meaningFrom, Bool.and_self, hr]
    | or => rw [meaningFrom, hr, Bool.or_self]

/-- Where all parts agree, their connectives do not matter. -/
theorem meaning_of_agree (hn : es ≠ []) (h : ∀ e ∈ es, e.2 = b) : meaning es = b := by
  cases es with
  | nil => exact absurd rfl hn
  | cons e rest =>
    obtain ⟨connective, c⟩ := e
    obtain rfl : c = b := h _ List.mem_cons_self
    exact meaningFrom_of_agree fun e he => h e (List.mem_cons_of_mem _ he)

end Meaning

/-- What has been read so far ends in a conjunction that is `b`, after a disjunction that is `met`
if there is one. -/
inductive Unfinished (row : α → Bool) : List (Token α) → Bool → Bool → Prop where
  | first {ts : List (Token α)} {b : Bool} (h : Reads row .conjunction ts b) :
      Unfinished row ts false b
  | later {ts us : List (Token α)} {met b : Bool} (h : Reads row .disjunction ts met)
      (h' : Reads row .conjunction us b) : Unfinished row (ts ++ .link .or :: us) met b

namespace Unfinished

variable {row : α → Bool} {ts us : List (Token α)} {met b c : Bool}

theorem finish (h : Unfinished row ts met b) : Reads row .disjunction ts (met || b) := by
  cases h with
  | first h => exact .disjunction h
  | later h h' => exact .or h h'

theorem and (h : Unfinished row ts met b) (h' : Reads row .factor us c) :
    Unfinished row (ts ++ .link .and :: us) met (b && c) := by
  cases h with
  | first h => exact .first (.and h h')
  | later h hb =>
    rw [List.append_assoc]
    exact .later h (.and hb h')

theorem or (h : Unfinished row ts met b) (h' : Reads row .factor us c) :
    Unfinished row (ts ++ .link .or :: us) (met || b) c :=
  .later h.finish (.conjunction h')

end Unfinished

section Chain

variable {row : α → Bool} {link : β → Connective} {tokens : β → List (Token α)} {truth : β → Bool}

/-- What comes next either goes on with the last conjunction or ends it. -/
theorem Unfinished.reads {ts : List (Token α)} {met b : Bool} (ht : Unfinished row ts met b)
    {ys : List β} (h : ∀ y ∈ ys, Reads row .factor (tokens y) (truth y)) :
    Reads row .disjunction (ts ++ ys.flatMap fun y => .link (link y) :: tokens y)
      (met || meaningFrom b (ys.map fun y => (link y, truth y))) := by
  induction ys generalizing ts met b with
  | nil => simpa [meaningFrom] using ht.finish
  | cons y rest ih =>
    have hy := h y List.mem_cons_self
    have hr := fun z hz => h z (List.mem_cons_of_mem y hz)
    rw [List.flatMap_cons, ← List.append_assoc, List.map_cons]
    cases hl : link y with
    | and => exact ih (ht.and hy) hr
    | or =>
      rw [meaningFrom, ← Bool.or_assoc]
      exact ih (ht.or hy) hr

/-- A chain of factors is read from left to right. -/
theorem reads_chain {xs : List β} (hn : xs ≠ [])
    (h : ∀ x ∈ xs, Reads row .factor (tokens x) (truth x)) :
    Reads row .disjunction (chain link tokens xs)
      (meaning (xs.map fun x => (link x, truth x))) := by
  obtain ⟨x, rest, rfl⟩ := List.exists_cons_of_ne_nil hn
  have hx := Unfinished.first (.conjunction (h x List.mem_cons_self))
  have hr : Reads row .disjunction (chain link tokens (x :: rest))
      (false || meaning ((x :: rest).map fun y => (link y, truth y))) :=
    hx.reads fun y hy => h y (List.mem_cons_of_mem x hy)
  rwa [Bool.false_or] at hr

end Chain

end FluentSql
