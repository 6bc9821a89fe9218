import FluentSql.Fault

/-! The outcome of a call on something that changes: what it leaves behind, whether or not it was
refused. -/
namespace FluentSql

structure Outcome (σ : Type) where
  state : σ
  fault : Option Fault

namespace Outcome

variable {σ τ : Type}

def done (s : σ) : Outcome σ := ⟨s, none⟩

def refused (s : σ) (f : Fault) : Outcome σ := ⟨s, some f⟩

/-- A refused call leaves everything as it was before. -/
def ofExcept (before : σ) : Except Fault σ → Outcome σ
  | .ok s => done s
  | .error f => refused before f

/-- Goes on from where a call ended, unless it was refused. -/
def andThen (o : Outcome σ) (next : σ → Outcome σ) : Outcome σ :=
  match o.fault with
  | none => next o.state
  | some _ => o

def map (g : σ → τ) (o : Outcome σ) : Outcome τ := ⟨g o.state, o.fault⟩

@[simp] theorem fault_map (g : σ → τ) (o : Outcome σ) : (o.map g).fault = o.fault := rfl

@[simp] theorem state_map (g : σ → τ) (o : Outcome σ) : (o.map g).state = g o.state := rfl

theorem state_ofExcept_of_fault {before : σ} {e : Except Fault σ} {f : Fault}
    (h : (ofExcept before e).fault = some f) : (ofExcept before e).state = before := by
  cases e with
  | ok s => simp [ofExcept, done] at h
  | error g => rfl

end Outcome

end FluentSql
