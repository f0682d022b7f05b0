import Mathlib.Logic.Basic

/-! Programs that talk to an outside party through typed calls. A program is the
tree of its possible conversations: every branch point is a reply. -/

namespace OpenSearchOperator.Effects

structure Interface where
  Call : Type
  Reply : Call → Type

inductive Program (I : Interface) (α : Type) where
  | done (value : α)
  | call (op : I.Call) (next : I.Reply op → Program I α)

namespace Program

variable {I : Interface} {α β γ : Type}

def bind : Program I α → (α → Program I β) → Program I β
  | .done value, rest => rest value
  | .call op next, rest => .call op (fun reply => (next reply).bind rest)

instance : Monad (Program I) where
  pure := .done
  bind := bind

def ask (op : I.Call) : Program I (I.Reply op) := .call op .done

@[simp] theorem pure_eq_done (value : α) : (pure value : Program I α) = .done value := rfl

@[simp] theorem done_bind (value : α) (rest : α → Program I β) :
    (Program.done value >>= rest) = rest value := rfl

@[simp] theorem call_bind (op : I.Call) (next : I.Reply op → Program I α) (rest : α → Program I β) :
    (Program.call op next >>= rest) = .call op (fun reply => next reply >>= rest) := rfl

theorem bind_assoc {program : Program I α} {first : α → Program I β} {second : β → Program I γ} :
    ((program >>= first) >>= second) = (program >>= fun value => first value >>= second) := by
  induction program with
  | done value => rfl
  | call op next ih =>
    simp only [call_bind, call.injEq, heq_eq_eq, true_and]
    funext reply
    exact ih reply

/-- Every call the program can ever make is allowed, whatever it is told. -/
def OnlyCalls (allowed : I.Call → Prop) : Program I α → Prop
  | .done _ => True
  | .call op next => allowed op ∧ ∀ reply, OnlyCalls allowed (next reply)

variable {allowed : I.Call → Prop}

variable {program : Program I α} {ε : Type}

@[simp] theorem onlyCalls_done (value : α) :
    OnlyCalls allowed (.done value : Program I α) := trivial

@[simp] theorem onlyCalls_call (op : I.Call) (next : I.Reply op → Program I α) :
    OnlyCalls allowed (.call op next) ↔
      allowed op ∧ ∀ reply, OnlyCalls allowed (next reply) := Iff.rfl

theorem OnlyCalls.bind {rest : α → Program I β} (first : OnlyCalls allowed program)
    (second : ∀ value, OnlyCalls allowed (rest value)) : OnlyCalls allowed (program >>= rest) := by
  induction program with
  | done value => exact second value
  | call op next ih => exact ⟨first.1, fun reply => ih reply (first.2 reply)⟩

theorem OnlyCalls.bindOk {program : Program I (Except ε α)}
    {rest : Except ε α → Program I β} (first : OnlyCalls allowed program)
    (failed : ∀ err, OnlyCalls allowed (rest (.error err)))
    (fine : ∀ value, OnlyCalls allowed (rest (.ok value))) : OnlyCalls allowed (program >>= rest) :=
  first.bind fun outcome => Except.casesOn outcome failed fine

theorem OnlyCalls.bindNone {program : Program I (Option α)} {rest : Option α → Program I β}
    (first : OnlyCalls allowed program) (failed : ∀ err, OnlyCalls allowed (rest (some err)))
    (fine : OnlyCalls allowed (rest none)) : OnlyCalls allowed (program >>= rest) :=
  first.bind fun outcome => Option.casesOn outcome fine failed

theorem OnlyCalls.bindDone {program : Program I (α × Option ε)}
    {rest : α × Option ε → Program I β} (first : OnlyCalls allowed program)
    (failed : ∀ value err, OnlyCalls allowed (rest (value, some err)))
    (fine : ∀ value, OnlyCalls allowed (rest (value, none))) :
    OnlyCalls allowed (program >>= rest) :=
  first.bind fun (value, outcome) => Option.casesOn outcome (fine value) (failed value)

theorem OnlyCalls.mono {stricter : I.Call → Prop} (only : OnlyCalls stricter program)
    (weaker : ∀ op, stricter op → allowed op) : OnlyCalls allowed program := by
  induction program with
  | done value => trivial
  | call op next ih => exact ⟨weaker op only.1, fun reply => ih reply (only.2 reply)⟩

theorem onlyCalls_any (program : Program I α) : OnlyCalls (fun _ => True) program := by
  induction program with
  | done value => trivial
  | call op next ih => exact ⟨trivial, ih⟩

def Returns (expected : α → Prop) : Program I α → Prop
  | .done value => expected value
  | .call _ next => ∀ reply, Returns expected (next reply)

theorem Returns.mono {strong weak : α → Prop} (returns : Returns strong program)
    (implies : ∀ value, strong value → weak value) : Returns weak program := by
  induction program with
  | done value => exact implies value returns
  | call op next ih => exact fun reply => ih reply (returns reply)

theorem returns_bind {first : α → Prop} {expected : β → Prop} (program : Program I α)
    (rest : α → Program I β) (returns : Returns first program)
    (later : ∀ value, first value → Returns expected (rest value)) :
    Returns expected (program >>= rest) := by
  induction program with
  | done value => exact later value returns
  | call op next ih => exact fun reply => ih reply (returns reply)

theorem returns_any (program : Program I α) : Returns (fun _ => True) program := by
  induction program with
  | done value => trivial
  | call op next ih => exact ih

end Program

section Ask

variable {I : Interface} {β : Type} {allowed : I.Call → Prop} {op : I.Call}

theorem onlyCalls_ask {rest : I.Reply op → Program I β} (now : allowed op)
    (later : ∀ reply, Program.OnlyCalls allowed (rest reply)) :
    Program.OnlyCalls allowed (Program.ask op >>= rest) := ⟨now, later⟩

theorem onlyCalls_asked (now : allowed op) : Program.OnlyCalls allowed (Program.ask op) :=
  ⟨now, fun _ => trivial⟩

end Ask

end OpenSearchOperator.Effects
