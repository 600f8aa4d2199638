/-!
# Runs

A system takes one step for each event, and some events cannot take place in some states. Every
system here, whatever its states and events are, is given by such a step function; what events lead
to one after the other, and what is reached that way, is said once for all of them.

**Results.**
* `exec_induct`: what every step preserves holds at the end of a run.
* `Reaches.induct`: what every step preserves holds in every state that is reached.
-/
namespace GridKeeper.Runs

variable {State Event : Type}

/-- What events lead to, one after the other; `none` if one of them cannot take place. -/
def exec (step : State → Event → Option State) (s : State) (es : List Event) : Option State :=
  es.foldlM step s

def Reaches (step : State → Event → Option State) (s s' : State) : Prop :=
  ∃ es, exec step s es = some s'

variable {step : State → Event → Option State} {s s' s'' : State} {e : Event} {es : List Event}

@[simp] theorem exec_nil : exec step s [] = some s := rfl

theorem exec_cons : exec step s (e :: es) = (step s e).bind fun s => exec step s es := rfl

theorem exec_cons_eq_some :
    exec step s (e :: es) = some s'' ↔ ∃ s', step s e = some s' ∧ exec step s' es = some s'' :=
  Option.bind_eq_some_iff

/-- What holds at the start of some events and is preserved by each of them holds at the end. -/
theorem exec_induct {P : State → Prop} (ok : Event → Prop)
    (hs : ∀ s e s', P s → ok e → step s e = some s' → P s') (h : P s) (hok : ∀ e ∈ es, ok e)
    (he : exec step s es = some s') : P s' := by
  induction es generalizing s with
  | nil =>
    cases he
    exact h
  | cons e es ih =>
    obtain ⟨s₁, h₁, h₂⟩ := exec_cons_eq_some.1 he
    exact ih (hs s e s₁ h (hok e (.head _)) h₁) (fun e' he' => hok e' (.tail _ he')) h₂

/-- What holds at the start and is preserved by each step holds in every state that is reached. -/
theorem Reaches.induct {P : State → Prop} (h : Reaches step s s') (h0 : P s)
    (hs : ∀ s e s', P s → step s e = some s' → P s') : P s' := by
  obtain ⟨es, he⟩ := h
  exact exec_induct (fun _ => True) (fun s e s' hp _ => hs s e s' hp) h0 (fun _ _ => trivial) he

end GridKeeper.Runs
