import RegisterFamilies.Event

namespace RegisterFamilies

/-- The events recorded by a computation, in order, and how it ended. -/
structure Traced (ε α : Type) where
  events : List Event
  result : Except ε α

namespace Traced

variable {ε α β : Type}

def bind (x : Traced ε α) (f : α → Traced ε β) : Traced ε β :=
  match x.result with
  | .ok a => ⟨x.events ++ (f a).events, (f a).result⟩
  | .error e => ⟨x.events, .error e⟩

instance : Monad (Traced ε) where
  pure a := ⟨[], .ok a⟩
  bind := bind

def emit (event : Event) : Traced ε Unit := ⟨[event], .ok ()⟩

def fail (e : ε) : Traced ε α := ⟨[], .error e⟩

def ofExcept (result : Except ε α) : Traced ε α := ⟨[], result⟩

def mapError {δ : Type} (f : ε → δ) (x : Traced ε α) : Traced δ α :=
  ⟨x.events, x.result.mapError f⟩

instance : LawfulMonad (Traced ε) := LawfulMonad.mk' (Traced ε)
  (by
    intro α x
    obtain ⟨events, result⟩ := x
    cases result <;> simp [Functor.map, bind])
  (by
    intro α β a f
    simp [Bind.bind, Pure.pure, bind])
  (by
    intro α β γ x f g
    obtain ⟨events, result⟩ := x
    cases result with
    | error e => rfl
    | ok a =>
      simp only [Bind.bind, bind]
      cases (f a).result <;> simp)

@[simp] theorem events_pure (a : α) : (pure a : Traced ε α).events = [] := rfl

@[simp] theorem result_pure (a : α) : (pure a : Traced ε α).result = .ok a := rfl

theorem pure_injective {a b : α} (h : (pure a : Traced ε α) = pure b) : a = b := by
  have he := congrArg Traced.result h
  rw [result_pure, result_pure] at he
  cases he
  rfl

@[simp] theorem events_fail (e : ε) : (fail e : Traced ε α).events = [] := rfl

@[simp] theorem result_fail (e : ε) : (fail e : Traced ε α).result = .error e := rfl

@[simp] theorem emit_bind (event : Event) (f : Unit → Traced ε α) :
    emit event >>= f = ⟨event :: (f ()).events, (f ()).result⟩ := rfl

def Succeeds (x : Traced ε α) : Prop := ∃ a, x.result = .ok a

theorem succeeds_pure (a : α) : (pure a : Traced ε α).Succeeds := ⟨a, rfl⟩

theorem not_succeeds_of_result_eq_error {x : Traced ε α} {e : ε} (h : x.result = .error e) :
    ¬ x.Succeeds := by
  rintro ⟨a, ha⟩
  rw [h] at ha
  cases ha

theorem bind_of_result_eq_ok {x : Traced ε α} {a : α} (h : x.result = .ok a)
    (f : α → Traced ε β) :
    x >>= f = ⟨x.events ++ (f a).events, (f a).result⟩ := by
  simp only [Bind.bind, bind, h]

theorem bind_result_of_result_eq_ok {x : Traced ε α} {a : α} (h : x.result = .ok a)
    (f : α → Traced ε β) : (x >>= f).result = (f a).result := by
  rw [bind_of_result_eq_ok h]

theorem bind_of_result_eq_error {x : Traced ε α} {e : ε} (h : x.result = .error e)
    (f : α → Traced ε β) : x >>= f = ⟨x.events, .error e⟩ := by
  simp only [Bind.bind, bind, h]

theorem bind_succeeds_iff {x : Traced ε α} {f : α → Traced ε β} :
    (x >>= f).Succeeds ↔ ∃ a, x.result = .ok a ∧ (f a).Succeeds := by
  cases h : x.result with
  | ok a =>
    rw [bind_of_result_eq_ok h]
    refine ⟨fun hs => ⟨a, rfl, hs⟩, ?_⟩
    rintro ⟨b, hb, hs⟩
    cases hb
    exact hs
  | error e =>
    rw [bind_of_result_eq_error h]
    refine iff_of_false (not_succeeds_of_result_eq_error rfl) ?_
    rintro ⟨b, hb, _⟩
    cases hb

/-- Computations that record nothing and cannot fail can be read as a function. -/
theorem mapM_eq_pure {f : α → Traced ε β} {g : α → β} {l : List α}
    (h : ∀ a ∈ l, f a = pure (g a)) : l.mapM f = pure (l.map g) := by
  induction l with
  | nil => rfl
  | cons a l ih =>
    obtain ⟨ha, hl⟩ := List.forall_mem_cons.1 h
    rw [List.mapM_cons, ha, pure_bind, ih hl, pure_bind, List.map_cons]

end Traced

end RegisterFamilies
