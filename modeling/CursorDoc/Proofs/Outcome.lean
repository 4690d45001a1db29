import CursorDoc.Text.Basic

/-!
# Outcomes

What a computation that may fail can give: good results, and failures for which
there is something to blame. A computation with a state keeps an invariant as
long as it does not fail.
-/

namespace CursorDoc

section
variable {ε δ α β : Type} {x : Except ε α}

theorem bind_eq_ok_iff {f : α → Except ε β} {b : β} : x >>= f = .ok b ↔ ∃ a, x = .ok a ∧ f a = .ok b := by
  cases x <;> simp [bind, Except.bind]

theorem mapError_eq_ok_iff {f : ε → δ} {a : α} : x.mapError f = .ok a ↔ x = .ok a := by
  cases x with
  | error e => exact ⟨nofun, nofun⟩
  | ok b => exact ⟨fun h => congrArg Except.ok (Except.ok.inj h), fun h => congrArg Except.ok (Except.ok.inj h)⟩

def faultOf? : Except ε α → Option ε
  | .ok _ => none
  | .error fault => some fault

theorem faultOf?_eq_some_iff {fault : ε} : faultOf? x = some fault ↔ x = .error fault := by
  cases x <;> simp [faultOf?]

theorem faultOf?_map (f : α → β) : faultOf? (x.map f) = faultOf? x := by
  cases x <;> rfl

/-- One computation after another fails for the first reason there is. -/
theorem faultOf?_bind {f : α → Except ε β} {fault : Option ε} (h : ∀ a, faultOf? (f a) = fault) :
    faultOf? (x >>= f) = (faultOf? x).or fault := by
  cases x with
  | ok a => exact h a
  | error _ => rfl

/-- Items done one after the other fail if one of them does. -/
theorem mapM_eq_error_iff {f : α → Except ε β} {items : List α} :
    (∃ fault, items.mapM f = .error fault) ↔ ∃ item ∈ items, ∃ fault, f item = .error fault := by
  induction items with
  | nil => simp [pure, Except.pure]
  | cons item items ih =>
    simp only [List.mapM_cons, List.mem_cons, exists_eq_or_imp, ← ih]
    cases hitem : f item with
    | error fault => simp [bind, Except.bind]
    | ok b => cases hrest : items.mapM f <;> simp [bind, Except.bind, pure, Except.pure]

end

section
variable {ε α β : Type} {good : α → Prop} {good' : β → Prop} {blame : ε → Prop}

def Ends (good : α → Prop) (blame : ε → Prop) : Except ε α → Prop
  | .ok a => good a
  | .error fault => blame fault

namespace Ends

theorem ok {a : α} (h : good a) : Ends good blame (.ok a) := h

theorem error {fault : ε} (h : blame fault) : Ends good blame (.error fault) := h

theorem bind {x : Except ε α} {f : α → Except ε β} (hx : Ends good blame x)
    (hf : ∀ a, good a → Ends good' blame (f a)) :
    Ends good' blame (x >>= f) := by
  cases x with
  | ok a => exact hf a hx
  | error fault => exact hx

theorem map {x : Except ε α} {f : α → β} (hx : Ends (fun a => good' (f a)) blame x) : Ends good' blame (x.map f) := by
  cases x with
  | ok a => exact hx
  | error fault => exact hx

theorem ite {p : Prop} [Decidable p] {x y : Except ε α} (hx : Ends good blame x) (hy : Ends good blame y) :
    Ends good blame (if p then x else y) := by
  split
  · exact hx
  · exact hy

theorem mono {x : Except ε α} {good₂ : α → Prop} {blame₂ : ε → Prop} (hx : Ends good blame x)
    (hgood : ∀ a, good a → good₂ a) (hblame : ∀ fault, blame fault → blame₂ fault) : Ends good₂ blame₂ x := by
  cases x with
  | ok a => exact hgood a hx
  | error fault => exact hblame fault hx

theorem of_ok {x : Except ε α} {a : α} (h : Ends good blame x) (hx : x = .ok a) : good a := by
  rw [hx] at h
  exact h

theorem of_error {x : Except ε α} {fault : ε} (h : Ends good blame x) (hx : x = .error fault) : blame fault := by
  rw [hx] at h
  exact h

end Ends
end

section
variable {σ ε α β : Type} {inv : σ → Prop} {blame : ε → Prop}

/-- A computation keeps an invariant of its state, and what it fails for is to blame. -/
def Keeps (inv : σ → Prop) (blame : ε → Prop) (x : StateT σ (Except ε) α) : Prop :=
  ∀ s, inv s → Ends (fun r => inv r.2) blame (x.run s)

namespace Keeps

theorem pure (a : α) : Keeps inv blame (pure a : StateT σ (Except ε) α) := fun _ hs => hs

theorem throw {fault : ε} (h : blame fault) : Keeps inv blame (throw fault : StateT σ (Except ε) α) := fun _ _ => h

theorem bind {x : StateT σ (Except ε) α} {f : α → StateT σ (Except ε) β} (hx : Keeps inv blame x)
    (hf : ∀ a, Keeps inv blame (f a)) : Keeps inv blame (x >>= f) := fun s hs =>
  Ends.bind (hx s hs) fun r hr => hf r.1 r.2 hr

/-- A computation that starts with a look at its state. -/
theorem get_bind {f : σ → StateT σ (Except ε) β} (hf : ∀ s, inv s → Keeps inv blame (f s)) :
    Keeps inv blame (get >>= f) := fun s hs => hf s hs s hs

theorem modify {f : σ → σ} (h : ∀ s, inv s → inv (f s)) : Keeps inv blame (modify f : StateT σ (Except ε) Unit) :=
  fun s hs => h s hs

theorem set {s : σ} (h : inv s) : Keeps inv blame (set s : StateT σ (Except ε) Unit) := fun _ _ => h

/-- A computation that does not touch the state, and what is done with its result. -/
theorem lift_bind {x : Except ε α} {good : α → Prop} {f : α → StateT σ (Except ε) β} (hx : Ends good blame x)
    (hf : ∀ a, good a → Keeps inv blame (f a)) : Keeps inv blame ((liftM x : StateT σ (Except ε) α) >>= f) := by
  intro s hs
  cases x with
  | ok a => exact hf a hx s hs
  | error fault => exact hx

theorem lift {x : Except ε α} (hx : Ends (fun _ => True) blame x) :
    Keeps inv blame (liftM x : StateT σ (Except ε) α) := by
  intro s hs
  cases x with
  | ok a => exact hs
  | error fault => exact hx

theorem discard {x : StateT σ (Except ε) α} (hx : Keeps inv blame x) : Keeps inv blame (discard x) :=
  bind hx fun _ => pure ()

theorem forM {f : α → StateT σ (Except ε) PUnit} (hf : ∀ a, Keeps inv blame (f a)) (items : List α) :
    Keeps inv blame (items.forM f) := by
  induction items with
  | nil => exact pure _
  | cons item items ih => exact bind (hf item) fun _ => ih

theorem foldlM {f : β → α → StateT σ (Except ε) β} (hf : ∀ b a, Keeps inv blame (f b a)) (items : List α) (start : β) :
    Keeps inv blame (items.foldlM f start) := by
  induction items generalizing start with
  | nil => exact pure start
  | cons item items ih =>
    rw [List.foldlM_cons]
    exact bind (hf start item) fun b => ih b

end Keeps
end

end CursorDoc
