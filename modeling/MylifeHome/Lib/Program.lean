import MylifeHome.Lib.Effect

/-!
# Programs over a set of writes

A program reads the state, throws, or makes one of the writes of its machine, and
goes on. What it does to the state is then the writes that it makes, one by one:
a property that every write keeps is kept by the program, and a condition can be
asked of every write in the state in which it is made.
-/
namespace MylifeHome.Lib

universe u v

/-- What each write does to the state. -/
class Machine (σ : Type u) (ω : outParam (Type u)) where
  apply : ω → σ → σ

inductive Program (ε σ ω α : Type u) : Type u where
  | protected pure (a : α)
  | protected throw (e : ε)
  | protected read (next : σ → Program ε σ ω α)
  | protected write (w : ω) (next : Program ε σ ω α)

namespace Program

variable {ε σ ω α β : Type u} {ι : Type v}

protected def bind : Program ε σ ω α → (α → Program ε σ ω β) → Program ε σ ω β
  | .pure a, f => f a
  | .throw e, _ => .throw e
  | .read next, f => .read (fun s => (next s).bind f)
  | .write w next, f => .write w (next.bind f)

def catchWith : Program ε σ ω α → (ε → Program ε σ ω α) → Program ε σ ω α
  | .pure a, _ => .pure a
  | .throw e, handler => handler e
  | .read next, handler => .read (fun s => (next s).catchWith handler)
  | .write w next, handler => .write w (next.catchWith handler)

instance : Monad (Program ε σ ω) where
  pure := .pure
  bind := .bind

instance : MonadExcept ε (Program ε σ ω) where
  throw := .throw
  tryCatch := .catchWith

instance : MonadReader σ (Program ε σ ω) where
  read := .read .pure

/-- One write as a statement. -/
def perform (w : ω) : Program ε σ ω PUnit := .write w (.pure ⟨⟩)

variable [Machine σ ω]

/-- The run from a state; a throw leaves the state as it is then. -/
def run : Program ε σ ω α → σ → EStateM.Result ε σ α
  | .pure a, s => .ok a s
  | .throw e, s => .error e s
  | .read next, s => (next s).run s
  | .write w next, s => next.run (Machine.apply w s)

/-- The state in which the program leaves off, whether it returns or throws. -/
def leaves : Program ε σ ω α → σ → σ
  | .pure _, s => s
  | .throw _, s => s
  | .read next, s => (next s).leaves s
  | .write w next, s => next.leaves (Machine.apply w s)

/-- Every write of the run is made in a state where the condition holds of it. -/
def Meets (cond : σ → ω → Prop) : Program ε σ ω α → σ → Prop
  | .pure _, _ => True
  | .throw _, _ => True
  | .read next, s => (next s).Meets cond s
  | .write w next, s => cond s w ∧ next.Meets cond (Machine.apply w s)

/-! ## Runs -/

protected theorem run_bind_ok {p : Program ε σ ω α} {f : α → Program ε σ ω β} {s s'' : σ} {b : β} :
    (p >>= f).run s = .ok b s'' ↔ ∃ a s', p.run s = .ok a s' ∧ (f a).run s' = .ok b s'' := by
  induction p generalizing s with
  | pure a =>
    constructor
    · intro h; exact ⟨a, s, rfl, h⟩
    · rintro ⟨a', s', h, h'⟩; cases h; exact h'
  | throw e =>
    constructor
    · intro h; cases h
    · rintro ⟨a', s', h, _⟩; cases h
  | read next ih => exact ih s
  | write w next ih => exact ih

protected theorem run_pure_ok {a b : α} {s s' : σ} : (pure a : Program ε σ ω α).run s = .ok b s' ↔
    a = b ∧ s = s' := by
  show EStateM.Result.ok a s = .ok b s' ↔ _
  simp

protected theorem run_throw_ok {e : ε} {a : α} {s s' : σ} :
    (throw e : Program ε σ ω α).run s = .ok a s' ↔ False := by
  show EStateM.Result.error e s = .ok a s' ↔ _
  simp

protected theorem run_read_ok {s s' a : σ} : (read : Program ε σ ω σ).run s = .ok a s' ↔ s = a ∧
    s = s' := by
  show EStateM.Result.ok s s = .ok a s' ↔ _
  simp

protected theorem run_perform_ok {w : ω} {s s' : σ} {u : PUnit} :
    (perform w : Program ε σ ω PUnit).run s = .ok u s' ↔ Machine.apply w s = s' := by
  show EStateM.Result.ok _ _ = .ok u s' ↔ _
  simp

protected theorem run_orThrow_ok {x : Except ε α} {s s' : σ} {a : α} :
    (orThrow x : Program ε σ ω α).run s = .ok a s' ↔ x = .ok a ∧ s = s' := by
  cases x with
  | ok b => simp [orThrow, Program.run_pure_ok]
  | error e => simp [orThrow, Program.run_throw_ok]

protected theorem run_throwIf_ok {condition : Bool} {e : ε} {s s' : σ} {u : PUnit} :
    (throwIf condition e : Program ε σ ω PUnit).run s = .ok u s' ↔ condition = false ∧ s = s' := by
  cases condition with
  | false => simp [throwIf, Program.run_pure_ok]
  | true => simp [throwIf, Program.run_throw_ok]

protected theorem run_discard_ok {p : Program ε σ ω α} {s s' : σ} {u : PUnit} :
    (discard p).run s = .ok u s' ↔ ∃ a, p.run s = .ok a s' := by
  show (p >>= fun _ => pure ⟨⟩).run s = .ok u s' ↔ _
  simp only [Program.run_bind_ok, Program.run_pure_ok]
  constructor
  · rintro ⟨a, s₁, h, _, rfl⟩; exact ⟨a, h⟩
  · rintro ⟨a, h⟩; exact ⟨a, s', h, trivial, rfl⟩

theorem run_read_bind_ok {f : σ → Program ε σ ω α} {s s' : σ} {a : α} :
    (read >>= f).run s = .ok a s' ↔ (f s).run s = .ok a s' := Iff.rfl

theorem run_orThrow_bind_ok {x : Except ε α} {f : α → Program ε σ ω β} {s s' : σ} {b : β} :
    (orThrow x >>= f).run s = .ok b s' ↔ ∃ a, x = .ok a ∧ (f a).run s = .ok b s' := by
  simp only [Program.run_bind_ok, Program.run_orThrow_ok]
  constructor
  · rintro ⟨a, _, ⟨ha, rfl⟩, h⟩; exact ⟨a, ha, h⟩
  · rintro ⟨a, ha, h⟩; exact ⟨a, s, ⟨ha, rfl⟩, h⟩

/-! ## Conditions on the writes -/

variable {cond cond' : σ → ω → Prop} {P : σ → Prop}

theorem meets_bind {p : Program ε σ ω α} {f : α → Program ε σ ω β} {s : σ} :
    (p >>= f).Meets cond s ↔ p.Meets cond s ∧ ∀ a s', p.run s = .ok a s' → (f a).Meets cond s' := by
  induction p generalizing s with
  | pure a =>
    constructor
    · intro h
      refine ⟨trivial, ?_⟩
      intro a' s' hr
      cases hr
      exact h
    · exact fun h => h.2 a s rfl
  | throw e =>
    constructor
    · intro _
      refine ⟨trivial, ?_⟩
      intro a s' hr
      cases hr
    · exact fun _ => trivial
  | read next ih => exact ih s
  | write w next ih =>
    constructor
    · rintro ⟨hw, hn⟩
      exact ⟨⟨hw, (ih.mp hn).1⟩, (ih.mp hn).2⟩
    · rintro ⟨⟨hw, hn⟩, hf⟩
      exact ⟨hw, ih.mpr ⟨hn, hf⟩⟩

@[simp] theorem meets_pure {a : α} {s : σ} : (pure a : Program ε σ ω α).Meets cond s := trivial

@[simp] theorem meets_throw {e : ε} {s : σ} : (throw e : Program ε σ ω α).Meets cond s := trivial

@[simp] theorem meets_perform {w : ω} {s : σ} : (perform w : Program ε σ ω PUnit).Meets cond s ↔
    cond s w :=
  ⟨fun h => h.1, fun h => ⟨h, trivial⟩⟩

@[simp] theorem meets_orThrow {x : Except ε α} {s : σ} :
    (orThrow x : Program ε σ ω α).Meets cond s := by
  cases x <;> exact trivial

@[simp] theorem meets_throwIf {condition : Bool} {e : ε} {s : σ} :
    (throwIf condition e : Program ε σ ω PUnit).Meets cond s := by
  cases condition <;> exact trivial

@[simp] theorem meets_discard {p : Program ε σ ω α} {s : σ} : (discard p).Meets cond s ↔
    p.Meets cond s := by
  show (p >>= fun _ => pure PUnit.unit).Meets cond s ↔ _
  simp [meets_bind]

/-! What a statement leaves to the rest of the program. -/

theorem meets_read_bind {f : σ → Program ε σ ω α} {s : σ} : (read >>= f).Meets cond s ↔
    (f s).Meets cond s := Iff.rfl

theorem meets_orThrow_bind {x : Except ε α} {f : α → Program ε σ ω β} {s : σ} :
    (orThrow x >>= f).Meets cond s ↔ ∀ a, x = .ok a → (f a).Meets cond s := by
  rw [meets_bind]
  simp only [meets_orThrow, true_and, Program.run_orThrow_ok]
  constructor
  · exact fun h a ha => h a s ⟨ha, rfl⟩
  · rintro h a s' ⟨ha, rfl⟩; exact h a ha

theorem meets_throwIf_bind {condition : Bool} {e : ε} {f : PUnit → Program ε σ ω α} {s : σ} :
    (throwIf condition e >>= f).Meets cond s ↔ (condition = false → (f ⟨⟩).Meets cond s) := by
  rw [meets_bind]
  simp only [meets_throwIf, true_and, Program.run_throwIf_ok]
  constructor
  · exact fun h hc => h ⟨⟩ s ⟨hc, rfl⟩
  · rintro h a s' ⟨hc, rfl⟩; exact h hc

theorem meets_perform_bind {w : ω} {f : PUnit → Program ε σ ω α} {s : σ} :
    (perform w >>= f).Meets cond s ↔ cond s w ∧ (f ⟨⟩).Meets cond (Machine.apply w s) := Iff.rfl

instance (cond : σ → ω → Prop) [∀ s w, Decidable (cond s w)] : (p : Program ε σ ω α) → (s : σ) →
    Decidable (p.Meets cond s)
  | .pure _, _ => isTrue trivial
  | .throw _, _ => isTrue trivial
  | .read next, s => instDecidableMeets cond (next s) s
  | .write w next, s =>
    have := instDecidableMeets cond next (Machine.apply w s)
    inferInstanceAs (Decidable (_ ∧ _))

/-- The program returns, in a state with a property. -/
def Ends (p : Program ε σ ω α) (s : σ) (P : σ → Prop) : Prop := ∃ a s', p.run s = .ok a s' ∧ P s'

instance (p : Program ε σ ω α) (s : σ) (P : σ → Prop) [DecidablePred P] : Decidable (p.Ends s P) :=
  match h : p.run s with
  | .ok a s' => decidable_of_iff (P s') ⟨fun hP => ⟨a, s', h, hP⟩, fun ⟨_, _, hrun, hP⟩ => by
      rw [h] at hrun
      cases hrun
      exact hP⟩
  | .error _ _ => isFalse (fun ⟨_, _, hrun, _⟩ => by rw [h] at hrun; cases hrun)

theorem meets_of_forall (h : ∀ s w, cond s w) (p : Program ε σ ω α) (s : σ) : p.Meets cond s := by
  induction p generalizing s with
  | pure a => trivial
  | throw e => trivial
  | read next ih => exact ih s s
  | write w next ih => exact ⟨h s w, ih _⟩

theorem Meets.mono {p : Program ε σ ω α} {s : σ} (hm : p.Meets cond s)
    (h : ∀ s w, cond s w → cond' s w) :
    p.Meets cond' s := by
  induction p generalizing s with
  | pure a => trivial
  | throw e => trivial
  | read next ih => exact ih s hm
  | write w next ih => exact ⟨h s w hm.1, ih hm.2⟩

theorem Meets.and {p : Program ε σ ω α} {s : σ} (h : p.Meets cond s) (h' : p.Meets cond' s) :
    p.Meets (fun s w => cond s w ∧ cond' s w) s := by
  induction p generalizing s with
  | pure a => trivial
  | throw e => trivial
  | read next ih => exact ih s h h'
  | write w next ih => exact ⟨⟨h.1, h'.1⟩, ih h.2 h'.2⟩

/-- A property that the writes keep is kept by a program whose writes meet their condition. -/
theorem Meets.invariant {p : Program ε σ ω α} {s s' : σ} {a : α} (hm : p.Meets cond s)
    (hstep : ∀ s w, P s → cond s w → P (Machine.apply w s)) (hs : P s) (h : p.run s = .ok a s') :
    P s' := by
  induction p generalizing s with
  | pure b => cases h; exact hs
  | throw e => cases h
  | read next ih => exact ih s hm hs h
  | write w next ih => exact ih hm.2 (hstep s w hs hm.1) h

/-- The same for the state left by a program that may have thrown. -/
theorem Meets.leaves {p : Program ε σ ω α} {s : σ} (hm : p.Meets cond s)
    (hstep : ∀ s w, P s → cond s w → P (Machine.apply w s)) (hs : P s) : P (p.leaves s) := by
  induction p generalizing s with
  | pure b => exact hs
  | throw e => exact hs
  | read next ih => exact ih s hm hs
  | write w next ih => exact ih hm.2 (hstep s w hs hm.1)

/-! ## Loops -/

/-- The rule of a loop, with what is known when some of its rounds are left. -/
theorem forEach_rule {P : List ι → σ → Prop} {body : ι → Program ε σ ω PUnit}
    (hstep : ∀ i l s s', P (i :: l) s → (body i).run s = .ok ⟨⟩ s' → P l s') {l : List ι} {s s' : σ}
    (hs : P l s) (h : (forEach l body).run s = .ok ⟨⟩ s') : P [] s' := by
  induction l generalizing s with
  | nil =>
    rw [forEach, Program.run_pure_ok] at h
    exact h.2 ▸ hs
  | cons i l ih =>
    rw [forEach, Program.run_bind_ok] at h
    obtain ⟨_, s₁, h₁, h₂⟩ := h
    exact ih (hstep i l s s₁ hs h₁) h₂

theorem meets_forEach {P : List ι → σ → Prop} {body : ι → Program ε σ ω PUnit}
    (hstep : ∀ i l s, P (i :: l) s → (body i).Meets cond s ∧ ∀ s',
      (body i).run s = .ok ⟨⟩ s' → P l s')
    {l : List ι} {s : σ} (hs : P l s) : (forEach l body).Meets cond s := by
  induction l generalizing s with
  | nil => trivial
  | cons i l ih =>
    rw [forEach, meets_bind]
    exact ⟨(hstep i l s hs).1, fun _ s' h => ih ((hstep i l s hs).2 s' h)⟩

/-- A loop that carries a value, each round of which meets the condition and keeps a property. -/
theorem meets_foldEach {β : Type u} {body : β → ι → Program ε σ ω β} {l : List ι}
    (hstep : ∀ i ∈ l, ∀ b s, P s → (body b i).Meets cond s ∧ ∀ b' s',
      (body b i).run s = .ok b' s' → P s')
    {b : β} {s : σ} (hs : P s) : (foldEach l body b).Meets cond s := by
  induction l generalizing b s with
  | nil => trivial
  | cons i l ih =>
    rw [foldEach, meets_bind]
    refine ⟨(hstep i List.mem_cons_self b s hs).1, fun b' s' h => ?_⟩
    exact ih (fun j hj => hstep j (List.mem_cons_of_mem _ hj))
      ((hstep i List.mem_cons_self b s hs).2 b' s' h)

/-! ## Kinds of writes -/

/-- Every write of the program, whatever it reads, is of a kind. -/
def Writes (ok : ω → Prop) : Program ε σ ω α → Prop
  | .pure _ => True
  | .throw _ => True
  | .read next => ∀ s, (next s).Writes ok
  | .write w next => ok w ∧ next.Writes ok

section Writes

variable {ok ok' : ω → Prop}

omit [Machine σ ω] in
theorem writes_bind {p : Program ε σ ω α} {f : α → Program ε σ ω β} (hp : p.Writes ok)
    (hf : ∀ a, (f a).Writes ok) :
    (p >>= f).Writes ok := by
  induction p with
  | pure a => exact hf a
  | throw e => trivial
  | read next ih => exact fun s => ih s (hp s)
  | write w next ih => exact ⟨hp.1, ih hp.2⟩

omit [Machine σ ω] in
theorem writes_orThrow {x : Except ε α} : (orThrow x : Program ε σ ω α).Writes ok := by
  cases x <;> exact trivial

omit [Machine σ ω] in
theorem writes_discard {p : Program ε σ ω α} (h : p.Writes ok) : (discard p).Writes ok :=
  writes_bind h fun _ => trivial

omit [Machine σ ω] in
theorem writes_forEach {body : ι → Program ε σ ω PUnit} (h : ∀ i, (body i).Writes ok) (l : List ι) :
    (forEach l body).Writes ok := by
  induction l with
  | nil => trivial
  | cons i l ih => exact writes_bind (h i) (fun _ => ih)

end Writes

/-! ## Failing before the first write -/

section Clean

variable {s : σ}

/-- The checks of a program: nothing is written at all. -/
def Silent (p : Program ε σ ω α) : Prop := p.Writes (fun _ => False)

theorem Silent.run_ok {p : Program ε σ ω α} (hp : p.Silent) {a : α} {s' : σ}
    (h : p.run s = .ok a s') : s' = s := by
  induction p generalizing s with
  | pure b => cases h; rfl
  | throw e => cases h
  | read next ih => exact ih s (hp s) h
  | write w next _ => exact hp.1.elim

/-- A loop of checks that returned has passed them all. -/
theorem run_forEach_silent {body : ι → Program ε σ ω PUnit} (hbody : ∀ i, (body i).Silent)
    {l : List ι} {s' : σ}
    (h : (forEach l body).run s = .ok ⟨⟩ s') : ∀ i ∈ l, (body i).run s = .ok ⟨⟩ s := by
  induction l with
  | nil => exact fun i hi => (by cases hi)
  | cons j l ih =>
    obtain ⟨_, s₁, h₁, h₂⟩ := Program.run_bind_ok.mp h
    obtain rfl := (hbody j).run_ok h₁
    intro i hi
    rcases List.mem_cons.mp hi with rfl | hi
    · exact h₁
    · exact ih h₂ i hi

end Clean

/-! ## A program of a machine inside another -/

section Embed

variable {τ : Type u} {υ : Type u}

variable [Machine τ υ] {view : τ → σ} {inj : ω → υ}

/-- A statement that returns and writes only what is not in view. -/
def Hidden (view : τ → σ) (p : Program ε τ υ PUnit) : Prop := ∀ t, ∃ t', p.run t = .ok ⟨⟩ t' ∧
    view t' = view t

theorem hidden_pure : Hidden view (pure ⟨⟩ : Program ε τ υ PUnit) := fun t => ⟨t, rfl, rfl⟩

theorem hidden_read_bind {f : τ → Program ε τ υ PUnit} (h : ∀ t, Hidden view (f t)) :
    Hidden view (read >>= f) :=
  fun t => h t t

theorem Hidden.bind {p : Program ε τ υ PUnit} {f : PUnit → Program ε τ υ PUnit} (hp : Hidden view p)
    (hf : Hidden view (f ⟨⟩)) : Hidden view (p >>= f) := by
  intro t
  obtain ⟨t₁, h₁, hv₁⟩ := hp t
  obtain ⟨t₂, h₂, hv₂⟩ := hf t₁
  exact ⟨t₂, Program.run_bind_ok.mpr ⟨⟨⟩, t₁, h₁, h₂⟩, hv₂.trans hv₁⟩

theorem hidden_forEach {body : ι → Program ε τ υ PUnit} (h : ∀ i, Hidden view (body i))
    (l : List ι) :
    Hidden view (forEach l body) := by
  induction l with
  | nil => exact hidden_pure
  | cons i l ih => exact (h i).bind ih

end Embed

end Program
end MylifeHome.Lib
