import Mathlib.Logic.Function.Basic
import Mathlib.Data.List.Nodup
import Mathlib.Data.List.Forall2

/-!
# Imperative code with exceptions

Stateful code that may throw is a function from a state to a result and a state,
kept also when it throws. The rules below read a successful run backwards: what
each statement returned and in which state it left off.
-/
namespace MylifeHome.Lib

universe u v w

section Statements

variable {m : Type u → Type w} [Monad m] {ε α β : Type u} {ι : Type v}

/-- A read that may throw, used as a statement. -/
def orThrow [MonadExcept ε m] : Except ε α → m α
  | .ok a => pure a
  | .error e => throw e

/-- `if (condition) throw e;` -/
def throwIf [MonadExcept ε m] (condition : Bool) (e : ε) : m PUnit := if condition then throw e
    else pure ⟨⟩

/-- `for (const i of l) body(i);` -/
def forEach (l : List ι) (body : ι → m PUnit) : m PUnit :=
  match l with
  | [] => pure ⟨⟩
  | i :: l => do
    body i
    forEach l body

/-- The results of a loop, appended in order. -/
def collect (l : List ι) (body : ι → m (List α)) : m (List α) :=
  match l with
  | [] => pure []
  | i :: l => do
    let a ← body i
    let as ← collect l body
    return a ++ as

/-- A loop that carries a value from round to round. -/
def foldEach (l : List ι) (body : β → ι → m β) (b : β) : m β :=
  match l with
  | [] => pure b
  | i :: l => do
    let b' ← body b i
    foldEach l body b'

end Statements

variable {ε σ : Type u} {α β : Type u} {ι : Type v}

theorem run_bind_ok {x : EStateM ε σ α} {f : α → EStateM ε σ β} {s s'' : σ} {b : β} :
    (x >>= f).run s = .ok b s'' ↔ ∃ a s', x.run s = .ok a s' ∧ (f a).run s' = .ok b s'' := by
  rw [EStateM.run_bind]
  cases x.run s with
  | ok a s' =>
    constructor
    · intro h; exact ⟨a, s', rfl, h⟩
    · rintro ⟨a', s₁, h, h'⟩; cases h; exact h'
  | error e s' => simp

theorem run_pure_ok {a b : α} {s s' : σ} : (pure a : EStateM ε σ α).run s = .ok b s' ↔ a = b ∧
    s = s' := by
  simp

theorem run_throw_ok {e : ε} {a : α} {s s' : σ} : (throw e : EStateM ε σ α).run s = .ok a s' ↔
    False := by
  show EStateM.Result.error e s = .ok a s' ↔ False
  simp

theorem run_get_ok {s s' a : σ} : (get : EStateM ε σ σ).run s = .ok a s' ↔ s = a ∧ s = s' := by
  simp

theorem run_modify_ok {f : σ → σ} {s s' : σ} {u : PUnit} :
    (modify f : EStateM ε σ PUnit).run s = .ok u s' ↔ f s = s' := by
  simp

theorem run_orThrow_ok {x : Except ε α} {s s' : σ} {a : α} :
    (orThrow x : EStateM ε σ α).run s = .ok a s' ↔ x = .ok a ∧ s = s' := by
  cases x with
  | ok b => simp [orThrow]
  | error e => simp [orThrow, run_throw_ok]

theorem run_orThrow (x : Except ε α) (s : σ) : (orThrow x : EStateM ε σ α).run s =
    match x with
    | .ok a => .ok a s
    | .error e => .error e s := by
  cases x <;> rfl

theorem run_throwIf_false {e : ε} {s : σ} : (throwIf false e : EStateM ε σ PUnit).run s =
    .ok ⟨⟩ s := rfl

theorem run_throwIf_true {e : ε} {s : σ} : (throwIf true e : EStateM ε σ PUnit).run s =
    .error e s := rfl

theorem run_throwIf_ok {condition : Bool} {e : ε} {s s' : σ} {u : PUnit} :
    (throwIf condition e : EStateM ε σ PUnit).run s = .ok u s' ↔ condition = false ∧ s = s' := by
  cases condition with
  | false => simp [throwIf]
  | true => simp [throwIf]

theorem run_discard_ok {x : EStateM ε σ α} {s s' : σ} {u : PUnit} :
    (discard x).run s = .ok u s' ↔ ∃ a, x.run s = .ok a s' := by
  show EStateM.map (Function.const α PUnit.unit) x s = .ok u s' ↔ ∃ a, x s = .ok a s'
  unfold EStateM.map
  cases x s <;> simp

theorem except_bind_ok {x : Except ε α} {f : α → Except ε β} {b : β} :
    (x >>= f) = .ok b ↔ ∃ a, x = .ok a ∧ f a = .ok b := by
  cases x with
  | ok a =>
    constructor
    · intro h; exact ⟨a, rfl, h⟩
    · rintro ⟨a', h, h'⟩; cases h; exact h'
  | error e =>
    constructor
    · intro h; cases h
    · rintro ⟨a, h, _⟩; cases h

theorem except_map_ok {x : Except ε α} {f : α → β} {b : β} :
    x.map f = .ok b ↔ ∃ a, x = .ok a ∧ f a = b := by
  cases x with
  | ok a => simp [Except.map]
  | error e => simp [Except.map]

theorem except_mapError_ok {ε' : Type*} {x : Except ε α} {f : ε → ε'} {a : α} :
    x.mapError f = .ok a ↔ x = .ok a := by
  cases x <;> simp [Except.mapError]

theorem except_forEach_ok {ι : Type v} {f : ι → Except ε PUnit} {l : List ι}
    (h : ∀ i ∈ l, f i = .ok ⟨⟩) : forEach l f = .ok ⟨⟩ := by
  induction l with
  | nil => rfl
  | cons i l ih =>
    rw [forEach, h i List.mem_cons_self]
    exact ih fun j hj => h j (List.mem_cons_of_mem _ hj)

theorem mapM_ok_of_forall {α : Type v} {f : α → Except ε β} {g : α → β} {l : List α}
    (h : ∀ a ∈ l, f a = .ok (g a)) : l.mapM f = .ok (l.map g) := by
  induction l with
  | nil => rfl
  | cons a l ih =>
    rw [List.mapM_cons, h a List.mem_cons_self, ih (fun b hb => h b (List.mem_cons_of_mem _ hb))]
    rfl

theorem mapM_congr {α : Type v} {f g : α → Except ε β} {l : List α} (h : ∀ a ∈ l, f a = g a) :
    l.mapM f = l.mapM g := by
  induction l with
  | nil => rfl
  | cons a l ih =>
    rw [List.mapM_cons, List.mapM_cons, h a List.mem_cons_self,
      ih (fun b hb => h b (List.mem_cons_of_mem _ hb))]

theorem mapM_map_list {α γ : Type v} {f : γ → Except ε β} {g : α → γ} (l : List α) :
    (l.map g).mapM f = l.mapM fun a => f (g a) := by
  induction l with
  | nil => rfl
  | cons a l ih => rw [List.map_cons, List.mapM_cons, List.mapM_cons, ih]

theorem mapM_map_result {α : Type v} {γ : Type u} {f : α → Except ε β} {g : β → γ} (l : List α) :
    (l.mapM fun a => (f a).map g) = (l.mapM f).map (List.map g) := by
  induction l with
  | nil => rfl
  | cons a l ih =>
    rw [List.mapM_cons, List.mapM_cons, ih]
    cases f a with
    | error e => rfl
    | ok b => cases l.mapM f <;> rfl

/-- The order of a loop matters only for the order of its results. -/
theorem mapM_perm {α : Type v} {f : α → Except ε β} {l l' : List α} {r : List β} (hl : l.Perm l')
    (h : l.mapM f = .ok r) :
    ∃ r', l'.mapM f = .ok r' ∧ r.Perm r' := by
  induction hl generalizing r with
  | nil => exact ⟨r, h, .refl r⟩
  | cons a _ ih =>
    obtain ⟨b, hb, h⟩ := except_bind_ok.mp (List.mapM_cons.symm.trans h)
    obtain ⟨r₁, hr, h⟩ := except_bind_ok.mp h
    obtain ⟨r₁', hr', hperm⟩ := ih hr
    cases h
    exact ⟨b :: r₁', by rw [List.mapM_cons, hb, hr']; rfl, hperm.cons b⟩
  | swap a a' l =>
    rw [List.mapM_cons, List.mapM_cons] at h
    obtain ⟨b', hb', h⟩ := except_bind_ok.mp h
    obtain ⟨r₁, hr, h⟩ := except_bind_ok.mp h
    obtain ⟨b, hb, hr⟩ := except_bind_ok.mp hr
    obtain ⟨r₂, hr₂, hr⟩ := except_bind_ok.mp hr
    cases hr
    cases h
    exact ⟨b :: b' :: r₂, by rw [List.mapM_cons, List.mapM_cons, hb, hb', hr₂]; rfl, .swap b b' r₂⟩
  | trans _ _ ih₁ ih₂ =>
    obtain ⟨r₁, hr₁, hperm₁⟩ := ih₁ h
    obtain ⟨r₂, hr₂, hperm₂⟩ := ih₂ hr₁
    exact ⟨r₂, hr₂, hperm₁.trans hperm₂⟩

theorem mapM_error {α : Type v} {f : α → Except ε β} {l : List α} {a : α} {rest : List α} {e : ε}
    (hl : l = a :: rest) (h : f a = .error e) : l.mapM f = .error e := by
  rw [hl, List.mapM_cons, h]
  rfl

/-- The results of a loop over a list, one for each entry. -/
theorem mapM_ok {α : Type v} {f : α → Except ε β} {l : List α} {r : List β} (h : l.mapM f = .ok r) :
    List.Forall₂ (fun a b => f a = .ok b) l r := by
  induction l generalizing r with
  | nil => cases h; exact .nil
  | cons x l ih =>
    rw [List.mapM_cons, except_bind_ok] at h
    obtain ⟨b, hb, h⟩ := h
    rw [except_bind_ok] at h
    obtain ⟨r', hr, h⟩ := h
    cases h
    exact .cons hb (ih hr)

theorem mapM_exists {α : Type v} {f : α → Except ε β} {P : β → Prop} {l : List α}
    (h : ∀ a ∈ l, ∃ b, f a = .ok b ∧ P b) :
    ∃ r, l.mapM f = .ok r ∧ ∀ b ∈ r, P b := by
  induction l with
  | nil => exact ⟨[], rfl, fun b hb => by cases hb⟩
  | cons a l ih =>
    obtain ⟨b, hb, hP⟩ := h a List.mem_cons_self
    obtain ⟨r, hr, hall⟩ := ih (fun a' ha' => h a' (List.mem_cons_of_mem _ ha'))
    refine ⟨b :: r, by rw [List.mapM_cons, hb, hr]; rfl, fun b' hb' => ?_⟩
    rcases List.mem_cons.mp hb' with rfl | hb'
    · exact hP
    · exact hall b' hb'

/-- A loop over encoded entries gives the entries back exactly if each of them comes back. -/
theorem mapM_map_eq_self {α : Type u} {γ : Type v} {g : α → γ} {f : γ → Except ε α} {l : List α} :
    (l.map g).mapM f = .ok l ↔ ∀ a ∈ l, f (g a) = .ok a := by
  constructor
  · intro h
    have hall := mapM_ok h
    rw [List.forall₂_map_left_iff] at hall
    exact List.forall₂_same.mp hall
  · intro h
    induction l with
    | nil => rfl
    | cons a l ih =>
      rw [List.map_cons, List.mapM_cons, h a List.mem_cons_self,
        ih fun b hb => h b (List.mem_cons_of_mem _ hb)]
      rfl

theorem mapM_ok_mem {α : Type v} {f : α → Except ε β} {l : List α} {r : List β}
    (h : l.mapM f = .ok r) {a : α} (ha : a ∈ l) : ∃ b ∈ r, f a = .ok b := by
  have hall := mapM_ok h
  clear h
  induction hall with
  | nil => cases ha
  | cons hab _ ih =>
    rcases List.mem_cons.mp ha with rfl | ha
    · exact ⟨_, List.mem_cons_self, hab⟩
    · obtain ⟨b, hb, hf⟩ := ih ha
      exact ⟨b, List.mem_cons_of_mem _ hb, hf⟩

theorem mem_mapM_ok {α : Type v} {f : α → Except ε β} {l : List α} {r : List β}
    (h : l.mapM f = .ok r) {b : β} (hb : b ∈ r) : ∃ a ∈ l, f a = .ok b := by
  have hall := mapM_ok h
  clear h
  induction hall with
  | nil => cases hb
  | cons hab _ ih =>
    rcases List.mem_cons.mp hb with rfl | hb
    · exact ⟨_, List.mem_cons_self, hab⟩
    · obtain ⟨a, ha, hf⟩ := ih hb
      exact ⟨a, List.mem_cons_of_mem _ ha, hf⟩

/-- A loop keeps what each of its rounds keeps. -/
theorem forEach_invariant {P : σ → Prop} {f : ι → EStateM ε σ PUnit} {l : List ι}
    (hstep : ∀ i ∈ l, ∀ s s', P s → (f i).run s = .ok ⟨⟩ s' → P s') {s s' : σ} (hs : P s)
    (h : (forEach l f).run s = .ok ⟨⟩ s') : P s' := by
  induction l generalizing s with
  | nil =>
    rw [forEach, run_pure_ok] at h
    exact h.2 ▸ hs
  | cons i l ih =>
    rw [forEach, run_bind_ok] at h
    obtain ⟨_, s₁, h₁, h₂⟩ := h
    exact ih (fun j hj => hstep j (List.mem_cons_of_mem _ hj))
      (hstep i List.mem_cons_self _ _ hs h₁) h₂

/-- A loop succeeds when each of its rounds does from every state that the rounds keep. -/
theorem forEach_ok {P : σ → Prop} {f : ι → EStateM ε σ PUnit} {l : List ι}
    (hstep : ∀ i ∈ l, ∀ s, P s → ∃ s', (f i).run s = .ok ⟨⟩ s' ∧ P s') {s : σ} (hs : P s) :
    ∃ s', (forEach l f).run s = .ok ⟨⟩ s' ∧ P s' := by
  induction l generalizing s with
  | nil => exact ⟨s, rfl, hs⟩
  | cons i l ih =>
    obtain ⟨s₁, h₁, hs₁⟩ := hstep i List.mem_cons_self s hs
    obtain ⟨s₂, h₂, hs₂⟩ := ih (fun j hj => hstep j (List.mem_cons_of_mem _ hj)) hs₁
    exact ⟨s₂, run_bind_ok.mpr ⟨_, _, h₁, h₂⟩, hs₂⟩

/-! ## What holds however a statement ends -/

/-- The state in which a statement leaves off, whether it returns or throws. -/
def after (x : EStateM ε σ α) (s : σ) : σ :=
  match x.run s with
  | .ok _ s' => s'
  | .error _ s' => s'

theorem after_ok {x : EStateM ε σ α} {s s' : σ} {a : α} (h : x.run s = .ok a s') :
    after x s = s' := by
  rw [after, h]

theorem after_error {x : EStateM ε σ α} {s s' : σ} {e : ε} (h : x.run s = .error e s') :
    after x s = s' := by
  rw [after, h]

theorem after_bind {x : EStateM ε σ α} {f : α → EStateM ε σ β} {s s' : σ} {a : α}
    (h : x.run s = .ok a s') :
    after (x >>= f) s = after (f a) s' := by
  rw [after, EStateM.run_bind, h]
  rfl

/-- The statement keeps the property, whether it returns or throws. -/
def Keeps (P : σ → Prop) (x : EStateM ε σ α) : Prop := ∀ s, P s → P (after x s)

variable {P : σ → Prop}

theorem keeps_pure (a : α) : Keeps P (pure a : EStateM ε σ α) := fun _ h => h

theorem keeps_get : Keeps P (get : EStateM ε σ σ) := fun _ h => h

theorem keeps_throw (e : ε) : Keeps P (throw e : EStateM ε σ α) := fun _ h => h

theorem keeps_modify {f : σ → σ} (hf : ∀ s, P s → P (f s)) :
    Keeps P (modify f : EStateM ε σ PUnit) := hf

theorem keeps_throwIf (condition : Bool) (e : ε) :
    Keeps P (throwIf condition e : EStateM ε σ PUnit) := by
  cases condition with
  | false => exact keeps_pure _
  | true => exact keeps_throw e

theorem keeps_orThrow (x : Except ε α) : Keeps P (orThrow x : EStateM ε σ α) := by
  cases x with
  | ok a => exact keeps_pure a
  | error e => exact keeps_throw e

theorem keeps_bind {x : EStateM ε σ α} {f : α → EStateM ε σ β} (hx : Keeps P x)
    (hf : ∀ a, Keeps P (f a)) :
    Keeps P (x >>= f) := by
  intro s hs
  have h := hx s hs
  rw [after] at h ⊢
  rw [EStateM.run_bind]
  cases hr : x.run s with
  | ok a s' =>
    rw [hr] at h
    exact hf a s' h
  | error e s' =>
    rw [hr] at h
    exact h

/-- A statement that reads the state first knows the property of what it read. -/
theorem keeps_get_bind {f : σ → EStateM ε σ β} (hf : ∀ s, P s → Keeps P (f s)) :
    Keeps P (get >>= f) :=
  fun s hs => hf s hs s hs

theorem keeps_forEach {f : ι → EStateM ε σ PUnit} {l : List ι} (h : ∀ i ∈ l, Keeps P (f i)) :
    Keeps P (forEach l f) := by
  induction l with
  | nil => exact keeps_pure _
  | cons i l ih =>
    exact keeps_bind (h i List.mem_cons_self)
      (fun _ => ih (fun j hj => h j (List.mem_cons_of_mem _ hj)))

/-! ## Exceptions that are never thrown -/

theorem except_bind_avoids {x : Except ε α} {f : α → Except ε β} {e : ε} (hx : x ≠ .error e)
    (hf : ∀ a, x = .ok a → f a ≠ .error e) : (x >>= f) ≠ .error e := by
  cases x with
  | ok a => exact hf a rfl
  | error e' => exact fun h => hx (congrArg Except.error (Except.error.inj h))

/-- A round is reached only when the rounds before it return. -/
theorem mapM_avoids_after {α : Type v} {f : α → Except ε β} {l : List α} {e : ε}
    (h : ∀ before a after, l = before ++ a :: after → (∀ b ∈ before, ∃ r, f b = .ok r) →
      f a ≠ .error e) :
    l.mapM f ≠ .error e := by
  induction l with
  | nil => exact fun h => by cases h
  | cons a l ih =>
    rw [List.mapM_cons]
    refine except_bind_avoids (h [] a l rfl (by simp)) (fun r hr => ?_)
    refine except_bind_avoids (ih fun before b after hl hbefore => ?_) (fun _ _ h => by cases h)
    refine h (a :: before) b after (by rw [hl, List.cons_append]) ?_
    exact List.forall_mem_cons.mpr ⟨⟨r, hr⟩, hbefore⟩

theorem mapM_avoids {α : Type v} {f : α → Except ε β} {l : List α} {e : ε}
    (h : ∀ a ∈ l, f a ≠ .error e) :
    l.mapM f ≠ .error e :=
  mapM_avoids_after fun before a after hl _ => h a (by rw [hl]; simp)

theorem foldlM_avoids {α : Type v} {f : β → α → Except ε β} {l : List α} {e : ε}
    (h : ∀ b, ∀ a ∈ l, f b a ≠ .error e) (b : β) : l.foldlM f b ≠ .error e := by
  induction l generalizing b with
  | nil => exact fun h => by cases h
  | cons a l ih =>
    rw [List.foldlM_cons]
    exact except_bind_avoids (h b a List.mem_cons_self)
      (fun b' _ => ih (fun b x hx => h b x (List.mem_cons_of_mem _ hx)) b')

theorem mapM_ok_or_error {α : Type v} {f : α → Except ε β} {l : List α} {e : ε}
    (h : ∀ a ∈ l, f a = .error e ∨ ∃ b, f a = .ok b) :
    l.mapM f = .error e ∨ ∃ r, l.mapM f = .ok r := by
  induction l with
  | nil => exact .inr ⟨[], rfl⟩
  | cons a l ih =>
    rw [List.mapM_cons]
    rcases h a List.mem_cons_self with ha | ⟨b, ha⟩
    · exact .inl (by rw [ha]; rfl)
    · rcases ih fun x hx => h x (List.mem_cons_of_mem _ hx) with hl | ⟨r, hl⟩
      · exact .inl (by rw [ha, hl]; rfl)
      · exact .inr ⟨b :: r, by rw [ha, hl]; rfl⟩

/-- The rounds before it return or throw the same. -/
theorem mapM_error_after {α : Type v} {f : α → Except ε β} {l before after : List α} {a : α} {e : ε}
    (hl : l = before ++ a :: after) (hbefore : ∀ b ∈ before, f b = .error e ∨ ∃ r, f b = .ok r)
    (ha : f a = .error e) :
    l.mapM f = .error e := by
  subst hl
  induction before with
  | nil => exact mapM_error rfl ha
  | cons b before ih =>
    obtain ⟨hb, hrest⟩ := List.forall_mem_cons.mp hbefore
    rcases hb with hb | ⟨r, hb⟩
    · exact mapM_error rfl hb
    · rw [List.cons_append, List.mapM_cons, hb, ih hrest]
      rfl

/-- Two loops whose rounds differ only where the first one throws the exception. -/
theorem mapM_congr_avoiding {α : Type v} {f g : α → Except ε β} {l : List α} {e : ε}
    (hstep : ∀ a ∈ l, f a ≠ .error e → g a = f a)
    (h : l.mapM f ≠ .error e) : l.mapM g = l.mapM f := by
  induction l with
  | nil => rfl
  | cons a l ih =>
    rw [List.mapM_cons] at h
    rw [List.mapM_cons, List.mapM_cons]
    have ha : g a = f a := by
      refine hstep a List.mem_cons_self fun he => h ?_
      rw [he]
      rfl
    rw [ha]
    cases hf : f a with
    | error e' => rfl
    | ok b =>
      have hl : l.mapM g = l.mapM f := by
        refine ih (fun x hx => hstep x (List.mem_cons_of_mem _ hx)) fun he => h ?_
        rw [hf, he]
        rfl
      rw [hl]

/-- The statement never throws the exception. -/
def Avoids (e : ε) (x : EStateM ε σ α) : Prop := ∀ s s', x.run s ≠ .error e s'

theorem avoids_pure {e : ε} (a : α) : Avoids e (pure a : EStateM ε σ α) := fun s s' h => by cases h

theorem avoids_get {e : ε} : Avoids e (get : EStateM ε σ σ) := fun s s' h => by cases h

theorem avoids_modify {e : ε} (f : σ → σ) : Avoids e (modify f : EStateM ε σ PUnit) :=
  fun s s' h => by cases h

theorem avoids_bind {e : ε} {x : EStateM ε σ α} {f : α → EStateM ε σ β} (hx : Avoids e x)
    (hf : ∀ a, Avoids e (f a)) : Avoids e (x >>= f) := by
  intro s s' h
  rw [EStateM.run_bind] at h
  cases hr : x.run s with
  | ok a s₁ =>
    rw [hr] at h
    exact hf a s₁ s' h
  | error e' s₁ =>
    rw [hr] at h
    cases h
    exact hx s s' hr

theorem avoids_orThrow {e : ε} {x : Except ε α} (hx : x ≠ .error e) : Avoids e
    (orThrow x : EStateM ε σ α) := by
  cases x with
  | ok a => exact avoids_pure a
  | error e' =>
    intro s s' h
    cases h
    exact hx rfl

theorem avoids_throwIf {e e' : ε} {condition : Bool} (he : e' ≠ e) :
    Avoids e (throwIf condition e' : EStateM ε σ PUnit) := by
  cases condition with
  | false => exact avoids_pure _
  | true =>
    intro s s' h
    cases h
    exact he rfl

theorem avoids_forEach {e : ε} {f : ι → EStateM ε σ PUnit} {l : List ι}
    (h : ∀ i ∈ l, Avoids e (f i)) :
    Avoids e (forEach l f) := by
  induction l with
  | nil => exact avoids_pure _
  | cons i l ih =>
    exact avoids_bind (h i List.mem_cons_self)
      (fun _ => ih (fun j hj => h j (List.mem_cons_of_mem _ hj)))

/-! ## How a statement ends -/

/-- From the state, the statement returns with the first property or throws with the second. -/
def Ends (x : EStateM ε σ α) (s : σ) (Q : α → σ → Prop) (E : ε → Prop) : Prop :=
  match x.run s with
  | .ok a s' => Q a s'
  | .error e _ => E e

section Ends

variable {x : EStateM ε σ α} {f : α → EStateM ε σ β} {s s' : σ} {Q : α → σ → Prop}
    {Q' : β → σ → Prop} {E : ε → Prop}

theorem Ends.ok (h : Ends x s Q E) {a : α} (hx : x.run s = .ok a s') : Q a s' := by
  rw [Ends, hx] at h
  exact h

theorem Ends.error (h : Ends x s Q E) {e : ε} (hx : x.run s = .error e s') : E e := by
  rw [Ends, hx] at h
  exact h

theorem ends_pure {a : α} (h : Q a s) : Ends (pure a) s Q E := h

theorem ends_throw {e : ε} (h : E e) : Ends (throw e) s Q E := h

theorem ends_modify {f : σ → σ} {Q : PUnit → σ → Prop} (h : Q ⟨⟩ (f s)) : Ends (modify f) s Q E := h

theorem ends_get_bind {f : σ → EStateM ε σ β} (h : Ends (f s) s Q' E) : Ends (get >>= f) s Q' E := h

theorem Ends.bind (hx : Ends x s Q E) (hf : ∀ a s', Q a s' → Ends (f a) s' Q' E) :
    Ends (x >>= f) s Q' E := by
  unfold Ends at hx ⊢
  rw [EStateM.run_bind]
  cases hr : x.run s with
  | ok a s' =>
    rw [hr] at hx
    exact hf a s' hx
  | error e s' =>
    rw [hr] at hx
    exact hx

theorem Ends.mono {Q₁ : α → σ → Prop} {E₁ : ε → Prop} (h : Ends x s Q E)
    (hQ : ∀ a s', Q a s' → Q₁ a s') (hE : ∀ e, E e → E₁ e) :
    Ends x s Q₁ E₁ := by
  unfold Ends at h ⊢
  cases hr : x.run s with
  | ok a s' =>
    rw [hr] at h
    exact hQ a s' h
  | error e s' =>
    rw [hr] at h
    exact hE e h

theorem ends_orThrow {y : Except ε α} (hok : ∀ a, y = .ok a → Q a s)
    (herror : ∀ e, y = .error e → E e) :
    Ends (orThrow y) s Q E := by
  cases y with
  | ok a => exact ends_pure (hok a rfl)
  | error e => exact ends_throw (herror e rfl)

/-- A loop reaches the goal of each of its rounds, when the later rounds keep it. -/
theorem ends_forEach {P : σ → Prop} {R : σ → σ → Prop} {G : ι → σ → Prop}
    {f : ι → EStateM ε σ PUnit} {l : List ι} (hrefl : ∀ s, R s s)
    (htrans : ∀ s s' s'', R s s' → R s' s'' → R s s'') (hmono : ∀ i s s', R s s' → G i s → G i s')
    (hstep : ∀ i ∈ l, ∀ s, P s → Ends (f i) s (fun _ s' => P s' ∧ R s s' ∧ G i s') E) (hs : P s) :
    Ends (forEach l f) s (fun _ s' => P s' ∧ R s s' ∧ ∀ i ∈ l, G i s') E := by
  induction l generalizing s with
  | nil => exact ends_pure ⟨hs, hrefl s, by simp⟩
  | cons i l ih =>
    refine (hstep i List.mem_cons_self s hs).bind ?_
    rintro - s₁ ⟨hs₁, hr₁, hg⟩
    refine (ih (fun j hj => hstep j (List.mem_cons_of_mem _ hj)) hs₁).mono ?_ fun _ he => he
    rintro - s₂ ⟨hs₂, hr₂, hall⟩
    refine ⟨hs₂, htrans _ _ _ hr₁ hr₂, fun j hj => ?_⟩
    rcases List.mem_cons.mp hj with rfl | hj
    · exact hmono _ _ _ hr₂ hg
    · exact hall j hj

/-- Two loops whose rounds differ only where the first one throws the exception. -/
theorem run_forEach_congr {e : ε} {f g : ι → EStateM ε σ PUnit} {l : List ι}
    (hstep : ∀ i ∈ l, ∀ s, (∀ s', (f i).run s ≠ .error e s') → (g i).run s = (f i).run s)
    (h : ∀ s', (forEach l f).run s ≠ .error e s') : (forEach l g).run s = (forEach l f).run s := by
  induction l generalizing s with
  | nil => rfl
  | cons i l ih =>
    rw [forEach, EStateM.run_bind] at h
    rw [forEach, forEach, EStateM.run_bind, EStateM.run_bind]
    have hi : (g i).run s = (f i).run s := by
      refine hstep i List.mem_cons_self s fun s' hs' => ?_
      rw [hs'] at h
      exact h s' rfl
    rw [hi]
    cases hr : (f i).run s with
    | error e' s' => rfl
    | ok a s' =>
      rw [hr] at h
      exact ih (fun j hj => hstep j (List.mem_cons_of_mem _ hj)) h

end Ends

end MylifeHome.Lib
