import MylifeHome.Studio.Core.Import.UpdateApply

/-!
# The keys of the updates

Which changes need an update is written on it as keys. The keys of an update are on all
the updates that it depends on: they are pushed along the dependencies when an update is
needed, and the second pass copies them.
-/
namespace MylifeHome.Studio.Core.Import

open MylifeHome.Lib

namespace ComputeContext

/-- The update of this id is there and has the key. -/
def Has (ctx : ComputeContext) (key id : String) : Prop :=
  ∃ u, ctx.updates.get id = some u ∧ key ∈ u.objectChangeKeys

/-- The dependencies of an update are there and have its keys. -/
structure Closed (ctx : ComputeContext) : Prop where
  ids : ∀ {id u}, ctx.updates.get id = some u → u.id = id
  closed : ∀ {id u}, ctx.updates.get id = some u → ∀ d ∈ u.dependencies,
    ∃ u', ctx.updates.get d = some u' ∧ ∀ k ∈ u.objectChangeKeys, k ∈ u'.objectChangeKeys

/-- The computations under a key add updates, and no other key to any. -/
structure Grows (key : String) (ctx ctx' : ComputeContext) : Prop where
  kept : ∀ {id u}, ctx.updates.get id = some u → ∃ u', ctx'.updates.get id = some u' ∧
    ∀ k ∈ u.objectChangeKeys, k ∈ u'.objectChangeKeys
  others : ∀ {id u'}, ctx'.updates.get id = some u' → ∀ k ∈ u'.objectChangeKeys, k ≠ key →
    ctx.Has k id

/-- The key was put on some updates, and with each of them on its dependencies. -/
structure Marked (key : String) (ctx ctx' : ComputeContext) : Prop where
  back : ∀ {id u'}, ctx'.updates.get id = some u' → ∃ u, ctx.updates.get id = some u ∧
    u'.id = u.id ∧
    u'.dependencies = u.dependencies ∧ ∀ k ∈ u'.objectChangeKeys, k ∈ u.objectChangeKeys ∨ k = key
  forth : ∀ {id u}, ctx.updates.get id = some u → ∃ u', ctx'.updates.get id = some u' ∧
    ∀ k ∈ u.objectChangeKeys, k ∈ u'.objectChangeKeys
  fresh : ∀ {id u'}, ctx'.updates.get id = some u' → key ∈ u'.objectChangeKeys → ¬ ctx.Has key id →
    ∀ d ∈ u'.dependencies, ctx'.Has key d

variable {key : String} {ctx ctx₁ ctx₂ : ComputeContext}

theorem Has.exists_get {id : String} (h : ctx.Has key id) : ∃ u, ctx.updates.get id = some u := by
  obtain ⟨u, hu, -⟩ := h
  exact ⟨u, hu⟩

theorem exists_of_has {id : String} {keys : List String} (h : ∀ k ∈ keys, ctx.Has k id)
    (hthere : ∃ u, ctx.updates.get id = some u) :
    ∃ u, ctx.updates.get id = some u ∧ ∀ k ∈ keys, k ∈ u.objectChangeKeys := by
  obtain ⟨u, hu⟩ := hthere
  refine ⟨u, hu, fun k hk => ?_⟩
  obtain ⟨v, hv, hkv⟩ := h k hk
  obtain rfl := Option.some.inj (hv.symm.trans hu)
  exact hkv

theorem Grows.has {k id : String} (h : Grows key ctx ctx₁) (hid : ctx.Has k id) :
    ctx₁.Has k id := by
  obtain ⟨u, hu, hk⟩ := hid
  obtain ⟨u', hu', hkeys⟩ := h.kept hu
  exact ⟨u', hu', hkeys k hk⟩

theorem Grows.refl (key : String) (ctx : ComputeContext) : Grows key ctx ctx where
  kept hu := ⟨_, hu, fun _ hk => hk⟩
  others hu _ hk _ := ⟨_, hu, hk⟩

theorem Grows.trans (h₁ : Grows key ctx ctx₁) (h₂ : Grows key ctx₁ ctx₂) : Grows key ctx ctx₂ where
  kept hu := by
    obtain ⟨u₁, hu₁, hkeys₁⟩ := h₁.kept hu
    obtain ⟨u₂, hu₂, hkeys₂⟩ := h₂.kept hu₁
    exact ⟨u₂, hu₂, fun k hk => hkeys₂ k (hkeys₁ k hk)⟩
  others hu k hk hne := by
    obtain ⟨u₁, hu₁, hk₁⟩ := h₂.others hu k hk hne
    exact h₁.others hu₁ k hk₁ hne

namespace Marked

theorem refl (key : String) (ctx : ComputeContext) : Marked key ctx ctx where
  back hu := ⟨_, hu, rfl, rfl, fun _ hk => .inl hk⟩
  forth hu := ⟨_, hu, fun _ hk => hk⟩
  fresh hu hk hnot := absurd ⟨_, hu, hk⟩ hnot

theorem has {k id : String} (h : Marked key ctx ctx₁) (hid : ctx.Has k id) : ctx₁.Has k id := by
  obtain ⟨u, hu, hk⟩ := hid
  obtain ⟨u', hu', hkeys⟩ := h.forth hu
  exact ⟨u', hu', hkeys k hk⟩

theorem trans (h₁ : Marked key ctx ctx₁) (h₂ : Marked key ctx₁ ctx₂) : Marked key ctx ctx₂ where
  back hu₂ := by
    obtain ⟨u₁, hu₁, hid₁, hdeps₁, hkeys₁⟩ := h₂.back hu₂
    obtain ⟨u, hu, hid, hdeps, hkeys⟩ := h₁.back hu₁
    refine ⟨u, hu, hid₁.trans hid, hdeps₁.trans hdeps, fun k hk => ?_⟩
    rcases hkeys₁ k hk with hk | hk
    · exact hkeys k hk
    · exact .inr hk
  forth hu := by
    obtain ⟨u₁, hu₁, hkeys₁⟩ := h₁.forth hu
    obtain ⟨u₂, hu₂, hkeys₂⟩ := h₂.forth hu₁
    exact ⟨u₂, hu₂, fun k hk => hkeys₂ k (hkeys₁ k hk)⟩
  fresh {id u₂} hu₂ hk hnot d hd := by
    obtain ⟨u₁, hu₁, -, hdeps₁, -⟩ := h₂.back hu₂
    by_cases hhas : ctx₁.Has key id
    · obtain ⟨v, hv, hkv⟩ := hhas
      obtain rfl := Option.some.inj (hv.symm.trans hu₁)
      exact h₂.has (h₁.fresh hu₁ hkv hnot d (hdeps₁ ▸ hd))
    · exact h₂.fresh hu₂ hk hhas d hd

theorem grows (h : Marked key ctx ctx₁) : Grows key ctx ctx₁ where
  kept hu := h.forth hu
  others hu k hk hne := by
    obtain ⟨u, hu, -, -, hkeys⟩ := h.back hu
    exact ⟨u, hu, (hkeys k hk).resolve_right hne⟩

theorem closed (h : Marked key ctx ctx₁) (hc : ctx.Closed) : ctx₁.Closed where
  ids hu' := by
    obtain ⟨u, hu, hid, -⟩ := h.back hu'
    exact hid.trans (hc.ids hu)
  closed {id u'} hu' d hd := by
    obtain ⟨u, hu, -, hdeps, hkeys⟩ := h.back hu'
    obtain ⟨v, hv, hkv⟩ := hc.closed hu d (hdeps ▸ hd)
    obtain ⟨v', hv', hkv'⟩ := h.forth hv
    refine ⟨v', hv', fun k hk => ?_⟩
    by_cases hku : k ∈ u.objectChangeKeys
    · exact hkv' k (hkv k hku)
    · obtain rfl := (hkeys k hk).resolve_left hku
      have hnot : ¬ ctx.Has k id := by
        rintro ⟨w, hw, hkw⟩
        obtain rfl := Option.some.inj (hw.symm.trans hu)
        exact hku hkw
      obtain ⟨w, hw, hkw⟩ := h.fresh hu' hk hnot d hd
      obtain rfl := Option.some.inj (hw.symm.trans hv')
      exact hkw

/-- The key is put on one update, and then on what it depends on. -/
theorem of_set {id : String} {u : Update} (hu : ctx.updates.get id = some u)
    (h : Marked key ⟨ctx.updates.set id { u with objectChangeKeys := u.objectChangeKeys ++ [key] }⟩
      ctx₁)
    (hdeps : ∀ d ∈ u.dependencies, ctx₁.Has key d) : Marked key ctx ctx₁ ∧ ctx₁.Has key id := by
  have hself := OMap.get_set_self ctx.updates id { u with
    objectChangeKeys := u.objectChangeKeys ++ [key] }
  have hother : ∀ {x : String}, x ≠ id → (ctx.updates.set id { u with
      objectChangeKeys := u.objectChangeKeys ++ [key] }).get x = ctx.updates.get x :=
        fun hx => OMap.get_set_ne _ _ hx
  refine ⟨⟨fun {x u₁} hu₁ => ?_, fun {x v} hv => ?_, fun {x u₁} hu₁ hk hnot d hd => ?_⟩,
    h.has ⟨_, hself, by simp⟩⟩
  · obtain ⟨v, hv, hid, hdepends, hkeys⟩ := h.back hu₁
    by_cases hx : x = id
    · subst hx
      obtain rfl := Option.some.inj (hself.symm.trans hv)
      refine ⟨u, hu, hid, hdepends, fun k hk => ?_⟩
      rcases hkeys k hk with hk | hk
      · simpa using hk
      · exact .inr hk
    · exact ⟨v, (hother hx).symm.trans hv, hid, hdepends, hkeys⟩
  · by_cases hx : x = id
    · subst hx
      obtain rfl := Option.some.inj (hu.symm.trans hv)
      obtain ⟨u₁, hu₁, hkeys⟩ := h.forth hself
      exact ⟨u₁, hu₁, fun k hk => hkeys k (by simp [hk])⟩
    · exact h.forth ((hother hx).trans hv)
  · by_cases hx : x = id
    · subst hx
      obtain ⟨v, hv, -, hdepends, -⟩ := h.back hu₁
      obtain rfl := Option.some.inj (hself.symm.trans hv)
      exact hdeps d (hdepends ▸ hd)
    · refine h.fresh hu₁ hk (fun hhas => hnot ?_) d hd
      obtain ⟨v, hv, hkv⟩ := hhas
      exact ⟨v, (hother hx).symm.trans hv, hkv⟩

end Marked

/-- The loop over the dependencies, when each round marks what it is about. -/
theorem forEach_marked {f : String → CM PUnit} {l : List String}
    (h : ∀ id ctx ctx', (f id).run ctx = .ok ⟨⟩ ctx' → Marked key ctx ctx' ∧ ctx'.Has key id)
    (hrun : (forEach l f).run ctx = .ok ⟨⟩ ctx₁) : Marked key ctx ctx₁ ∧
      ∀ id ∈ l, ctx₁.Has key id := by
  induction l generalizing ctx with
  | nil =>
    obtain ⟨-, rfl⟩ := run_pure_ok.mp hrun
    exact ⟨.refl key ctx, by simp⟩
  | cons id l ih =>
    obtain ⟨_, ctx', hfirst, hrest⟩ := run_bind_ok.mp hrun
    obtain ⟨hmarked, hhas⟩ := h id _ _ hfirst
    obtain ⟨hmarked', hhas'⟩ := ih hrest
    exact ⟨hmarked.trans hmarked', List.forall_mem_cons.mpr ⟨hmarked'.has hhas, hhas'⟩⟩

theorem addObjectKey_marked (fuel : Nat) (id : String) (ctx ctx' : ComputeContext)
    (h : (addObjectKey key fuel id).run ctx = .ok ⟨⟩ ctx') : Marked key ctx ctx' ∧
      ctx'.Has key id := by
  induction fuel generalizing id ctx ctx' with
  | zero => exact (run_throw_ok.mp h).elim
  | succ fuel ih =>
    obtain ⟨_, _, hget, h⟩ := run_bind_ok.mp h
    obtain ⟨rfl, rfl⟩ := run_get_ok.mp hget
    split at h
    · exact (run_throw_ok.mp h).elim
    · next u hu =>
      split at h
      · next hkey =>
        obtain ⟨-, rfl⟩ := run_pure_ok.mp h
        exact ⟨.refl key ctx, u, hu, hkey⟩
      · next hkey =>
        obtain ⟨_, ctx₁, hset, hloop⟩ := run_bind_ok.mp h
        obtain rfl := run_modify_ok.mp hset
        obtain ⟨hmarked, hdeps⟩ := forEach_marked ih hloop
        exact hmarked.of_set hu hdeps

/-- A computation under a key keeps the updates closed, and what it returns has the key. -/
def Computes (key : String) (f : CM (List String)) : Prop :=
  ∀ ctx deps ctx', ctx.Closed → f.run ctx = .ok deps ctx' →
    ctx'.Closed ∧ Grows key ctx ctx' ∧ ∀ d ∈ deps, ctx'.Has key d

theorem computes_nil : Computes key (pure []) := by
  intro ctx deps ctx' hc h
  obtain ⟨rfl, rfl⟩ := run_pure_ok.mp h
  exact ⟨hc, .refl key ctx, by simp⟩

theorem computes_throw (e : Err) : Computes key (throw e) :=
    fun _ _ _ _ h => (run_throw_ok.mp h).elim

theorem computes_orThrow {α : Type} {x : Except Err α} {f : α → CM (List String)}
    (hf : ∀ a, Computes key (f a)) :
    Computes key (orThrow x >>= f) := by
  intro ctx deps ctx' hc h
  obtain ⟨a, ctx₁, hx, hrun⟩ := run_bind_ok.mp h
  obtain ⟨-, rfl⟩ := run_orThrow_ok.mp hx
  exact hf a _ _ _ hc hrun

theorem computes_ite {c : Prop} [Decidable c] {f g : CM (List String)} (hf : Computes key f)
    (hg : Computes key g) :
    Computes key (if c then f else g) := by
  split
  · exact hf
  · exact hg

theorem Computes.append {f g : CM (List String)} (hf : Computes key f) (hg : Computes key g) :
    Computes key (do
      let a ← f
      let b ← g
      return a ++ b) := by
  intro ctx deps ctx' hc h
  obtain ⟨a, ctx₁, hrun, h⟩ := run_bind_ok.mp h
  obtain ⟨b, ctx₂, hrun', h⟩ := run_bind_ok.mp h
  obtain ⟨rfl, rfl⟩ := run_pure_ok.mp h
  obtain ⟨hc₁, hgrows, hhas⟩ := hf _ _ _ hc hrun
  obtain ⟨hc₂, hgrows', hhas'⟩ := hg _ _ _ hc₁ hrun'
  refine ⟨hc₂, hgrows.trans hgrows', fun d hd => ?_⟩
  rcases List.mem_append.mp hd with hd | hd
  · exact hgrows'.has (hhas d hd)
  · exact hhas' d hd

theorem Computes.then {f g : CM (List String)} (hf : Computes key f) (hg : Computes key g) :
    Computes key (discard f >>= fun _ => g) := by
  intro ctx deps ctx' hc h
  obtain ⟨_, ctx₁, hrun, h⟩ := run_bind_ok.mp h
  obtain ⟨a, hrun⟩ := run_discard_ok.mp hrun
  obtain ⟨hc₁, hgrows, -⟩ := hf _ _ _ hc hrun
  obtain ⟨hc₂, hgrows', hhas⟩ := hg _ _ _ hc₁ h
  exact ⟨hc₂, hgrows.trans hgrows', hhas⟩

theorem computes_collect {ι : Type} {body : ι → CM (List String)} {l : List ι}
    (h : ∀ i ∈ l, Computes key (body i)) :
    Computes key (collect l body) := by
  induction l with
  | nil => exact computes_nil
  | cons i l ih =>
    rw [List.forall_mem_cons] at h
    exact h.1.append (ih h.2)

/-- A new update without keys, which is then marked. An update of its id that was made
meanwhile is replaced; it had no other key. -/
theorem Marked.created {id : String} {u : Update} (hnew : ctx.updates.get id = none)
    (hgrows : Grows key ctx ctx₁)
    (hc : ctx₁.Closed) (hid : u.id = id) (hkeys : u.objectChangeKeys = [])
    (hdeps : ∀ d ∈ u.dependencies, ctx₁.Has key d)
    (h : Marked key ⟨ctx₁.updates.set id u⟩ ctx₂) (hhas : ctx₂.Has key id) : ctx₂.Closed ∧
      Grows key ctx ctx₂ := by
  have hself := OMap.get_set_self ctx₁.updates id u
  have hother : ∀ {x : String}, x ≠ id → (ctx₁.updates.set id u).get x = ctx₁.updates.get x :=
    fun hx => OMap.get_set_ne _ _ hx
  have hmarked : ∀ {d k : String}, ctx₁.Has k d → (d = id → k = key) → ctx₂.Has k d := by
    rintro d k ⟨v, hv, hk⟩ hkey
    by_cases hd : d = id
    · rw [hd, hkey hd]
      exact hhas
    · exact h.has ⟨v, (hother hd).trans hv, hk⟩
  have hold : ∀ {k : String}, ctx₁.Has k id → k = key := by
    rintro k ⟨v, hv, hk⟩
    by_contra hne
    obtain ⟨w, hw, -⟩ := hgrows.others hv k hk hne
    rw [hnew] at hw
    cases hw
  refine ⟨⟨fun {x u₂} hu₂ => ?_, fun {x u₂} hu₂ d hd => ?_⟩, fun {x v} hv => ?_,
    fun {x u₂} hu₂ k hk hne => ?_⟩
  · obtain ⟨v, hv, hsame, -⟩ := h.back hu₂
    by_cases hx : x = id
    · subst hx
      obtain rfl := Option.some.inj (hself.symm.trans hv)
      exact hsame.trans hid
    · exact hsame.trans (hc.ids ((hother hx).symm.trans hv))
  · obtain ⟨v, hv, -, hdepends, hkeys₂⟩ := h.back hu₂
    by_cases hx : x = id
    · subst hx
      obtain rfl := Option.some.inj (hself.symm.trans hv)
      refine exists_of_has (fun k hk => ?_)
        (hmarked (hdeps d (hdepends ▸ hd)) fun _ => rfl).exists_get
      have hk := (hkeys₂ k hk).resolve_left (by simp [hkeys])
      rw [hk]
      exact hmarked (hdeps d (hdepends ▸ hd)) fun _ => rfl
    · obtain ⟨w, hw, hkw⟩ := hc.closed ((hother hx).symm.trans hv) d (hdepends ▸ hd)
      have hthere : ∃ w', ctx₂.updates.get d = some w' := by
        by_cases hd : d = id
        · exact hd ▸ hhas.exists_get
        · obtain ⟨w', hw', -⟩ := h.forth ((hother hd).trans hw)
          exact ⟨w', hw'⟩
      refine exists_of_has (fun k hk => ?_) hthere
      by_cases hkv : k ∈ v.objectChangeKeys
      · have hkd : ctx₁.Has k d := ⟨w, hw, hkw k hkv⟩
        exact hmarked hkd fun hd => hold (hd ▸ hkd)
      · obtain rfl := (hkeys₂ k hk).resolve_left hkv
        refine h.fresh hu₂ hk ?_ d hd
        rintro ⟨v', hv', hkv'⟩
        obtain rfl := Option.some.inj (hv'.symm.trans hv)
        exact hkv hkv'
  · have hx : x ≠ id := by
      rintro rfl
      rw [hnew] at hv
      cases hv
    obtain ⟨v₁, hv₁, hkeys₁⟩ := hgrows.kept hv
    obtain ⟨v₂, hv₂, hkeys₂⟩ := h.forth ((hother hx).trans hv₁)
    exact ⟨v₂, hv₂, fun k hk => hkeys₂ k (hkeys₁ k hk)⟩
  · obtain ⟨v, hv, -, -, hkeys₂⟩ := h.back hu₂
    have hkv := (hkeys₂ k hk).resolve_right hne
    by_cases hx : x = id
    · subst hx
      obtain rfl := Option.some.inj (hself.symm.trans hv)
      rw [hkeys] at hkv
      cases hkv
    · exact hgrows.others ((hother hx).symm.trans hv) k hkv hne

/-- The end of `ensureUpdate`: the update is marked and returned. -/
theorem marked_of_ensure {id : String} {deps : List String} (hrun : (do
      let ctx ← (get : CM ComputeContext)
      addObjectKey key (ctx.updates.size + 1) id
      return [id]).run ctx = .ok deps ctx₁) : Marked key ctx ctx₁ ∧ ctx₁.Has key id ∧
        deps = [id] := by
  obtain ⟨_, _, hget, hrun⟩ := run_bind_ok.mp hrun
  obtain ⟨rfl, rfl⟩ := run_get_ok.mp hget
  obtain ⟨_, ctx₂, hadd, hrun⟩ := run_bind_ok.mp hrun
  obtain ⟨rfl, rfl⟩ := run_pure_ok.mp hrun
  obtain ⟨hmarked, hhas⟩ := addObjectKey_marked _ _ _ _ hadd
  exact ⟨hmarked, hhas, rfl⟩

theorem computes_ensureUpdate {id : String} {body : UpdateBody} {creator : CM (List String)}
    (h : Computes key creator) :
    Computes key (ensureUpdate key id body creator) := by
  intro ctx deps ctx' hc hrun
  obtain ⟨_, _, hget, hrun⟩ := run_bind_ok.mp hrun
  obtain ⟨rfl, rfl⟩ := run_get_ok.mp hget
  cases hthere : ctx.updates.has id with
  | true =>
    rw [hthere] at hrun
    obtain ⟨hmarked, hhas, rfl⟩ := marked_of_ensure hrun
    exact ⟨hmarked.closed hc, hmarked.grows, by simpa using hhas⟩
  | false =>
    rw [hthere] at hrun
    obtain ⟨dependencies, ctx₁, hcreator, hrun⟩ := run_bind_ok.mp hrun
    obtain ⟨_, ctx₂, hset, hrun⟩ := run_bind_ok.mp hrun
    obtain rfl := run_modify_ok.mp hset
    obtain ⟨hmarked, hhas, rfl⟩ := marked_of_ensure hrun
    obtain ⟨hc₁, hgrows, hdeps⟩ := h _ _ _ hc hcreator
    obtain ⟨hclosed, hgrows'⟩ :=
      Marked.created (OMap.has_eq_false.mp hthere) hgrows hc₁ rfl rfl hdeps hmarked hhas
    exact ⟨hclosed, hgrows', by simpa using hhas⟩

end ComputeContext

open ComputeContext

section Compute

variable {s : ProjectModel} {key : String}

theorem computes_bindingDelete (b : Ref) : Computes key (computeBindingDelete s key b) :=
    computes_ensureUpdate computes_nil

/-- The functions that follow the exports of templates, by the depth of the walk. -/
theorem computes_clear (fuel : Nat) :
    (∀ c configId, Computes key (computeComponentClearConfig s key fuel c configId)) ∧
    (∀ c memberName, Computes key (computeComponentClearMember s key fuel c memberName)) ∧
    ∀ t exportType exportId,
      Computes key (computeTemplateExportDelete s key fuel t exportType exportId) := by
  induction fuel with
  | zero =>
    refine ⟨fun c configId => ?_, fun c memberName => ?_, fun t exportType exportId => ?_⟩
    · rw [computeComponentClearConfig]
      exact computes_throw _
    · rw [computeComponentClearMember]
      exact computes_throw _
    · rw [computeTemplateExportDelete]
      exact computes_throw _
  | succ fuel ih =>
    obtain ⟨hconfig, hmember, hexport⟩ := ih
    refine ⟨fun c configId => ?_, fun c memberName => ?_, fun t exportType exportId => ?_⟩
    · rw [computeComponentClearConfig]
      exact computes_ensureUpdate (computes_collect fun e _ => hexport _ _ _)
    · rw [computeComponentClearMember]
      exact computes_orThrow fun bindings =>
        (computes_collect fun b _ => computes_bindingDelete b).append
          (computes_collect fun e _ => hexport _ _ _)
    · rw [computeTemplateExportDelete]
      refine computes_ensureUpdate (computes_collect fun c _ => ?_)
      cases exportType with
      | config => exact hconfig c exportId
      | member => exact hmember c exportId

theorem computes_updateMember (fuel : Nat) :
    (∀ c memberName, Computes key (computeComponentUpdateMember s key fuel c memberName)) ∧
    ∀ t exportId, Computes key (computeTemplateUpdateMemberExport s key fuel t exportId) := by
  induction fuel with
  | zero =>
    refine ⟨fun c memberName => ?_, fun t exportId => ?_⟩
    · rw [computeComponentUpdateMember]
      exact computes_throw _
    · rw [computeTemplateUpdateMemberExport]
      exact computes_throw _
  | succ fuel ih =>
    refine ⟨fun c memberName => ?_, fun t exportId => ?_⟩
    · rw [computeComponentUpdateMember]
      exact computes_orThrow fun bindings =>
        (computes_collect fun b _ => computes_bindingDelete b).append
          (computes_collect fun e _ => ih.2 _ _)
    · rw [computeTemplateUpdateMemberExport]
      exact computes_collect fun c _ => ih.1 c exportId

theorem computes_resetConfigUnsafe (c : Ref) (configId : String) :
    Computes key (computeComponentResetConfigUnsafe s key c configId) :=
      computes_ensureUpdate computes_nil

theorem computes_resetConfig (fuel : Nat) (c : Ref) (configId : String) :
    Computes key (computeComponentResetConfig s key fuel c configId) := by
  induction fuel generalizing c configId with
  | zero => exact computes_throw _
  | succ fuel ih =>
    rw [computeComponentResetConfig]
    split
    · exact computes_collect fun x _ => ih x _
    · exact computes_resetConfigUnsafe c configId

theorem computes_componentDelete (fuel : Nat) (c : Ref) :
    Computes key (computeComponentDelete s key fuel c) :=
  computes_ensureUpdate ((computes_collect fun b _ => computes_bindingDelete b).append
    (computes_collect fun _ _ => (computes_clear fuel).2.2 _ _ _))

theorem computes_pluginDelete (fuel : Nat) (p : Ref) :
    Computes key (computePluginDelete s key fuel p) :=
  computes_ensureUpdate (computes_collect fun c _ => computes_componentDelete fuel c)

theorem computes_configChange (fuel : Nat) (components : List Ref) (entry : String × ChangeType) :
    Computes key (computeConfigChange s key fuel components entry) := by
  unfold computeConfigChange
  split
  · exact computes_collect fun c _ => computes_resetConfig fuel c _
  · exact computes_collect fun c _ => computes_resetConfig fuel c _
  · exact computes_collect fun c _ => (computes_clear fuel).1 c _

theorem computes_memberChange (fuel : Nat) (p : Ref) (plugin : NetPlugin) (components : List Ref)
    (entry : String × ChangeType) :
      Computes key (computeMemberChange s key fuel p plugin components entry) := by
  unfold computeMemberChange
  split
  · exact computes_nil
  · refine computes_orThrow fun actualMember => ?_
    split
    · exact computes_throw _
    · split
      · exact computes_collect fun c _ => (computes_updateMember fuel).1 c _
      · exact computes_nil
  · exact computes_collect fun c _ => (computes_clear fuel).2.1 c _

theorem computes_pluginSet (fuel : Nat) (importData : PluginImport) (change : ObjectChange)
    (config members : OMap String ChangeType) :
      Computes key (computePluginSet s key fuel importData change config members) := by
  refine computes_ensureUpdate ?_
  split
  · exact computes_orThrow fun p =>
      (computes_collect fun e _ => computes_configChange fuel _ e).append
      (computes_collect fun e _ => computes_memberChange fuel p _ _ e)
  · exact computes_nil

theorem computes_componentSet (fuel : Nat) (importData : ComponentImport) :
    Computes key (computeComponentSet s key fuel importData) := by
  unfold computeComponentSet
  exact computes_ite (computes_ensureUpdate computes_nil) computes_nil

end Compute

theorem computes_change (fuel : Nat) (imports : ImportData) (s : ProjectModel)
    (change : ObjectChange) :
    Computes change.key (computeChange fuel imports s change) := by
  unfold computeChange
  split
  · exact computes_orThrow fun c => computes_componentDelete fuel c
  · split
    · exact computes_throw _
    · exact computes_componentSet fuel _
  · exact computes_orThrow fun p => computes_pluginDelete fuel p
  · split
    · exact computes_throw _
    · exact computes_pluginSet fuel _ change _ _
  · next exportType exportId _ _ =>
    refine computes_orThrow fun t => ?_
    have hexport : Computes change.key
        (computeTemplateExportDelete s change.key fuel t exportType exportId) :=
      (computes_clear fuel).2.2 t exportType exportId
    cases exportType with
    | config =>
      dsimp only
      split
      · exact fun _ _ _ _ h => (run_throw_ok.mp (run_bind_ok.mp h).choose_spec.choose_spec.1).elim
      · exact computes_orThrow fun c => (computes_resetConfigUnsafe c _).then hexport
    | member => exact hexport
  · exact computes_throw _
  · exact computes_throw _

/-- After the first pass the updates are closed under dependencies. -/
theorem computeUpdates_closed {fuel : Nat} {imports : ImportData} {s : ProjectModel}
    {changes : List ObjectChange}
    {ctx : ComputeContext} (h : (computeUpdates fuel imports s changes).run ⟨∅⟩ = .ok ⟨⟩ ctx) :
      ctx.Closed := by
  refine forEach_invariant (P := Closed) (fun change _ ctx ctx' hc hrun => ?_) ⟨fun h => ?_,
    fun h => ?_⟩ h
  · obtain ⟨deps, hrun⟩ := run_discard_ok.mp hrun
    exact (computes_change fuel imports s change _ _ _ hc hrun).1
  · cases h
  · cases h

/-! ## The second pass -/

/-- The keys that are copied, each from a key, in their order. -/
def copies (changes : List ObjectChange) : List (String × String) :=
  changes.flatMap fun change => change.dependencies.map fun sourceKey => (sourceKey, change.key)

theorem applyObjectDependencies_eq (ctx : ComputeContext) (changes : List ObjectChange) :
    applyObjectDependencies ctx changes =
      (copies changes).foldl (fun ctx e => ctx.copyObjectChangeKey e.1 e.2) ctx := by
  induction changes generalizing ctx with
  | nil => rfl
  | cons change changes ih =>
    rw [copies, List.flatMap_cons, List.foldl_append, List.foldl_map, ← copies, ← ih]
    rfl

namespace ComputeContext

variable {ctx : ComputeContext} {sourceKey targetKey : String}

theorem get_copyObjectChangeKey (ctx : ComputeContext) (sourceKey targetKey id : String) :
    (ctx.copyObjectChangeKey sourceKey targetKey).updates.get id =
      (ctx.updates.get id).map fun update =>
      if sourceKey ∈ update.objectChangeKeys ∧ targetKey ∉ update.objectChangeKeys then
        { update with objectChangeKeys := update.objectChangeKeys ++ [targetKey] }
      else update := OMap.get_mapVal _ _ _

/-- A copy of a key changes the keys only. -/
theorem exists_of_copied {id : String} {u' : Update}
    (h : (ctx.copyObjectChangeKey sourceKey targetKey).updates.get id = some u') :
    ∃ u, ctx.updates.get id = some u ∧ u'.id = u.id ∧ u'.dependencies = u.dependencies ∧
      ∀ k, k ∈ u'.objectChangeKeys ↔ k ∈ u.objectChangeKeys ∨ k = targetKey ∧
        sourceKey ∈ u.objectChangeKeys := by
  rw [get_copyObjectChangeKey, Option.map_eq_some_iff] at h
  obtain ⟨u, hu, rfl⟩ := h
  refine ⟨u, hu, ?_⟩
  split
  · next hkeys =>
    refine ⟨rfl, rfl, fun k => ?_⟩
    simp [hkeys.1]
  · next hkeys =>
    refine ⟨rfl, rfl, fun k => ⟨.inl, ?_⟩⟩
    rintro (hk | ⟨rfl, hsource⟩)
    · exact hk
    · by_contra hnot
      exact hkeys ⟨hsource, hnot⟩

theorem has_copy {k id : String} : (ctx.copyObjectChangeKey sourceKey targetKey).Has k id ↔
    ctx.Has k id ∨ k = targetKey ∧ ctx.Has sourceKey id := by
  constructor
  · rintro ⟨u', hu', hk⟩
    obtain ⟨u, hu, -, -, hkeys⟩ := exists_of_copied hu'
    rcases (hkeys k).mp hk with hk | ⟨hk, hsource⟩
    · exact .inl ⟨u, hu, hk⟩
    · exact .inr ⟨hk, u, hu, hsource⟩
  · intro h
    obtain ⟨u, hu⟩ : ∃ u, ctx.updates.get id = some u := by
      rcases h with h | ⟨-, h⟩ <;> exact h.exists_get
    have hu' := get_copyObjectChangeKey ctx sourceKey targetKey id
    rw [hu, Option.map_some] at hu'
    obtain ⟨v, hv, -, -, hkeys⟩ := exists_of_copied hu'
    obtain rfl := Option.some.inj (hv.symm.trans hu)
    refine ⟨_, hu', (hkeys k).mpr ?_⟩
    rcases h with ⟨w, hw, hk⟩ | ⟨hk, w, hw, hk'⟩
    · obtain rfl := Option.some.inj (hw.symm.trans hu)
      exact .inl hk
    · obtain rfl := Option.some.inj (hw.symm.trans hu)
      exact .inr ⟨hk, hk'⟩

theorem Closed.copy (h : ctx.Closed) (sourceKey targetKey : String) :
    (ctx.copyObjectChangeKey sourceKey targetKey).Closed where
  ids hu' := by
    obtain ⟨u, hu, hid, -⟩ := exists_of_copied hu'
    exact hid.trans (h.ids hu)
  closed {id u'} hu' d hd := by
    obtain ⟨u, hu, -, hdeps, hkeys⟩ := exists_of_copied hu'
    obtain ⟨v, hv, hkv⟩ := h.closed hu d (hdeps ▸ hd)
    refine exists_of_has (fun k hk => has_copy.mpr ?_) ⟨_, by rw [get_copyObjectChangeKey, hv]; rfl⟩
    rcases (hkeys k).mp hk with hk | ⟨hk, hsource⟩
    · exact .inl ⟨v, hv, hkv k hk⟩
    · exact .inr ⟨hk, v, hv, hkv _ hsource⟩

/-- The same of the list of the updates. -/
theorem Closed.values (h : ctx.Closed) : ∀ u ∈ ctx.updates.values, ∀ d ∈ u.dependencies,
    (∃ u' ∈ ctx.updates.values, u'.id = d) ∧
      ∀ u' ∈ ctx.updates.values, u'.id = d → ∀ k ∈ u.objectChangeKeys, k ∈ u'.objectChangeKeys := by
  intro u hu d hd
  obtain ⟨id, hid⟩ := OMap.mem_values.mp hu
  obtain ⟨v, hv, hkeys⟩ := h.closed hid d hd
  refine ⟨⟨v, OMap.mem_values.mpr ⟨d, hv⟩, h.ids hv⟩, fun u' hu' hid' k hk => ?_⟩
  obtain ⟨id', hget⟩ := OMap.mem_values.mp hu'
  rw [← h.ids hget, hid', hv] at hget
  obtain rfl := Option.some.inj hget
  exact hkeys k hk

theorem Closed.copies {l : List (String × String)} (h : ctx.Closed) :
    (l.foldl (fun ctx e => ctx.copyObjectChangeKey e.1 e.2) ctx).Closed := by
  induction l generalizing ctx with
  | nil => exact h
  | cons e l ih => exact ih (h.copy e.1 e.2)

/-- A copy goes with its key as long as no later copy gives that key to more updates. -/
theorem follows_of_copies {l : List (String × String)}
    (hordered : l.Pairwise fun e e' => e'.2 = e.1 → e.1 = e.2) :
    ∀ e ∈ l, ∀ id, (l.foldl (fun ctx e => ctx.copyObjectChangeKey e.1 e.2) ctx).Has e.1 id →
      (l.foldl (fun ctx e => ctx.copyObjectChangeKey e.1 e.2) ctx).Has e.2 id := by
  have hkept : ∀ {l : List (String × String)} {ctx : ComputeContext} {e : String × String},
      (∀ e' ∈ l, e'.2 = e.1 → e.1 = e.2) → (∀ id, ctx.Has e.1 id → ctx.Has e.2 id) → ∀ id,
      (l.foldl (fun ctx e => ctx.copyObjectChangeKey e.1 e.2) ctx).Has e.1 id →
      (l.foldl (fun ctx e => ctx.copyObjectChangeKey e.1 e.2) ctx).Has e.2 id := by
    intro l
    induction l with
    | nil => exact fun _ h => h
    | cons e' l ih =>
      intro ctx e hlater h
      rw [List.forall_mem_cons] at hlater
      refine ih hlater.2 fun id hhas => ?_
      rcases has_copy.mp hhas with hhas' | ⟨hkey, -⟩
      · exact has_copy.mpr (.inl (h id hhas'))
      · exact hlater.1 hkey.symm ▸ hhas
  induction l generalizing ctx with
  | nil => simp
  | cons e l ih =>
    rw [List.pairwise_cons] at hordered
    simp only [List.foldl_cons]
    refine List.forall_mem_cons.mpr ⟨hkept hordered.1 fun id hhas => has_copy.mpr (.inr ⟨rfl, ?_⟩),
      ih hordered.2⟩
    rcases has_copy.mp hhas with hhas | ⟨-, hhas⟩ <;> exact hhas

end ComputeContext

/-- No change comes before one that it depends on, unless that one depends on nothing. -/
def Ordered (changes : List ObjectChange) : Prop :=
  changes.Pairwise fun c c' => c'.key ∈ c.dependencies → c'.dependencies = []

theorem Ordered.copies {changes : List ObjectChange} (h : Ordered changes) :
    (copies changes).Pairwise fun e e' => e'.2 = e.1 → e.1 = e.2 := by
  rw [Import.copies, List.pairwise_flatMap]
  refine ⟨fun c _ => ?_, h.imp fun {c c'} hc e he e' he' hkey => ?_⟩
  · rw [List.pairwise_map]
    exact List.pairwise_of_forall fun d d' hkey => hkey.symm
  · obtain ⟨d, hd, rfl⟩ := List.mem_map.mp he
    obtain ⟨d', hd', rfl⟩ := List.mem_map.mp he'
    have hkey : c'.key = d := hkey
    rw [hc (hkey ▸ hd)] at hd'
    cases hd'

/-! ### The changes of an import -/

/-- The changes of plugins have no dependencies, and keys of their own. -/
theorem of_mem_preparePluginUpdates {imports : ImportData} {s : ProjectModel}
    {change : ObjectChange} (h : change ∈ preparePluginUpdates imports s) :
    change.body.isPlugin = true ∧ change.body.isComponent = false ∧ change.dependencies = [] ∧
      change.key.toList.head? = some 'p' := by
  rw [preparePluginUpdates, List.mem_append, List.mem_flatMap, List.mem_map] at h
  rcases h with ⟨plugin, -, h⟩ | ⟨e, -, rfl⟩
  · unfold pluginImportChange at h
    split at h
    · obtain rfl := List.mem_singleton.mp h
      exact ⟨rfl, rfl, rfl, by simp [addPluginChange]⟩
    · split at h
      · cases h
      · obtain rfl := List.mem_singleton.mp h
        exact ⟨rfl, rfl, rfl, by simp [updatePluginChange]⟩
  · exact ⟨rfl, rfl, rfl, by simp [removePluginChange]⟩

theorem of_mem_prepareComponentUpdates {imports : ImportData} {s : ProjectModel}
    {change : ObjectChange} (h : change ∈ prepareComponentUpdates imports s) :
    change.body.isPlugin = false ∧ change.dependencies = [] ∧
      change.key.toList.head? = some 'c' := by
  rw [prepareComponentUpdates, List.mem_append, List.mem_flatMap, List.mem_flatMap] at h
  rcases h with ⟨component, -, h⟩ | ⟨e, -, h⟩
  · unfold componentImportChange at h
    split at h
    · obtain rfl := List.mem_singleton.mp h
      exact ⟨rfl, rfl, by simp [addComponentChange]⟩
    · split at h
      · cases h
      · obtain rfl := List.mem_singleton.mp h
        exact ⟨rfl, rfl, by simp [updateComponentChange]⟩
  · obtain ⟨c, -, rfl⟩ := List.mem_map.mp h
    exact ⟨rfl, rfl, by simp [removeComponentChange]⟩

theorem exists_of_pluginsChangesKeyById {changes : List ObjectChange} {id key : String}
    (h : (pluginsChangesKeyById changes).get id = some key) : ∃ change ∈
      changes, change.body.isPlugin = true ∧ change.key = key := by
  have hfold : ∀ {l : List ObjectChange} {m : OMap String String},
      (l.foldl (fun m change => m.set change.id change.key) m).get id = some key →
      m.get id = some key ∨ ∃ change ∈ l, change.key = key := by
    intro l
    induction l with
    | nil => exact fun h => .inl h
    | cons change l ih =>
      intro m h
      rcases ih h with h | ⟨change', hmem, hkey⟩
      · rcases OMap.get_set_eq_some.mp h with ⟨-, rfl⟩ | ⟨-, h⟩
        · exact .inr ⟨change, List.mem_cons_self, rfl⟩
        · exact .inl h
      · exact .inr ⟨change', List.mem_cons_of_mem _ hmem, hkey⟩
  rcases hfold h with h | ⟨change, hmem, hkey⟩
  · cases h
  · exact ⟨change, (List.mem_filter.mp hmem).1, (List.mem_filter.mp hmem).2, hkey⟩

/-- Only changes of components depend on others, and those are changes of plugins. -/
theorem of_mem_prepareChanges {imports : ImportData} {s : ProjectModel} {change : ObjectChange}
    (h : change ∈ prepareChanges imports s) :
    (∀ d ∈ change.dependencies, d.toList.head? = some 'p') ∧
      (change.dependencies = [] ∨ change.key.toList.head? = some 'c') := by
  rw [prepareChanges, lookupDependencies, List.mem_map] at h
  obtain ⟨change, hmem, rfl⟩ := h
  have hbase : change.dependencies = [] := by
    rcases List.mem_append.mp hmem with hmem | hmem
    · exact (of_mem_preparePluginUpdates hmem).2.2.1
    · exact (of_mem_prepareComponentUpdates hmem).2.1
  have hsame : (∀ d ∈ change.dependencies, d.toList.head? = some 'p') ∧
      (change.dependencies = [] ∨ change.key.toList.head? = some 'c') :=
        ⟨by simp [hbase], .inl hbase⟩
  split
  · next hcomponent =>
    split
    · exact hsame
    · split
      · exact hsame
      · next pluginKey hkey =>
        obtain ⟨plugin, hplugin, hisPlugin, rfl⟩ := exists_of_pluginsChangesKeyById hkey
        refine ⟨fun d hd => ?_, .inr ?_⟩
        · rw [hbase, List.nil_append, List.mem_singleton] at hd
          rw [hd]
          rcases List.mem_append.mp hplugin with hplugin | hplugin
          · exact (of_mem_preparePluginUpdates hplugin).2.2.2
          · rw [(of_mem_prepareComponentUpdates hplugin).1] at hisPlugin
            cases hisPlugin
        · rcases List.mem_append.mp hmem with hmem | hmem
          · rw [(of_mem_preparePluginUpdates hmem).2.1] at hcomponent
            cases hcomponent
          · exact (of_mem_prepareComponentUpdates hmem).2.2
  · exact hsame

theorem ordered_prepareChanges (imports : ImportData) (s : ProjectModel) :
    Ordered (prepareChanges imports s) := by
  refine List.Pairwise.imp_of_mem (R := fun _ _ => True) (fun {c c'} hc hc' _ hkey => ?_)
    (List.pairwise_of_forall fun _ _ => trivial)
  rcases (of_mem_prepareChanges hc').2 with hnone | hhead
  · exact hnone
  · rw [(of_mem_prepareChanges hc).1 _ hkey] at hhead
    cases hhead

/-! ## The updates of a selection -/

theorem mem_appliedUpdates {updates : List Update} {selection : List String} {u : Update} :
    u ∈ appliedUpdates updates selection ↔ u ∈ updates ∧ isSelected selection u = true := by
  have horder : ∀ type : UpdateType, type ∈ order := fun type => by cases type <;> decide
  simp only [appliedUpdates, List.mem_flatMap, List.mem_filter, decide_eq_true_eq]
  constructor
  · rintro ⟨type, -, hu, -⟩
    exact hu
  · intro hu
    exact ⟨u.body.type, horder _, hu, rfl⟩

theorem computeObjectImpacts_copies {ctx : ComputeContext} {changes changes' : List ObjectChange}
    (h : computeObjectImpacts ctx changes = .ok changes') : copies changes' = copies changes := by
  have hsame := (mapM_ok h).imp (S := fun c c' => c'.dependencies.map (fun d => (d, c'.key)) =
    c.dependencies.map fun d => (d, c.key))
    fun c c' hc => by
      obtain ⟨impacts, -, hc⟩ := except_bind_ok.mp hc
      obtain rfl := Except.ok.inj hc
      rfl
  clear h
  induction hsame with
  | nil => rfl
  | cons hc _ ih =>
    rw [copies, List.flatMap_cons, hc, ← copies, ih]
    rfl

/-- The updates carry the keys of those that need them. The second part asks that no change
comes before one that it depends on and that depends on others, which is so for the changes of
an import. -/
theorem selected_updates_closed {fuel : Nat} {imports : ImportData} {s : ProjectModel}
    {changes changes' : List ObjectChange}
    {updates : List Update} (h : buildUpdates fuel imports s changes = .ok (updates, changes')) :
    (∀ u ∈ updates, ∀ d ∈ u.dependencies, (∃ u' ∈ updates, u'.id = d) ∧
      ∀ u' ∈ updates, u'.id = d → ∀ k ∈ u.objectChangeKeys, k ∈ u'.objectChangeKeys) ∧
    (Ordered changes → ∀ c ∈ changes, ∀ d ∈ changes, d.key ∈ c.dependencies → ∀ u ∈ updates,
      d.key ∈ u.objectChangeKeys → c.key ∈ u.objectChangeKeys) ∧
    Ordered (prepareChanges imports s) ∧
    ∀ selection, ∀ u ∈ appliedUpdates updates selection, ∀ d ∈ u.dependencies,
      ∃ u' ∈ appliedUpdates updates selection, u'.id = d := by
  unfold buildUpdates at h
  split at h
  · cases h
  · next ctx hrun =>
    obtain ⟨changes'', himpacts, h⟩ := except_bind_ok.mp h
    obtain ⟨rfl, rfl⟩ := Prod.mk.inj (Except.ok.inj h)
    rw [applyObjectDependencies_eq, computeObjectImpacts_copies himpacts]
    have hclosed := (computeUpdates_closed hrun).copies (l := copies changes)
    refine ⟨hclosed.values, fun hordered c hc d hd hkey u hu hku => ?_,
      ordered_prepareChanges imports s, fun selection u hu d hd => ?_⟩
    · obtain ⟨id, hid⟩ := OMap.mem_values.mp hu
      have hcopy : (d.key, c.key) ∈ copies changes :=
        List.mem_flatMap.mpr ⟨c, hc, List.mem_map.mpr ⟨d.key, hkey, rfl⟩⟩
      obtain ⟨u', hu', hku'⟩ := follows_of_copies hordered.copies _ hcopy id ⟨u, hid, hku⟩
      obtain rfl := Option.some.inj (hu'.symm.trans hid)
      exact hku'
    · obtain ⟨hu, hselected⟩ := mem_appliedUpdates.mp hu
      obtain ⟨⟨u', hu', hid⟩, hkeys⟩ := hclosed.values u hu d hd
      obtain ⟨k, hk, hselected⟩ := List.any_eq_true.mp hselected
      exact ⟨u', mem_appliedUpdates.mpr ⟨hu',
        List.any_eq_true.mpr ⟨k, hkeys u' hu' hid k hk, hselected⟩⟩, hid⟩

/-! A blind and the plugin of its motor, imported into an empty project. -/

def blindPlugin (name : String) : PluginImport where
  id := "i:io." ++ name
  instanceName := "i"
  plugin := { name, module := "io", usage := .actuator, version := "1.0.0", description := "",
              members := ∅, config := ∅ }

def blindImport : ImportData where
  plugins := [blindPlugin "blind", blindPlugin "motor"]
  components := [{ id := "window", pluginId := "i:io.blind", external := false, config := some ∅ }]

/-- A project with one blind, and an import that gives its plugin a new config item and adds a
second blind. -/
def windowModel : ProjectModel :=
  (ProjectModel.empty.addPlugin "i:io.blind"
      { (blindPlugin "blind").plugin with
        instanceName := "i", toolboxDisplay := .show }).addComponent
    none "window" (.plugin 1)
    { definition := { type := .plugin, id := "i:io.blind" }, position := { x := 1, y := 1 },
      config := some ∅, external := false }

def speedImport : ImportData where
  plugins := [{ blindPlugin "blind" with
    plugin := { (blindPlugin "blind").plugin with
      version := "1.1.0"
      config := .ofList [("speed", { description := "", valueType := .integer })] } }]
  components := ["window", "door"].map fun id =>
    { id, pluginId := "i:io.blind", external := false, config := some ∅ }

/-- The plugin of the new component is set with it, and the config of the old one reset before. -/
theorem selected_updates_closed_blind : ∃ updates changes',
    buildUpdates 10 speedImport windowModel (prepareChanges speedImport windowModel) =
      .ok (updates, changes') ∧
    (updates.map fun u => (u.id, u.dependencies)) =
      [("component-reset-config::window:speed", []),
        ("plugin-set:i:io.blind", ["component-reset-config::window:speed"]),
          ("component-set::door", [])] ∧
    (appliedUpdates updates ["component-set:door"]).length = 3 ∧
    ∀ u ∈ appliedUpdates updates ["component-set:door"], ∀ d ∈ u.dependencies,
      ∃ u' ∈ appliedUpdates updates ["component-set:door"], u'.id = d := by
  have h : buildUpdates 10 speedImport windowModel (prepareChanges speedImport windowModel) =
    .ok _ := rfl
  exact ⟨_, _, h, by decide +kernel, by decide +kernel, (selected_updates_closed h).2.2.2 _⟩

/-- Changes that depend on each other along a chain, the last one first. -/
def chainedChanges : List ObjectChange :=
  [{ addComponentChange { id := "window", pluginId := "i:io.blind", external := false,
                          config := some ∅ } (some "i") with
       dependencies := ["plugin-set:i:io.blind"] },
    { addPluginChange (blindPlugin "blind") with dependencies := ["plugin-set:i:io.motor"] },
    addPluginChange (blindPlugin "motor")]

/-- The motor carries the key of the blind, which the component depends on, and not that of the
component: its copy was made before. -/
theorem key_not_copied_along_chain : ∃ updates changes',
    buildUpdates 10 blindImport .empty chainedChanges = .ok (updates, changes') ∧
    (updates.map fun u => (u.id, u.objectChangeKeys)) =
      [("component-set::window", ["component-set:window"]),
        ("plugin-set:i:io.blind", ["plugin-set:i:io.blind", "component-set:window"]),
        ("plugin-set:i:io.motor", ["plugin-set:i:io.motor", "plugin-set:i:io.blind"])] :=
  ⟨_, _, rfl, by decide +kernel⟩

end MylifeHome.Studio.Core.Import
