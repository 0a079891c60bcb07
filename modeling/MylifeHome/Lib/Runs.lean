import Mathlib.Data.List.SplitBy
import Mathlib.Data.List.Induction

/-!
# Runs of related items

A list is cut into its maximal runs of related neighbours, and each run is merged into one
item. What one more item at the end does to that.
-/
namespace MylifeHome.Lib.Runs

variable {α β : Type*}

/-- The items of a run, merged from the left. -/
def mergeRun (merge : β → β → β) (value : α → β) : List α → Option β
  | [] => none
  | a :: l => some (l.foldl (fun b x => merge b (value x)) (value a))

/-- The maximal runs of related neighbours, each merged into one item. -/
def merged (related : α → α → Bool) (merge : β → β → β) (value : α → β) (l : List α) : List β :=
  (l.splitBy related).filterMap (mergeRun merge value)

variable {related : α → α → Bool} {merge : β → β → β} {value : α → β} {l : List α} {x last : α}

theorem mergeRun_concat {b : β} (h : mergeRun merge value l = some b) (x : α) :
    mergeRun merge value (l ++ [x]) = some (merge b (value x)) := by
  cases l with
  | nil => cases h
  | cons a l =>
    cases h
    rw [List.cons_append, mergeRun, List.foldl_append]
    rfl

/-- The last run of a list, and what is before it. -/
structure LastRun (related : α → α → Bool) (l before run : List α) : Prop where
  eq : l = before ++ run
  ne_nil : run ≠ []
  chain : run.IsChain fun a b => related a b = true
  cut : ∀ a ∈ before.getLast?, ∀ b ∈ run.head?, related a b = false

namespace LastRun

variable {before run : List α}

theorem splitBy (h : LastRun related l before run) :
    l.splitBy related = before.splitBy related ++ [run] := by
  rw [h.eq, List.splitBy_append h.cut, List.splitBy_of_isChain h.ne_nil h.chain]

theorem concat (h : LastRun related l before run) (hlast : l.getLast? = some last)
    (hx : related last x = true) :
    LastRun related (l ++ [x]) before (run ++ [x]) where
  eq := by rw [h.eq, List.append_assoc]
  ne_nil := by simp
  chain := by
    refine List.isChain_append.mpr ⟨h.chain, by simp, fun b hb c hc => ?_⟩
    rw [h.eq, List.getLast?_append_of_ne_nil _ h.ne_nil] at hlast
    rw [hlast] at hb
    cases hb
    simp only [List.head?_cons, Option.mem_some_iff] at hc
    exact hc ▸ hx
  cut a ha b hb := by
    rw [List.head?_append_of_ne_nil _ h.ne_nil] at hb
    exact h.cut a ha b hb

end LastRun

theorem exists_lastRun (related : α → α → Bool) (hl : l ≠ []) :
    ∃ before run, LastRun related l before run := by
  induction l using List.reverseRecOn with
  | nil => exact absurd rfl hl
  | append_singleton l x ih =>
    cases hlast : l.getLast? with
    | none => exact ⟨l, [x], rfl, by simp, by simp, by simp [hlast]⟩
    | some last =>
      cases hx : related last x with
      | false => exact ⟨l, [x], rfl, by simp, by simp, by simpa [hlast] using hx⟩
      | true =>
        have hnil : l ≠ [] := by
          rintro rfl
          cases hlast
        obtain ⟨before, run, h⟩ := ih hnil
        exact ⟨before, run ++ [x], h.concat hlast hx⟩

/-- An item that is related to the last one goes into its run. -/
theorem merged_concat_related (hlast : l.getLast? = some last) (hx : related last x = true) :
    ∃ before b, merged related merge value l = before ++ [b] ∧
      merged related merge value (l ++ [x]) = before ++ [merge b (value x)] := by
  have hl : l ≠ [] := by
    rintro rfl
    cases hlast
  obtain ⟨before, run, h⟩ := exists_lastRun related hl
  obtain ⟨b, hb⟩ : ∃ b, mergeRun merge value run = some b := by
    obtain ⟨a, rest, rfl⟩ := List.exists_cons_of_ne_nil h.ne_nil
    exact ⟨_, rfl⟩
  refine ⟨(before.splitBy related).filterMap (mergeRun merge value), b, ?_, ?_⟩
  · rw [merged, h.splitBy, List.filterMap_append, List.filterMap_cons, hb]
    rfl
  · rw [merged, (h.concat hlast hx).splitBy, List.filterMap_append, List.filterMap_cons,
      mergeRun_concat hb]
    rfl

/-- An item that is not related to the last one starts a new run. -/
theorem merged_concat_new (h : ∀ a ∈ l.getLast?, related a x = false) :
    merged related merge value (l ++ [x]) = merged related merge value l ++ [value x] := by
  rw [merged, List.splitBy_append_cons [] h, List.filterMap_append]
  rfl

end MylifeHome.Lib.Runs
