import MylifeHome.Lib.Effect
import MylifeHome.Lib.Graph
import MylifeHome.Lib.OMap
import MylifeHome.Lib.Path

/-!
# Recipes

`deploy/recipe.ts`: a recipe is made from its file, with the recipes that it includes. The
recursion over the included recipes is bounded by a stack depth.
-/
namespace MylifeHome.Studio.Deploy.Recipe

open MylifeHome.Lib Relation

inductive Err where
  | error (message : String)
  | typeError
  | syntaxError
  | stackOverflow
  deriving DecidableEq, Repr

/-- A value of a parameter: a text, or something else with its `typeof`. -/
inductive Value where
  | string (text : String)
  | other (type : String)
  deriving DecidableEq

def Value.typeof : Value → String
  | .string _ => "string"
  | .other type => type

/-- The description of a parameter, in the metadata of a task. -/
structure Parameter where
  name : String
  type : String
  default : Option Value

inductive StepConfig where
  | task (task : String) (parameters : OMap String Value)
  | recipe (recipe : String)
  | unknown (type : String)

/-- The steps of a file, with their `enabled`; `none` for a file that is not JSON. -/
abbrev File := Option (List (Bool × StepConfig))

/-- What the constructor reads: the directory of the recipes, the files by their full names, the
tasks by their names, and `toUpperCase` of a character. -/
structure Env where
  recipes : String
  files : OMap String File
  tasks : OMap String (List Parameter)
  toUpperCase : Char → String

inductive Step where
  | task (task : String) (parameters : OMap String Value)
  | recipe (id : String) (steps : List Step)

/-! ## Construction -/

section Construct

variable (env : Env)

def makeUpperCamelCase (name : String) : Except Err String := do
  let parts ← (Text.split name '-').mapM fun part =>
    match part.toList with
    | [] => .error .typeError
    | c :: l => .ok (env.toUpperCase c ++ String.ofList l)
  return String.join parts

/-- A parameter of a task is checked, or set to its default. -/
def checkParameter (parameters : OMap String Value) (d : Parameter) :
    Except Err (OMap String Value) :=
  match parameters.get d.name, d.default with
  | some value, _ => if value.typeof = d.type then .ok parameters
    else .error (.error ("Bad parameter type : " ++ d.name))
  | none, some value => .ok (parameters.set d.name value)
  | none, none => .error (.error ("Missing parameter : " ++ d.name))

/-- The constructor of `TaskStep`. -/
def taskStep (task : String) (parameters : OMap String Value) : Except Err Step := do
  let name ← makeUpperCamelCase env task
  match env.tasks.get name with
  | none => throw (.error ("Task does not exist : " ++ task))
  | some definitions => return .task name (← definitions.foldlM checkParameter parameters)

def fullname (id : String) : String := Path.join env.recipes (id ++ ".json")

/-- `new StepType(step)` -/
def constructStep (make : String → Except Err (List Step)) : StepConfig → Except Err Step
  | .task task parameters => taskStep env task parameters
  | .recipe recipe => (make recipe).map (.recipe recipe)
  | .unknown type => .error (.error ("Unknown step type : " ++ type))

/-- The constructor of `Recipe`: its steps. -/
def load : Nat → String → Except Err (List Step)
  | 0, _ => .error .stackOverflow
  | fuel + 1, id =>
    match env.files.get (fullname env id) with
    | none => .error (.error ("No such recipe : '" ++ id ++ "'"))
    | some none => .error .syntaxError
    | some (some steps) => (steps.filter Prod.fst).mapM fun step =>
      constructStep env (load fuel) step.2

end Construct

/-! ## Inclusion -/

section Inclusion

variable {env : Env} {fuel : Nat} {id : String}

/-- A step that can be made: the task is there with the parameters that it asks for, or the recipe
is there with steps that can all be made. -/
inductive Made (env : Env) : StepConfig → Prop
  | task {task : String} {parameters : OMap String Value} {step : Step}
      (h : taskStep env task parameters = .ok step) : Made env (.task task parameters)
  | recipe {id : String} {steps : List (Bool × StepConfig)}
      (hfile : env.files.get (fullname env id) = some (some steps))
      (h : ∀ step ∈ steps.filter Prod.fst, Made env step.2) : Made env (.recipe id)

/-- A file has an enabled step for the recipe of another file, after enabled steps that can be
made. -/
def Includes (env : Env) (file file' : String) : Prop :=
  ∃ steps, env.files.get file = some (some steps) ∧ ∃ before id after,
    steps.filter Prod.fst = before ++ (true, .recipe id) :: after ∧
      (∀ step ∈ before, Made env step.2) ∧
      fullname env id = file'

/-- No file that is included, directly or not, includes itself. -/
def NoCycle (env : Env) (file : String) : Prop :=
  ∀ file', ReflTransGen (Includes env) file file' → ¬TransGen (Includes env) file' file'

theorem taskStep_ne_stackOverflow (task : String) (parameters : OMap String Value) :
    taskStep env task parameters ≠ .error .stackOverflow := by
  refine except_bind_avoids ?_ fun name _ => ?_
  · refine except_bind_avoids (mapM_avoids fun part _ => ?_) fun _ _ h => by cases h
    split <;> exact fun h => by cases h
  · split
    · exact fun h => by cases h
    · refine except_bind_avoids (foldlM_avoids (fun b d _ => ?_) _) fun _ _ h => by cases h
      unfold checkParameter
      split
      · split <;> exact fun h => by cases h
      · exact fun h => by cases h
      · exact fun h => by cases h

theorem constructStep_ne_stackOverflow {make : String → Except Err (List Step)}
    {config : StepConfig}
    (h : ∀ recipe, config = .recipe recipe → make recipe ≠ .error .stackOverflow) :
    constructStep env make config ≠ .error .stackOverflow := by
  cases config with
  | task task parameters => exact taskStep_ne_stackOverflow task parameters
  | unknown type => exact fun h => by cases h
  | recipe recipe =>
    intro he
    have hne := h recipe rfl
    rw [constructStep] at he
    cases hm : make recipe with
    | ok steps =>
      rw [hm] at he
      cases he
    | error e =>
      rw [hm] at he hne
      cases he
      exact hne rfl

theorem made_of_load {steps : List Step} (h : load env fuel id = .ok steps) :
    Made env (.recipe id) := by
  induction fuel generalizing id steps with
  | zero => cases h
  | succ fuel ih =>
    rw [load] at h
    split at h
    · cases h
    · cases h
    · next configs hconfigs =>
      refine .recipe hconfigs fun config hconfig => ?_
      obtain ⟨step, -, hstep⟩ := mapM_ok_mem h hconfig
      cases hcase : config.2 with
      | task task parameters => exact .task (by rwa [hcase] at hstep)
      | unknown type => rw [hcase] at hstep; cases hstep
      | recipe recipe =>
        rw [hcase] at hstep
        obtain ⟨included, hincluded, -⟩ := except_map_ok.mp hstep
        exact ih hincluded

theorem made_of_constructStep {config : StepConfig} {step : Step}
    (h : constructStep env (load env fuel) config = .ok step) :
    Made env config := by
  cases config with
  | task task parameters => exact .task h
  | unknown type => cases h
  | recipe recipe =>
    obtain ⟨steps, hsteps, -⟩ := except_map_ok.mp h
    exact made_of_load hsteps

/-- The files on the way to a recipe are not read again below it. -/
theorem load_ne_stackOverflow {ancestors : Finset String}
    (hancestors : ∀ file ∈ ancestors, TransGen (Includes env) file (fullname env id))
    (hcycle : NoCycle env (fullname env id))
    (hfuel : (env.files.keys.toFinset \ ancestors).card < fuel) :
    load env fuel id ≠ .error .stackOverflow := by
  induction fuel generalizing id ancestors with
  | zero => omega
  | succ fuel ih =>
    rw [load]
    split
    · exact fun h => by cases h
    · exact fun h => by cases h
    · next steps hsteps =>
      refine mapM_avoids_after fun before step after hsplit hbefore => ?_
      refine constructStep_ne_stackOverflow fun recipe hrecipe => ?_
      have henabled : step = (true, .recipe recipe) := by
        have hmem : step ∈ steps.filter Prod.fst := by rw [hsplit]; simp
        rw [← hrecipe, ← (List.mem_filter.mp hmem).2]
      have hmade : ∀ b ∈ before, Made env b.2 := by
        intro b hb
        obtain ⟨made, hb⟩ := hbefore b hb
        exact made_of_constructStep hb
      have hincludes : Includes env (fullname env id) (fullname env recipe) :=
        ⟨steps, hsteps, before, recipe, after, henabled ▸ hsplit, hmade, rfl⟩
      have hbelow : ∀ file ∈ insert (fullname env id) ancestors,
          TransGen (Includes env) file (fullname env recipe) := by
        intro file hfile
        rcases Finset.mem_insert.mp hfile with rfl | hfile
        · exact .single hincludes
        · exact (hancestors file hfile).tail hincludes
      refine ih hbelow (fun file hfile => hcycle file (.head hincludes hfile)) ?_
      -- one more of the files is on the way
      have hkey : fullname env id ∈ env.files.keys.toFinset :=
        List.mem_toFinset.mpr (OMap.mem_keys.mpr ⟨_, hsteps⟩)
      have hfresh : fullname env id ∉ ancestors := fun hmem => hcycle _ .refl (hancestors _ hmem)
      rw [Finset.sdiff_insert]
      have hcard := Finset.card_erase_lt_of_mem (Finset.mem_sdiff.mpr ⟨hkey, hfresh⟩)
      omega

theorem load_succ (h : load env fuel id ≠ .error .stackOverflow) :
    load env (fuel + 1) id = load env fuel id := by
  induction fuel generalizing id with
  | zero => exact absurd rfl h
  | succ fuel ih =>
    rw [load] at h
    rw [load, load]
    cases hfile : env.files.get (fullname env id) with
    | none => rfl
    | some file =>
      cases file with
      | none => rfl
      | some steps =>
        rw [hfile] at h
        refine mapM_congr_avoiding (fun step _ hstep => ?_) h
        cases hconfig : step.2 with
        | task => rfl
        | unknown => rfl
        | recipe recipe =>
          rw [hconfig] at hstep
          rw [constructStep, constructStep, ih fun he => hstep (by rw [constructStep, he]; rfl)]

/-- A step that can be made is made, unless it takes a deeper stack. -/
theorem constructStep_of_made {config : StepConfig} (h : Made env config) :
    constructStep env (load env fuel) config = .error .stackOverflow ∨
      ∃ step, constructStep env (load env fuel) config = .ok step := by
  induction h generalizing fuel with
  | task h => exact .inr ⟨_, h⟩
  | recipe hfile _ ih =>
    cases fuel with
    | zero => exact .inl rfl
    | succ fuel =>
      rw [constructStep, load, hfile]
      dsimp only
      rcases mapM_ok_or_error fun step hstep => @ih step hstep fuel with hload | ⟨steps, hload⟩
      · exact .inl (by rw [hload]; rfl)
      · exact .inr ⟨_, by rw [hload]; rfl⟩

/-- What a recipe includes ends somewhere, if its construction does. -/
theorem acc_of_load (h : load env fuel id ≠ .error .stackOverflow) :
    Acc (flip (Includes env)) (fullname env id) := by
  induction fuel generalizing id with
  | zero => exact absurd rfl h
  | succ fuel ih =>
    refine ⟨_, fun file hfile => ?_⟩
    obtain ⟨steps, hsteps, before, recipe, after, hsplit, hmade, rfl⟩ := hfile
    refine ih fun hover => h ?_
    -- the steps before it are made or end the stack, and it ends the stack
    have hrecipe : constructStep env (load env fuel) (.recipe recipe) = .error .stackOverflow := by
      rw [constructStep, hover]
      rfl
    rw [load, hsteps]
    exact mapM_error_after hsplit (fun b hb => constructStep_of_made (hmade b hb)) hrecipe

end Inclusion

/-- A file system with the given recipes and no tasks. -/
def envOf (files : List (String × File)) : Env :=
  { recipes := "/recipes", files := files.foldl (fun m e => m.set e.1 e.2) ∅, tasks := ∅,
    toUpperCase := fun c => c.toUpper.toString }

end MylifeHome.Studio.Deploy.Recipe
