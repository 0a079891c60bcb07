import MylifeHome.Studio.Core.Model

/-!
# The naming dry run

`namingDryRun.Engine`: a copy of the component tree on which a renaming or an
addition is tried, before the ids of all leaf components are generated and
compared. The engine's views are a function from views to their children.
-/
namespace MylifeHome.Studio.Core

open MylifeHome.Lib

/-- The place of the instance's id in the ids of a template's components. -/
def idPattern : String := "\x7b\x7bid\x7d\x7d"

namespace NamingDryRun

/-- `ref` is missing on a component that does not exist yet, `type` on a
component of a plugin. -/
structure Component where
  ref : Option Ref
  id : String
  type : Option Ref

structure ComponentNamingInfo where
  componentId : String
  definition : Option DefRef

structure Engine where
  projectModel : ProjectModel
  children : ViewRef → List Component

/-- `definition instanceof TemplateModel` -/
def templateOf : DefRef → Option Ref
  | .plugin _ => none
  | .template t => some t

/-- `generateComponent` -/
def generateComponent (s : ProjectModel) (c : Ref) : Component where
  ref := some c
  id := (s.componentAt c).id
  type := templateOf (s.componentAt c).definition

/-- `generateView`, of every view. -/
def Engine.ofProject (s : ProjectModel) : Engine where
  projectModel := s
  children v := (s.views v).components.values.map (generateComponent s)

namespace Engine

variable (e : Engine)

def renameComponent (c : Ref) (newId : String) : Engine :=
  { e with
    children := fun v => (e.children v).map fun x => if x.ref = some c then { x with id := newId }
      else x }

/-- The definition is `null` for a component of a plugin that is not known yet. -/
def setComponent (ownerView : ViewRef) (id : String) (definition : Option DefRef) : Engine :=
  { e with
    children := Function.update e.children ownerView
      (e.children ownerView ++ [{ ref := none, id, type := definition.bind templateOf }]) }

def namingInfo (component : Component) : ComponentNamingInfo where
  componentId := component.id
  definition :=
    match component.ref with
    | some c => some (e.projectModel.componentAt c).definition
    | none => component.type.map .template

/-- The chains that `instantiateComponents` hands to `addToMap`, in order. -/
def instantiateComponents : Nat → List ComponentNamingInfo → Component →
    Except Err (List (List ComponentNamingInfo))
  | 0, _, _ => .error .stackOverflow
  | fuel + 1, chain, component =>
    let newChain := chain ++ [e.namingInfo component]
    match component.type with
    | none => .ok [newChain]
    | some view => do
      let parts ← (e.children (some view)).mapM (instantiateComponents fuel newChain)
      return parts.flatten

/-- The id that `addToMap` gives to a chain. -/
def chainId (chain : List ComponentNamingInfo) : String :=
  chain.foldl (fun id item => Text.replace item.componentId idPattern id) ""

def addToMap (map : OMap String (List (List ComponentNamingInfo)))
    (chain : List ComponentNamingInfo) :
    OMap String (List (List ComponentNamingInfo)) :=
  map.set (chainId chain) ((map.get (chainId chain)).getD [] ++ [chain])

def generateComponentIds (fuel : Nat) :
    Except Err (OMap String (List (List ComponentNamingInfo))) := do
  let parts ← (e.children none).mapM (e.instantiateComponents fuel [])
  return parts.flatten.foldl addToMap ∅

def describe (item : ComponentNamingInfo) : String :=
  match item.definition with
  | some d => item.componentId ++ " (" ++ e.projectModel.definitionId d ++ ")"
  | none => item.componentId

/-- The lines of the message about one generated id. -/
def duplicateLines (entry : String × List (List ComponentNamingInfo)) : List String :=
  if entry.2.length < 2 then []
  else ("- id duplicate: " ++ entry.1) ::
    entry.2.map fun chain => "  - " ++ String.intercalate " -> " (chain.map e.describe)

def validate (fuel : Nat) : Except Err Unit := do
  let ids ← e.generateComponentIds fuel
  let message := ids.entries.flatMap e.duplicateLines
  if message = [] then .ok ()
  else .error (.error ("The operation would generate the following id duplicates:\n" ++
    String.intercalate "\n" message))

end Engine
end NamingDryRun

/-- `buildNamingDryRunEngine` -/
def ProjectModel.buildNamingDryRunEngine (s : ProjectModel) : NamingDryRun.Engine := .ofProject s

end MylifeHome.Studio.Core
