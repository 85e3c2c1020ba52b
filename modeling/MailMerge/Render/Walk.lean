/-
# Rendering a tree

Nodes are rendered one after the other until a signal to stop is pending. A
fault of a node is contained where the node stands, so it blanks out none of its
neighbours. Of a conditional the first branch whose predicate holds is rendered,
in a scope of its own, and no predicate after it is evaluated.
-/

import MailMerge.Tree.Node

namespace MailMerge
namespace Render

open MailMerge.Tree (Node Branch Output TagAction)

/-- What rendering something gives: a text or a fault, and the environment after it. -/
abbrev Outcome := Except Fault String × Env

/-- The text of an output. -/
def renderOutput (env : Env) (output : Output) : Except Fault String :=
  (evalPipeline env output.expr output.filters).map Value.output

/-- A fault is contained; a text is left as it is. -/
def Outcome.contained : Outcome → Outcome
  | (.ok text, env) => (.ok text, env)
  | (.error fault, env) => env.contain fault

/-- A text goes in front of an outcome. -/
def Outcome.after (text : String) : Outcome → Outcome
  | (.ok rest, env) => (.ok (text ++ rest), env)
  | (.error fault, env) => (.error fault, env)

/-- What a tag does to an environment. -/
def runTag (action : TagAction) (markup : String) (env : Env) : Outcome :=
  match action with
  | .interrupt signal => (.ok "", env.interrupt signal)
  | .leaf action => action markup env

mutual

/-- **Rendering one node.** -/
def renderNode (env : Env) : Node → Outcome
  | .text raw => (.ok raw, env)
  | .output output => (renderOutput env output, env)
  | .tag head action => runTag action head.markup env
  | .block _ body => renderAll env body
  | .conditional _ branches =>
    let (result, after) := renderBranches (env.enter ∅) branches
    (result, after.leave)
termination_by structural node => node

/-- **Rendering nodes in order,** up to the first signal to stop. -/
def renderAll (env : Env) : List Node → Outcome
  | [] => (.ok "", env)
  | node :: nodes =>
    if env.interrupted then (.ok "", env)
    else match node with
      | .tag _ (.interrupt signal) => (.ok "", env.interrupt signal)
      | node =>
        match (renderNode env node).contained with
        | (.ok text, after) => (renderAll after nodes).after text
        | (.error fault, after) => (.error fault, after)
termination_by structural nodes => nodes

/-- **Rendering the first branch whose predicate holds.** -/
def renderBranches (env : Env) : List (Branch Node) → Outcome
  | [] => (.ok "", env)
  | ⟨_, predicate, body⟩ :: branches =>
    match predicate with
    | none => renderAll env body
    | some condition =>
      match evalCondition env condition with
      | .error fault => (.error fault, env)
      | .ok true => renderAll env body
      | .ok false => renderBranches env branches
termination_by structural branches => branches

end

end Render
end MailMerge
