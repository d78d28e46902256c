import ScriptTree.Node.Basic

/-! # Dependencies — which modules a program loads

    Calls of a few names load modules.  What one call mentions is a
    `References`: module names in the order of their arguments, and the
    environments in which such a call makes sense.  The dependencies of a
    program gather the references of its calls and keep the first mention of
    each module.

    | callee          | arguments looked at                        | environment |
    |-----------------|--------------------------------------------|-------------|
    | `importScripts` | all                                        |             |
    | `Worker`        | the first                                  |             |
    | `require`       | the first, or a list of them; second list  | node        |
    | `requirejs`     | a list in first place                      | amd         |
    | `define`        | a list in first place or behind a literal  | amd         |

    Only string literals name modules. -/

namespace ScriptTree

/-- A runtime that loading calls hint at. -/
inductive Environment where
  | node
  | amd
deriving DecidableEq, Repr, Inhabited

/-- The environment's name. -/
def Environment.name : Environment → String
  | .node => "node"
  | .amd => "amd"

/-- Modules and environments that calls mention. -/
structure References where
  modules : List String
  node : Bool
  amd : Bool
deriving DecidableEq, Repr, Inhabited

namespace References

/-- Nothing is mentioned. -/
def none : References := ⟨[], false, false⟩

/-- The environments, in a fixed order. -/
def environments (r : References) : List Environment :=
  (if r.node then [.node] else []) ++ (if r.amd then [.amd] else [])

/-- The modules that nodes name, which string literals alone do. -/
def namesIn (nodes : List Node) : List String := nodes.filterMap Node.stringValue?

/-- The elements of an array in parentheses, holes left out. -/
def arrayElements? (n : Node) : Option (List Node) :=
  match n.shape with
  | .arrayExpression elements => some (elements.filterMap id)
  | _ => Option.none

/-- The node is a literal of any kind. -/
def isLiteral (n : Node) : Bool := n.type == .literal

/-- What a list of modules mentions, in the environments given. -/
def ofList (node amd : Bool) : Option (List Node) → References
  | some elements => ⟨namesIn elements, node, amd⟩
  | .none => References.none

/-- Both mentions, the first one first. -/
def append (r s : References) : References :=
  ⟨r.modules ++ s.modules, r.node || s.node, r.amd || s.amd⟩

/-- What the first argument of `require` mentions. -/
def ofRequired (n : Node) : References :=
  match arrayElements? n with
  | some elements => ⟨namesIn elements, true, false⟩
  | .none => if isLiteral n then ⟨namesIn [n], true, false⟩ else References.none

/-- What a call of `require` mentions. -/
def ofRequire (arguments : List Node) : References :=
  let first := (arguments.head?.map ofRequired).getD References.none
  let second := ofList true false (arguments[1]?.bind arrayElements?)
  first.append second

/-- What a call of `define` mentions. -/
def ofDefine : List Node → References
  | first :: second :: _ =>
    ofList false true (arrayElements? (if isLiteral first then second else first))
  | _ => References.none

/-- What a call of a name mentions. -/
def ofCall (callee : String) (arguments : List Node) : References :=
  match callee with
  | "importScripts" => ⟨namesIn arguments, false, false⟩
  | "Worker" => ⟨namesIn (arguments.take 1), false, false⟩
  | "require" => ofRequire arguments
  | "requirejs" => ofList false true (arguments.head?.bind arrayElements?)
  | "define" => ofDefine arguments
  | _ => References.none

/-- What a node mentions by itself. -/
def ofNode (n : Node) : References :=
  match n.shape with
  | .callExpression callee arguments | .newExpression callee arguments =>
    match callee.identifierName? with
    | some name => ofCall name arguments
    | .none => References.none
  | _ => References.none

/-- Add modules behind those mentioned before, each at its first mention. -/
def addModules (known : List String) : List String → List String
  | [] => known
  | name :: rest => addModules (if known.contains name then known else known ++ [name]) rest

/-- Add what a node mentions, keeping the first mention of each module. -/
def gather (r : References) (n : Node) : References :=
  let found := ofNode n
  ⟨addModules r.modules found.modules, r.node || found.node, r.amd || found.amd⟩

end References

end ScriptTree
