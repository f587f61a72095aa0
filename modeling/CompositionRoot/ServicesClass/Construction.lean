import CompositionRoot.Catalog.Error
import CompositionRoot.Graph.Basic
import CompositionRoot.ServicesClass.Basic

/-! Services classes of graphs. A shared service is created once, as the initial value of its field,
and a per-request service at each use. A field must be declared before it is used. -/
namespace CompositionRoot

/-- The words of the target language that cannot name a field as they are. -/
def reservedWords : List String :=
  ["abstract", "as", "base", "bool", "break", "byte", "case", "catch", "char", "checked", "class",
   "const", "continue", "decimal", "default", "delegate", "do", "double", "else", "enum", "event",
   "explicit", "extern", "false", "finally", "fixed", "float", "for", "foreach", "goto", "if",
   "implicit", "in", "int", "interface", "internal", "is", "lock", "long", "namespace", "new",
   "null", "object", "operator", "out", "override", "params", "private", "protected", "public",
   "readonly", "ref", "return", "sbyte", "sealed", "short", "sizeof", "stackalloc", "static",
   "string", "struct", "switch", "this", "throw", "true", "try", "typeof", "uint", "ulong",
   "unchecked", "unsafe", "ushort", "using", "virtual", "void", "volatile", "while"]

/-- The name of a service's field: its identifier, escaped if that is a reserved word. -/
def ServiceNode.fieldName (node : ServiceNode) : String :=
  if node.identifier ∈ reservedWords then "@" ++ node.identifier else node.identifier

namespace ServiceGraph

/-- The values of some expressions in order, or the first error among them. -/
def collect : List (Option (Except GenerationError Expression)) →
    Option (Except GenerationError (List Expression))
  | [] => some (.ok [])
  | none :: _ => none
  | some (.error error) :: _ => some (.error error)
  | some (.ok value) :: rest => (collect rest).map fun values => values.map (value :: ·)

/-- The expression that creates an instance of `node`, with per-request dependencies nested at most
`depth` deep. Dependencies outside the graph are left out. -/
def constructWithin (graph : ServiceGraph) (declared : List NodeId) :
    Nat → ServiceNode → Option (Except GenerationError Expression)
  | 0, _ => none
  | depth + 1, node =>
    let argument (id : NodeId) : Option (Option (Except GenerationError Expression)) :=
      (graph.node? id).map fun dependency =>
        if dependency.isShared then
          if id ∈ declared then some (.ok (.field dependency.fieldName))
          else some (.error (.missingField dependency.identifier node.implementation))
        else graph.constructWithin declared depth dependency
    (collect (node.dependencies.filterMap argument)).map fun arguments =>
      arguments.map (Expression.create node.implementation)

/-- The expression that creates an instance of `node` from the declared fields. A graph without
cycles has no nesting deeper than the number of its nodes. No expression creates the services of a
cycle, and their arguments are left out. -/
def construct (graph : ServiceGraph) (declared : List NodeId) (node : ServiceNode) :
    Except GenerationError Expression :=
  (graph.constructWithin declared graph.size node).getD (.ok (.create node.implementation []))

/-- The fields of the shared nodes among `order`, each once, after those of the nodes in
`declared`. Gives the fields with all that are declared at the end. -/
def fieldsAfter (graph : ServiceGraph) (declared : List NodeId) :
    List NodeId → Except GenerationError (List Field × List NodeId)
  | [] => .ok ([], declared)
  | id :: order =>
    match graph.node? id with
    | none => graph.fieldsAfter declared order
    | some node =>
      if node.isShared ∧ id ∉ declared then
        match graph.construct declared node with
        | .error error => .error error
        | .ok initializer =>
          (graph.fieldsAfter (declared ++ [id]) order).map fun (fields, all) =>
            (⟨node.requested, node.fieldName, initializer⟩ :: fields, all)
      else
        graph.fieldsAfter declared order

/-- How a user obtains an instance of `node`: from its field, or by creating one. -/
def instanceOf (graph : ServiceGraph) (declared : List NodeId) (node : ServiceNode) :
    Except GenerationError Expression :=
  if node.isShared then .ok (.field node.fieldName) else graph.construct declared node

def branches (graph : ServiceGraph) (declared : List NodeId) :
    List NodeId → Except GenerationError (List (TypeIdentity × Expression))
  | [] => .ok []
  | id :: order =>
    match graph.node? id with
    | none => graph.branches declared order
    | some node =>
      match graph.instanceOf declared node with
      | .error error => .error error
      | .ok value => (graph.branches declared order).map ((node.requested, value) :: ·)

/-- The class in which services are declared and tested in the given order, repetitions of a node
left aside. -/
def servicesClass (graph : ServiceGraph) (names : ClassNames) (order : List NodeId) :
    Except GenerationError ServicesClass :=
  match graph.fieldsAfter [] order with
  | .error error => .error error
  | .ok (fields, declared) =>
    (graph.branches declared order.eraseDups).map fun branches =>
      ⟨names, fields, Dispatch.ofBranches branches⟩

end ServiceGraph

end CompositionRoot
