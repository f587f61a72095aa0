import CompositionRoot.ServicesClass.Basic

/-! The source text of a services class. -/
namespace CompositionRoot

mutual

def Expression.render : Expression → String
  | .field name => name
  | .create implementation arguments =>
    "new " ++ implementation.name ++ "(" ++ renderArguments arguments ++ ")"

def renderArguments : List Expression → String
  | [] => ""
  | [argument] => argument.render
  | argument :: next :: rest => argument.render ++ ", " ++ renderArguments (next :: rest)

end

/-- The text of an expression where a cast applies to it: a constructor call needs parentheses. -/
def Expression.renderOperand : Expression → String
  | .field name => name
  | call => "(" ++ call.render ++ ")"

def line (depth : Nat) (text : String) : String :=
  String.join (List.replicate depth "    ") ++ text ++ "\n"

def Field.render (field : Field) : String :=
  line 2 ("private static " ++ field.type.name ++ " " ++ field.name ++ " = " ++
    field.initializer.render ++ ";")

def returnStatement (value : Expression) : String :=
  "return (T)(object)" ++ value.renderOperand ++ ";"

def Dispatch.render : Dispatch → String
  | .unreachable =>
    line 3 "throw new System.InvalidOperationException(\"This code is unreachable.\");"
  | .otherwise value => line 3 (returnStatement value)
  | .test type value next =>
    line 3 ("if (typeof(T) == typeof(" ++ type.name ++ "))") ++
      line 3 "\x7b" ++ line 4 (returnStatement value) ++ line 3 "\x7d" ++ "\n" ++ next.render

def ServicesClass.render (services : ServicesClass) : String :=
  line 0 "// <auto-generated />" ++
  line 0 "using System;" ++
  "\n" ++
  line 0 ("namespace " ++ services.names.enclosing) ++
  line 0 "\x7b" ++
  line 1 ("public static class " ++ services.names.className) ++
  line 1 "\x7b" ++
  String.join (services.fields.map Field.render) ++
  (if services.fields.isEmpty then "" else "\n") ++
  line 2 ("public static T " ++ services.names.resolveMethod ++ "<T>()") ++
  line 2 "\x7b" ++
  services.dispatch.render ++
  line 2 "\x7d" ++
  line 1 "\x7d" ++
  line 0 "\x7d"

end CompositionRoot
