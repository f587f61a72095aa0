import CompositionRoot.ServicesClass.Rendering
import Mathlib.Data.List.Forall2

/-! The language of services classes: which text stands for which expression, field, method and
class. The rules speak of whole lines, and every class is rendered by them, whatever the names in it
are. -/
namespace CompositionRoot

/-- The text of some lines, each of which ends with a line break. -/
def ofLines (lines : List String) : String :=
  "\n".intercalate (lines ++ [""])

@[simp] theorem ofLines_nil : ofLines [] = "" := by
  rw [ofLines, List.nil_append, String.intercalate_singleton]

theorem ofLines_cons (first : String) (lines : List String) :
    ofLines (first :: lines) = first ++ "\n" ++ ofLines lines := by
  rw [ofLines, ofLines, List.cons_append, String.intercalate_cons_of_ne_nil (by simp)]

theorem ofLines_append (lines more : List String) :
    ofLines (lines ++ more) = ofLines lines ++ ofLines more := by
  induction lines with
  | nil => simp
  | cons first lines ih =>
    rw [List.cons_append, ofLines_cons, ofLines_cons, ih, ← String.append_assoc]

namespace Expression

/-- A field is spelled by its name. A constructor call is spelled by the word `new`, the type and,
in parentheses, the arguments with commas between them. -/
inductive SpelledAs : Expression → String → Prop where
  | field (name : String) : SpelledAs (field name) name
  | create {implementation : TypeIdentity} {arguments : List Expression} {texts : List String}
      (spelled : List.Forall₂ SpelledAs arguments texts) :
      SpelledAs (create implementation arguments)
        ("new " ++ implementation.name ++ "(" ++ ", ".intercalate texts ++ ")")

/-- A statement returns an instance in the type that is asked for. A call stands in parentheses of
its own. -/
inductive ReturnedBy : Expression → String → Prop where
  | field (name : String) : ReturnedBy (field name) ("return (T)(object)" ++ name ++ ";")
  | create {implementation : TypeIdentity} {arguments : List Expression} {text : String}
      (spelled : SpelledAs (create implementation arguments) text) :
      ReturnedBy (create implementation arguments)
        ("return (T)(object)" ++ ("(" ++ text ++ ")") ++ ";")

end Expression

inductive Field.SpelledAs : Field → String → Prop where
  | declaration {type : TypeIdentity} {name : String} {initializer : Expression} {value : String}
      (spelled : initializer.SpelledAs value) :
      SpelledAs ⟨type, name, initializer⟩
        ("        private static " ++ type.name ++ " " ++ name ++ " = " ++ value ++ ";")

def Dispatch.throwLine : String :=
  "            throw new System.InvalidOperationException(\"This code is unreachable.\");"

inductive Dispatch.SpelledAs : Dispatch → List String → Prop where
  | unreachable : SpelledAs unreachable [throwLine]
  | otherwise {value : Expression} {statement : String} (returned : value.ReturnedBy statement) :
      SpelledAs (otherwise value) ["            " ++ statement]
  | test {type : TypeIdentity} {value : Expression} {next : Dispatch} {statement : String}
      {lines : List String} (returned : value.ReturnedBy statement)
      (rest : SpelledAs next lines) :
      SpelledAs (test type value next)
        (("            if (typeof(T) == typeof(" ++ type.name ++ "))") ::
          "            \x7b" ::
          ("                " ++ statement) ::
          "            \x7d" ::
          "" :: lines)

namespace ServicesClass

def openingLines (enclosing className : String) : List String :=
  ["// <auto-generated />",
    "using System;",
    "",
    "namespace " ++ enclosing,
    "\x7b",
    "    public static class " ++ className,
    "    \x7b"]

def methodLines (resolveMethod : String) (fields : List Field) : List String :=
  (if fields.isEmpty then [] else [""]) ++
    ["        public static T " ++ resolveMethod ++ "<T>()", "        \x7b"]

def closingLines : List String :=
  ["        \x7d", "    \x7d", "\x7d"]

inductive SpelledAs : ServicesClass → String → Prop where
  | lines {names : ClassNames} {fields : List Field} {dispatch : Dispatch}
      {declarations body : List String}
      (declared : List.Forall₂ Field.SpelledAs fields declarations)
      (run : dispatch.SpelledAs body) :
      SpelledAs ⟨names, fields, dispatch⟩
        (ofLines (openingLines names.enclosing names.className ++
          (declarations ++ (methodLines names.resolveMethod fields ++ (body ++ closingLines)))))

end ServicesClass

theorem renderArguments_eq : ∀ arguments : List Expression,
    renderArguments arguments = ", ".intercalate (arguments.map Expression.render)
  | [] => by rw [renderArguments, List.map_nil, String.intercalate_nil]
  | [argument] => by
    rw [renderArguments, List.map_cons, List.map_nil, String.intercalate_singleton]
  | argument :: next :: rest => by
    rw [renderArguments, renderArguments_eq (next :: rest), List.map_cons, List.map_cons,
      List.map_cons, String.intercalate_cons_cons]

theorem Expression.spelledAs_render : ∀ value : Expression, value.SpelledAs value.render
  | .field name => by
    rw [render]
    exact .field name
  | .create implementation arguments => by
    rw [render, renderArguments_eq]
    exact .create (arguments_spelledAs arguments)
where
  arguments_spelledAs : ∀ arguments : List Expression,
      List.Forall₂ SpelledAs arguments (arguments.map render)
    | [] => .nil
    | argument :: rest => .cons argument.spelledAs_render (arguments_spelledAs rest)

theorem returnedBy_returnStatement : ∀ value : Expression,
    value.ReturnedBy (returnStatement value)
  | .field name => .field name
  | .create implementation arguments =>
    .create (Expression.spelledAs_render (.create implementation arguments))

theorem newline_eq : "\n" = ofLines [""] := by
  rw [ofLines_cons, ofLines_nil, String.empty_append, String.append_empty]

theorem line_eq {depth : Nat} {text indented : String}
    (h : String.join (List.replicate depth "    ") ++ text = indented) :
    line depth text = ofLines [indented] := by
  rw [line, h, ofLines_cons, ofLines_nil, String.append_empty]

theorem line_append {depth : Nat} {start indented : String}
    (h : String.join (List.replicate depth "    ") ++ start = indented) (rest : String) :
    line depth (start ++ rest) = ofLines [indented ++ rest] := by
  apply line_eq
  rw [← String.append_assoc, h]

theorem Field.exists_spelledAs (field : Field) :
    ∃ text, field.SpelledAs text ∧ field.render = ofLines [text] := by
  refine ⟨_, .declaration field.initializer.spelledAs_render, ?_⟩
  rw [render]
  simp only [String.append_assoc]
  exact line_append rfl _

theorem exists_declarations : ∀ fields : List Field,
    ∃ declarations, List.Forall₂ Field.SpelledAs fields declarations ∧
      String.join (fields.map Field.render) = ofLines declarations
  | [] => ⟨[], .nil, by rw [ofLines_nil]; rfl⟩
  | field :: fields => by
    obtain ⟨text, hspelled, hrender⟩ := field.exists_spelledAs
    obtain ⟨declarations, hdeclared, hjoin⟩ := exists_declarations fields
    refine ⟨text :: declarations, .cons hspelled hdeclared, ?_⟩
    rw [List.map_cons, String.join_cons, hjoin, hrender, ← ofLines_append]
    rfl

theorem Dispatch.exists_spelledAs : ∀ dispatch : Dispatch,
    ∃ body, dispatch.SpelledAs body ∧ dispatch.render = ofLines body
  | .unreachable => by
    refine ⟨_, .unreachable, ?_⟩
    rw [render]
    exact line_eq rfl
  | .otherwise value => by
    refine ⟨_, .otherwise (returnedBy_returnStatement value), ?_⟩
    rw [render]
    exact line_eq rfl
  | .test type value next => by
    obtain ⟨body, hspelled, hrender⟩ := next.exists_spelledAs
    refine ⟨_, .test (returnedBy_returnStatement value) hspelled, ?_⟩
    have hguard : line 3 ("if (typeof(T) == typeof(" ++ type.name ++ "))") =
        ofLines ["            if (typeof(T) == typeof(" ++ type.name ++ "))"] := by
      simp only [String.append_assoc]
      exact line_append rfl _
    have hopening : line 3 "\x7b" = ofLines ["            \x7b"] := line_eq rfl
    have hreturn : line 4 (returnStatement value) =
        ofLines ["                " ++ returnStatement value] := line_eq rfl
    have hclosing : line 3 "\x7d" = ofLines ["            \x7d"] := line_eq rfl
    rw [render, hrender, hguard, hopening, hreturn, hclosing, newline_eq]
    simp only [← ofLines_append]
    rfl

namespace ServicesClass

theorem ofLines_openingLines (enclosing className : String) :
    ofLines (openingLines enclosing className) =
      line 0 "// <auto-generated />" ++ line 0 "using System;" ++ "\n" ++
        line 0 ("namespace " ++ enclosing) ++ line 0 "\x7b" ++
        line 1 ("public static class " ++ className) ++ line 1 "\x7b" := by
  have hheader : line 0 "// <auto-generated />" = ofLines ["// <auto-generated />"] := line_eq rfl
  have husing : line 0 "using System;" = ofLines ["using System;"] := line_eq rfl
  have henclosing : line 0 ("namespace " ++ enclosing) = ofLines ["namespace " ++ enclosing] :=
    line_append rfl _
  have hopening : line 0 "\x7b" = ofLines ["\x7b"] := line_eq rfl
  have hclass : line 1 ("public static class " ++ className) =
      ofLines ["    public static class " ++ className] := line_append rfl _
  have hinner : line 1 "\x7b" = ofLines ["    \x7b"] := line_eq rfl
  rw [hheader, husing, newline_eq, henclosing, hopening, hclass, hinner]
  simp only [← ofLines_append]
  rfl

theorem ofLines_methodLines (resolveMethod : String) (fields : List Field) :
    ofLines (methodLines resolveMethod fields) =
      (if fields.isEmpty then "" else "\n") ++
        line 2 ("public static T " ++ resolveMethod ++ "<T>()") ++ line 2 "\x7b" := by
  have hgap : (if fields.isEmpty then "" else ofLines [""]) =
      ofLines (if fields.isEmpty then [] else [""]) := by
    split
    · exact ofLines_nil.symm
    · rfl
  have hmethod : line 2 ("public static T " ++ resolveMethod ++ "<T>()") =
      ofLines ["        public static T " ++ resolveMethod ++ "<T>()"] := by
    rw [String.append_assoc, String.append_assoc]
    exact line_append rfl _
  have hopening : line 2 "\x7b" = ofLines ["        \x7b"] := line_eq rfl
  rw [newline_eq, hgap, hmethod, hopening]
  simp only [← ofLines_append]
  rw [methodLines, List.append_assoc]
  rfl

theorem ofLines_closingLines :
    ofLines closingLines = line 2 "\x7d" ++ line 1 "\x7d" ++ line 0 "\x7d" := by
  have hmethod : line 2 "\x7d" = ofLines ["        \x7d"] := line_eq rfl
  have hclass : line 1 "\x7d" = ofLines ["    \x7d"] := line_eq rfl
  have hnamespace : line 0 "\x7d" = ofLines ["\x7d"] := line_eq rfl
  rw [hmethod, hclass, hnamespace, ← ofLines_append, ← ofLines_append]
  rfl

theorem spelledAs_render (services : ServicesClass) : services.SpelledAs services.render := by
  obtain ⟨names, fields, dispatch⟩ := services
  obtain ⟨declarations, hdeclared, hfields⟩ := exists_declarations fields
  obtain ⟨body, hrun, hbody⟩ := dispatch.exists_spelledAs
  have hrender : render ⟨names, fields, dispatch⟩ =
      ofLines (openingLines names.enclosing names.className ++
        (declarations ++ (methodLines names.resolveMethod fields ++ (body ++ closingLines)))) := by
    rw [render, hfields, hbody]
    simp only [ofLines_append, ofLines_openingLines, ofLines_methodLines, ofLines_closingLines,
      String.append_assoc]
  rw [hrender]
  exact .lines hdeclared hrun

end ServicesClass

end CompositionRoot
