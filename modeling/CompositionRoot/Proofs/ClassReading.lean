import CompositionRoot.Proofs.ExpressionReading
import Mathlib.Data.List.Basic

/-! Services classes read back from their texts, line by line. A text that stands for a class gives
this class to its reader, and no other, where the names in it are legible. -/
namespace CompositionRoot

/-- What stands in a line between a fixed beginning and a fixed end. -/
def between? (start finish : String) (line : List Char) : Option (List Char) :=
  (line.dropPrefix? start.toList).bind fun rest => rest.dropSuffix? finish.toList

theorem between?_eq_some_iff {start finish : String} {line inner : List Char} :
    between? start finish line = some inner ↔
      line = start.toList ++ (inner ++ finish.toList) := by
  simp only [between?, Option.bind_eq_some_iff, List.dropPrefix?_eq_some_iff, beq_iff_eq,
    List.dropSuffix?_eq_some_iff]
  constructor
  · rintro ⟨_, ⟨_, rfl, rfl⟩, _, rfl, rfl⟩
    rfl
  · rintro rfl
    exact ⟨_, ⟨_, rfl, rfl⟩, _, rfl, rfl⟩

def cut? (c : Char) : List Char → Option (List Char × List Char)
  | [] => none
  | d :: rest =>
    if d = c then some ([], rest)
    else (cut? c rest).map fun (before, behind) => (d :: before, behind)

theorem cut?_append {c : Char} {before : List Char} (h : c ∉ before) (behind : List Char) :
    cut? c (before ++ c :: behind) = some (before, behind) := by
  induction before with
  | nil => simp [cut?]
  | cons d before ih =>
    rw [List.mem_cons, not_or] at h
    rw [List.cons_append, cut?, if_neg (Ne.symm h.1), ih h.2, Option.map_some]

/-- The field that a line declares. The name is the last word before the equals sign. -/
def Field.read? (line : List Char) : Option Field := do
  let declaration ← between? "        private static " ";" line
  let (declared, value) ← cut? '=' declaration
  let (name, type) ← cut? ' ' (← between? "" " " declared).reverse
  let initializer ← Expression.read? (← between? " " "" value)
  return ⟨⟨String.ofList type.reverse⟩, String.ofList name.reverse, initializer⟩

def readFields : List (List Char) → List Field × List (List Char)
  | [] => ([], [])
  | line :: lines =>
    match Field.read? line with
    | some field => ((field :: (readFields lines).1), (readFields lines).2)
    | none => ([], line :: lines)

/-- The expression that a statement returns. Parentheses around it are no part of it. -/
def Expression.returned? (statement : List Char) : Option Expression := do
  let operand ← between? "return (T)(object)" ";" statement
  Expression.read? ((between? "(" ")" operand).getD operand)

/-- The type for which five lines test, and the expression that they return for it. -/
def readTest? (guard opening statement closing gap : List Char) :
    Option (TypeIdentity × Expression) := do
  let type ← between? "            if (typeof(T) == typeof(" "))" guard
  let value ← Expression.returned? (← between? "                " "" statement)
  if opening = "            \x7b".toList ∧ closing = "            \x7d".toList ∧ gap = [] then
    return (⟨String.ofList type⟩, value)
  else none

def Dispatch.readLast? (line : List Char) : Option Dispatch :=
  if line = throwLine.toList then some .unreachable
  else ((between? "            " "" line).bind Expression.returned?).map .otherwise

def Dispatch.read? : List (List Char) → Option Dispatch
  | guard :: opening :: statement :: closing :: gap :: lines =>
    match readTest? guard opening statement closing gap with
    | some (type, value) => (Dispatch.read? lines).map (.test type value)
    | none =>
      if opening :: statement :: closing :: gap :: lines =
          (ServicesClass.closingLines ++ [""]).map String.toList then
        readLast? guard
      else none
  | _ => none

def ServicesClass.read? (text : String) : Option ServicesClass := do
  let lines := text.toList.splitOn '\n'
  let enclosing := String.ofList (← between? "namespace " "" (← lines[3]?))
  let className := String.ofList (← between? "    public static class " "" (← lines[5]?))
  let lines ← lines.dropPrefix? ((openingLines enclosing className).map String.toList)
  let (fields, lines) := readFields lines
  let resolveMethod := String.ofList (← between? "        public static T " "<T>()"
    (← lines[if fields.isEmpty then 0 else 1]?))
  let lines ← lines.dropPrefix? ((methodLines resolveMethod fields).map String.toList)
  let dispatch ← Dispatch.read? lines
  return ⟨⟨enclosing, className, resolveMethod⟩, fields, dispatch⟩

structure Field.Legible (field : Field) : Prop where
  type : field.type.Legible
  name : LegibleFieldName field.name
  initializer : field.initializer.Legible

def Dispatch.Legible : Dispatch → Prop
  | unreachable => True
  | otherwise value => value.Legible
  | test type value next => type.Legible ∧ value.Legible ∧ next.Legible

/-- Names that the user chooses each end with their line. -/
def ClassNames.Legible (names : ClassNames) : Prop :=
  ∀ name ∈ [names.enclosing, names.className, names.resolveMethod], '\n' ∉ name.toList

instance : DecidablePred ClassNames.Legible := fun names => inferInstanceAs
  (Decidable (∀ name ∈ [names.enclosing, names.className, names.resolveMethod], '\n' ∉ name.toList))

structure ServicesClass.Legible (services : ServicesClass) : Prop where
  names : services.names.Legible
  fields : ∀ field ∈ services.fields, field.Legible
  dispatch : services.dispatch.Legible

theorem splitOn_ofLines {lines : List String} (h : ∀ line ∈ lines, '\n' ∉ line.toList) :
    (ofLines lines).toList.splitOn '\n' = lines.map String.toList ++ [[]] := by
  have hbreak : "\n".toList = ['\n'] := rfl
  rw [ofLines, String.toList_intercalate, hbreak, List.splitOn_intercalate]
  · simp
  · intro line hmem
    rw [List.map_append, List.mem_append, List.mem_map] at hmem
    rcases hmem with ⟨text, htext, rfl⟩ | hlast
    · exact h text htext
    · obtain rfl := List.mem_singleton.mp hlast
      exact List.not_mem_nil
  · simp

/-- Where no name has a line break, no part of a line has one. -/
theorem Expression.SpelledAs.newline_notMem : ∀ {value : Expression} {text : String},
    value.SpelledAs text → value.Legible → '\n' ∉ text.toList
  | _, _, .field _, .field ⟨_, hname⟩ => hname '\n' (by simp)
  | _, _, .create spelled, .create legible each => by
    have hname := legible '\n' (by simp)
    have harguments := arguments_notMem spelled each
    generalize ", ".intercalate _ = between at harguments ⊢
    simp [String.toList_append, hname, harguments]
where
  arguments_notMem : ∀ {arguments : List Expression} {texts : List String},
      List.Forall₂ SpelledAs arguments texts → (∀ argument ∈ arguments, argument.Legible) →
        '\n' ∉ (", ".intercalate texts).toList
    | _, _, .nil, _ => by simp
    | _, _, .cons hhead .nil, each => by
      rw [String.intercalate_singleton]
      exact hhead.newline_notMem (each _ List.mem_cons_self)
    | _, _, .cons hhead (.cons hnext hrest), each => by
      have hfirst := hhead.newline_notMem (each _ List.mem_cons_self)
      have hothers := arguments_notMem (.cons hnext hrest)
        fun argument hmem => each argument (List.mem_cons_of_mem _ hmem)
      rw [String.intercalate_cons_cons]
      generalize ", ".intercalate _ = others at hothers ⊢
      simp [String.toList_append, hfirst, hothers]

theorem Field.SpelledAs.newline_notMem {field : Field} {text : String} (h : field.SpelledAs text)
    (hlegible : field.Legible) : '\n' ∉ text.toList := by
  cases h with
  | declaration spelled =>
    have htype := hlegible.type '\n' (by simp)
    have hname := hlegible.name.2 '\n' (by simp)
    have hvalue := spelled.newline_notMem hlegible.initializer
    simp [String.toList_append, htype, hname, hvalue]

theorem Expression.ReturnedBy.newline_notMem {value : Expression} {statement : String}
    (h : value.ReturnedBy statement) (hlegible : value.Legible) : '\n' ∉ statement.toList := by
  cases h with
  | field name =>
    have hname := (SpelledAs.field name).newline_notMem hlegible
    simp [String.toList_append, hname]
  | create spelled =>
    have hvalue := spelled.newline_notMem hlegible
    simp [String.toList_append, hvalue]

theorem Dispatch.SpelledAs.newline_notMem {dispatch : Dispatch} {body : List String}
    (h : dispatch.SpelledAs body) (hlegible : dispatch.Legible) :
    ∀ line ∈ body, '\n' ∉ line.toList := by
  induction h with
  | unreachable => decide
  | otherwise returned =>
    have hvalue := returned.newline_notMem hlegible
    simp [String.toList_append, hvalue]
  | test returned _ ih =>
    obtain ⟨htype, hlegible, hnext⟩ := hlegible
    have htype := htype '\n' (by simp)
    have hvalue := returned.newline_notMem hlegible
    simp only [List.forall_mem_cons]
    refine ⟨?_, by decide, ?_, by decide, by decide, ih hnext⟩
    · simp [String.toList_append, htype]
    · simp [String.toList_append, hvalue]

theorem between?_of_append {start finish line : String} (inner : String)
    (h : line = start ++ inner ++ finish) :
    between? start finish line.toList = some inner.toList := by
  rw [between?_eq_some_iff, h, String.toList_append, String.toList_append, List.append_assoc]

theorem between?_of_start (start inner : String) :
    between? start "" (start ++ inner).toList = some inner.toList :=
  between?_of_append inner (by rw [String.append_empty])

/-- A text that differs from a fixed beginning does not begin with it. -/
theorem between?_eq_none {start finish : String} {text : List Char} {n : Nat} {c : Char}
    (hstart : start.toList[n]? = some c) (htext : text[n]? ≠ some c) :
    between? start finish text = none := by
  rw [Option.eq_none_iff_forall_ne_some]
  intro inner hinner
  rw [between?_eq_some_iff] at hinner
  have hlength : n < start.toList.length := (List.getElem?_eq_some_iff.mp hstart).1
  rw [hinner, List.getElem?_append_left hlength] at htext
  exact htext hstart

theorem Expression.ReturnedBy.returned?_eq {value : Expression} {statement : String}
    (h : value.ReturnedBy statement) (hlegible : value.Legible) :
    Expression.returned? statement.toList = some value := by
  cases h with
  | field name =>
    have hopen : between? "(" ")" name.toList = none := by
      rw [Option.eq_none_iff_forall_ne_some]
      intro inner hinner
      rw [between?_eq_some_iff] at hinner
      cases hlegible with
      | field legible => exact legible.2 '(' (by simp) (by simp [hinner])
    rw [returned?, between?_of_append name rfl, Option.bind_eq_bind, Option.bind_some, hopen,
      Option.getD_none]
    exact (SpelledAs.field name).read?_eq hlegible
  | @create implementation arguments text spelled =>
    rw [returned?, between?_of_append ("(" ++ text ++ ")") rfl, Option.bind_eq_bind,
      Option.bind_some, between?_of_append text rfl, Option.getD_some]
    exact spelled.read?_eq hlegible

theorem Expression.ReturnedBy.exists_append {value : Expression} {statement : String}
    (h : value.ReturnedBy statement) : ∃ operand, statement = "return (T)(object)" ++ operand := by
  cases h with
  | field name => exact ⟨name ++ ";", String.append_assoc⟩
  | @create implementation arguments text => exact ⟨"(" ++ text ++ ")" ++ ";", String.append_assoc⟩

theorem Field.SpelledAs.read?_eq {field : Field} {text : String} (h : field.SpelledAs text)
    (hlegible : field.Legible) : Field.read? text.toList = some field := by
  cases h with
  | @declaration type name initializer value spelled =>
    have hline : between? "        private static " ";"
        ("        private static " ++ type.name ++ " " ++ name ++ " = " ++ value ++ ";").toList =
          some ((type.name ++ " " ++ name ++ " ").toList ++ '=' :: (" " ++ value).toList) := by
      rw [between?_eq_some_iff]
      simp [String.toList_append]
    have hdeclared : '=' ∉ (type.name ++ " " ++ name ++ " ").toList := by
      have htype := hlegible.type '=' (by simp)
      have hname := hlegible.name.2 '=' (by simp)
      simp [String.toList_append, htype, hname]
    have hwords : (type.name ++ " " ++ name).toList.reverse =
        name.toList.reverse ++ ' ' :: type.name.toList.reverse := by
      simp [String.toList_append]
    have hname : ' ' ∉ name.toList.reverse := by
      rw [List.mem_reverse]
      exact hlegible.name.2 ' ' (by simp)
    have hlast : between? "" " " (type.name ++ " " ++ name ++ " ").toList =
        some (type.name ++ " " ++ name).toList :=
      between?_of_append _ (by rw [String.empty_append])
    have hvalue : between? " " "" (" " ++ value).toList = some value.toList :=
      between?_of_start " " value
    rw [read?]
    simp only [hline, cut?_append hdeclared, hlast, hwords, cut?_append hname, hvalue,
      spelled.read?_eq hlegible.initializer, Option.bind_eq_bind, Option.bind_some,
      List.reverse_reverse, String.ofList_toList, Option.pure_def]

/-- The declarations are read up to the first line that declares no field. -/
theorem readFields_append {fields : List Field} {declarations : List String}
    {line : List Char} {lines : List (List Char)}
    (hdeclared : List.Forall₂ Field.SpelledAs fields declarations)
    (hlegible : ∀ field ∈ fields, field.Legible) (hline : Field.read? line = none) :
    readFields (declarations.map String.toList ++ line :: lines) = (fields, line :: lines) := by
  induction hdeclared with
  | nil => rw [List.map_nil, List.nil_append, readFields, hline]
  | cons hfield _ ih =>
    have hread := hfield.read?_eq (hlegible _ List.mem_cons_self)
    have hrest := ih fun field hmem => hlegible field (List.mem_cons_of_mem _ hmem)
    rw [List.map_cons, List.cons_append, readFields, hread, hrest]

/-- A line without a test is the last of a body. -/
theorem Dispatch.read?_of_not_test {line : List Char}
    (h : between? "            if (typeof(T) == typeof(" "))" line = none) :
    Dispatch.read? (line :: (ServicesClass.closingLines ++ [""]).map String.toList) =
      readLast? line := by
  have htest (opening statement closing gap : List Char) :
      readTest? line opening statement closing gap = none := by
    rw [readTest?, h]
    rfl
  have hclosing : (ServicesClass.closingLines ++ [""]).map String.toList =
      ["        \x7d".toList, "    \x7d".toList, "\x7d".toList, "".toList] := rfl
  rw [hclosing, read?, htest]
  exact if_pos hclosing.symm

theorem Dispatch.SpelledAs.read?_eq {dispatch : Dispatch} {body : List String}
    (h : dispatch.SpelledAs body) (hlegible : dispatch.Legible) :
    Dispatch.read? ((body ++ (ServicesClass.closingLines ++ [""])).map String.toList) =
      some dispatch := by
  induction h with
  | unreachable => rfl
  | @otherwise value statement returned =>
    -- the first letter of `return` tells the line from a test and from the exception
    have hreturn : ("            " ++ statement).toList[12]? = some 'r' := by
      obtain ⟨operand, rfl⟩ := returned.exists_append
      rw [String.toList_append, String.toList_append]
      rfl
    have hguard : between? "            if (typeof(T) == typeof(" "))"
        ("            " ++ statement).toList = none :=
      between?_eq_none (n := 12) (c := 'i') rfl (by rw [hreturn]; decide)
    have hthrow : ("            " ++ statement).toList ≠ throwLine.toList := by
      intro heq
      have hletter : throwLine.toList[12]? = some 't' := rfl
      rw [heq, hletter] at hreturn
      exact absurd hreturn (by decide)
    have hlast : readLast? ("            " ++ statement).toList = some (.otherwise value) := by
      rw [readLast?, if_neg hthrow, between?_of_start, Option.bind_some,
        returned.returned?_eq hlegible, Option.map_some]
    rw [List.cons_append, List.nil_append, List.map_cons, Dispatch.read?_of_not_test hguard, hlast]
  | @test type value next statement lines returned _ ih =>
    obtain ⟨htype, hlegible, hnext⟩ := hlegible
    have hguard : between? "            if (typeof(T) == typeof(" "))"
        ("            if (typeof(T) == typeof(" ++ type.name ++ "))").toList =
          some type.name.toList := between?_of_append _ rfl
    have htest : readTest? ("            if (typeof(T) == typeof(" ++ type.name ++ "))").toList
        "            \x7b".toList ("                " ++ statement).toList "            \x7d".toList
        "".toList = some (type, value) := by
      rw [readTest?]
      simp only [hguard, between?_of_start, returned.returned?_eq hlegible, Option.bind_eq_bind,
        Option.bind_some, String.ofList_toList]
      rfl
    simp only [List.cons_append, List.map_cons, Dispatch.read?, htest, ih hnext, Option.map_some]

namespace ServicesClass

theorem newline_notMem_openingLines {enclosing className : String}
    (henclosing : '\n' ∉ enclosing.toList) (hclassName : '\n' ∉ className.toList) :
    ∀ line ∈ openingLines enclosing className, '\n' ∉ line.toList := by
  simp [openingLines, String.toList_append, henclosing, hclassName]

theorem newline_notMem_methodLines {resolveMethod : String} (h : '\n' ∉ resolveMethod.toList)
    (fields : List Field) : ∀ line ∈ methodLines resolveMethod fields, '\n' ∉ line.toList := by
  cases fields <;> simp [methodLines, String.toList_append, h]

theorem newline_notMem_declarations {fields : List Field} {declarations : List String}
    (hdeclared : List.Forall₂ Field.SpelledAs fields declarations)
    (hlegible : ∀ field ∈ fields, field.Legible) : ∀ line ∈ declarations, '\n' ∉ line.toList := by
  induction hdeclared with
  | nil => exact fun _ hmem => nomatch hmem
  | cons hfield _ ih =>
    rw [List.forall_mem_cons] at hlegible ⊢
    exact ⟨hfield.newline_notMem hlegible.1, ih hlegible.2⟩

/-- Behind the fields stands the method, with an empty line before it if there are fields. -/
theorem readFields_methodLines {fields : List Field} {declarations : List String}
    (hdeclared : List.Forall₂ Field.SpelledAs fields declarations)
    (hlegible : ∀ field ∈ fields, field.Legible) (resolveMethod : String)
    (behind : List (List Char)) :
    readFields (declarations.map String.toList ++
        ((methodLines resolveMethod fields).map String.toList ++ behind)) =
      (fields, (methodLines resolveMethod fields).map String.toList ++ behind) := by
  cases fields with
  | nil =>
    -- `public` and `private` differ in their second letter
    have hmethod : ("        public static T " ++ resolveMethod ++ "<T>()").toList[9]? =
        some 'u' := by
      rw [String.toList_append, String.toList_append]
      rfl
    refine readFields_append hdeclared hlegible ?_
    rw [Field.read?, between?_eq_none (n := 9) (c := 'r') rfl (by rw [hmethod]; decide)]
    rfl
  | cons => exact readFields_append hdeclared hlegible rfl

/-- A reader of the text of a class finds this class. -/
theorem SpelledAs.read?_eq {services : ServicesClass} {text : String}
    (h : services.SpelledAs text) (hlegible : services.Legible) :
    ServicesClass.read? text = some services := by
  cases h with
  | @lines names fields dispatch declarations body declared run =>
    obtain ⟨hnames, hfields, hdispatch⟩ := hlegible
    have hlines : ∀ line ∈ openingLines names.enclosing names.className ++
        (declarations ++ (methodLines names.resolveMethod fields ++ (body ++ closingLines))),
          '\n' ∉ line.toList := by
      simp only [List.forall_mem_append]
      exact ⟨newline_notMem_openingLines (hnames _ (by simp)) (hnames _ (by simp)),
        newline_notMem_declarations declared hfields,
        newline_notMem_methodLines (hnames _ (by simp)) fields,
        run.newline_notMem hdispatch, by decide⟩
    have htext : (openingLines names.enclosing names.className ++
        (declarations ++ (methodLines names.resolveMethod fields ++
          (body ++ closingLines)))).map String.toList ++ [[]] =
        (openingLines names.enclosing names.className).map String.toList ++
          (declarations.map String.toList ++
            ((methodLines names.resolveMethod fields).map String.toList ++
              (body ++ (closingLines ++ [""])).map String.toList)) := by
      simp
    have hmethod (behind : List (List Char)) :
        ((methodLines names.resolveMethod fields).map String.toList ++ behind)[
          if fields.isEmpty then 0 else 1]? =
            some ("        public static T " ++ names.resolveMethod ++ "<T>()").toList := by
      cases fields <;> rfl
    have hresolve : between? "        public static T " "<T>()"
        ("        public static T " ++ names.resolveMethod ++ "<T>()").toList =
          some names.resolveMethod.toList := between?_of_append _ rfl
    have hnamespace (behind : List (List Char)) :
        ((openingLines names.enclosing names.className).map String.toList ++ behind)[3]? =
          some ("namespace " ++ names.enclosing).toList := rfl
    have hclass (behind : List (List Char)) :
        ((openingLines names.enclosing names.className).map String.toList ++ behind)[5]? =
          some ("    public static class " ++ names.className).toList := rfl
    rw [read?, splitOn_ofLines hlines, htext]
    simp only [hnamespace, hclass, between?_of_start, Option.bind_eq_bind, Option.bind_some,
      String.ofList_toList, List.dropPrefix?_append_of_beq _ (beq_self_eq_true _),
      readFields_methodLines declared hfields, hmethod, hresolve, run.read?_eq hdispatch]
    rfl

end ServicesClass

end CompositionRoot
