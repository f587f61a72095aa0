import CompositionRoot.Proofs.ClassText

/-! Expressions read back from their texts. One character after another is read, with a stack of the
constructor calls that are still open. The type of a call ends with the parenthesis of its arguments
and the name of a field with what separates arguments, so names without these characters are read as
they were written. -/
namespace CompositionRoot

/-- A constructor call whose closing parenthesis has not been read. -/
structure OpenCall where
  implementation : TypeIdentity
  arguments : List Expression

/-- What has been read of the innermost expression. -/
inductive Progress where
  /-- The name of a field, or the word `new`, as far as it has been read. -/
  | word (letters : List Char)
  | callee (letters : List Char)
  | call (value : Expression)
  /-- A comma, without the space behind it. -/
  | comma

def Progress.value? : Progress → Option Expression
  | word [] | callee _ | comma => none
  | word letters => some (.field (String.ofList letters))
  | call value => some value

/-- A stage of reading, with the innermost open call first. -/
structure ExpressionReader where
  calls : List OpenCall := []
  progress : Progress := .word []

namespace ExpressionReader

/-- Makes what has been read an argument of the innermost call. -/
def endArgument? (reader : ExpressionReader) : Option (OpenCall × List OpenCall) :=
  match reader.calls, reader.progress.value? with
  | call :: calls, some value =>
    some ({ call with arguments := call.arguments ++ [value] }, calls)
  | _, _ => none

/-- Ends the innermost call. Without arguments its parentheses have nothing between them. -/
def endCall? (reader : ExpressionReader) : Option (OpenCall × List OpenCall) :=
  match reader.calls, reader.progress with
  | ⟨implementation, []⟩ :: calls, .word [] => some (⟨implementation, []⟩, calls)
  | _, _ => reader.endArgument?

def next? (reader : ExpressionReader) (c : Char) : Option ExpressionReader :=
  match reader.progress with
  | .callee letters =>
    if c = '(' then some { calls := ⟨⟨String.ofList letters⟩, []⟩ :: reader.calls }
    else some { reader with progress := .callee (letters ++ [c]) }
  | .comma => if c = ' ' then some { reader with progress := .word [] } else none
  | progress =>
    if c = ',' then
      reader.endArgument?.map fun (call, calls) => ⟨call :: calls, .comma⟩
    else if c = ')' then
      reader.endCall?.map fun (call, calls) =>
        ⟨calls, .call (.create call.implementation call.arguments)⟩
    else
      match progress with
      | .word letters =>
        if c = ' ' then
          if letters = ['n', 'e', 'w'] then some { reader with progress := .callee [] } else none
        else some { reader with progress := .word (letters ++ [c]) }
      | _ => none

def read? (reader : ExpressionReader) (text : List Char) : Option ExpressionReader :=
  text.foldlM next? reader

variable {reader : ExpressionReader} {calls : List OpenCall} {letters text : List Char} {c : Char}

@[simp] theorem read?_nil : reader.read? [] = some reader :=
  rfl

theorem read?_cons : reader.read? (c :: text) = (reader.next? c).bind fun next => next.read? text :=
  rfl

theorem read?_append (text more : List Char) :
    reader.read? (text ++ more) = (reader.read? text).bind fun next => next.read? more :=
  List.foldlM_append

end ExpressionReader

def Expression.read? (text : List Char) : Option Expression :=
  (ExpressionReader.read? {} text).bind fun reader =>
    if reader.calls.isEmpty then reader.progress.value? else none

/-- The name of a type has no character with which other text goes on behind it. -/
def TypeIdentity.Legible (type : TypeIdentity) : Prop :=
  ∀ c ∈ ['\n', '=', '('], c ∉ type.name.toList

instance : DecidablePred TypeIdentity.Legible := fun type =>
  List.decidableBAll (fun c => c ∉ type.name.toList) ['\n', '=', '(']

def LegibleFieldName (name : String) : Prop :=
  name ≠ "" ∧ ∀ c ∈ ['\n', '=', '(', ')', ',', ' '], c ∉ name.toList

inductive Expression.Legible : Expression → Prop where
  | field {name : String} (legible : LegibleFieldName name) : Legible (.field name)
  | create {implementation : TypeIdentity} {arguments : List Expression}
      (legible : implementation.Legible) (each : ∀ argument ∈ arguments, Legible argument) :
      Legible (.create implementation arguments)

namespace ExpressionReader

variable {reader : ExpressionReader} {calls : List OpenCall} {letters name text : List Char}
  {c : Char} {value : Expression}

theorem read?_word (h : ∀ c ∈ [',', ')', ' '], c ∉ name) :
    read? ⟨calls, .word letters⟩ name = some ⟨calls, .word (letters ++ name)⟩ := by
  induction name generalizing letters with
  | nil => rw [List.append_nil, read?_nil]
  | cons c name ih =>
    have hrest : ∀ d ∈ [',', ')', ' '], d ∉ name := fun d hd hmem => h d hd (.tail c hmem)
    have hc : c ≠ ',' ∧ c ≠ ')' ∧ c ≠ ' ' := by
      refine ⟨?_, ?_, ?_⟩ <;> rintro rfl <;> exact h _ (by simp) (.head name)
    have hnext : next? ⟨calls, .word letters⟩ c = some ⟨calls, .word (letters ++ [c])⟩ := by
      simp [next?, hc]
    rw [read?_cons, hnext, Option.bind_some, ih hrest, List.append_assoc, List.singleton_append]

theorem read?_callee (h : '(' ∉ name) :
    read? ⟨calls, .callee letters⟩ (name ++ ['(']) =
      some ⟨⟨⟨String.ofList (letters ++ name)⟩, []⟩ :: calls, .word []⟩ := by
  induction name generalizing letters with
  | nil => simp [read?_cons, next?]
  | cons c name ih =>
    rw [List.mem_cons, not_or] at h
    have hnext : next? ⟨calls, .callee letters⟩ c = some ⟨calls, .callee (letters ++ [c])⟩ := by
      simp [next?, Ne.symm h.1]
    rw [List.cons_append, read?_cons, hnext, Option.bind_some, ih h.2, List.append_assoc,
      List.singleton_append]

/-- The beginning of a call opens it. -/
theorem read?_new {implementation : TypeIdentity} (h : implementation.Legible) :
    read? ⟨calls, .word []⟩ ("new ".toList ++ (implementation.name.toList ++ ['('])) =
      some ⟨⟨implementation, []⟩ :: calls, .word []⟩ := by
  have hnew : read? ⟨calls, .word []⟩ "new ".toList = some ⟨calls, .callee []⟩ := rfl
  rw [read?_append, hnew, Option.bind_some, read?_callee (h '(' (by simp)), List.nil_append,
    String.ofList_toList]

theorem read?_comma {call : OpenCall} {progress : Progress} (h : progress.value? = some value) :
    read? ⟨call :: calls, progress⟩ ", ".toList =
      some ⟨{ call with arguments := call.arguments ++ [value] } :: calls, .word []⟩ := by
  have hcomma : ", ".toList = [',', ' '] := rfl
  cases progress with
  | callee => cases h
  | comma => cases h
  | word => simp [hcomma, read?_cons, next?, endArgument?, h]
  | call => simp [hcomma, read?_cons, next?, endArgument?, h]

theorem next?_close {call : OpenCall} {progress : Progress} (h : progress.value? = some value) :
    next? ⟨call :: calls, progress⟩ ')' =
      some ⟨calls, .call (.create call.implementation (call.arguments ++ [value]))⟩ := by
  cases progress with
  | callee => cases h
  | comma => cases h
  | word letters =>
    cases letters with
    | nil => cases h
    | cons c letters => simp [next?, endCall?, endArgument?, h]
  | call => simp [next?, endCall?, endArgument?, h]

end ExpressionReader

open ExpressionReader

/-- The text of an expression is read to its end wherever an expression can begin. -/
theorem Expression.SpelledAs.exists_read : ∀ {value : Expression} {text : String},
    value.SpelledAs text → value.Legible → ∀ calls : List OpenCall,
      ∃ progress, ExpressionReader.read? ⟨calls, .word []⟩ text.toList = some ⟨calls, progress⟩ ∧
        progress.value? = some value
  | _, _, .field name, .field ⟨hne, hname⟩, calls => by
    have hword : ∀ c ∈ [',', ')', ' '], c ∉ name.toList := by
      simp only [List.forall_mem_cons]
      exact ⟨hname ',' (by simp), hname ')' (by simp), hname ' ' (by simp), nofun⟩
    refine ⟨.word name.toList, read?_word hword, ?_⟩
    have hlist : name.toList ≠ [] := fun hnil => hne (String.toList_eq_nil_iff.mp hnil)
    obtain ⟨c, rest, hcons⟩ := List.exists_cons_of_ne_nil hlist
    rw [hcons, Progress.value?, ← hcons, String.ofList_toList]
    simp
  | _, _, @create implementation arguments texts spelled, .create legible each, calls => by
    refine ⟨.call (.create implementation arguments), ?_, rfl⟩
    have htext : ("new " ++ implementation.name ++ "(" ++ ", ".intercalate texts ++ ")").toList =
        ("new ".toList ++ (implementation.name.toList ++ ['('])) ++
          ((", ".intercalate texts).toList ++ [')']) := by
      simp [String.toList_append]
    rw [htext, read?_append, read?_new legible, Option.bind_some]
    exact read?_arguments spelled each implementation [] calls (Or.inr rfl)
where
  read?_arguments : ∀ {arguments : List Expression} {texts : List String},
      List.Forall₂ SpelledAs arguments texts → (∀ argument ∈ arguments, argument.Legible) →
      ∀ (implementation : TypeIdentity) (before : List Expression) (calls : List OpenCall),
      arguments ≠ [] ∨ before = [] →
      ExpressionReader.read? ⟨⟨implementation, before⟩ :: calls, .word []⟩
        ((", ".intercalate texts).toList ++ [')']) =
          some ⟨calls, .call (.create implementation (before ++ arguments))⟩
    | _, _, .nil, _, implementation, before, calls, hbefore => by
      obtain rfl := hbefore.resolve_left (· rfl)
      rfl
    | _, _, .cons hhead .nil, each, implementation, before, calls, _ => by
      obtain ⟨progress, hread, hvalue⟩ := hhead.exists_read (each _ List.mem_cons_self)
        (⟨implementation, before⟩ :: calls)
      rw [String.intercalate_singleton, read?_append, hread, Option.bind_some, read?_cons,
        next?_close hvalue, Option.bind_some, read?_nil]
    | argument :: _ :: _, _, .cons hhead (.cons hnext hrest), each, implementation, before, calls,
        _ => by
      obtain ⟨progress, hread, hvalue⟩ := hhead.exists_read (each _ List.mem_cons_self)
        (⟨implementation, before⟩ :: calls)
      have hlater := read?_arguments (.cons hnext hrest)
        (fun argument hmem => each argument (List.mem_cons_of_mem _ hmem)) implementation
        (before ++ [argument]) calls (Or.inl (List.cons_ne_nil _ _))
      rw [String.intercalate_cons_cons, String.toList_append, String.toList_append,
        List.append_assoc, List.append_assoc, read?_append, hread, Option.bind_some, read?_append,
        read?_comma hvalue, Option.bind_some, hlater, List.append_assoc, List.singleton_append]

theorem Expression.SpelledAs.read?_eq {value : Expression} {text : String}
    (h : value.SpelledAs text) (hlegible : value.Legible) :
    Expression.read? text.toList = some value := by
  obtain ⟨progress, hread, hvalue⟩ := h.exists_read hlegible []
  rw [Expression.read?, hread, Option.bind_some]
  exact hvalue

/-- A type called `A(), new B` would be spelled as two arguments. -/
example : (Expression.create ⟨"Pair"⟩ [.create ⟨"A"⟩ [], .create ⟨"B"⟩ []]).render =
    (Expression.create ⟨"Pair"⟩ [.create ⟨"A(), new B"⟩ []]).render := by
  rfl

end CompositionRoot
