import RichTemplate.Value.Key
import RichTemplate.Value.Show

/-!
# Bindings

A binding says what takes the place of a name: a value stands for itself, and a wrapper makes a node
of the text between the tags. The kind is stated and decides; what the binding holds does not.
-/

namespace RichTemplate

inductive InterpolationError where
  | notBinding (name entry : Value)
  | notCallable (given : Value)
  | refused (message : String)

namespace InterpolationError

def message : InterpolationError → String
  | notBinding name entry =>
    "Binding '" ++ name.plainText ++ "' must be a Binding, got " ++ entry.typeName
  | notCallable given => "'" ++ given.typeName ++ "' object is not callable"
  | refused message => message

end InterpolationError

/-- What a wrapper does with a text: it ends at once, or it has the text filled as a template of its
own and makes a node of the outcome. -/
inductive Wrapping where
  | done (outcome : Except InterpolationError Value)
  | reenter (finish : Except InterpolationError (List Value) → Except InterpolationError Value)

/-- A function from enclosed text to a node, under the label its calls are listed by. -/
structure Wrapper where
  label : String
  wrap : String → Wrapping

inductive Callee where
  | absent
  | wrapper (w : Wrapper)
  | other (given : Value)

namespace Callee

/-- The value that stands in the place of a function. -/
def given : Callee → Value
  | other v => v
  | _ => .null

def isCallable : Callee → Bool
  | wrapper _ => true
  | _ => false

def isAbsent : Callee → Bool
  | absent => true
  | _ => false

end Callee

/-- How a binding makes its node; a kind that is given by anything but its name is kept as given. -/
inductive Kind where
  | wrapper
  | value
  | other (given : Value)

namespace Kind

def word? : Kind → Option String
  | wrapper => some "wrapper"
  | value => some "value"
  | other given => given.text?

/-- The name under which a kind is listed. -/
def memberName? (word : Value) : Option String :=
  match word with
  | .str "wrapper" => some "WRAPPER"
  | .str "value" => some "VALUE"
  | _ => none

/-- Whether a kind reads as that of wrappers; the bare word does too. -/
def isWrapper (k : Kind) : Bool :=
  k.word? == some "wrapper"

/-- Whether a kind reads as that of values; the bare word does too. -/
def isValue (k : Kind) : Bool :=
  k.word? == some "value"

def shown : Kind → Value
  | wrapper => .str "wrapper"
  | value => .str "value"
  | other given => given

end Kind

structure Binding where
  kind : Kind
  fn : Callee
  node : Value

inductive BindingProblem where
  | unknownKind (given : Value)
  | wrapperNeedsFunction
  | wrapperHasNode
  | valueHasFunction
  | valueNeedsNode

namespace BindingProblem

def message : BindingProblem → String
  | unknownKind given => "unknown binding kind " ++ given.spell
  | wrapperNeedsFunction => "wrapper binding requires a callable 'fn'"
  | wrapperHasNode => "wrapper binding must not carry a 'node'"
  | valueHasFunction => "value binding must not carry an 'fn'"
  | valueNeedsNode => "value binding requires a 'node'"

end BindingProblem

namespace Binding

def wrapper (fn : Callee) : Binding :=
  ⟨.wrapper, fn, .null⟩

def value (node : Value) : Binding :=
  ⟨.value, .absent, node⟩

def problems (b : Binding) : List BindingProblem :=
  match b.kind with
  | .wrapper =>
    (if b.fn.isCallable then [] else [.wrapperNeedsFunction]) ++
      (if b.node.isNull then [] else [.wrapperHasNode])
  | .value =>
    (if b.fn.isAbsent then [] else [.valueHasFunction]) ++
      (if b.node.isNull then [.valueNeedsNode] else [])
  | .other given => [.unknownKind given]

end Binding

/-- What a name may be bound to where nothing has checked it. -/
inductive Entry where
  | binding (b : Binding)
  | other (given : Value)

end RichTemplate
