/-!
# Kinds of instantiation

What the compiler was doing when it instantiated a template. The name of a kind is also its
token: traces hold it in their `Kind` elements and JSON documents in their `kind` fields.
-/

namespace TemplateTrace

/-- A token that is not what its place asks for. -/
inductive TokenError where
  /-- The text is no `file|line|column`. -/
  | invalidLocation (text : String)
  /-- The text names no kind of instantiation. -/
  | unknownKind (text : String)
  deriving DecidableEq, Repr

/-- The wording of a token error. -/
def TokenError.message : TokenError → String
  | .invalidLocation text => "invalid file location: \"" ++ text ++ "\""
  | .unknownKind text => "invalid instantiation kind: \"" ++ text ++ "\""

/-- The category of an instantiation. -/
inductive Kind where
  | templateInstantiation
  | defaultTemplateArgumentInstantiation
  | defaultFunctionArgumentInstantiation
  | explicitTemplateArgumentSubstitution
  | deducedTemplateArgumentSubstitution
  | priorTemplateArgumentSubstitution
  | defaultTemplateArgumentChecking
  | exceptionSpecInstantiation
  | memoization
  /-- Stands for entities that are no template instantiations; no trace holds it. -/
  | nonTemplateType
  deriving DecidableEq, Repr, Inhabited

namespace Kind

/-- Every kind, once. -/
def all : List Kind :=
  [.templateInstantiation, .defaultTemplateArgumentInstantiation,
    .defaultFunctionArgumentInstantiation, .explicitTemplateArgumentSubstitution,
    .deducedTemplateArgumentSubstitution, .priorTemplateArgumentSubstitution,
    .defaultTemplateArgumentChecking, .exceptionSpecInstantiation, .memoization,
    .nonTemplateType]

/-- The name of a kind. -/
def name : Kind → String
  | .templateInstantiation => "TemplateInstantiation"
  | .defaultTemplateArgumentInstantiation => "DefaultTemplateArgumentInstantiation"
  | .defaultFunctionArgumentInstantiation => "DefaultFunctionArgumentInstantiation"
  | .explicitTemplateArgumentSubstitution => "ExplicitTemplateArgumentSubstitution"
  | .deducedTemplateArgumentSubstitution => "DeducedTemplateArgumentSubstitution"
  | .priorTemplateArgumentSubstitution => "PriorTemplateArgumentSubstitution"
  | .defaultTemplateArgumentChecking => "DefaultTemplateArgumentChecking"
  | .exceptionSpecInstantiation => "ExceptionSpecInstantiation"
  | .memoization => "Memoization"
  | .nonTemplateType => "NonTemplateType"

/-- The kind with the given name. -/
def ofName? (name : String) : Option Kind := all.find? (·.name = name)

/-- Reads a kind from its name. -/
def read (token : String) : Except TokenError Kind :=
  match ofName? token with
  | some kind => .ok kind
  | none => .error (.unknownKind token)

/-- Reads a kind that an event of a trace may have. -/
def readTraced (token : String) : Except TokenError Kind :=
  match ofName? token with
  | none | some .nonTemplateType => .error (.unknownKind token)
  | some kind => .ok kind

theorem mem_all (kind : Kind) : kind ∈ all := by cases kind <;> decide

@[simp] theorem ofName?_name (kind : Kind) : ofName? kind.name = some kind := by
  cases kind <;> decide

end Kind

end TemplateTrace
