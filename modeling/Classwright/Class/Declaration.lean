import Classwright.Class.Basic

/-!
# Class — declaration lines

* `Parameter.declaration`, `Method.signature`, `Class.declaration`: how each is declared in code.
-/

namespace Classwright

/-- A parameter in a signature: its type, if any, and its name. -/
def Parameter.declaration (parameter : Parameter) : Text :=
  if parameter.type = [] then "$" ++ parameter.name
  else parameter.type ++ " $" ++ parameter.name

/-- The declared return type; nothing for a method that returns nothing. -/
def Method.returnClause (method : Method) : Text :=
  if method.returnType = [] ∨ method.returnType = "void" then [] else ": " ++ method.returnType

/-- The declaration of a method, up to its body. -/
def Method.signature (method : Method) : Text :=
  Text.onlyIf method.isAbstract "abstract " ++ method.visibility.keyword
    ++ Text.onlyIf method.isStatic " static" ++ " function " ++ method.name ++ "("
    ++ Text.join ", " (method.parameters.map (·.declaration)) ++ ")" ++ method.returnClause

/-- The modifier of a class; abstract wins over final. -/
def Class.modifier (c : Class) : Text :=
  if c.isAbstract then "abstract " else if c.isFinal then "final " else ""

/-- The declaration of a class, up to its body. -/
def Class.declaration (c : Class) : Text :=
  c.modifier ++ "class " ++ c.name
    ++ Text.clause " extends " c.parent
    ++ (if c.implements = [] then ([] : Text) else " implements " ++ Text.join ", " c.implements)

end Classwright
