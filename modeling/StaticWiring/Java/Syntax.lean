import StaticWiring.Java.Literal
import StaticWiring.Java.Scope

/-!
# Expressions and statements of Java

The part of the language that registrations are written in. Types are mentioned in the order in
which they stand in the code.

## Main definitions

* `Java.Expr`, `Java.Statement` — expressions and statements.
* `Java.Expr.mentioned` — the types that an expression mentions.
* `Java.Expr.write`, `Java.Statement.write` — their written forms.
-/

namespace StaticWiring.Java

/-- An expression. It says which types and variables are used, so that both can be read off before
anything is written. -/
inductive Expr where
  /-- An expression as written. -/
  | code (text : String)
  /-- A variable. -/
  | var (name : String)
  /-- A string. -/
  | string (value : String)
  /-- A character. -/
  | character (value : Char)
  /-- A type in front of a static member. -/
  | typeName (name : String)
  /-- The class object of a type. -/
  | classOf (type : String)
  /-- The constructor of a type as a function. -/
  | constructorOf (type : String)
  /-- A new instance, with type arguments left to the compiler if there are any. -/
  | construct (type : String) (isGeneric : Bool) (arguments : List Expr)
  /-- A member of an expression. -/
  | member (receiver : Expr) (name : String)
  /-- The call of a method. -/
  | call (receiver : Expr) (method : String) (arguments : List Expr)
  /-- An expression cast to a type. -/
  | cast (type : TypeRef) (e : Expr)
  /-- An expression in parentheses. -/
  | parenthesized (e : Expr)
deriving BEq, Inhabited

namespace Expr

mutual

/-- The types that an expression mentions, in order. A type that is mentioned twice is listed twice.
-/
def mentioned : Expr → List String
  | code _ => []
  | var _ => []
  | string _ => []
  | character _ => []
  | typeName name => [name]
  | classOf type => [type]
  | constructorOf type => [type]
  | construct type _ arguments => type :: mentionedInAll arguments
  | member receiver _ => receiver.mentioned
  | call receiver _ arguments => receiver.mentioned ++ mentionedInAll arguments
  | cast type e => mentionedBy type ++ e.mentioned
  | parenthesized e => e.mentioned

/-- The types that expressions mention, in order. It is the concatenation of what the expressions
mention. -/
def mentionedInAll : List Expr → List String
  | [] => []
  | e :: es => e.mentioned ++ mentionedInAll es

end

mutual

/-- The written form of an expression. Types are written as short as the names of the file allow. -/
def write (s : Scope) : Expr → String
  | code text => text
  | var name => name
  | string value => stringLiteral value
  | character value => charLiteral value
  | typeName name => s.write name
  | classOf type => s.write type ++ ".class"
  | constructorOf type => s.write type ++ "::new"
  | construct type isGeneric arguments =>
    "new " ++ s.write type ++ (if isGeneric then "<>" else "") ++
      "(" ++ ", ".intercalate (writeAll s arguments) ++ ")"
  | member receiver name => receiver.write s ++ "." ++ name
  | call receiver method arguments =>
    receiver.write s ++ "." ++ method ++ "(" ++ ", ".intercalate (writeAll s arguments) ++ ")"
  | cast type e => "(" ++ s.writeRef type ++ ") " ++ e.write s
  | parenthesized e => "(" ++ e.write s ++ ")"

/-- The written forms of expressions. They are in the same order, one for each expression. -/
def writeAll (s : Scope) : List Expr → List String
  | [] => []
  | e :: es => e.write s :: writeAll s es

end

end Expr

/-- A statement. Only those forms are there that registrations are made of. -/
inductive Statement where
  /-- A local variable with its value. -/
  | declare (type : TypeRef) (name : String) (value : Expr)
  /-- A value is assigned. -/
  | assign (target value : Expr)
  /-- An expression is evaluated. -/
  | evaluate (e : Expr)
  /-- A value is returned. -/
  | give (e : Expr)
deriving BEq, Inhabited

namespace Statement

/-- The written form of a statement. Every statement is a single line that ends with a semicolon. -/
def write (s : Scope) : Statement → String
  | declare type name value =>
    s.writeRef type ++ " " ++ name ++ " = " ++ value.write s ++ ";"
  | assign target value => target.write s ++ " = " ++ value.write s ++ ";"
  | evaluate e => e.write s ++ ";"
  | give e => "return " ++ e.write s ++ ";"

/-- The local variable that a statement declares. No other form of statement declares one. -/
def declared? : Statement → Option String
  | declare _ name _ => some name
  | _ => none

end Statement

end StaticWiring.Java
