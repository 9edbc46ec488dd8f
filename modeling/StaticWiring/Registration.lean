import StaticWiring.Java.CompilationUnit
import StaticWiring.Java.Syntax
import StaticWiring.Wiring.Basic

/-!
# Registrations

A registration is the code that registers one definition with the container: what the container is
told about it, and a supplier that obtains the instance and injects its fields and setters. A type
that the generated code cannot name is looked up by its name at run time, and a member that it
cannot use is used by reflection.

The types of a registration take their short names in the order of `Registration.mentioned`, which
is not their order in the text: arguments come before the call that they belong to.

## Main definitions

* `Site` — where the generated code stands.
* `Site.classLiteral`, `Site.value` — the expressions of classes and values.
* `Creation`, `Completion` — the code that obtains and completes an instance.
* `Registration`, `Site.registration` — the code that registers a definition.
* `Registration.lines` — the written form.
-/

namespace StaticWiring

open Java

/-! ### Types of the framework -/

namespace Framework

/-- The registrar of definitions. Every registration starts with a call of it. -/
def registrar : String :=
  "org.springframework.aot.beans.factory.BeanDefinitionRegistrar"

/-- The definition that a customizer is given. The role that a definition may be given is one of its
constants. -/
def beanDefinition : String :=
  "org.springframework.beans.factory.config.BeanDefinition"

/-- Helpers for reflection. They make members accessible that the generated code cannot use. -/
def reflectionUtils : String :=
  "org.springframework.util.ReflectionUtils"

/-- Helpers for classes. They find a class by its name. -/
def classUtils : String :=
  "org.springframework.util.ClassUtils"

/-- Helpers for instances. They make an instance by a constructor that is not accessible. -/
def beanUtils : String :=
  "org.springframework.beans.BeanUtils"

end Framework

/-! ### Expressions -/

/-- Where the generated code stands. It is all that the way in which a type or member is used
depends on. -/
structure Site where
  /-- The types that are known. -/
  classPath : ClassPath
  /-- The package of the generated code. -/
  package : String

namespace Site

/-- The generated code can name the type; it can if the type is not described. -/
def canName (site : Site) (type : String) : Bool :=
  (site.classPath.get? type).all fun t => t.visibility.reaches t.package site.package

/-- The application context that the definitions are registered with. It is the parameter of the
method that the code stands in. -/
def context : Expr :=
  .var "context"

/-- The class object of a type, looked up by its name if the type cannot be named. The lookup by
name asks the native image for the type, which is why it is requested. -/
def classLiteral (type : String) (isNamed : Bool) : Expr :=
  if isNamed then .classOf type
  else
    .call (.typeName Framework.classUtils) "resolveClassName"
      [.string type, .call context "getClassLoader" []]

/-- The class objects of parameter types. Each of them is named if it can be, whatever the others
are. -/
def classLiterals (site : Site) (types : List TypeRef) : List Expr :=
  types.map fun t => classLiteral t.name (site.canName t.name)

/-- The instance of a definition, as a value of a type if the type can be named. A value of a
primitive type is asked for without the type, as no class object of it would match. -/
def reference (site : Site) (name : String) (type : TypeRef) : Expr :=
  if TypeName.isPrimitive type.name || !site.canName type.name then
    .call context "getBean" [.string name]
  else .call context "getBean" [.string name, .classOf type.name]

/-- The expression of a literal. The suffixes tell the type of a numeral, which otherwise would be
the one of small integers. -/
def literal : Literal → Expr
  | .string value => .string value
  | .bool value => .code (if value then "true" else "false")
  | .int value => .code (toString value)
  | .long value => .code (toString value ++ "L")
  | .float numeral => .code (numeral ++ "f")
  | .double numeral => .code (numeral ++ "d")
  | .char value => .character value
  | .enumConstant type constant => .member (.typeName type) constant

/-- The type whose factory method makes a collection. A collection is written out with its items. -/
def collectionType : CollectionKind → String
  | .list => "java.util.List"
  | .set => "java.util.Set"

/-- The expression of a value. An absent value is written as `null`. -/
def value (site : Site) : Value → Expr
  | .bean name type => site.reference name type
  | .beans kind element names =>
    .call (.typeName (collectionType kind)) "of" (names.map (site.reference · element))
  | .container .context => context
  | .container .environment => .call context "getEnvironment" []
  | .container .beanFactory => .call context "getBeanFactory" []
  | .literal l => literal l
  | .null => .code "null"

/-- A call of a helper for reflection. It takes the class object of the declaring type first. -/
def reflect (method : String) (arguments : List Expr) : Expr :=
  .call (.typeName Framework.reflectionUtils) method arguments

end Site

/-! ### The creation of an instance -/

/-- The code that obtains an instance. The names are collected here, since the order in which types
are mentioned decides on the imports. -/
structure Creation where
  /-- The types in the order in which they take their short names. -/
  mentioned : List String
  /-- The statements before the instance is obtained. -/
  statements : List Statement := []
  /-- The instance. -/
  instanceExpr : Expr

namespace Site

/-- The type of the variable that holds the instance. If the type cannot be named, the root of the
hierarchy has to do. -/
def instanceType (w : Wiring) : TypeRef :=
  if w.typeAccessible then w.definition.type else .raw "Object"

/-- The creation by a constructor. A call by reflection makes the constructor accessible first.
Without parameters and reflection the constructor itself is passed. -/
def construction (site : Site) (w : Wiring) (parameterTypes : List TypeRef)
    (arguments : List Value) (reflective : Bool) : Creation :=
  let type := w.definition.type
  let values := arguments.map site.value
  if reflective then
    let lookup := classLiteral type.name w.typeAccessible :: site.classLiterals parameterTypes
    { mentioned := Expr.mentionedInAll values ++
        [Framework.beanUtils, Framework.reflectionUtils] ++ Expr.mentionedInAll lookup
      instanceExpr := .call (.typeName Framework.beanUtils) "instantiateClass"
        (reflect "accessibleConstructor" lookup :: values) }
  else
    { mentioned := Expr.mentionedInAll values ++ [type.name]
      instanceExpr :=
        if values.isEmpty && w.injections.isEmpty then .constructorOf type.name
        else .construct type.name type.isGeneric values }

/-- The variable that holds a factory method that is called by reflection. There is at most one in a
block, as a block makes a single instance. -/
def factoryVariable : String :=
  "factoryMethod"

/-- The instance or type that a factory method is called on. A method that is not static is called
on the instance of its factory bean, which is looked up again. -/
def factoryTarget (site : Site) (declaringType : String) (factoryBean : Option String) : Expr :=
  match factoryBean with
  | none => .typeName declaringType
  | some bean =>
    if site.canName declaringType then
      .call context "getBean" [.string bean, .classOf declaringType]
    else .call context "getBean" [.string bean]

/-- The types that the target of a factory method mentions. They are the ones that the target is
written with. -/
def mentionedByTarget (site : Site) (declaringType : String) (factoryBean : Option String) :
    List String :=
  match factoryBean with
  | none => [declaringType]
  | some _ => (classLiteral declaringType (site.canName declaringType)).mentioned

/-- The creation by a factory method. A method that is called by reflection is looked up in a
statement of its own. -/
def factoryCall (site : Site) (w : Wiring) (declaringType : String) (factoryBean : Option String)
    (method : String) (parameterTypes : List TypeRef) (arguments : List Value)
    (reflective : Bool) : Creation :=
  let values := arguments.map site.value
  let target := site.factoryTarget declaringType factoryBean
  let before := Expr.mentionedInAll values ++ site.mentionedByTarget declaringType factoryBean
  if reflective then
    let declaring := classLiteral declaringType (site.canName declaringType)
    let types := site.classLiterals parameterTypes
    let receiver := if factoryBean.isSome then target else .code "null"
    { mentioned := before ++ [Framework.reflectionUtils] ++ declaring.mentioned ++
        Expr.mentionedInAll types ++ ["java.lang.reflect.Method"]
      statements := [
        .declare (.raw "java.lang.reflect.Method") factoryVariable
          (reflect "findMethod" (declaring :: .string method :: types)),
        .evaluate (reflect "makeAccessible" [.var factoryVariable])]
      instanceExpr := .cast (instanceType w)
        (reflect "invokeMethod" (.var factoryVariable :: receiver :: values)) }
  else { mentioned := before, instanceExpr := .call target method values }

/-- The creation of the instance of a definition. The form follows the one of the instantiation. -/
def creation (site : Site) (w : Wiring) : Creation :=
  match w.instantiation with
  | .construction parameterTypes arguments reflective =>
    site.construction w parameterTypes arguments reflective
  | .factoryMethod declaringType factoryBean method parameterTypes arguments reflective =>
    site.factoryCall w declaringType factoryBean method parameterTypes arguments reflective
  | .supplier expression => { mentioned := [], instanceExpr := .code expression }

end Site

/-! ### The completion of an instance -/

/-- The first of the names `base`, `base1`, `base2`, … that is not taken; so many names cannot all
be taken. -/
def freshName (taken : List String) (base : String) : String :=
  let names := (List.range (taken.length + 1)).map fun n =>
    if n = 0 then base else base ++ toString n
  (names.find? (!taken.contains ·)).getD base

/-- The code that injects one field or setter. It stands behind the code that obtains the instance.
-/
structure Completion where
  /-- The types in the order in which they take their short names. -/
  mentioned : List String
  /-- The statements. -/
  statements : List Statement

namespace Injection

/-- The name that the variable of an injection by reflection would like to have. An injection
without reflection needs no variable. -/
def wantedName? : Injection → Option String
  | field _ name _ _ reflective => if reflective then some (name ++ "Field") else none
  | method _ name _ _ reflective => if reflective then some (name ++ "Method") else none

/-- The variables of injections, different from each other and from those that are taken. They are
chosen in order, so that a name that is taken later does not change an earlier one. -/
def variableNames (taken : List String) : List Injection → List (Option String)
  | [] => []
  | injection :: injections =>
    match injection.wantedName? with
    | none => none :: variableNames taken injections
    | some base =>
      some (freshName taken base) :: variableNames (freshName taken base :: taken) injections

end Injection

namespace Site

/-- The instance that is completed. It is held by a variable, since a block that completes an
instance returns it at its end. -/
def target : Expr :=
  .var "bean"

/-- The instance as a value of a type that declares a member of it. If the type of the instance
cannot be named, its value is cast to the declaring type, which can be. -/
def receiver (w : Wiring) (declaringType : String) : Expr :=
  if w.typeAccessible then target else .parenthesized (.cast (.raw declaringType) target)

/-- The assignment of a field. By reflection the field is looked up and made accessible before its
value is set. -/
def assignField (site : Site) (w : Wiring) (declaringType name : String) (value : Value) :
    Option String → Completion
  | none =>
    let value := site.value value
    let receiver := receiver w declaringType
    { mentioned := value.mentioned ++ receiver.mentioned
      statements := [.assign (.member receiver name) value] }
  | some field =>
    let value := site.value value
    let declaring := classLiteral declaringType (site.canName declaringType)
    { mentioned := value.mentioned ++ [Framework.reflectionUtils] ++ declaring.mentioned ++
        ["java.lang.reflect.Field"]
      statements := [
        .declare (.raw "java.lang.reflect.Field") field
          (reflect "findField" [declaring, .string name]),
        .evaluate (reflect "makeAccessible" [.var field]),
        .evaluate (reflect "setField" [.var field, target, value])] }

/-- The call of a setter. By reflection the method is looked up and made accessible before it is
called. -/
def callSetter (site : Site) (w : Wiring) (declaringType name : String)
    (parameterTypes : List TypeRef) (arguments : List Value) : Option String → Completion
  | none =>
    let values := arguments.map site.value
    let receiver := receiver w declaringType
    { mentioned := Expr.mentionedInAll values ++ receiver.mentioned
      statements := [.evaluate (.call receiver name values)] }
  | some method =>
    let values := arguments.map site.value
    let declaring := classLiteral declaringType (site.canName declaringType)
    let types := site.classLiterals parameterTypes
    { mentioned := Expr.mentionedInAll values ++ [Framework.reflectionUtils] ++
        declaring.mentioned ++ Expr.mentionedInAll types ++ ["java.lang.reflect.Method"]
      statements := [
        .declare (.raw "java.lang.reflect.Method") method
          (reflect "findMethod" (declaring :: .string name :: types)),
        .evaluate (reflect "makeAccessible" [.var method]),
        .evaluate (reflect "invokeMethod" (.var method :: target :: values))] }

/-- The code of an injection with its variable, which it has if it works by reflection. The variable
is the one that was chosen for it among all injections of the definition. -/
def completion (site : Site) (w : Wiring) (injection : Injection) (var : Option String) :
    Completion :=
  match injection with
  | .field declaringType name _ value _ => site.assignField w declaringType name value var
  | .method declaringType name parameterTypes arguments _ =>
    site.callSetter w declaringType name parameterTypes arguments var

/-- The code of all injections of a definition, in order. Their variables are different from the one
that holds a factory method. -/
def completions (site : Site) (w : Wiring) : List Completion :=
  let taken := (site.creation w).statements.filterMap Statement.declared?
  w.injections.zipWith (site.completion w) (Injection.variableNames taken w.injections)

end Site

/-! ### Registrations -/

/-- What is written for the supplier of an instance. The shortest form is chosen that holds the
code. -/
inductive Supplier where
  /-- A function. -/
  | function (e : Expr)
  /-- An expression without parameters. -/
  | expression (e : Expr)
  /-- A block of statements. -/
  | block (statements : List Statement)

/-- The code that registers a definition. It is one statement, over several lines, of the
initializer or a fork. -/
structure Registration where
  /-- The types in the order in which they take their short names. -/
  mentioned : List String
  /-- The call that starts the registration. -/
  head : Expr
  /-- The calls that customize the definition. -/
  customizations : List Expr
  /-- The supplier of the instance. -/
  supplier : Supplier

namespace Site

/-- The call that starts the registration of a definition. The parameter types tell overloads apart
when the instance is made at run time. -/
def head (site : Site) (w : Wiring) : Expr :=
  let start := Expr.call (.typeName Framework.registrar) "of"
    [.string w.definition.name, classLiteral w.definition.type.name w.typeAccessible]
  match w.instantiation with
  | .construction parameterTypes _ _ =>
    if parameterTypes.isEmpty then start
    else .call start "withConstructor" (site.classLiterals parameterTypes)
  | .factoryMethod declaringType _ method parameterTypes _ _ =>
    .call start "withFactoryMethod"
      (classLiteral declaringType (site.canName declaringType) :: .string method ::
        site.classLiterals parameterTypes)
  | .supplier _ => start

/-- The calls that customize a definition. There is one for each property that differs from its
default. -/
def customizations (d : Definition) : List Expr :=
  let bd : Expr := .var "bd"
  (if d.primary then [.call bd "setPrimary" [.code "true"]] else []) ++
    (if d.synthetic then [.call bd "setSynthetic" [.code "true"]] else []) ++
    (if d.role = .infrastructure then
      [.call bd "setRole" [.member (.typeName Framework.beanDefinition) "ROLE_INFRASTRUCTURE"]]
    else [])

/-- The statements that obtain, complete and return the instance. The variable of the instance
stands between the statements that obtain it and those that complete it. -/
def supplierBlock (site : Site) (w : Wiring) : List Statement :=
  let creation := site.creation w
  creation.statements ++ .declare (instanceType w) "bean" creation.instanceExpr ::
    (site.completions w).flatMap Completion.statements ++ [.give target]

/-- The supplier of the instance of a definition. A block is needed as soon as there is a statement
or an injection. -/
def supplier (site : Site) (w : Wiring) : Supplier :=
  let creation := site.creation w
  if w.injections.isEmpty && creation.statements.isEmpty then
    match creation.instanceExpr with
    | .constructorOf type => .function (.constructorOf type)
    | e => .expression e
  else .block (site.supplierBlock w)

/-- The code that registers a definition. Types are mentioned in the order in which they appear in
the code, from its head to its end. -/
def registration (site : Site) (w : Wiring) : Registration :=
  let head := site.head w
  let customizations := customizations w.definition
  { mentioned := head.mentioned ++ Expr.mentionedInAll customizations ++
      mentionedBy (instanceType w) ++ (site.creation w).mentioned ++
      (site.completions w).flatMap Completion.mentioned
    head
    customizations
    supplier := site.supplier w }

end Site

/-! ### Written forms -/

namespace Registration

/-- The end of a registration. A single customization stands alone, several stand in a block. -/
def tail (s : Scope) (r : Registration) : String :=
  match r.customizations with
  | [] => ".register(context);"
  | [one] => ".customize((bd) -> " ++ one.write s ++ ").register(context);"
  | several =>
    ".customize((bd) -> \x7b " ++ "; ".intercalate (Expr.writeAll s several) ++
      "; \x7d).register(context);"

/-- The lines that pass the supplier. The end of the registration stands in the last of them. -/
def supplierLines (s : Scope) (r : Registration) : List String :=
  match r.supplier with
  | .function e => [".instanceSupplier(" ++ e.write s ++ ")" ++ r.tail s]
  | .expression e => [".instanceSupplier(() -> " ++ e.write s ++ ")" ++ r.tail s]
  | .block statements =>
    ".instanceSupplier(() -> \x7b" :: indent 1 (statements.map (·.write s)) ++
      ["\x7d)" ++ r.tail s]

/-- The lines of a registration. All but the first are indented by one level. -/
def lines (s : Scope) (r : Registration) : List String :=
  r.head.write s :: indent 1 (r.supplierLines s)

end Registration

end StaticWiring
