import StaticWiring.Definition.Basic
import StaticWiring.NativeConfig.Basic
import StaticWiring.Wiring.Literal

/-!
# Wirings

A wiring says how a definition is built: which constructor or factory method is called with which
values, and which fields and setters are injected afterwards. What the generated code cannot reach
directly is reached by reflection, which the native image must be told.

## Main definitions

* `Value` — where an injected value comes from.
* `Instantiation`, `Injection` — how an instance is obtained and completed.
* `Wiring` — how a definition is built.
* `Wiring.references` — the definitions that a wiring mentions.
* `Wiring.requests` — what a wiring asks of the native image.
-/

namespace StaticWiring

/-- What the container itself can inject. There are no definitions for it in the catalog. -/
inductive ContainerObject where
  /-- The application context. -/
  | context
  /-- The environment. -/
  | environment
  /-- The bean factory. -/
  | beanFactory
deriving DecidableEq, Inhabited

/-- The object of the container that is injected for a type. The test is on the name, whatever super
types it has. -/
def ContainerObject.ofType? : (type : String) → Option ContainerObject
  | "org.springframework.context.ApplicationContext" => some context
  | "org.springframework.context.ConfigurableApplicationContext" => some context
  | "org.springframework.context.support.GenericApplicationContext" => some context
  | "org.springframework.core.io.ResourceLoader" => some context
  | "org.springframework.context.ApplicationEventPublisher" => some context
  | "org.springframework.core.env.Environment" => some environment
  | "org.springframework.core.env.ConfigurableEnvironment" => some environment
  | "org.springframework.beans.factory.BeanFactory" => some beanFactory
  | "org.springframework.beans.factory.ListableBeanFactory" => some beanFactory
  | "org.springframework.beans.factory.config.ConfigurableListableBeanFactory" => some beanFactory
  | _ => none

/-- A collection of all candidates of a type. Where such a type is asked for, all candidates are
injected, and there may be none. -/
inductive CollectionKind where
  /-- A list. -/
  | list
  /-- A set. -/
  | set
deriving DecidableEq, Inhabited

/-- The kind and the element type of a collection type with one type argument. Other collections are
injected like any other type. -/
def CollectionKind.ofType? : TypeRef → Option (CollectionKind × TypeRef)
  | ⟨"java.util.List", [element]⟩ => some (list, element)
  | ⟨"java.util.Collection", [element]⟩ => some (list, element)
  | ⟨"java.util.Set", [element]⟩ => some (set, element)
  | _ => none

/-- Where an injected value comes from. Only the first two mention definitions. -/
inductive Value where
  /-- The definition with a name, as a value of a type. -/
  | bean (name : String) (type : TypeRef)
  /-- The definitions with the names. -/
  | beans (kind : CollectionKind) (element : TypeRef) (names : List String)
  /-- An object of the container. -/
  | container (object : ContainerObject)
  /-- A literal. -/
  | literal (literal : Literal)
  /-- Nothing. -/
  | null
deriving BEq, Inhabited

/-- The definitions that a value mentions. They are in the order of the value, and may occur several
times in arguments. -/
def Value.references : Value → List String
  | bean name _ => [name]
  | beans _ _ names => names
  | _ => []

/-- How an instance is obtained. Reflection is used where the generated code cannot use the member
itself. -/
inductive Instantiation where
  /-- By a constructor. -/
  | construction (parameterTypes : List TypeRef) (arguments : List Value) (reflective : Bool)
  /-- By a factory method, called on the instance of the definition `factoryBean` if there is
  one. -/
  | factoryMethod (declaringType : String) (factoryBean : Option String) (method : String)
      (parameterTypes : List TypeRef) (arguments : List Value) (reflective : Bool)
  /-- By an expression of the generated code. -/
  | supplier (expression : String)
deriving BEq, Inhabited

/-- The definitions that an instantiation mentions. A factory bean is mentioned before the
arguments. -/
def Instantiation.references : Instantiation → List String
  | construction _ arguments _ => arguments.flatMap Value.references
  | factoryMethod _ factoryBean _ _ arguments _ =>
    factoryBean.toList ++ arguments.flatMap Value.references
  | supplier _ => []

/-- How an instance is completed. The member may belong to a super class, which is why its type is
part of it. -/
inductive Injection where
  /-- A value is assigned to a field. -/
  | field (declaringType name : String) (type : TypeRef) (value : Value) (reflective : Bool)
  /-- A setter is called. -/
  | method (declaringType name : String) (parameterTypes : List TypeRef) (arguments : List Value)
      (reflective : Bool)
deriving BEq, Inhabited

/-- The definitions that an injection mentions. There are none for literals and objects of the
container. -/
def Injection.references : Injection → List String
  | field _ _ _ value _ => value.references
  | method _ _ _ arguments _ => arguments.flatMap Value.references

/-- How a definition is built. It is what a definition becomes once its class and the other
definitions are known. -/
structure Wiring where
  /-- The definition. -/
  definition : Definition
  /-- The generated code can name the definition's type. -/
  typeAccessible : Bool
  /-- How the instance is obtained. -/
  instantiation : Instantiation
  /-- How the instance is completed, in order. -/
  injections : List Injection
deriving BEq, Inhabited

/-- The definitions that a wiring mentions, each once, in the order of their first mention. The
order of definitions is made from these mentions. -/
def Wiring.references (w : Wiring) : List String :=
  (w.instantiation.references ++ w.injections.flatMap Injection.references).eraseDups

/-! ### Requests -/

/-- The request for a method or a constructor that is called by reflection. A constructor has the
name that the platform uses for all constructors. -/
def NativeConfig.Request.invocation (type method : String) (parameterTypes : List TypeRef) :
    NativeConfig.Request :=
  .method type ⟨method, parameterTypes.map (·.name)⟩

/-- What an instantiation of a type asks of the native image. It asks for nothing unless it works by
reflection. -/
def Instantiation.requests (type : String) : Instantiation → List NativeConfig.Request
  | construction parameterTypes _ reflective =>
    if reflective then [.invocation type "<init>" parameterTypes] else []
  | factoryMethod declaringType _ method parameterTypes _ reflective =>
    if reflective then [.invocation declaringType method parameterTypes] else []
  | supplier _ => []

/-- What an injection asks of the native image. A field has to be writable. -/
def Injection.requests : Injection → List NativeConfig.Request
  | field declaringType name _ _ reflective =>
    if reflective then [.field declaringType ⟨name, true⟩] else []
  | method declaringType name parameterTypes _ reflective =>
    if reflective then [.invocation declaringType name parameterTypes] else []

/-- What a wiring asks of the native image. Nothing else that happens on the way to a wiring asks
for anything. -/
def Wiring.requests (w : Wiring) : List NativeConfig.Request :=
  (if w.typeAccessible then [] else [.reflection w.definition.type.name .loadType]) ++
    w.instantiation.requests w.definition.type.name ++ w.injections.flatMap Injection.requests

end StaticWiring
