import StaticWiring.ClassPath

/-!
# Definitions

A definition is one instance that the container manages: its name, its type, and how the instance is
obtained. The container registers a few definitions for its own use.

## Main definitions

* `Definition`, `Definition.Origin`, `Definition.Role`.
* `Definition.factoryBean?` — the definition whose instance a factory method is called on.
* `Definition.userType` — the type as written by the user.
* `Definition.infrastructure` — the container's own definitions.
-/

namespace StaticWiring

namespace Definition

/-- Whom a definition belongs to. The container's own definitions are at work before those of the
application are processed. -/
inductive Role where
  /-- The application or its auto-configurations. -/
  | application
  /-- The container. -/
  | infrastructure
deriving DecidableEq, Inhabited

/-- How the instance is obtained. The form decides which members of which class the generated code
uses. -/
inductive Origin where
  /-- By a constructor of its type. -/
  | construction
  /-- By a factory method of a class, called on the instance of the definition `factoryBean` if the
  method is not static. -/
  | factoryMethod (declaringType : String) (factoryBean : Option String) (method : String)
  /-- By an expression of the generated code. -/
  | supplier (expression : String)
deriving DecidableEq, Inhabited

end Definition

/-- An instance that the container manages. Definitions refer to each other by name, and are found
by the type that they declare. -/
structure Definition where
  /-- The name. -/
  name : String
  /-- The declared type. -/
  type : TypeRef
  /-- How the instance is obtained. -/
  origin : Definition.Origin := .construction
  /-- The definition is preferred among those of its type. -/
  primary : Bool := false
  /-- The definition is registered by the framework. -/
  synthetic : Bool := false
  /-- Whom the definition belongs to. -/
  role : Definition.Role := .application
  /-- Where the definition comes from. -/
  description : Option String := none
deriving BEq, Inhabited

namespace Definition

/-- The definition whose instance the factory method is called on. There is none for static methods,
nor for instances that are obtained in other ways. -/
def factoryBean? (d : Definition) : Option String :=
  match d.origin with
  | .factoryMethod _ factoryBean _ => factoryBean
  | _ => none

/-- What precedes the first two dollar signs next to each other. A text without such signs is left
as it is. -/
def beforeGeneratedSuffix : List Char → List Char
  | [] => []
  | '$' :: '$' :: _ => []
  | c :: cs => c :: beforeGeneratedSuffix cs

/-- The declared type without the suffix of a generated subclass. Options that exclude a type mean
the type that the user has written. -/
def userType (d : Definition) : String :=
  String.ofList (beforeGeneratedSuffix d.type.name.toList)

/-! ### The container's own definitions -/

/-- The names and types of the container's own definitions in the order of their registration. They
are registered before anything else, so that the application can replace them. -/
def infrastructureTypes : List (String × String) :=
  [("org.springframework.context.annotation.internalConfigurationAnnotationProcessor",
      "org.springframework.context.annotation.ConfigurationClassPostProcessor"),
    ("org.springframework.context.annotation.internalAutowiredAnnotationProcessor",
      "org.springframework.beans.factory.annotation.AutowiredAnnotationBeanPostProcessor"),
    ("org.springframework.context.annotation.internalCommonAnnotationProcessor",
      "org.springframework.context.annotation.CommonAnnotationBeanPostProcessor"),
    ("org.springframework.context.event.internalEventListenerProcessor",
      "org.springframework.context.event.EventListenerMethodProcessor"),
    ("org.springframework.context.event.internalEventListenerFactory",
      "org.springframework.context.event.DefaultEventListenerFactory"),
    ("org.springframework.context.annotation.internalConfigurationBeanNameGenerator",
      "org.springframework.context.annotation.FullyQualifiedAnnotationBeanNameGenerator"),
    ("org.springframework.boot.autoconfigure.internalCachingMetadataReaderFactory",
      "org.springframework.boot.autoconfigure." ++
        "SharedMetadataReaderFactoryContextInitializer$SharedMetadataReaderFactoryBean")]

/-- The container's own definitions in the order of their registration. None of them is preferred,
and each is made by the constructor of its type. -/
def infrastructure : List Definition :=
  infrastructureTypes.map fun (name, type) =>
    { name, type := .raw type, synthetic := true, role := .infrastructure }

end Definition

end StaticWiring
