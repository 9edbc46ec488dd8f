import StaticWiring.Metadata.Hint
import StaticWiring.TypeRef.Basic

/-!
# Metadata of compiled types

A compiled type is described by its kind, its place in the hierarchy, its annotations and members,
and by what it contributes to a configuration: conditions, packages to scan, imported classes, hints
for the native image, and the context of a test class.

## Main definitions

* `Visibility`, `Visibility.reaches` — where a member can be used.
* `TypeKind` — classes, interfaces, annotations and enums.
* `Parameter`, `ConstructorDecl`, `MethodDecl`, `FieldDecl`, `BeanDecl` — members.
* `Condition` — when a configuration element is registered.
* `TestContext` — what a test class asks of its context.
* `TypeDecl` — a compiled type.
* `TypeDecl.isComponent`, `TypeDecl.isConfiguration` — what annotations make of a type.
* `Access.inferred` — the access that a type gets without a stated one.
-/

namespace StaticWiring

/-! ### Visibility and kinds -/

/-- Where a type or a member can be used. The kinds are those of the platform, from the widest to
the narrowest. -/
inductive Visibility where
  /-- Everywhere. -/
  | publicAccess
  /-- In subclasses and in the declaring package. -/
  | protectedAccess
  /-- In the declaring package. -/
  | packageAccess
  /-- In the declaring type. -/
  | privateAccess
deriving DecidableEq, Inhabited

/-- Code of the package `user` can use what is declared in `declaring`. Generated code never stands
in a subclass, so that only the package counts. -/
def Visibility.reaches (v : Visibility) (declaring user : String) : Bool :=
  match v with
  | publicAccess => true
  | protectedAccess => declaring == user
  | packageAccess => declaring == user
  | privateAccess => false

/-- The kinds of types. The kind matters for scans, for proxies and for the access by default. -/
inductive TypeKind where
  /-- A class. -/
  | classKind
  /-- An interface. -/
  | interfaceKind
  /-- An annotation. -/
  | annotationKind
  /-- An enum. -/
  | enumKind
deriving DecidableEq, Inhabited

/-- The access that a type gets without a stated one: arrays are loaded, annotations and interfaces
also have their public methods called, all else is constructed. -/
def Access.inferred (name : String) (kind : Option TypeKind) : Access :=
  if TypeName.isArray name then loadType
  else match kind with
    | some .annotationKind => loadType ||| publicMethods
    | some .interfaceKind => loadType ||| publicMethods
    | _ => loadType ||| declaredConstructors

/-! ### Members -/

/-- A parameter of a constructor or a method. It is an injection point of the executable that it
belongs to. -/
structure Parameter where
  /-- The name of the parameter. -/
  name : String := ""
  /-- The declared type. -/
  type : TypeRef := .raw "java.lang.Object"
  /-- The name of the wanted definition. -/
  qualifier : Option String := none
  /-- The expression of a value. -/
  value : Option String := none
  /-- There must be a candidate. -/
  required : Bool := true
deriving BEq, Inhabited

/-- A constructor. Its name is the same for all, so that overloads are told apart by their
parameters. -/
structure ConstructorDecl where
  /-- The parameters in order. -/
  parameters : List Parameter := []
  /-- Where the constructor can be called. -/
  visibility : Visibility := .publicAccess
  /-- The constructor is marked for injection. -/
  autowired : Bool := false
deriving BEq, Inhabited

/-- When a configuration element is registered. It belongs to a class or to a factory method, and
decides whether that is registered at all. -/
inductive Condition where
  /-- A property is set, to `expected` if there is one and to anything but `false` otherwise; an
  absent property counts as `ifMissing`. -/
  | onProperty (name : String) (expected : Option String) (ifMissing : Bool)
  /-- One of the profile expressions holds. -/
  | onProfile (expressions : List String)
  /-- All types are present. -/
  | onClass (types : List String)
  /-- No type is present. -/
  | onMissingClass (types : List String)
  /-- There is a definition of the type. -/
  | onBean (type : String)
  /-- There is no definition of the type. -/
  | onMissingBean (type : String)
deriving DecidableEq, Inhabited

/-- What makes a method a factory method. It is a part of the method, so that a method is a factory
method if it has this part. -/
structure BeanDecl where
  /-- The name of the definition, the method's name if absent. -/
  name : Option String := none
  /-- The definition is preferred among those of its type. -/
  primary : Bool := false
  /-- When the definition is registered. -/
  conditions : List Condition := []
  /-- The overload is marked as the preferred one. -/
  autowired : Bool := false
deriving DecidableEq, Inhabited

/-- A method. It may be a factory method, a setter to be called, or neither. -/
structure MethodDecl where
  /-- The name of the method. -/
  name : String := ""
  /-- The parameters in order. -/
  parameters : List Parameter := []
  /-- The declared result type. -/
  returnType : TypeRef := .raw "void"
  /-- Where the method can be called. -/
  visibility : Visibility := .publicAccess
  /-- The method needs no instance. -/
  isStatic : Bool := false
  /-- Present on factory methods. -/
  bean : Option BeanDecl := none
  /-- The method is a setter for injection. -/
  inject : Bool := false
  /-- The injection is mandatory. -/
  required : Bool := true
deriving BEq, Inhabited

/-- A field. It is completed by injection or not at all, since generated code writes no other
fields. -/
structure FieldDecl where
  /-- The name of the field. -/
  name : String := ""
  /-- The declared type. -/
  type : TypeRef := .raw "java.lang.Object"
  /-- Where the field can be used. -/
  visibility : Visibility := .privateAccess
  /-- The field is an injection point. -/
  inject : Bool := false
  /-- There must be a candidate. -/
  required : Bool := true
  /-- The name of the wanted definition. -/
  qualifier : Option String := none
  /-- The expression of a value. -/
  value : Option String := none
deriving BEq, Inhabited

/-- What a test class asks of its context. Classes that ask for the same share a context. -/
structure TestContext where
  /-- The configuration classes, the application class if there are none. -/
  classes : List String := []
  /-- Properties as `key=value`. -/
  properties : List String := []
  /-- The profiles to activate. -/
  activeProfiles : List String := []
deriving DecidableEq, Inhabited

/-! ### Types -/

/-- A compiled type. It is described by what was found in its compiled form, and is never changed by
a run. -/
structure TypeDecl where
  /-- The name of the type. -/
  name : String := ""
  /-- The kind of the type. -/
  kind : TypeKind := .classKind
  /-- Where the type can be used. -/
  visibility : Visibility := .publicAccess
  /-- The super class. -/
  superType : Option String := none
  /-- The interfaces that the type implements itself. -/
  interfaces : List String := []
  /-- The annotations. -/
  annotations : List String := []
  /-- The stated name of the component. -/
  beanName : Option String := none
  /-- The component is preferred among those of its type. -/
  primary : Bool := false
  /-- The constructors, a public one without parameters if there are none. -/
  constructors : List ConstructorDecl := []
  /-- The methods. -/
  methods : List MethodDecl := []
  /-- The fields. -/
  fields : List FieldDecl := []
  /-- When the type is registered. -/
  conditions : List Condition := []
  /-- The packages to scan; the own package if the list is empty. -/
  componentScan : Option (List String) := none
  /-- The imported configuration classes. -/
  imports : List String := []
  /-- Hints for the native image. -/
  hints : List NativeHint := []
  /-- Present on test classes with a context. -/
  testContext : Option TestContext := none
deriving BEq, Inhabited

/-! ### Annotations -/

namespace Annotation

/-- The annotation of configuration classes. It is told by its name, since annotations themselves
need not be described. -/
def configuration : String :=
  "org.springframework.context.annotation.Configuration"

/-- The annotation of auto-configuration classes. It is a configuration class that no scan may find.
-/
def autoConfiguration : String :=
  "org.springframework.boot.autoconfigure.AutoConfiguration"

/-- The annotation of the application's entry point. Exactly one class carries it, unless the
application class is stated. -/
def application : String :=
  "org.springframework.boot.autoconfigure.SpringBootApplication"

/-- The annotations that make a scanned class a component. Further annotations of the user are not
followed to these. -/
def stereotypes : List String :=
  ["org.springframework.stereotype.Component", "org.springframework.stereotype.Service",
    "org.springframework.stereotype.Repository", "org.springframework.stereotype.Controller",
    "org.springframework.web.bind.annotation.RestController", configuration, autoConfiguration,
    application]

end Annotation

namespace TypeDecl

/-- The type carries the annotation of a name. Annotations of its super types do not count. -/
def isAnnotatedWith (t : TypeDecl) (name : String) : Bool :=
  t.annotations.contains name

/-- The type is found by a scan: a class with a stereotype. Interfaces and annotations are never
found, whatever they carry. -/
def isComponent (t : TypeDecl) : Bool :=
  t.kind == .classKind && Annotation.stereotypes.any t.isAnnotatedWith

/-- The type contributes a configuration of its own. Factory methods alone do not make it one. -/
def isConfiguration (t : TypeDecl) : Bool :=
  t.isAnnotatedWith Annotation.configuration || t.isAnnotatedWith Annotation.autoConfiguration ||
    t.isAnnotatedWith Annotation.application

/-- The constructors of the type, the public one without parameters if none is declared. There is
always at least one, as there is for every class. -/
def effectiveConstructors (t : TypeDecl) : List ConstructorDecl :=
  if t.constructors.isEmpty then [{}] else t.constructors

/-- The package of the type. The package of a nested type is that of the outermost one. -/
def package (t : TypeDecl) : String :=
  TypeName.packageOf t.name

/-- The factory methods in order. Their order is that of the declaration. -/
def beanMethods (t : TypeDecl) : List MethodDecl :=
  t.methods.filter (·.bean.isSome)

/-- The types that the type extends or implements itself, the super class first. They need not be
described. -/
def directSupertypes (t : TypeDecl) : List String :=
  t.superType.toList ++ t.interfaces

/-- The name of the component that the type declares: the stated name, or else the name within the
package in small letters at its start. -/
def componentName (t : TypeDecl) : String :=
  match t.beanName with
  | some name => name
  | none => Text.decapitalize (TypeName.sourceShortName t.name)

end TypeDecl

end StaticWiring
