import StaticWiring.ClassForest.Basic
import StaticWiring.Registration

/-!
# The source of generated classes

Every class of a forest becomes a file of its own. The types of a file take their short names in the
order in which the class mentions them.

## Main definitions

* `ClassForest.mentioned` — the types that a class mentions.
* `ClassForest.classLines` — the lines of a class.
* `ClassForest.render` — the names and the files of all classes.
-/

namespace StaticWiring

open Java

namespace Framework

/-- The application context that initializers work on. It is the type of the only parameter of the
code that registers definitions. -/
def applicationContext : String :=
  "org.springframework.context.support.GenericApplicationContext"

/-- The interface of initializers. The framework looks for it when it starts a context. -/
def initializer : String :=
  "org.springframework.context.ApplicationContextInitializer"

/-- The interface of context loaders. The map from test classes leads to suppliers of such loaders.
-/
def contextLoader : String :=
  "org.springframework.test.context.SmartContextLoader"

/-- The context loader for generated contexts. It is made from the class of an initializer. -/
def generatedContextLoader : String :=
  "org.springframework.aot.test.context.bootstrap.SpringBootAotContextLoader"

end Framework

namespace ClassForest

/-- The full name of the class at a position. A position without a class has the name of the package
alone, with nothing behind it. -/
def qualifiedName (f : ClassForest) (i : Nat) : String :=
  f.qualify ((f.get? i).getD default).name

/-- The types that a class mentions, in the order in which they take their short names. The order
matters, since the first of two types with the same short name is imported and the other one is
written in full. -/
def mentioned (f : ClassForest) (site : Site) (c : GeneratedClass) : List String :=
  let registrations := c.wirings.flatMap fun w => (site.registration w).mentioned
  match c.role with
  | .initializer => [Framework.initializer, Framework.applicationContext] ++ registrations
  | .fork => Framework.applicationContext :: registrations
  | .contextLoaders entries =>
    ["java.util.Map", "java.util.function.Supplier", Framework.contextLoader,
      "java.util.LinkedHashMap", Framework.generatedContextLoader] ++
      entries.map fun (_, i) => f.qualifiedName i

/-- The short names in the file of a class. All mentioned types take their names before anything is
written, as the imports stand at the top of the file. -/
def scope (f : ClassForest) (site : Site) (c : GeneratedClass) : Scope :=
  ({ package := f.package, className := c.name } : Scope).mentionAll (f.mentioned site c)

/-- The calls of the forks of the class at a position. Other classes that belong to it, such as the
initializers of tests, are not called. -/
def forkCalls (f : ClassForest) (i : Nat) : List String :=
  ((f.children i).filterMap f.get?).filterMap fun c =>
    if c.role = .fork then some (c.name ++ ".registerBeans(context);") else none

/-- The lines that register the definitions of the class at a position, and call its forks. The
calls stand behind the registrations, so that a fork continues where the class ends. -/
def bodyLines (f : ClassForest) (site : Site) (s : Scope) (i : Nat) (c : GeneratedClass) :
    List String :=
  c.wirings.flatMap (fun w => (site.registration w).lines s) ++ f.forkCalls i

/-- Lines in a block. The lines are indented by one level, and the brace that closes the block
stands on its own line. -/
def block (opening : String) (lines : List String) : List String :=
  opening :: indent 1 lines ++ ["\x7d"]

/-- The lines of an initializer. Its only method registers the definitions on the context that is
passed to it. -/
def initializerLines (s : Scope) (name : String) (body : List String) : List String :=
  let context := s.write Framework.applicationContext
  block ("public class " ++ name ++ " implements " ++ s.write Framework.initializer ++ "<" ++
      context ++ "> \x7b")
    ("@Override" :: block ("public void initialize(" ++ context ++ " context) \x7b") body)

/-- The lines of a fork. It offers a static method, so that no instance of it is made. -/
def forkLines (s : Scope) (name : String) (body : List String) : List String :=
  block ("public final class " ++ name ++ " \x7b")
    (block ("public static void registerBeans(" ++ s.write Framework.applicationContext ++
      " context) \x7b") body)

/-- The lines of the map from test classes to context loaders. The entries keep the order of the
list, as they are put into a map that remembers it. -/
def loaderLines (f : ClassForest) (s : Scope) (name : String) (entries : List (String × Nat)) :
    List String :=
  let mapType := s.write "java.util.Map" ++ "<String, " ++ s.write "java.util.function.Supplier" ++
    "<" ++ s.write Framework.contextLoader ++ ">>"
  let put (entry : String × Nat) : String :=
    "entries.put(" ++ stringLiteral entry.1 ++ ", () -> new " ++
      s.write Framework.generatedContextLoader ++ "(" ++ s.write (f.qualifiedName entry.2) ++
      ".class));"
  block ("public final class " ++ name ++ " \x7b")
    (block ("public static " ++ mapType ++ " getContextLoaders() \x7b")
      ((mapType ++ " entries = new " ++ s.write "java.util.LinkedHashMap" ++ "<>();") ::
        entries.map put ++ ["return entries;"]))

/-- The lines of the class at a position, below its documentation. They depend on the role of the
class, and are indented when they are put into a file. -/
def classLines (f : ClassForest) (site : Site) (s : Scope) (i : Nat) (c : GeneratedClass) :
    List String :=
  (c.doc.map docLines).getD [] ++
    match c.role with
    | .initializer => initializerLines s c.name (f.bodyLines site s i c)
    | .fork => forkLines s c.name (f.bodyLines site s i c)
    | .contextLoaders entries => f.loaderLines s c.name entries

/-- The file of the class at a position. The imports come from the short names that the class takes.
-/
def classText (f : ClassForest) (site : Site) (i : Nat) (c : GeneratedClass) : String :=
  let s := f.scope site c
  assemble s (f.classLines site s i c)

/-- The names and the files of all classes in order. The names are those within the package; the
path of a file is made from them later. -/
def render (f : ClassForest) (site : Site) : List (String × String) :=
  f.classes.zipIdx.map fun (c, i) => (c.name, f.classText site i c)

end ClassForest

end StaticWiring
