import StaticWiring.FileTree
import StaticWiring.Metadata.Decode

/-!
# The class path

The types that one run knows, in the order in which they were found; of several types with one name
the first counts. A few platform types and the primitive types can be used without being described.

## Main definitions

* `ClassPath.insert`, `ClassPath.get?` — the types by name.
* `ClassPath.isPresent` — a type can be used.
* `ClassPath.inPackage` — the types of a package and its subpackages.
* `ClassPath.supertypes`, `ClassPath.isAssignable` — the hierarchy, nearest super types first.
* `ClassPath.load` — the types of the metadata files below folders.
-/

namespace StaticWiring

/-- The types that one run knows. What is known of a type is found by its name, so that references
between types are names as well. -/
structure ClassPath where
  /-- The types in the order in which they were found. -/
  types : List TypeDecl := []
  /-- No two types share a name. -/
  nodup_names : (types.map (·.name)).Nodup := by simp

instance : Inhabited ClassPath := ⟨{}⟩

namespace ClassPath

/-! ### Types by name -/

/-- The type with a name. Platform types are found only if they are described as well. -/
def get? (cp : ClassPath) (name : String) : Option TypeDecl :=
  cp.types.find? (·.name == name)

/-- A type with the name is described. Much of what is asked about a type is trivially so if it is
not described. -/
def contains (cp : ClassPath) (name : String) : Bool :=
  (cp.get? name).isSome

/-- A type is found by its own name. It lets the name of a type stand for the type. -/
theorem name_of_get? {cp : ClassPath} {name : String} {t : TypeDecl}
    (found : cp.get? name = some t) : t.name = name := by
  simpa using List.find?_some found

/-- A name is taken by one of the types. It turns the test into membership, which is what lemmas
about lists of names speak of. -/
theorem contains_iff {cp : ClassPath} {name : String} :
    cp.contains name = true ↔ name ∈ cp.types.map (·.name) := by
  simp [contains, get?]

/-- The class path with one more type, unless its name is taken. The first description of a name is
the one that stays, as it is on the class path of a platform. -/
def insert (cp : ClassPath) (t : TypeDecl) : ClassPath :=
  if taken : cp.contains t.name then cp
  else {
    types := cp.types ++ [t]
    nodup_names := by
      rw [contains_iff] at taken
      rw [List.map_append, List.nodup_append]
      exact ⟨cp.nodup_names, by simp, by grind⟩ }

/-- The class path with further types. They are inserted in their order, so that of two with one
name the first is kept. -/
def insertAll (cp : ClassPath) (types : List TypeDecl) : ClassPath :=
  types.foldl insert cp

/-- The class path of a list of types. It is the one way to make a class path from types whose names
may clash. -/
def ofList (types : List TypeDecl) : ClassPath :=
  insertAll {} types

/-- The names of the types in order. They are distinct, and in the order in which the types were
found. -/
def names (cp : ClassPath) : List String :=
  cp.types.map (·.name)

/-- The kind of a described type. There is none for a type without description. -/
def kind? (cp : ClassPath) (name : String) : Option TypeKind :=
  (cp.get? name).map (·.kind)

/-- Types of the platform and the container that can always be used. They are present in every
application, whether or not metadata describe them. -/
def platformTypes : List String :=
  ["java.lang.Object", "java.lang.String", "java.lang.Boolean", "java.lang.Byte", "java.lang.Short",
    "java.lang.Integer", "java.lang.Long", "java.lang.Float", "java.lang.Double",
    "java.lang.Character", "java.util.List", "java.util.Set", "java.util.Collection",
    "java.util.Map", "org.springframework.core.env.Environment",
    "org.springframework.context.ApplicationContext",
    "org.springframework.beans.factory.BeanFactory",
    "org.springframework.core.io.ResourceLoader",
    "org.springframework.context.ApplicationEventPublisher"]

/-- The type can be used: it is described, a platform type or primitive. An array or a type variable
has no name of this kind. -/
def isPresent (cp : ClassPath) (name : String) : Bool :=
  cp.contains name || platformTypes.contains name || TypeName.isPrimitive name

/-! ### Packages -/

/-- The package `inner` is `outer` or one of its subpackages. The dot behind `outer` keeps a package
from holding another one whose name merely starts like its own. -/
def isWithin (outer inner : String) : Bool :=
  outer.isEmpty || inner == outer || Text.startsWith (outer ++ ".") inner

/-- The types of a package and its subpackages in order. The order is the one in which the types
were found, which is that of the files. -/
def inPackage (cp : ClassPath) (package : String) : List TypeDecl :=
  cp.types.filter fun t => isWithin package t.package

/-! ### The hierarchy -/

/-- The types that a type extends or implements itself; none for a type without description. -/
def directSupertypes (cp : ClassPath) (name : String) : List String :=
  match cp.get? name with
  | some t => t.directSupertypes
  | none => []

/-- The described types that are not among `seen`. Their number bounds how often a search may still
go on to the super types of a type. -/
def unseen (cp : ClassPath) (seen : List String) : List TypeDecl :=
  cp.types.filter fun t => !seen.contains t.name

theorem unseen_append (cp : ClassPath) (seen : List String) (name : String) :
    cp.unseen (seen ++ [name]) = (cp.unseen seen).filter fun t => t.name != name := by
  simp only [unseen, List.filter_filter]
  congr 1
  funext t
  by_cases h : t.name = name <;> simp [h]

theorem length_unseen_le (cp : ClassPath) (seen : List String) (name : String) :
    (cp.unseen (seen ++ [name])).length ≤ (cp.unseen seen).length := by
  rw [unseen_append]
  exact List.length_filter_le _ _

theorem length_unseen_lt {cp : ClassPath} {seen : List String} {t : TypeDecl} {name : String}
    (found : cp.get? name = some t) (fresh : seen.contains name = false) :
    (cp.unseen (seen ++ [name])).length < (cp.unseen seen).length := by
  have named := name_of_get? found
  have member : t ∈ cp.unseen seen := by
    simp only [unseen, List.mem_filter, named, fresh, Bool.not_false, and_true]
    exact List.mem_of_find?_eq_some found
  rw [unseen_append]
  refine List.length_filter_lt_length_iff_exists.2 ⟨t, member, ?_⟩
  simp [named]

theorem length_unseen_name_lt {cp : ClassPath} {seen : List String} {t : TypeDecl} {name : String}
    (found : cp.get? name = some t) (fresh : seen.contains t.name = false) :
    (cp.unseen (seen ++ [t.name])).length < (cp.unseen seen).length := by
  obtain rfl := name_of_get? found
  exact length_unseen_lt found fresh

/-- The names reached from `queue`, breadth first, behind those already `seen`. Only described types
lead further, and each of them once. -/
def reach (cp : ClassPath) (seen : List String) : (queue : List String) → List String
  | [] => seen
  | name :: queue =>
    if fresh : seen.contains name then cp.reach seen queue
    else
      match found : cp.get? name with
      | none =>
        have := length_unseen_le cp seen name
        cp.reach (seen ++ [name]) queue
      | some t =>
        have := length_unseen_lt found (by simpa using fresh)
        cp.reach (seen ++ [name]) (queue ++ t.directSupertypes)
termination_by queue => ((cp.unseen seen).length, queue.length)
decreasing_by
  all_goals simp_wf
  · exact Prod.Lex.right _ (by simp)
  · rcases Nat.lt_or_eq_of_le this with h | h
    · exact Prod.Lex.left _ _ h
    · rw [h]
      exact Prod.Lex.right _ (by simp)
  · exact Prod.Lex.left _ _ this

/-- A type and its super types, the nearest first, with the root of the hierarchy. The root is put
last only if no described type leads to it; otherwise it stays where it was reached. -/
def supertypes (cp : ClassPath) (name : String) : List String :=
  let reached := cp.reach [] [name]
  if reached.contains "java.lang.Object" then reached else reached ++ ["java.lang.Object"]

/-- A value of the type `candidate` can be used where `required` is expected. Every type can be used
where the root of the hierarchy is expected, a described one or not. -/
def isAssignable (cp : ClassPath) (candidate required : String) : Bool :=
  candidate == required || (cp.supertypes candidate).contains required

/-! ### Metadata files -/

/-- Why the metadata files could not be loaded. The path of the file is reported to the user. -/
inductive LoadFault where
  /-- A file holds no text. -/
  | unreadable (path : String)
  /-- A file is no metadata. -/
  | malformed (path : String)
deriving DecidableEq

/-- The end of the names of metadata files. Other files below the folders of compiled types are
passed over. -/
def metadataSuffix : String :=
  ".types.json"

/-- The class path with the types of one file, if it is a metadata file. The test is on the last
step of the path, so that the name of a folder plays no part. -/
def addFile (path : String) (content : FileTree.Content) (cp : ClassPath) :
    Except LoadFault ClassPath :=
  if Text.endsWith metadataSuffix (FileTree.Path.lastStep path) then
    match content with
    | .binary _ => .error (.unreadable path)
    | .text text =>
      match TypeDecl.ofFile? text with
      | none => .error (.malformed path)
      | some types => .ok (cp.insertAll types)
  else .ok cp

/-- The class path with the types of the metadata files below a folder. The files come in the order
of their paths, and the first one that cannot be read ends the search. -/
def addFolder (files : FileTree) (cp : ClassPath) (folder : String) : Except LoadFault ClassPath :=
  (files.filesBelow folder).foldlM (fun cp (inner, content) =>
    addFile (FileTree.Path.joinAll folder inner) content cp) cp

/-- The types of the metadata files below folders, in the order of the folders. Of two types with
one name, the one in the earlier folder is kept. -/
def load (files : FileTree) (folders : List String) : Except LoadFault ClassPath :=
  folders.foldlM (addFolder files) {}

end ClassPath

end StaticWiring
