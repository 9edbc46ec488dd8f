import StaticWiring.Failure

/-!
# The application class

The entry point of an application is the only type on the class path that is annotated as one.

## Main definitions

* `ClassPath.applicationClass` — the entry point of the application.
-/

namespace StaticWiring.ClassPath

/-- The types that are annotated as the application's entry point. -/
def applicationCandidates (cp : ClassPath) : List TypeDecl :=
  cp.types.filter (·.isAnnotatedWith Annotation.application)

/-- The entry point of the application. -/
def applicationClass (cp : ClassPath) : Except LoadError TypeDecl :=
  match cp.applicationCandidates with
  | [t] => .ok t
  | candidates => .error (.applicationClassNotDetected candidates.length)

end StaticWiring.ClassPath
