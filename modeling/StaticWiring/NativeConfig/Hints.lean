import StaticWiring.ClassPath
import StaticWiring.NativeConfig.Basic
import StaticWiring.Options.Basic

/-!
# Hints as requests

A hint applies if its trigger, if it has one, is on the class path, and no type that it names
belongs to a subsystem that is left out. It then turns into requests for the native image.

## Main definitions

* `NativeHint.applies` — a hint applies.
* `NativeHint.requests` — the requests of a hint.
* `NativeConfig.applyHints` — the configuration with the hints of all types.
-/

namespace StaticWiring

/-- The access of a hint to one of its types, read off the type's kind if the hint states none. The
kind is that of the class path, and a type that is not described is taken for a class. -/
def TypeHint.accessTo (hint : TypeHint) (cp : ClassPath) (type : String) : Access :=
  if hint.access.isEmpty then .inferred type (cp.kind? type) else hint.access

/-- The requests for access by reflection. Every type gets every method and every field of the hint.
-/
def TypeHint.requests (hint : TypeHint) (cp : ClassPath) : List NativeConfig.Request :=
  hint.types.flatMap fun type =>
    .reflection type (hint.accessTo cp type) ::
      hint.methods.map (.method type) ++ hint.fields.map (.field type)

/-- The requests for access from native code. There is one for each type, as members are part of it.
-/
def TypeHint.jniRequests (hint : TypeHint) (cp : ClassPath) : List NativeConfig.Request :=
  hint.types.map fun type => .jni type (hint.accessTo cp type) hint.methods hint.fields

/-- The requests for resources. They are added as they are, so that a broad pattern among them
covers later resources. -/
def ResourceHint.requests (hint : ResourceHint) : List NativeConfig.Request :=
  hint.patterns.map .pattern ++ hint.bundles.map .bundle

namespace NativeHint

/-- The hint applies. Its trigger has to be present, and nothing that it names may belong to a
subsystem that is left out. -/
def applies (hint : NativeHint) (cp : ClassPath) (options : Options) : Bool :=
  hint.trigger.all cp.isPresent && !hint.mentioned.any options.isRemoved

/-- The requests of a hint. Their order is of no account, as they are united with what is there. -/
def requests (hint : NativeHint) (cp : ClassPath) : List NativeConfig.Request :=
  hint.types.flatMap (·.requests cp) ++ hint.jniTypes.flatMap (·.jniRequests cp) ++
    hint.proxies.map (.proxy ·.interfaces) ++ hint.resources.flatMap ResourceHint.requests ++
    hint.serializables.map .serialization

end NativeHint

/-- The configuration with a hint, if it applies. Otherwise the configuration stays as it is. -/
def NativeConfig.applyHint (config : NativeConfig) (cp : ClassPath) (options : Options)
    (hint : NativeHint) : NativeConfig :=
  if hint.applies cp options then config.addAll (hint.requests cp) else config

/-- The configuration with the hints of all types. The hints belong to the types that declare them,
whether or not these are registered. -/
def NativeConfig.applyHints (config : NativeConfig) (cp : ClassPath) (options : Options) :
    NativeConfig :=
  (cp.types.flatMap (·.hints)).foldl (·.applyHint cp options ·) config

end StaticWiring
