import StaticWiring.Text.Hexadecimal
import StaticWiring.TypeName

/-!
# Access at run time

What the native image must keep of a type for reflection is a set of bits. Requests for one type are
united, never reduced.

## Main definitions

* `Access` — a set of access bits, with `|||` as union.
* `Access.contains` — one set of bits includes another.
* `Access.loadType`, `Access.declaredConstructors`, … — the single bits.
* `Access.describe` — the bits in hexadecimal digits.
-/

namespace StaticWiring

/-- What the native image keeps of a type for reflection. The numbers of the bits are part of the
format of metadata files. -/
structure Access where
  /-- The bits. -/
  bits : UInt32
deriving DecidableEq, Inhabited

namespace Access

/-! ### Single bits -/

/-- No access. It is contained in every other set. -/
def none : Access := ⟨0⟩
/-- The type can be found by its name. No member is kept by this bit alone. -/
def loadType : Access := ⟨0x0001⟩
/-- All declared constructors. Private ones are among them, but not those of super classes. -/
def declaredConstructors : Access := ⟨0x0002⟩
/-- All declared methods. Private ones are among them, but not those of super classes. -/
def declaredMethods : Access := ⟨0x0004⟩
/-- All declared fields. Private ones are among them, but not those of super classes. -/
def declaredFields : Access := ⟨0x0008⟩
/-- All public constructors. They can be called without access to the others. -/
def publicConstructors : Access := ⟨0x0010⟩
/-- All public methods. Those of super types are among them. -/
def publicMethods : Access := ⟨0x0020⟩
/-- All public fields. Those of super types are among them. -/
def publicFields : Access := ⟨0x0040⟩
/-- The class file as a resource. It is no access by reflection, and leads to a resource pattern. -/
def classFile : Access := ⟨0x0080⟩
/-- The declared methods can be listed. Listing them does not allow them to be called. -/
def listDeclaredMethods : Access := ⟨0x0100⟩
/-- The public methods can be listed. Listing them does not allow them to be called. -/
def listPublicMethods : Access := ⟨0x0200⟩

/-! ### Sets of bits -/

/-- The union of two sets of bits. It is written `a ||| b`. -/
def union (a b : Access) : Access :=
  ⟨a.bits ||| b.bits⟩

instance : OrOp Access := ⟨union⟩

/-- Every bit of `b` is a bit of `a`. It says nothing about the other bits of `a`. -/
def contains (a b : Access) : Bool :=
  a.bits &&& b.bits == b.bits

/-- There is no bit. A type that is registered without any bit is still registered. -/
def isEmpty (a : Access) : Bool :=
  a.bits == 0

theorem contains_iff {a b : Access} : a.contains b = true ↔ a.bits &&& b.bits = b.bits := by
  simp [contains]

/-! ### Written form -/

/-- The bits in hexadecimal digits, at least four. The form is the one that messages use. -/
def describe (a : Access) : String :=
  "AccessBits(0x" ++ String.ofList (Text.hexDigits 4 a.bits.toNat) ++ ")"

end Access

end StaticWiring
