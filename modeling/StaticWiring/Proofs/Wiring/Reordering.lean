import StaticWiring.Proofs.Wiring.Similar
import StaticWiring.Proofs.Wiring.Supply

/-!
# Definitions in another order

A definition is wired in the same way whatever the order in which the definitions of the catalog
were registered. Candidates are told apart by what they are, never by their places: the order shows
only where all of them are injected together, and where a failure lists those that remain.

## Main definitions

* `Assembly.among` — an assembly with another catalog.

## Main results

* `Assembly.value?_alike` — the values of an injection point.
* `Assembly.choose_alike` — the chosen executables.
* `Assembly.wire_similar` — the wirings of a definition.
-/

namespace StaticWiring

/-! ### Related lists -/

section

variable {α β : Type} {R : α → α → Prop} {xs ys : List α}

theorem map_eq_of_forall₂ {f : α → β} (same : ∀ x y, R x y → f x = f y)
    (h : List.Forall₂ R xs ys) : xs.map f = ys.map f := by
  induction h with
  | nil => rfl
  | cons related _ ih => rw [List.map_cons, List.map_cons, same _ _ related, ih]

theorem forall₂_flatMap {f g : β → List α} {zs : List β}
    (h : ∀ z ∈ zs, List.Forall₂ R (f z) (g z)) : List.Forall₂ R (zs.flatMap f) (zs.flatMap g) := by
  induction zs with
  | nil => exact .nil
  | cons z zs ih =>
    rw [List.flatMap_cons, List.flatMap_cons]
    exact List.rel_append (h z List.mem_cons_self) (ih fun y hy => h y (List.mem_cons_of_mem _ hy))

end

namespace Assembly

variable {a : Assembly} {catalog : Catalog} {self : String} {point : InjectionPoint}

/-- The assembly with another catalog. Everything else stays. -/
def among (a : Assembly) (catalog : Catalog) : Assembly :=
  { a with catalog }

theorem classPath_among : (a.among catalog).classPath = a.classPath :=
  rfl

/-! ### Candidates -/

theorem prefer_perm {ds es : List Definition} (h : ds.Perm es) (p : Definition → Bool) :
    (prefer p ds).Perm (prefer p es) := by
  unfold prefer
  rw [h.length_eq, (h.filter p).length_eq]
  split
  · exact h.filter p
  · exact h

theorem narrow_perm {ds es : List Definition} (h : ds.Perm es) (name : String) :
    (narrow name ds).Perm (narrow name es) :=
  prefer_perm (prefer_perm h _) _

variable (perm : a.catalog.definitions.Perm catalog.definitions)

include perm

theorem candidates_perm (self : String) (type : TypeRef) :
    (a.candidates self type).Perm ((a.among catalog).candidates self type) :=
  (perm.filter _).filter _

theorem contains_eq_of_perm (name : String) :
    a.catalog.contains name = catalog.contains name := by
  rw [Bool.eq_iff_iff, Catalog.contains_iff, Catalog.contains_iff]
  exact (perm.map _).mem_iff

omit perm

/-! ### Values -/

theorem alike_refl {α : Type} {R : α → α → Prop} (refl : ∀ x, R x x)
    (result : Except DependencyFault α) : Alike DependencyFault.Similar R result result := by
  cases result with
  | error fault => exact .error (.refl fault)
  | ok x => exact .ok (refl x)

theorem rel_similar_refl : (value : Option Value) → Option.Rel Value.Similar value value
  | none => .none
  | some v => .some (.refl v)

theorem single?_alike {ds es : List Definition} (h : ds.Perm es) :
    Alike DependencyFault.Similar (Option.Rel Value.Similar) (single? point ds)
      (single? point es) := by
  unfold single?
  match narrow point.name ds, narrow point.name es, narrow_perm h point.name with
  | [], ys, narrowed =>
    obtain rfl := narrowed.nil_eq
    exact alike_refl rel_similar_refl _
  | [d], ys, narrowed =>
    obtain rfl := List.singleton_perm.1 narrowed
    exact alike_refl rel_similar_refl _
  | d :: d' :: _, [], narrowed => cases narrowed.length_eq
  | d :: d' :: _, [e], narrowed => cases narrowed.length_eq
  | d :: d' :: _, e :: e' :: _, narrowed => exact .error (.multipleCandidates (narrowed.map _))

include perm

theorem collection?_alike (kind : CollectionKind) (element : TypeRef) :
    Alike DependencyFault.Similar (Option.Rel Value.Similar)
      (a.collection? self point kind element)
      ((a.among catalog).collection? self point kind element) := by
  have names := (candidates_perm perm self element).map (·.name)
  simp only [collection?]
  generalize (a.candidates self element).map (·.name) = xs at names ⊢
  generalize ((a.among catalog).candidates self element).map (·.name) = ys at names ⊢
  cases xs with
  | nil =>
    obtain rfl := names.nil_eq
    exact alike_refl rel_similar_refl _
  | cons x xs =>
    cases ys with
    | nil => cases names.length_eq
    | cons y ys => exact .ok (.some (.beans kind element names))

theorem bean?_alike :
    Alike DependencyFault.Similar (Option.Rel Value.Similar) (a.bean? self point)
      ((a.among catalog).bean? self point) := by
  have candidates := candidates_perm perm self point.type
  simp only [bean?]
  cases point.qualifier with
  | none => exact single?_alike candidates
  | some qualifier =>
    have qualified := candidates.filter (·.name == qualifier)
    simp only
    generalize (a.candidates self point.type).filter (·.name == qualifier) = ds at qualified ⊢
    generalize ((a.among catalog).candidates self point.type).filter (·.name == qualifier) = es
      at qualified ⊢
    cases ds with
    | nil =>
      obtain rfl := qualified.nil_eq
      exact alike_refl rel_similar_refl _
    | cons d ds =>
      cases es with
      | nil => cases qualified.length_eq
      | cons e es => exact single?_alike qualified

theorem value?_alike (self : String) (point : InjectionPoint) :
    Alike DependencyFault.Similar (Option.Rel Value.Similar) (a.value? self point)
      ((a.among catalog).value? self point) := by
  unfold value?
  split
  · exact alike_refl rel_similar_refl _
  · split
    · exact alike_refl rel_similar_refl _
    · split
      · exact collection?_alike perm _ _
      · exact bean?_alike perm

/-! ### Arguments -/

omit perm in
theorem similar_getD_null {value value' : Option Value}
    (h : Option.Rel Value.Similar value value') :
    (value.getD .null).Similar (value'.getD .null) := by
  cases h with
  | none => exact .refl _
  | some similar => exact similar

theorem argumentsFrom_alike (self kind signature : String) (i : Nat) (ps : List Parameter) :
    Alike GenerationError.Similar (List.Forall₂ Value.Similar)
      (a.argumentsFrom self kind signature i ps)
      ((a.among catalog).argumentsFrom self kind signature i ps) := by
  induction ps generalizing i with
  | nil => exact .ok .nil
  | cons p ps ih =>
    have first := value?_alike perm self p.point
    have others := ih (i + 1)
    simp only [argumentsFrom]
    generalize a.value? self p.point = value at first ⊢
    generalize (a.among catalog).value? self p.point = value' at first ⊢
    generalize a.argumentsFrom self kind signature (i + 1) ps = values at others ⊢
    generalize (a.among catalog).argumentsFrom self kind signature (i + 1) ps = values' at others ⊢
    cases first with
    | error similar => exact .error (.unsatisfied _ _ _ similar)
    | ok similar =>
      cases others with
      | error failures => exact .error failures
      | ok rest => exact .ok (.cons (similar_getD_null similar) rest)

theorem arguments_alike (self kind : String) (e : Executable) :
    Alike GenerationError.Similar (List.Forall₂ Value.Similar) (a.arguments self kind e)
      ((a.among catalog).arguments self kind e) :=
  argumentsFrom_alike perm self kind e.signature 0 e.parameters

/-! ### The chosen executable -/

omit perm

/-- The same executable, called with similar arguments. The number of parameters is therefore the
same as well. -/
structure SameCall (x y : Executable × List Value) : Prop where
  /-- It is the same executable. -/
  executable_eq : x.1 = y.1
  /-- The arguments are similar. -/
  arguments : List.Forall₂ Value.Similar x.2 y.2

/-- The same executable, which cannot be called for similar causes. It is the counterpart of a call
with arguments. -/
structure SameFailure (x y : Executable × GenerationError) : Prop where
  /-- It is the same executable. -/
  executable_eq : x.1 = y.1
  /-- The causes are similar. -/
  cause : x.2.Similar y.2

theorem greatest_forall₂ {α : Type} {R : α → α → Prop} (key : α → Nat) {xs ys : List α}
    (same : ∀ x y, R x y → key x = key y) (h : List.Forall₂ R xs ys) :
    List.Forall₂ R (greatest key xs) (greatest key ys) := by
  have keys : xs.map key = ys.map key := map_eq_of_forall₂ same h
  have bound (zs : List α) (n : Nat) : (zs.all fun z => key z ≤ n) = (zs.map key).all (· ≤ n) := by
    rw [List.all_map]
    rfl
  refine List.rel_filter (fun x y related => ?_) h
  show (xs.all fun z => key z ≤ key x) = true ↔ (ys.all fun z => key z ≤ key y) = true
  rw [bound, bound, keys, same x y related]

include perm

theorem callable_forall₂ (self kind : String) (es : List Executable) :
    List.Forall₂ SameCall (a.callable self kind es) ((a.among catalog).callable self kind es) := by
  refine List.rel_filterMap (R := Eq) (fun e e' same => ?_) (List.forall₂_refl es)
  subst same
  have called := arguments_alike perm self kind e
  generalize a.arguments self kind e = values at called ⊢
  generalize (a.among catalog).arguments self kind e = values' at called ⊢
  cases called with
  | error => exact .none
  | ok similar => exact .some ⟨rfl, similar⟩

theorem failures_forall₂ (self kind : String) (es : List Executable) :
    List.Forall₂ SameFailure (a.failures self kind es)
      ((a.among catalog).failures self kind es) := by
  refine List.rel_filterMap (R := Eq) (fun e e' same => ?_) (List.forall₂_refl es)
  subst same
  have called := arguments_alike perm self kind e
  generalize a.arguments self kind e = values at called ⊢
  generalize (a.among catalog).arguments self kind e = values' at called ⊢
  cases called with
  | error similar => exact .some ⟨rfl, similar⟩
  | ok => exact .none

theorem choose_alike (self type kind : String) (es : List Executable) :
    Alike GenerationError.Similar SameCall (a.choose self type kind es)
      ((a.among catalog).choose self type kind es) := by
  have called := greatest_forall₂ (·.1.parameters.length)
    (fun x y same => by rw [same.executable_eq])
    (callable_forall₂ perm self kind (Executable.pool es))
  have failed := greatest_forall₂ (·.1.parameters.length)
    (fun x y same => by rw [same.executable_eq])
    (failures_forall₂ perm self kind (Executable.pool es))
  simp only [choose]
  -- Both lists are related item by item, hence they are equally long and the same case applies.
  generalize greatest _ (a.callable self kind _) = xs at called ⊢
  generalize greatest _ ((a.among catalog).callable self kind _) = ys at called ⊢
  generalize greatest _ (a.failures self kind _) = fs at failed ⊢
  generalize greatest _ ((a.among catalog).failures self kind _) = gs at failed ⊢
  cases called with
  | nil =>
    cases failed with
    | nil => exact .error (.refl _)
    | cons same _ => exact .error same.cause
  | cons same others =>
    cases others with
    | nil => exact .ok same
    | cons next others =>
      have signatures := map_eq_of_forall₂ (f := (·.1.signature))
        (fun x y same => by rw [same.executable_eq]) (.cons same (.cons next others))
      exact .error (.of_eq (congrArg _ signatures))

/-! ### Instantiation -/

theorem construct_alike (d : Definition) (t : Option TypeDecl) :
    Alike GenerationError.Similar Instantiation.Similar (a.construct d t)
      ((a.among catalog).construct d t) := by
  cases t with
  | none => exact .ok (.construction [] false .nil)
  | some t =>
    have chosen := choose_alike perm d.name t.name "constructor"
      (t.effectiveConstructors.map (.ofConstructor t.name))
    simp only [construct]
    generalize a.choose _ _ _ _ = x at chosen ⊢
    generalize (a.among catalog).choose _ _ _ _ = y at chosen ⊢
    cases chosen with
    | error similar => exact .error similar
    | @ok x y same =>
      obtain ⟨e, arguments⟩ := x
      obtain ⟨e', arguments'⟩ := y
      obtain rfl : e = e' := same.executable_eq
      exact .ok (.construction _ _ same.arguments)

/-- The same overload, called with similar arguments. It is what a call of a factory method comes
from. -/
structure SameOverload (x y : List TypeRef × List Value × Visibility) : Prop where
  /-- The types of the parameters are the same. -/
  parameterTypes_eq : x.1 = y.1
  /-- The arguments are similar. -/
  arguments : List.Forall₂ Value.Similar x.2.1 y.2.1
  /-- The overload can be called from the same places. -/
  visibility_eq : x.2.2 = y.2.2

theorem chooseOverload_alike (d : Definition) (declaring : Option TypeDecl)
    (type method : String) :
    Alike GenerationError.Similar SameOverload (a.chooseOverload d declaring type method)
      ((a.among catalog).chooseOverload d declaring type method) := by
  have chosen := choose_alike perm d.name type "factory method" (overloads declaring type method)
  unfold chooseOverload
  split
  · exact .ok ⟨rfl, .nil, rfl⟩
  · generalize a.choose _ _ _ _ = x at chosen ⊢
    generalize (a.among catalog).choose _ _ _ _ = y at chosen ⊢
    cases chosen with
    | error similar => exact .error similar
    | ok same =>
      exact .ok ⟨by rw [same.executable_eq], same.arguments, by rw [same.executable_eq]⟩

theorem callFactory_alike (d : Definition) (type : String) (factoryBean : Option String)
    (method : String) :
    Alike GenerationError.Similar Instantiation.Similar (a.callFactory d type factoryBean method)
      ((a.among catalog).callFactory d type factoryBean method) := by
  have chosen := chooseOverload_alike perm d (a.classPath.get? type) type method
  have known : (fun bean => !(a.among catalog).catalog.contains bean) =
      fun bean => !a.catalog.contains bean := by
    funext bean
    rw [contains_eq_of_perm perm]
    rfl
  unfold callFactory
  rw [known]
  split
  · exact .error (.refl _)
  · simp only [classPath_among]
    generalize a.chooseOverload d _ type method = x at chosen ⊢
    generalize (a.among catalog).chooseOverload d _ type method = y at chosen ⊢
    cases chosen with
    | error similar => exact .error similar
    | @ok x y same =>
      obtain ⟨types, arguments, visibility⟩ := x
      obtain ⟨types', arguments', visibility'⟩ := y
      obtain rfl : types = types' := same.parameterTypes_eq
      obtain rfl : visibility = visibility' := same.visibility_eq
      exact .ok (.factoryMethod _ _ _ _ _ same.arguments)

theorem instantiate_alike (d : Definition) :
    Alike GenerationError.Similar Instantiation.Similar (a.instantiate d)
      ((a.among catalog).instantiate d) := by
  unfold instantiate
  split
  · exact construct_alike perm d _
  · exact callFactory_alike perm d _ _ _
  · exact .ok (.supplier _)

/-! ### Injections -/

theorem injectField_alike (self : String) (owner : TypeDecl) (f : FieldDecl) :
    Alike GenerationError.Similar (Option.Rel Injection.Similar) (a.injectField self owner f)
      ((a.among catalog).injectField self owner f) := by
  have found := value?_alike perm self f.point
  unfold injectField
  generalize a.value? self f.point = value at found ⊢
  generalize (a.among catalog).value? self f.point = value' at found ⊢
  cases found with
  | error similar => exact .error (.unsatisfied _ _ _ similar)
  | ok similar =>
    cases similar with
    | none => exact .ok .none
    | some similar => exact .ok (.some (.field _ _ _ _ similar))

theorem setterArguments?_alike (self signature : String) (m : MethodDecl) (i : Nat)
    (ps : List Parameter) :
    Alike GenerationError.Similar (Option.Rel (List.Forall₂ Value.Similar))
      (a.setterArguments? self signature m i ps)
      ((a.among catalog).setterArguments? self signature m i ps) := by
  induction ps generalizing i with
  | nil => exact .ok (.some .nil)
  | cons p ps ih =>
    have first := value?_alike perm self (m.point p)
    have others := ih (i + 1)
    simp only [setterArguments?]
    generalize a.value? self (m.point p) = value at first ⊢
    generalize (a.among catalog).value? self (m.point p) = value' at first ⊢
    generalize a.setterArguments? self signature m (i + 1) ps = values at others ⊢
    generalize (a.among catalog).setterArguments? self signature m (i + 1) ps = values' at others ⊢
    cases first with
    | error similar => exact .error (.unsatisfied _ _ _ similar)
    | ok similar =>
      cases similar with
      | none => exact .ok .none
      | some similar =>
        cases others with
        | error failures => exact .error failures
        | ok rest =>
          cases rest with
          | none => exact .ok .none
          | some rest => exact .ok (.some (.cons similar rest))

theorem injectMethod_alike (self : String) (owner : TypeDecl) (m : MethodDecl) :
    Alike GenerationError.Similar (Option.Rel Injection.Similar) (a.injectMethod self owner m)
      ((a.among catalog).injectMethod self owner m) := by
  have called := setterArguments?_alike perm self
    (Executable.signatureOf owner.name ("." ++ m.name) m.parameters) m 0 m.parameters
  simp only [injectMethod]
  generalize a.setterArguments? self _ m 0 m.parameters = values at called ⊢
  generalize (a.among catalog).setterArguments? self _ m 0 m.parameters = values' at called ⊢
  cases called with
  | error similar => exact .error similar
  | ok similar =>
    cases similar with
    | none => exact .ok .none
    | some similar => exact .ok (.some (.method _ _ _ _ similar))

theorem declaredInjections_forall₂ (self : String) (owner : TypeDecl) :
    List.Forall₂ (Alike GenerationError.Similar (Option.Rel Injection.Similar))
      (a.declaredInjections self owner) ((a.among catalog).declaredInjections self owner) := by
  refine List.rel_append ?_ ?_
  · rw [List.forall₂_map_left_iff, List.forall₂_map_right_iff, List.forall₂_same]
    exact fun f _ => injectField_alike perm self owner f
  · rw [List.forall₂_map_left_iff, List.forall₂_map_right_iff, List.forall₂_same]
    exact fun m _ => injectMethod_alike perm self owner m

omit perm in
theorem collect_similar {xs ys : List (Except GenerationError (Option Injection))}
    (h : List.Forall₂ (Alike GenerationError.Similar (Option.Rel Injection.Similar)) xs ys) :
    (collect xs).Similar (List.Forall₂ Injection.Similar) (collect ys) := by
  induction h with
  | nil => exact Attempt.similar_pure .nil
  | cons first _ ih =>
    unfold collect
    refine (Attempt.similar_ofExcept first).bind fun found found' both => ?_
    cases both with
    | none => exact ih
    | some similar =>
      refine (Attempt.similar_request similar.requests_eq).bind fun _ _ _ => ?_
      exact ih.bind fun _ _ others => Attempt.similar_pure (.cons similar others)

theorem inject_similar (self : String) (t : TypeDecl) :
    (a.inject self t).Similar (List.Forall₂ Injection.Similar)
      ((a.among catalog).inject self t) :=
  collect_similar (forall₂_flatMap fun owner _ => declaredInjections_forall₂ perm self owner)

theorem injections_similar (d : Definition) :
    (a.injections d).Similar (List.Forall₂ Injection.Similar)
      ((a.among catalog).injections d) := by
  simp only [Assembly.injections, classPath_among]
  split
  · exact Attempt.similar_pure List.Forall₂.nil
  · exact Attempt.similar_pure List.Forall₂.nil
  · exact inject_similar perm d.name _

end Assembly

/-! ### A shop in two orders -/

namespace Sample

/-- The shop with the same two parts, registered in the opposite order. Lists of parts come out in
this order. -/
def reversedCatalog : Catalog where
  definitions := [partDefinition "nut", partDefinition "bolt", shopDefinition]
  nodup_names := by decide

theorem wire_reversedCatalog : ((shopAssembly reversedCatalog).wire shopDefinition).outcome =
    .ok (shopWiring ["nut", "bolt"]) := by
  have found : (shopAssembly reversedCatalog).candidates "shop" (.raw "lib.Part") =
      [partDefinition "nut", partDefinition "bolt"] := by cbv
  exact wire_shop found (by cbv) (by cbv)

end Sample

namespace Assembly

/-! ### Wirings -/

/-- A definition is wired in the same way from a catalog with the same definitions in another
order: it fails for similar causes, or the wirings are similar, and the requests are the same. -/
theorem wire_similar (a : Assembly) (catalog : Catalog)
    (perm : a.catalog.definitions.Perm catalog.definitions) (d : Definition) :
    (a.wire d).Similar Wiring.Similar ((a.among catalog).wire d) := by
  unfold wire
  refine (Attempt.similar_request rfl).bind fun _ _ _ => ?_
  refine (Attempt.similar_ofExcept (instantiate_alike perm d)).bind fun i i' made => ?_
  refine (Attempt.similar_request (made.requests_eq _)).bind fun _ _ _ => ?_
  refine (injections_similar perm d).bind fun _ _ completed => ?_
  exact Attempt.similar_pure ⟨rfl, rfl, made, completed⟩

theorem wire_similar_shop :
    Sample.shopCatalog.definitions.Perm Sample.reversedCatalog.definitions ∧
      ((Sample.shopAssembly Sample.shopCatalog).wire Sample.shopDefinition).outcome =
        .ok (Sample.shopWiring ["bolt", "nut"]) ∧
      ((Sample.shopAssembly Sample.reversedCatalog).wire Sample.shopDefinition).outcome =
        .ok (Sample.shopWiring ["nut", "bolt"]) ∧
      (Sample.shopWiring ["bolt", "nut"]).Similar (Sample.shopWiring ["nut", "bolt"]) := by
  have perm : Sample.shopCatalog.definitions.Perm Sample.reversedCatalog.definitions :=
    (List.reverse_perm _).symm
  have similar := (wire_similar (Sample.shopAssembly Sample.shopCatalog) Sample.reversedCatalog
    perm Sample.shopDefinition).outcome
  refine ⟨perm, Sample.wire_shopCatalog, Sample.wire_reversedCatalog, ?_⟩
  rw [Sample.wire_shopCatalog, show (Sample.shopAssembly Sample.shopCatalog).among
    Sample.reversedCatalog = Sample.shopAssembly Sample.reversedCatalog from rfl,
    Sample.wire_reversedCatalog] at similar
  cases similar with
  | ok related => exact related

end Assembly

end StaticWiring
