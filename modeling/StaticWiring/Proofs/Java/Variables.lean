import StaticWiring.Java.Syntax

/-!
# Variables in Java code

Code uses the variables that stand in its expressions, and declares those of its declarations.
Statements keep to their own variables if they use no variable that they do not declare themselves,
other than the two that stand in every block with an instance: the instance and the context. What
keeps to its own variables can be put together, and where all variables are distinct, no part of a
block uses the variables of another part.

## Main definitions

* `Java.Expr.uses`, `Java.used`, `Java.locals` — the variables that code uses and declares.
* `Java.KeepsOwn` — statements use no variable of others.

## Main results

* `Java.KeepsOwn.append` — statements that keep to their own variables are put together.
* `Java.KeepsOwn.not_mem_used`, `Java.not_mem_locals_of_distinct` — the variables of one part of a
  block do not stand in another.
-/

namespace StaticWiring.Java

/-! ### Expressions -/

namespace Expr

mutual

/-- The variables that an expression uses. Code that is kept as a text uses none. -/
def uses : Expr → List String
  | code _ => []
  | var name => [name]
  | string _ => []
  | character _ => []
  | typeName _ => []
  | classOf _ => []
  | constructorOf _ => []
  | construct _ _ arguments => usesInAll arguments
  | member receiver _ => receiver.uses
  | call receiver _ arguments => receiver.uses ++ usesInAll arguments
  | cast _ e => e.uses
  | parenthesized e => e.uses

/-- The variables that expressions use. One variable may be used several times. -/
def usesInAll : List Expr → List String
  | [] => []
  | e :: es => e.uses ++ usesInAll es

end

theorem usesInAll_subset {es : List Expr} {names : List String}
    (h : ∀ e ∈ es, e.uses ⊆ names) : usesInAll es ⊆ names := by
  induction es with
  | nil => exact List.nil_subset names
  | cons e es ih =>
    rw [List.forall_mem_cons] at h
    exact List.append_subset.2 ⟨h.1, ih h.2⟩

end Expr

/-! ### Statements -/

/-- The variables that a statement uses. The variable that it declares is no part of its uses. -/
def Statement.uses : Statement → List String
  | declare _ _ value => value.uses
  | assign target value => target.uses ++ value.uses
  | evaluate e => e.uses
  | give e => e.uses

/-- The variables that statements use. They are in the order of the statements, with repetitions. -/
def used (statements : List Statement) : List String :=
  statements.flatMap Statement.uses

/-- The variables that statements declare. Only declarations have one. -/
def locals (statements : List Statement) : List String :=
  statements.filterMap Statement.declared?

/-- Besides the context and the instance, statements use only the variables that they declare. These
two are declared around the statements. -/
def KeepsOwn (statements : List Statement) : Prop :=
  used statements ⊆ "context" :: "bean" :: locals statements

variable {statements others : List Statement} {name : String}

theorem used_append : used (statements ++ others) = used statements ++ used others :=
  List.flatMap_append

theorem locals_append : locals (statements ++ others) = locals statements ++ locals others :=
  List.filterMap_append

theorem KeepsOwn.append (h : KeepsOwn statements) (h' : KeepsOwn others) :
    KeepsOwn (statements ++ others) := by
  intro name member
  rw [locals_append]
  obtain member | member := List.mem_append.1 (used_append ▸ member)
  · have known := h member
    grind
  · have known := h' member
    grind

theorem keepsOwn_flatMap {α : Type} {f : α → List Statement} {xs : List α}
    (h : ∀ x ∈ xs, KeepsOwn (f x)) : KeepsOwn (xs.flatMap f) := by
  induction xs with
  | nil => exact List.nil_subset _
  | cons x xs ih =>
    rw [List.forall_mem_cons] at h
    exact h.1.append (ih h.2)

/-- Statements that keep to their own variables use no other one. Statements of other definitions
therefore do not see each other. -/
theorem KeepsOwn.not_mem_used (h : KeepsOwn statements) (notContext : name ≠ "context")
    (notBean : name ≠ "bean") (other : name ∉ locals statements) : name ∉ used statements := by
  intro member
  simpa [notContext, notBean, other] using h member

/-- Among distinct variables, what a part declares is not declared around it. Names around a part
can therefore not be captured by it. -/
theorem not_mem_locals_of_distinct {before after : List Statement}
    (distinct : (locals (before ++ statements ++ after)).Nodup)
    (declared : name ∈ locals statements) : name ∉ locals (before ++ after) := by
  rw [locals_append, locals_append] at distinct
  rw [locals_append]
  grind [List.nodup_append]

end StaticWiring.Java
