import StaticWiring.Proofs.Ascending
import StaticWiring.Proofs.Java.Scope
import StaticWiring.Proofs.Java.Spelling

/-!
# Short names over the course of a file

A file is asked for the written forms of types one after the other, and each answer may depend on
the short names that are taken by then. A short name stays with its type, so that a type is written
in the same way whenever it is asked for, and the names that are written at the end are those that
were given on the way.

## Main definitions

* `Java.Scope.ask`, `Java.Scope.askRef` — the written form of a type or a reference, and the short
  names behind it.
* `Java.Query`, `Java.Scope.after` — what is asked for, and the short names behind it.
* `Java.Scope.written` — the written forms of types that are asked for in turn.
* `Java.IsHeaded` — how the outermost type of a name is written.
* `Java.Scope.IsConsistent` — what holds of imports and written forms over all questions.
* `Java.Scope.CanTake` — a type with a package may be written by a given short name.

## Main results

* `Java.Scope.answer_eq` — the answers in the order of the questions are those of the last scope.
* `Java.Scope.IsValid.mentionAll` — every type takes its own simple name, and none that of the
  class.
* `Java.Scope.shortNames_consistent` — imports and short names are unambiguous.
* `Java.Scope.written_inj_iff` — when names with and without package are told apart.
-/

namespace StaticWiring.Java

/-! ### Questions -/

/-- The written form of a type that is asked for, and the short names behind it. Asking is
mentioning followed by writing, so that the type takes its simple name first. -/
def Scope.ask (s : Scope) (name : String) : String × Scope :=
  ((s.mention name).write name, s.mention name)

mutual

/-- The written form of a reference that is asked for, and the short names behind it: first the
type is asked for, and then its arguments. -/
def Scope.askRef (s : Scope) : TypeRef → String × Scope
  | ⟨name, []⟩ => s.ask name
  | ⟨name, a :: as⟩ =>
    let (head, named) := s.ask name
    let (arguments, last) := Scope.askRefs named (a :: as)
    (head ++ "<" ++ ", ".intercalate arguments ++ ">", last)

/-- The written forms of references that are asked for in turn, and the short names behind them.
Each of them may take short names, which those behind it find taken. -/
def Scope.askRefs (s : Scope) : List TypeRef → List String × Scope
  | [] => ([], s)
  | t :: ts =>
    let (text, next) := Scope.askRef s t
    let (texts, last) := Scope.askRefs next ts
    (text :: texts, last)

end

/-- What a file is asked for. Either kind is asked for while the text of the file is written. -/
inductive Query where
  /-- A type. -/
  | type (name : String)
  /-- A type with its arguments. -/
  | reference (t : TypeRef)

/-- The types that are asked for, in order. They are what the file has to mention. -/
def Query.names : Query → List String
  | type name => [name]
  | reference t => mentionedBy t

namespace Scope

variable {s s' : Scope} {name other short type : String} {names : List String}

/-- The file of a class, before anything is asked for. It has only the name of the class itself. -/
abbrev ofClass (package className : String) : Scope :=
  { package, className }

/-- The answer to a question, and the short names behind it. The answer is given with the names as
they are behind the question. -/
def answer (s : Scope) : Query → String × Scope
  | .type name => s.ask name
  | .reference t => s.askRef t

/-- The short names behind questions. Every question may add to them, and none takes one away. -/
def after (s : Scope) (queries : List Query) : Scope :=
  queries.foldl (fun s q => (s.answer q).2) s

/-- Types that are asked for in turn, with their written forms as they are given. Each form is the
one of the moment, which need not have been the one of the end. -/
def written (s : Scope) : List String → List (String × String)
  | [] => []
  | name :: names => (name, (s.ask name).1) :: written (s.ask name).2 names

/-! ### Short names stay -/

/-- The later scope has the short names of the earlier one. It may have more of them. -/
def Extends (later earlier : Scope) : Prop :=
  ∀ short type, earlier.owner? short = some type → later.owner? short = some type

theorem Extends.refl (s : Scope) : s.Extends s :=
  fun _ _ => id

theorem Extends.trans {s'' : Scope} (h : s''.Extends s') (h' : s'.Extends s) : s''.Extends s :=
  fun short type found => h short type (h' short type found)

/-- The simple name of the type's outermost type is taken. It need not be taken by this type. -/
def Settles (s : Scope) (name : String) : Prop :=
  (spelling name).isQualified = true → (s.owner? (lastSegment (spelling name).outer)).isSome = true

theorem Settles.extends (h : s.Settles name) (later : s'.Extends s) : s'.Settles name := by
  intro qualified
  obtain ⟨type, found⟩ := Option.isSome_iff_exists.1 (h qualified)
  rw [later _ _ found, Option.isSome_some]

theorem mention_of_settles (h : s.Settles name) : s.mention name = s := by
  refine if_neg fun new => ?_
  rw [Bool.and_eq_true, Option.isNone_iff_eq_none] at new
  have taken := h new.1
  rw [new.2] at taken
  cases taken

theorem extends_mention (s : Scope) (name : String) : (s.mention name).Extends s := by
  intro short type found
  rw [mention]
  split
  · rw [owner?] at found ⊢
    split at found
    · next own => rwa [if_pos own]
    · next foreign => rw [if_neg foreign, List.lookup_append, found, Option.some_or]
  · exact found

theorem settles_mention (s : Scope) (name : String) : (s.mention name).Settles name := by
  intro qualified
  by_cases taken : (s.owner? (lastSegment (spelling name).outer)).isSome = true
  · obtain ⟨type, found⟩ := Option.isSome_iff_exists.1 taken
    rw [extends_mention s name _ _ found, Option.isSome_some]
  · have free : s.owner? (lastSegment (spelling name).outer) = none := by
      simpa using taken
    rw [mention, if_pos (by rw [qualified, free]; rfl)]
    rw [owner?] at free ⊢
    split at free
    · cases free
    · next foreign =>
      rw [if_neg foreign, List.lookup_append, free, Option.none_or, List.lookup_cons_self]
      rfl

theorem extends_mentionAll (s : Scope) (names : List String) : (s.mentionAll names).Extends s := by
  unfold mentionAll
  induction names generalizing s with
  | nil => exact .refl s
  | cons name names ih => exact (ih (s.mention name)).trans (extends_mention s name)

theorem mentionAll_append (s : Scope) (names others : List String) :
    s.mentionAll (names ++ others) = (s.mentionAll names).mentionAll others :=
  List.foldl_append

/-- The simple names of all types that were mentioned are taken. Either the type took it, or another
one had done so before. -/
theorem settles_mentionAll (s : Scope) (h : name ∈ names) : (s.mentionAll names).Settles name := by
  obtain ⟨before, behind, rfl⟩ := List.append_of_mem h
  rw [mentionAll_append]
  exact (settles_mention _ name).extends (extends_mentionAll _ behind)

theorem mentionAll_of_settles (h : ∀ name ∈ names, s.Settles name) : s.mentionAll names = s := by
  unfold mentionAll
  induction names with
  | nil => rfl
  | cons name names ih =>
    obtain ⟨first, others⟩ := List.forall_mem_cons.1 h
    rw [List.foldl_cons, mention_of_settles first, ih others]

/-! ### Written forms stay -/

theorem head_of_extends {outer : String} (later : s'.Extends s)
    (taken : (s.owner? (lastSegment outer)).isSome = true) : s'.head outer = s.head outer := by
  obtain ⟨type, found⟩ := Option.isSome_iff_exists.1 taken
  rw [head, head, found, later _ _ found]

/-- Once its simple name is taken, a type is written in the same way for good. No later type can
take the name that it is written by, nor set that free. -/
theorem write_of_extends (later : s'.Extends s) (h : s.Settles name) :
    s'.write name = s.write name := by
  rw [write, write]
  by_cases qualified : (spelling name).isQualified = true
  · simp only [qualified, if_true, head_of_extends later (h qualified)]
  · simp only [qualified, Bool.false_eq_true, if_false]

mutual

/-- Once the simple names of its types are taken, a reference is written in the same way for
good. -/
theorem writeRef_of_extends (later : s'.Extends s) :
    (t : TypeRef) → (∀ name ∈ mentionedBy t, s.Settles name) → s'.writeRef t = s.writeRef t
  | ⟨name, []⟩, h => by
    rw [mentionedBy] at h
    exact write_of_extends later (h name List.mem_cons_self)
  | ⟨name, a :: as⟩, h => by
    rw [mentionedBy] at h
    obtain ⟨first, others⟩ := List.forall_mem_cons.1 h
    rw [writeRef, writeRef, write_of_extends later first,
      writeRefs_of_extends later (a :: as) others]

theorem writeRefs_of_extends (later : s'.Extends s) :
    (ts : List TypeRef) → (∀ name ∈ mentionedByAll ts, s.Settles name) →
      s'.writeRefs ts = s.writeRefs ts
  | [], _ => rfl
  | t :: ts, h => by
    rw [mentionedByAll] at h
    obtain ⟨first, others⟩ := List.forall_mem_append.1 h
    rw [writeRefs, writeRefs, writeRef_of_extends later t first,
      writeRefs_of_extends later ts others]

end

/-! ### Answers -/

mutual

/-- A reference is written as its types are written behind it. Asking for the types in turn and
writing the reference at the end give the same text. -/
theorem askRef_eq (s : Scope) : (t : TypeRef) →
    s.askRef t = ((s.mentionAll (mentionedBy t)).writeRef t, s.mentionAll (mentionedBy t))
  | ⟨name, []⟩ => rfl
  | ⟨name, a :: as⟩ => by
    have stays := write_of_extends (extends_mentionAll (s.mention name) (mentionedByAll (a :: as)))
      (settles_mention s name)
    have onward : s.mentionAll (mentionedBy ⟨name, a :: as⟩) =
        (s.mention name).mentionAll (mentionedByAll (a :: as)) := by
      rw [mentionedBy, mentionAll, List.foldl_cons, mentionAll]
    simp only [askRef, ask, askRefs_eq (s.mention name) (a :: as), onward, writeRef, stays]

theorem askRefs_eq (s : Scope) : (ts : List TypeRef) →
    s.askRefs ts =
      ((s.mentionAll (mentionedByAll ts)).writeRefs ts, s.mentionAll (mentionedByAll ts))
  | [] => rfl
  | t :: ts => by
    have stays := writeRef_of_extends
      (extends_mentionAll (s.mentionAll (mentionedBy t)) (mentionedByAll ts)) t
      fun name => settles_mentionAll s
    simp only [askRefs, askRef_eq s t, askRefs_eq (s.mentionAll (mentionedBy t)) ts,
      mentionedByAll, mentionAll_append, writeRefs, stays]

end

/-- The written form of what is asked for. The short names are left as they are. -/
def writeAnswer (s : Scope) : Query → String
  | .type name => s.write name
  | .reference t => s.writeRef t

theorem answer_eq (s : Scope) : (q : Query) →
    s.answer q = ((s.mentionAll q.names).writeAnswer q, s.mentionAll q.names)
  | .type _ => rfl
  | .reference t => askRef_eq s t

theorem writeAnswer_of_extends (later : s'.Extends s) :
    {q : Query} → (∀ name ∈ q.names, s.Settles name) → s'.writeAnswer q = s.writeAnswer q
  | .type name, h => write_of_extends later (h name List.mem_cons_self)
  | .reference t, h => writeRef_of_extends later t h

theorem after_eq (s : Scope) (queries : List Query) :
    s.after queries = s.mentionAll (queries.flatMap Query.names) := by
  unfold after
  induction queries generalizing s with
  | nil => rfl
  | cons q queries ih =>
    rw [List.foldl_cons, ih, answer_eq, List.flatMap_cons, mentionAll_append]

/-- A question is answered in the same way again, whatever is asked for in between. The answer never
depends on what was asked in between. -/
theorem answer_again (s : Scope) (q : Query) (queries : List Query) :
    (((s.answer q).2.after queries).answer q).1 = (s.answer q).1 := by
  have settled : ∀ name ∈ q.names, (s.mentionAll q.names).Settles name :=
    fun name => settles_mentionAll s
  have later : ((s.mentionAll q.names).after queries).Extends (s.mentionAll q.names) := by
    rw [after_eq]
    exact extends_mentionAll _ _
  rw [answer_eq s, answer_eq,
    mentionAll_of_settles fun name hname => (settled name hname).extends later]
  exact writeAnswer_of_extends later settled

/-- Types that are asked for in turn are written as they are at the end. The text of a file may thus
be written after its names are known. -/
theorem written_eq (s : Scope) (names : List String) :
    s.written names = names.map fun name => (name, (s.mentionAll names).write name) := by
  induction names generalizing s with
  | nil => rfl
  | cons name names ih =>
    have stays := write_of_extends (extends_mentionAll (s.mention name) names)
      (settles_mention s name)
    rw [written, ask, ih (s.mention name), List.map_cons]
    show (name, (s.mention name).write name) :: _ =
      (name, ((s.mention name).mentionAll names).write name) :: _
    rw [stays]
    rfl

/-! ### Short names and imports -/

/-- Every short name is the simple name of its type, and each is taken once. It is the invariant of
asking. -/
structure IsValid (s : Scope) : Prop where
  /-- No short name is taken twice. -/
  nodup_keys : (s.taken.map Prod.fst).Nodup
  /-- The name of the class is not taken. -/
  className_not_mem : s.className ∉ s.taken.map Prod.fst
  /-- A type takes its simple name. -/
  key_eq : ∀ entry ∈ s.taken, entry.1 = lastSegment entry.2

theorem isValid_start (package className : String) :
    (ofClass package className).IsValid where
  nodup_keys := List.nodup_nil
  className_not_mem := List.not_mem_nil
  key_eq _ h := absurd h List.not_mem_nil

/-- Only short names are taken. The package and the class stay. -/
theorem exists_mentionAll_eq (s : Scope) (names : List String) :
    ∃ taken, s.mentionAll names = { s with taken } := by
  unfold mentionAll
  induction names generalizing s with
  | nil => exact ⟨s.taken, rfl⟩
  | cons name names ih =>
    obtain ⟨taken, last⟩ := ih (s.mention name)
    refine ⟨taken, last.trans ?_⟩
    rw [mention]
    split <;> rfl

theorem package_mentionAll (s : Scope) (names : List String) :
    (s.mentionAll names).package = s.package := by
  obtain ⟨taken, last⟩ := exists_mentionAll_eq s names
  rw [last]

theorem className_mentionAll (s : Scope) (names : List String) :
    (s.mentionAll names).className = s.className := by
  obtain ⟨taken, last⟩ := exists_mentionAll_eq s names
  rw [last]

/-- A short name that stands for no type is new. It is neither the name of the class nor that of
another type. -/
theorem not_mem_of_owner?_eq_none (free : s.owner? short = none) :
    short ≠ s.className ∧ short ∉ s.taken.map Prod.fst := by
  rw [owner?] at free
  split at free
  · cases free
  · next foreign =>
    refine ⟨foreign, fun taken => ?_⟩
    obtain ⟨entry, member, rfl⟩ := List.mem_map.1 taken
    exact absurd (List.lookup_eq_none_iff.1 free entry member) (by simp)

theorem IsValid.mention (h : s.IsValid) (name : String) : (s.mention name).IsValid := by
  rw [Scope.mention]
  split
  · next takes =>
    rw [Bool.and_eq_true, Option.isNone_iff_eq_none] at takes
    obtain ⟨foreign, new⟩ := not_mem_of_owner?_eq_none takes.2
    constructor
    · rw [List.map_append, List.nodup_append]
      refine ⟨h.nodup_keys, List.nodup_singleton _, fun key hkey other hother same => ?_⟩
      rw [List.map_singleton, List.mem_singleton] at hother
      have same : key = lastSegment (spelling name).outer := same.trans hother
      exact new (same ▸ hkey)
    · rw [List.map_append, List.mem_append, List.map_singleton, List.mem_singleton]
      rintro (taken | same)
      · exact h.className_not_mem taken
      · exact foreign same.symm
    · intro entry member
      rcases List.mem_append.1 member with member | member
      · exact h.key_eq entry member
      · rw [List.mem_singleton.1 member]
  · exact h

theorem IsValid.mentionAll (h : s.IsValid) (names : List String) :
    (s.mentionAll names).IsValid := by
  unfold Scope.mentionAll
  induction names generalizing s with
  | nil => exact h
  | cons name names ih => exact ih (h.mention name)

section

variable (h : s.IsValid)

include h

/-- An imported type has taken its simple name. Types that need no import may have taken theirs as
well. -/
theorem mem_taken_of_mem_imports (imported : type ∈ s.imports) :
    (lastSegment type, type) ∈ s.taken := by
  obtain ⟨entry, member, rfl⟩ := List.mem_map.1 (mem_imports.1 imported).1
  rwa [← h.key_eq entry member]

theorem nodup_map_imports : (s.imports.map lastSegment).Nodup := by
  refine (Ascending.nodup_insertAll _).map_on fun type imported other imported' same => ?_
  have entry := mem_taken_of_mem_imports h imported
  have entry' := mem_taken_of_mem_imports h imported'
  exact congrArg Prod.snd (List.inj_on_of_nodup_map h.nodup_keys entry entry' same)

theorem className_not_mem_imports : s.className ∉ s.imports.map lastSegment := by
  intro named
  obtain ⟨type, imported, same⟩ := List.mem_map.1 named
  refine h.className_not_mem (List.mem_map.2 ⟨_, mem_taken_of_mem_imports h imported, same⟩)

end

theorem owner?_cases (owned : s.owner? short = some type) :
    (short = s.className ∧ type = TypeName.qualify s.package s.className) ∨
      (short, type) ∈ s.taken := by
  rw [owner?] at owned
  split at owned
  · next own => exact .inl ⟨own, (Option.some.inj owned).symm⟩
  · obtain ⟨before, behind, split, -⟩ := List.lookup_eq_some_iff.1 owned
    exact .inr (split ▸ List.mem_append_right _ List.mem_cons_self)

/-- A type that is written by its simple name is imported, or needs no import. It needs none in its
own package or in that of the language. -/
theorem mem_imports_or_implicit (owned : s.owner? (lastSegment type) = some type)
    (dot : '.' ∈ type.toList) (flat : '$' ∉ type.toList) :
    type ∈ s.imports ∨ TypeName.packageOf type = s.package ∨
      TypeName.packageOf type = "java.lang" := by
  rcases owner?_cases owned with ⟨own, rfl⟩ | taken
  · have simple : '.' ∉ s.className.toList := own ▸ dot_not_mem_lastSegment _
    exact .inr (.inl (packageOf_qualify simple dot flat))
  · by_cases implicit : s.isImplicit type = true
    · simp only [isImplicit, Bool.or_eq_true, beq_iff_eq] at implicit
      exact .inr implicit.symm
    · refine .inl (mem_imports.2 ⟨List.mem_map.2 ⟨_, taken, rfl⟩, ?_⟩)
      simpa using implicit

/-! ### Simple heads -/

end Scope

/-- The text is the head with the nested type and the dimensions of the name behind it. The head is
the simple or full name of the outermost type. -/
def IsHeaded (name text head : String) : Prop :=
  text = head ++ (spelling name).tail

namespace Scope

variable {s : Scope} {name other short head type package className : String} {names : List String}

theorem write_of_isQualified (s : Scope) (qualified : (spelling name).isQualified = true) :
    s.write name = s.head (spelling name).outer ++ (spelling name).tail := by
  rw [write, Spelling.tail]
  cases (spelling name).nested <;> simp [qualified, String.append_assoc]

/-- A type with a package and a simple head has taken its simple name. Its full name would have
dots. -/
theorem owner?_of_isHeaded (packaged : HasPackage name)
    (headed : IsHeaded name (s.write name) head) (simple : '.' ∉ head.toList) :
    head = lastSegment (spelling name).outer ∧ s.owner? head = some (spelling name).outer := by
  rw [IsHeaded, write_of_isQualified s (isQualified_spelling packaged), String.append_left_inj,
    Scope.head] at headed
  split at headed
  · next owned => exact ⟨headed.symm, headed ▸ owned⟩
  · exact absurd (dot_mem_outer packaged) (headed ▸ simple)

/-- The imports of a file and the short names in it are unambiguous: `start` is the file without
any short name, which is asked the questions. -/
structure IsConsistent (start : Scope) (queries : List Query) : Prop where
  /-- No two imports have the same simple name. -/
  nodup_imports : ((start.after queries).imports.map lastSegment).Nodup
  /-- No import has the name of the class. -/
  className_not_mem : start.className ∉ (start.after queries).imports.map lastSegment
  /-- A type that is written behind a simple head is imported, or needs no import. -/
  imported_of_simple : ∀ entry ∈ start.written (queries.flatMap Query.names), ∀ head,
    HasPackage entry.1 → IsHeaded entry.1 entry.2 head → '.' ∉ head.toList →
    (spelling entry.1).outer ∈ (start.after queries).imports ∨
      TypeName.packageOf (spelling entry.1).outer = start.package ∨
      TypeName.packageOf (spelling entry.1).outer = "java.lang"
  /-- A simple head stands for one type only. -/
  outer_eq_of_simple : ∀ entry ∈ start.written (queries.flatMap Query.names),
    ∀ other ∈ start.written (queries.flatMap Query.names), ∀ head,
    HasPackage entry.1 → IsHeaded entry.1 entry.2 head → '.' ∉ head.toList →
    HasPackage other.1 → IsHeaded other.1 other.2 head →
    (spelling entry.1).outer = (spelling other.1).outer
  /-- A question that is asked again is answered in the same way. -/
  answer_again : ∀ q later,
    ((((start.after queries).answer q).2.after later).answer q).1 =
      ((start.after queries).answer q).1

/-- Whatever a file is asked, its imports and short names are unambiguous. It is the invariant of
asking, read at the end. -/
theorem shortNames_consistent (package className : String) (queries : List Query) :
    (ofClass package className).IsConsistent queries := by
  have valid := (isValid_start package className).mentionAll (queries.flatMap Query.names)
  constructor
  · rw [after_eq]
    exact nodup_map_imports valid
  · have outside := className_not_mem_imports valid
    rwa [className_mentionAll, ← after_eq] at outside
  · intro entry member head packaged headed simple
    rw [written_eq] at member
    obtain ⟨name, -, rfl⟩ := List.mem_map.1 member
    obtain ⟨rfl, owned⟩ := owner?_of_isHeaded packaged headed simple
    have imported := mem_imports_or_implicit owned (dot_mem_outer packaged)
      (dollar_not_mem_outer packaged)
    rwa [package_mentionAll, ← after_eq] at imported
  · intro entry member other member' head packaged headed simple packaged' headed'
    rw [written_eq] at member member'
    obtain ⟨name, -, rfl⟩ := List.mem_map.1 member
    obtain ⟨name', -, rfl⟩ := List.mem_map.1 member'
    have owned := (owner?_of_isHeaded packaged headed simple).2
    have owned' := (owner?_of_isHeaded packaged' headed' simple).2
    exact Option.some.inj (owned.symm.trans owned')
  · exact Scope.answer_again _

/-! ### Names without a package -/

/-- The type can take the short name in the file of a class, which has its own name already. It says
when some order of questions may give the type the name. -/
structure CanTake (start : Scope) (short type : String) : Prop where
  /-- The short name is the simple name of the type. -/
  lastSegment_eq : lastSegment type = short
  /-- The name of the class is taken by the class. -/
  eq_of_className : short = start.className →
    type = TypeName.qualify start.package start.className

instance (start : Scope) (short type : String) : Decidable (start.CanTake short type) :=
  decidable_of_iff (lastSegment type = short ∧
      (short = start.className → type = TypeName.qualify start.package start.className))
    ⟨fun ⟨named, own⟩ => ⟨named, own⟩, fun ⟨named, own⟩ => ⟨named, own⟩⟩

theorem write_of_plain (s : Scope) (flat : '$' ∉ name.toList)
    (single : TypeName.isArray name = false) :
    s.write name = if '.' ∈ name.toList then s.head name else name := by
  by_cases dot : '.' ∈ name.toList <;> simp [write, spelling_of_plain flat single, dot]

theorem head_eq_iff (dot : '.' ∈ type.toList) (simple : '.' ∉ short.toList) :
    s.head type = short ↔ lastSegment type = short ∧ s.owner? short = some type := by
  rw [Scope.head]
  constructor
  · intro same
    split at same
    · next owned => exact ⟨same, same ▸ owned⟩
    · exact absurd dot (same ▸ simple)
  · rintro ⟨rfl, owned⟩
    exact if_pos owned

theorem head_of_dot (dot : '.' ∈ (s.head type).toList) : s.head type = type := by
  rw [Scope.head] at dot ⊢
  split at dot
  · exact absurd dot (dot_not_mem_lastSegment type)
  · next other => rw [if_neg other]

/-- Types with a package are written differently. Short names are taken once, and full names have
dots. -/
theorem head_inj (dot : '.' ∈ type.toList) (dot' : '.' ∈ other.toList)
    (same : s.head type = s.head other) : type = other := by
  by_cases full : '.' ∈ (s.head type).toList
  · calc type = s.head type := (head_of_dot full).symm
      _ = s.head other := same
      _ = other := head_of_dot (same ▸ full)
  · have owned := ((head_eq_iff dot full).1 rfl).2
    have owned' := ((head_eq_iff dot' full).1 same.symm).2
    exact Option.some.inj (owned.symm.trans owned')

/-- A type with a package that is written by a short name can take it. Short names are only taken in
this way. -/
theorem canTake_of_head_eq (dot : '.' ∈ other.toList) (simple : '.' ∉ short.toList)
    (same : ((ofClass package className).mentionAll names).head other = short) :
    (ofClass package className).CanTake short other := by
  obtain ⟨rfl, owned⟩ := (head_eq_iff dot simple).1 same
  refine ⟨rfl, fun named => ?_⟩
  rw [owner?, className_mentionAll, if_pos named, package_mentionAll] at owned
  exact (Option.some.inj owned).symm

/-- A short name that a mentioned type can take is the written form of a mentioned type. The one
that it is the form of need not be the type itself. -/
theorem exists_head_eq (flat : ∀ name ∈ names, '$' ∉ name.toList ∧ TypeName.isArray name = false)
    (mentioned : other ∈ names) (dot : '.' ∈ other.toList)
    (takes : (ofClass package className).CanTake short other) :
    ∃ type ∈ names, '.' ∈ type.toList ∧
      ((ofClass package className).mentionAll names).head type = short := by
  obtain ⟨rfl, own⟩ := takes
  obtain ⟨flat', single⟩ := flat other mentioned
  have settled := settles_mentionAll (ofClass package className) mentioned
  rw [Settles, spelling_of_plain flat' single] at settled
  obtain ⟨type, owned⟩ := Option.isSome_iff_exists.1 (settled (List.contains_iff_mem.2 dot))
  have simple := dot_not_mem_lastSegment other
  rcases owner?_cases owned with ⟨named, class_eq⟩ | taken
  · rw [className_mentionAll] at named class_eq
    rw [package_mentionAll, ← own named] at class_eq
    rw [class_eq] at owned
    exact ⟨other, mentioned, dot, (head_eq_iff dot simple).2 ⟨rfl, owned⟩⟩
  · obtain ⟨taker, mentioned', qualified, rfl⟩ :=
      (exists_of_mem_taken taken).resolve_left List.not_mem_nil
    have key := ((isValid_start package className).mentionAll names).key_eq _ taken
    obtain ⟨flat', single⟩ := flat taker mentioned'
    rw [spelling_of_plain flat' single] at qualified key owned
    have dot' : '.' ∈ taker.toList := List.contains_iff_mem.1 qualified
    exact ⟨taker, mentioned', dot', (head_eq_iff dot' simple).2 ⟨key.symm, owned⟩⟩

/-- Names without nested types and dimensions are told apart by their written forms exactly if no
type with a package can take a name without package as its short name. -/
theorem written_inj_iff (package className : String)
    (flat : ∀ name ∈ names, '$' ∉ name.toList ∧ TypeName.isArray name = false) :
    (∀ entry ∈ (ofClass package className).written names,
      ∀ other ∈ (ofClass package className).written names,
        entry.2 = other.2 → entry.1 = other.1) ↔
    ∀ name ∈ names, '.' ∉ name.toList → ∀ other ∈ names, '.' ∈ other.toList →
      ¬ (ofClass package className).CanTake name other := by
  have write (name : String) (mentioned : name ∈ names) :
      ((ofClass package className).mentionAll names).write name =
        if '.' ∈ name.toList then ((ofClass package className).mentionAll names).head name
        else name :=
    write_of_plain _ (flat name mentioned).1 (flat name mentioned).2
  simp only [written_eq, List.forall_mem_map]
  constructor
  · intro distinct name mentioned simple other mentioned' dot takes
    -- The short name goes to the first type that can take it, which need not be this one.
    obtain ⟨type, mentioned'', dot', head⟩ := exists_head_eq flat mentioned' dot takes
    have same := distinct type mentioned'' name mentioned
    rw [write type mentioned'', write name mentioned, if_pos dot', if_neg simple] at same
    exact simple (same head ▸ dot')
  · intro apart name mentioned other mentioned' same
    rw [write name mentioned, write other mentioned'] at same
    split at same
    · next dot =>
      split at same
      · next dot' => exact head_inj dot dot' same
      · next simple =>
        exact absurd (canTake_of_head_eq dot simple same)
          (apart other mentioned' simple name mentioned dot)
    · next simple =>
      split at same
      · next dot =>
        exact absurd (canTake_of_head_eq dot simple same.symm)
          (apart name mentioned simple other mentioned' dot)
      · exact same

/-- A primitive type, a type without package, an imported type, the class of the file and another
type of its simple name. -/
def unclaimedNames : List String :=
  ["int", "Plain", "lib.Pump", "app.Init", "lib.Init"]

theorem written_inj_iff_unclaimed :
    (∀ name ∈ unclaimedNames, '$' ∉ name.toList ∧ TypeName.isArray name = false) ∧
      ∀ entry ∈ (ofClass "app" "Init").written unclaimedNames,
        ∀ other ∈ (ofClass "app" "Init").written unclaimedNames,
          entry.2 = other.2 → entry.1 = other.1 := by
  have flat : ∀ name ∈ unclaimedNames, '$' ∉ name.toList ∧ TypeName.isArray name = false := by
    decide +kernel
  have apart : ∀ name ∈ unclaimedNames, '.' ∉ name.toList → ∀ other ∈ unclaimedNames,
      '.' ∈ other.toList → ¬ (ofClass "app" "Init").CanTake name other := by
    decide +kernel
  exact ⟨flat, (written_inj_iff "app" "Init" flat).2 apart⟩

/-- A type without package and an imported type are both written by the same name. Nothing tells
which one the text means, and the types are different. -/
theorem not_written_inj_service :
    ∃ entry ∈ (ofClass "" "Init").written ["Service", "com.acme.Service"],
      ∃ other ∈ (ofClass "" "Init").written ["Service", "com.acme.Service"],
        entry.2 = other.2 ∧ entry.1 ≠ other.1 := by
  decide +kernel

end Scope

end StaticWiring.Java
