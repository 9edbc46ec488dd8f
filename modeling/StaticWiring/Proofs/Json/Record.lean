import Mathlib.Data.List.Nodup
import StaticWiring.Json.Record
import StaticWiring.Proofs.Json.RoundTrip

/-!
# Records whose members are left out

A record may be written without the members that have nothing to say: a truth value that is false,
or a list that is empty. Each field of the record is then a slot, whose member is there or not. A
reader that knows the slots finds the value of each of them again.

## Main definitions

* `Json.ofSlots` — the members of slots.
* `Json.flagSlot`, `Json.listSlot` — the slots of a truth value and of a list.

## Main results

* `Json.fields?_object` — members that are fields, each at most once, are a record.
* `Json.fields?_ofSlots` — the members are a record with the fields of the slots.
* `Json.Fields.require_ofSlots`, `Json.Fields.get_ofSlots` — the values of the slots.
* `Json.asList?_map` — a list of entries.
* `Json.asOptional?_encoded` — a part that may be absent.
-/

namespace StaticWiring.Json

variable {α β : Type} {slots : List (String × Option Json)} {members : List (String × Json)}
  {names : List String} {key : String}

/-! ### Members -/

/-- Members that are fields, each at most once, are a record. Their order has to be that of the
fields. -/
theorem fields?_object (nodup : names.Nodup) (keys : (members.map Prod.fst).Sublist names) :
    fields? names (.object members) = some ⟨members⟩ := by
  have all : members.filter (fun member => names.contains member.1) = members := by
    refine List.filter_eq_self.2 fun member given => ?_
    exact List.contains_iff_mem.2 (keys.subset (List.mem_map_of_mem given))
  rw [fields?, all, if_pos (nodup.sublist keys)]

@[simp]
theorem Fields.get_cons_self (value : Json) (decode : Json → Option α) (default : α) :
    get ⟨(key, value) :: members⟩ key decode default = decode value := by
  rw [get, List.lookup_cons_self]

@[simp]
theorem Fields.get_cons_of_ne {other : String} (differs : key ≠ other) (value : Json)
    (decode : Json → Option α) (default : α) :
    get ⟨(other, value) :: members⟩ key decode default = get ⟨members⟩ key decode default := by
  rw [get, get, List.lookup_cons, beq_eq_false_iff_ne.2 differs]

/-! ### Slots -/

/-- The members of slots, without those that have no value. The order of the slots is kept. -/
def ofSlots (slots : List (String × Option Json)) : List (String × Json) :=
  slots.flatMap fun (key, value) => value.toList.map (key, ·)

theorem ofSlots_cons_some (key : String) (value : Json) (slots : List (String × Option Json)) :
    ofSlots ((key, some value) :: slots) = (key, value) :: ofSlots slots :=
  rfl

theorem ofSlots_cons_none (key : String) (slots : List (String × Option Json)) :
    ofSlots ((key, none) :: slots) = ofSlots slots :=
  rfl

theorem ofSlots_append (slots slots' : List (String × Option Json)) :
    ofSlots (slots ++ slots') = ofSlots slots ++ ofSlots slots' :=
  List.flatMap_append

theorem mem_ofSlots_iff {value : Json} :
    (key, value) ∈ ofSlots slots ↔ (key, some value) ∈ slots := by
  simp [ofSlots]

/-- The keys of the members are those of the slots that have a value, in their order. Slots without
a value leave no trace. -/
theorem keys_ofSlots (slots : List (String × Option Json)) :
    (ofSlots slots).map Prod.fst = (slots.filter (·.2.isSome)).map Prod.fst := by
  induction slots with
  | nil => rfl
  | cons slot slots ih =>
    obtain ⟨key, _ | value⟩ := slot
    · simp [ofSlots_cons_none, ih]
    · simp [ofSlots_cons_some, ih]

theorem keys_ofSlots_sublist (slots : List (String × Option Json)) :
    ((ofSlots slots).map Prod.fst).Sublist (slots.map Prod.fst) := by
  rw [keys_ofSlots]
  exact List.filter_sublist.map Prod.fst

/-- The members are a record with the fields of the slots. It does not matter which of the slots
have a value. -/
theorem fields?_ofSlots (nodup : (slots.map Prod.fst).Nodup) :
    fields? (slots.map Prod.fst) (.object (ofSlots slots)) = some ⟨ofSlots slots⟩ :=
  fields?_object nodup (keys_ofSlots_sublist slots)

theorem lookup_ofSlots_of_not_mem (absent : key ∉ slots.map Prod.fst) :
    (ofSlots slots).lookup key = none := by
  refine List.lookup_eq_none_iff.2 fun member given => bne_iff_ne.2 ?_
  rintro rfl
  exact absent ((keys_ofSlots_sublist slots).subset (List.mem_map_of_mem given))

/-- A member has the value of its slot. A slot without a value has no member. -/
theorem lookup_ofSlots (nodup : (slots.map Prod.fst).Nodup) {value : Option Json}
    (member : (key, value) ∈ slots) : (ofSlots slots).lookup key = value := by
  induction slots with
  | nil => cases member
  | cons slot slots ih =>
    obtain ⟨first, held⟩ := slot
    obtain ⟨fresh, others⟩ := List.nodup_cons.1 nodup
    obtain same | later := List.mem_cons.1 member
    · obtain ⟨rfl, rfl⟩ := Prod.mk.inj same
      cases value with
      | none => rw [ofSlots_cons_none, lookup_ofSlots_of_not_mem fresh]
      | some value => rw [ofSlots_cons_some, List.lookup_cons_self]
    · have differs : (key == first) = false := by
        rw [beq_eq_false_iff_ne]
        rintro rfl
        exact fresh (List.mem_map.2 ⟨_, later, rfl⟩)
      cases held with
      | none => exact ih others later
      | some held => rw [ofSlots_cons_some, List.lookup_cons, differs, ih others later]

/-- A field that must be given has the value of its slot. The field is found by its name, wherever
it stands. -/
theorem Fields.require_ofSlots (nodup : (slots.map Prod.fst).Nodup) {value : Json}
    (member : (key, some value) ∈ slots) (decode : Json → Option α) :
    require ⟨ofSlots slots⟩ key decode = decode value := by
  rw [require, lookup_ofSlots nodup member, Option.bind_some]

/-- A field that may be left out has the value of its slot, or else its default. Leaving out a slot
and writing its default thus come to the same. -/
theorem Fields.get_ofSlots (nodup : (slots.map Prod.fst).Nodup) {value : Option Json}
    (member : (key, value) ∈ slots) (decode : Json → Option α) (default : α) :
    get ⟨ofSlots slots⟩ key decode default = value.elim (some default) decode := by
  rw [get, lookup_ofSlots nodup member]
  cases value <;> rfl

/-! ### Truth values and lists -/

@[simp]
theorem asString?_string (value : String) : asString? (string value) = some value :=
  rfl

@[simp]
theorem asBool?_bool (value : Bool) : asBool? (bool value) = some value :=
  rfl

/-- Entries are read back one by one. What is read need not be what was written, but has to be
determined by it. -/
theorem asList?_map {encode : β → Json} {decode : Json → Option α} {f : β → α} {bs : List β}
    (entry : ∀ b ∈ bs, decode (encode b) = some (f b)) :
    asList? decode (.array (bs.map encode)) = some (bs.map f) :=
  Lists.mapM_map entry

theorem asList?_encoded {encode : α → Json} {decode : Json → Option α} {as : List α}
    (entry : ∀ a ∈ as, decode (encode a) = some a) :
    asList? decode (.array (as.map encode)) = some as := by
  rw [asList?_map (f := id) entry, List.map_id]

@[simp]
theorem asStrings?_strings (values : List String) : asStrings? (strings values) = some values :=
  asList?_encoded fun value _ => asString?_string value

/-- An optional part is read back, if what is written for it is not what is written where it is
absent. -/
theorem asOptional?_encoded {encode : α → Json} {decode : Json → Option α} {part : Option α}
    (present : ∀ a, encode a ≠ null) (entry : ∀ a ∈ part, decode (encode a) = some a) :
    asOptional? decode (ofOption encode part) = some part := by
  cases part with
  | none => rfl
  | some a =>
    rw [ofOption, asOptional?, entry a rfl]
    · rfl
    · exact present a

/-- The slot of a truth value, empty if it is false. False is the default that is left out. -/
def flagSlot (value : Bool) : Option Json :=
  if value then some (.bool true) else none

theorem elim_flagSlot (value : Bool) : (flagSlot value).elim (some false) asBool? = some value := by
  cases value <;> rfl

/-- The slot of a list, empty if the list is. The empty list is the default that is left out. -/
def listSlot (items : List Json) : Option Json :=
  if items.isEmpty then none else some (.array items)

theorem isSome_listSlot (items : List Json) : (listSlot items).isSome = !items.isEmpty := by
  cases items <;> rfl

theorem elim_listSlot {encode : β → Json} {decode : Json → Option α} {f : β → α}
    (entry : ∀ b, decode (encode b) = some (f b)) (bs : List β) :
    (listSlot (bs.map encode)).elim (some []) (asList? decode) = some (bs.map f) := by
  cases bs with
  | nil => rfl
  | cons b bs => exact asList?_map fun b _ => entry b

/-! ### Fractions -/

theorem hasNumerals_ofSlots (h : ∀ slot ∈ slots, ∀ value ∈ slot.2, value.HasNumerals) :
    (object (ofSlots slots)).HasNumerals := by
  exact hasNumerals_object_iff.2 fun member given => h _ (mem_ofSlots_iff.1 given) _ rfl

theorem hasNumerals_of_mem_flagSlot {flag : Bool} {value : Json} (h : value ∈ flagSlot flag) :
    value.HasNumerals := by
  cases flag with
  | false => cases h
  | true =>
    cases h
    exact .bool true

theorem hasNumerals_of_mem_listSlot {encode : β → Json} (all : ∀ b, (encode b).HasNumerals)
    {bs : List β} {value : Json} (h : value ∈ listSlot (bs.map encode)) : value.HasNumerals := by
  cases bs with
  | nil => cases h
  | cons b bs =>
    cases h
    exact .array (List.forall_mem_map.2 fun b _ => all b)

end StaticWiring.Json
