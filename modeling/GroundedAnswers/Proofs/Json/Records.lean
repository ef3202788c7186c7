import GroundedAnswers.Proofs.Json.Decimals
import GroundedAnswers.Json.Members
import Mathlib.Data.List.Nodup

namespace GroundedAnswers.Json

open Number

variable {α : Type}

/-! Records are read back field by field, those included that their objects leave out. -/

def Rereads (encode : α → Json) (decode? : Json → Option α) (value : α) : Prop :=
  (read? (compact (encode value))).bind decode? = some value

/-- Between JSON values and their texts nothing is lost. -/
theorem rereads_iff {encode : α → Json} {decode? : Json → Option α} {value : α}
    (plain : IsPlain (encode value)) :
    Rereads encode decode? value ↔ decode? (encode value) = some value := by
  rw [Rereads, read?_compact plain, Option.bind_some]

theorem rereads_ofFloat32_iff {value : Float32} :
    Rereads ofFloat32 float32? value ↔ float32? (ofFloat32 value) = some value :=
  rereads_iff (isPlain_ofFloat32 value)

theorem rereads_ofFloat_iff {value : Float} :
    Rereads ofFloat float? value ↔ float? (ofFloat value) = some value :=
  rereads_iff (isPlain_ofFloat value)

/-! ## Values of fields -/

@[simp]
theorem string?_string (value : String) : string? (.string value) = some value := by
  simp [string?]

@[simp]
theorem bool?_bool (value : Bool) : bool? (.bool value) = some value := by
  simp [bool?]

@[simp]
theorem alternative?_string (name : String) : alternative? (.string name) = some name := rfl

@[simp]
theorem string?_null : string? .null = none := by
  simp [string?]

@[simp]
theorem uint32?_null : uint32? .null = none := by
  simp [uint32?, natBelow?]

@[simp]
theorem float32?_null : float32? .null = none := by
  simp [float32?]

theorem list?_map {encode : α → Json} {decode : Json → Option α} {values : List α}
    (each : ∀ value ∈ values, decode (encode value) = some value) :
    list? decode (.array (values.map encode)) = some values := by
  unfold list?
  dsimp only
  induction values with
  | nil => rfl
  | cons value values induction =>
      rw [List.forall_mem_cons] at each
      simp [each.1, induction each.2]

@[simp]
theorem list?_ofStrings (values : List String) : list? string? (ofStrings values) = some values :=
  list?_map fun value _ => string?_string value

private theorem nullable_ofOption {encode : α → Json} {decode : Json → Option α} {value : Option α}
    (noNull : decode .null = none) (each : ∀ inner ∈ value, decode (encode inner) = some inner) :
    nullable decode (ofOption encode value) = some value := by
  cases value with
  | none => rfl
  | some inner =>
      have read := each inner rfl
      unfold ofOption nullable
      dsimp only
      split
      · rename_i isNull
        rw [isNull, noNull] at read
        cases read
      · rw [read, Option.map_some]

/-! ## Fields -/

/-- What is found for a member that was written or left out. -/
def Slot.ofMember : Option Json → Slot
  | some value => .present value
  | none => .absent

private theorem memberSlot?_of_mem {members : List (String × Option Json)} {name : String}
    {value : Option Json} (distinct : (members.map (·.1)).Nodup) (member : (name, value) ∈ members) :
    memberSlot? (members.filterMap fun (name, value) => value.map fun value => (name, value)) name =
      some (Slot.ofMember value) := by
  have others : ∀ members : List (String × Option Json), name ∉ members.map (·.1) →
      (members.filterMap fun (name, value) => value.map fun value => (name, value)).filter
        (·.1 == name) = [] := by
    intro members noMember
    rw [List.filter_eq_nil_iff]
    intro found isFound isNamed
    obtain ⟨⟨other, written⟩, inside, same⟩ := List.mem_filterMap.mp isFound
    obtain ⟨value, -, rfl⟩ := Option.map_eq_some_iff.mp same
    exact noMember (List.mem_map.mpr ⟨_, inside, eq_of_beq isNamed⟩)
  obtain ⟨before, after, rfl⟩ := List.append_of_mem member
  rw [List.map_append, List.map_cons, List.nodup_middle, List.nodup_cons, List.mem_append,
    not_or] at distinct
  unfold memberSlot?
  rw [List.filterMap_append, List.filter_append, others before distinct.1.1, List.nil_append]
  cases value with
  | none =>
      simp only [List.filterMap_cons, Option.map_none]
      rw [others after distinct.1.2]
      rfl
  | some value =>
      simp only [List.filterMap_cons, Option.map_some]
      rw [List.filter_cons_of_pos (by simp), others after distinct.1.2]
      rfl

theorem slots?_ofMembers {names : List String} {members : List (String × Option Json)}
    (named : members.map (·.1) = names) (distinct : names.Nodup) :
    slots? names (ofMembers members) = some (members.map fun member => .ofMember member.2) := by
  subst named
  have each : ∀ asked ⊆ members, (asked.map (·.1)).mapM
      (memberSlot? (members.filterMap fun (name, value) => value.map fun value => (name, value))) =
      some (asked.map fun member => .ofMember member.2) := by
    intro asked within
    induction asked with
    | nil => rfl
    | cons member asked induction =>
        rw [List.cons_subset] at within
        simp [memberSlot?_of_mem distinct within.1, induction within.2]
  exact each members (List.Subset.refl _)

theorem slots?_object {names : List String} {members : List (String × Json)}
    (named : members.map (·.1) = names) (distinct : names.Nodup) :
    slots? names (.object members) = some (members.map fun member => .present member.2) := by
  have written : Json.object members = ofMembers (members.map fun member => (member.1, some member.2)) := by
    simp [ofMembers]
  rw [written, slots?_ofMembers (by rwa [List.map_map]) distinct, List.map_map]
  rfl

@[simp]
theorem Slot.required_present (decode : Json → Option α) (value : Json) :
    (Slot.present value).required decode = decode value := rfl

@[simp]
theorem Slot.withDefault_present (default : α) (decode : Json → Option α) (value : Json) :
    (Slot.present value).withDefault default decode = decode value := rfl

@[simp]
theorem Slot.ofMember_some (value : Json) : ofMember (some value) = .present value := rfl

theorem Slot.optionalWithDefault_ofMember {encode : α → Json} {decode : Json → Option α}
    {value : Option α} (noNull : decode .null = none)
    (each : ∀ inner ∈ value, decode (encode inner) = some inner) :
    (ofMember (value.map encode)).optionalWithDefault decode = some value := by
  cases value with
  | none => rfl
  | some inner => exact nullable_ofOption noNull each

theorem Slot.optionalWithDefault_ofOption {encode : α → Json} {decode : Json → Option α}
    {value : Option α} (noNull : decode .null = none)
    (each : ∀ inner ∈ value, decode (encode inner) = some inner) :
    (Slot.present (ofOption encode value)).optionalWithDefault decode = some value :=
  nullable_ofOption noNull each

@[simp]
theorem Slot.withDefault_ofStrings (values : List String) :
    (ofMember (if values = [] then none else some (ofStrings values))).withDefault []
      (list? string?) = some values := by
  cases values with
  | nil => rfl
  | cons value values => exact list?_ofStrings (value :: values)

/-! ## Plain records -/

@[simp]
theorem isPlain_string (value : String) : IsPlain (.string value) := .string value

@[simp]
theorem isPlain_bool (value : Bool) : IsPlain (.bool value) := .bool value

@[simp]
theorem isPlain_ofNat (value : Nat) : IsPlain (ofNat value) := isPlain_ofInt value

theorem isPlain_array_map {encode : α → Json} {values : List α}
    (each : ∀ value ∈ values, IsPlain (encode value)) : IsPlain (.array (values.map encode)) :=
  .array (List.forall_mem_map.mpr each)

@[simp]
theorem isPlain_ofStrings (values : List String) : IsPlain (ofStrings values) :=
  isPlain_array_map fun value _ => .string value

theorem isPlain_ofOption {encode : α → Json} {value : Option α}
    (each : ∀ inner ∈ value, IsPlain (encode inner)) : IsPlain (ofOption encode value) := by
  cases value with
  | none => exact .null
  | some inner => exact each inner rfl

theorem isPlain_ofMembers {members : List (String × Option Json)}
    (each : ∀ member ∈ members, ∀ value ∈ member.2, IsPlain value) : IsPlain (ofMembers members) := by
  refine .object fun member written => ?_
  obtain ⟨⟨name, value⟩, inside, same⟩ := List.mem_filterMap.mp written
  obtain ⟨value, isValue, rfl⟩ := Option.map_eq_some_iff.mp same
  exact each _ inside value isValue

end GroundedAnswers.Json
