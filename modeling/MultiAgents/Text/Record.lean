import MultiAgents.Text.Dynamic

/-!
# Objects as they are written

Responses and stored configurations are object literals, in which a field that
is undefined is left out.  Fields are set, removed and spread over other
objects; a field that is set again keeps its place.
-/

namespace Text

/-- What every object has. -/
def inheritedNames : List String :=
  ["constructor", "hasOwnProperty", "isPrototypeOf", "propertyIsEnumerable", "toLocaleString",
    "toString", "valueOf", "__proto__", "__defineGetter__", "__defineSetter__",
    "__lookupGetter__", "__lookupSetter__"]

/-- A name under which an object has only what was set. -/
abbrev PropertyName := { name : String // name ∉ inheritedNames }

/-- `text || undefined`. -/
def presentText (text : Option String) : Option String := text.filter fun text => text != ""

namespace Json

def record (fields : List (String × Value)) : Json :=
  .obj (fields.filterMap fun field => field.2.map fun value => (field.1, value))

theorem property_record {fields : List (String × Value)} (distinct : (fields.map Prod.fst).Nodup)
    (name : String) : (record fields).property name = (fields.lookup name).join := by
  induction fields with
  | nil => rfl
  | cons field fields ih =>
      obtain ⟨key, value⟩ := field
      obtain ⟨fresh, distinct⟩ := List.nodup_cons.mp distinct
      have split : record ((key, value) :: fields) =
          .obj ((value.toList.map fun value => (key, value)) ++
            fields.filterMap fun field => field.2.map fun value => (field.1, value)) := by
        cases value <;> rfl
      have later : (Json.obj (fields.filterMap fun field =>
          field.2.map fun value => (field.1, value))).property name =
            (fields.lookup name).join := ih distinct
      rw [split, property_obj_append, later]
      by_cases same : name = key
      · subst same
        have absent : fields.lookup name = none := by
          rw [List.lookup_eq_none_iff]
          intro field isField
          rw [bne_iff_ne]
          rintro rfl
          exact fresh (List.mem_map.mpr ⟨field, isField, rfl⟩)
        rw [absent, List.lookup_cons_self]
        cases value <;> simp [property]
      · have other : (name == key) = false := beq_false_of_ne same
        rw [List.lookup_cons, other]
        cases value <;> simp [property, Ne.symm same]

def setField (fields : List (String × Json)) (name : String) (value : Json) :
    List (String × Json) :=
  if fields.any fun field => field.1 == name then
    fields.map fun field => if field.1 == name then (name, value) else field
  else fields ++ [(name, value)]

/-- `{ ...first, ...second }`. -/
def spread (first second : Json) : Json :=
  .obj (second.fields.foldl (fun fields field => setField fields field.1 field.2) first.fields)

end Json

namespace Value

def text (value : String) : Value := some (.str value)

def text? (value : Option String) : Value := value.map .str

def flag (value : Bool) : Value := some (.bool value)

end Value

end Text
