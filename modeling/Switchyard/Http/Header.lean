/-
Header fields.

`Headers` keeps the fields of a message in the order they were added; names are in lower case.
-/
import Switchyard.Text.Utf8

namespace Switchyard.Http

/-! ## Names and values -/

/-- Characters of a field name. -/
def isNameChar (c : Char) : Bool :=
  c.isAlphanum || c ∈ ['!', '"', '#', '$', '%', '&', '\x27', '*', '+', '-', '.', '^', '_', '\x60', '|', '~']

/-- The longest field name. -/
def maxName : Nat := 65535

/-- Whether a text, in whatever case, is a field name. -/
def isFieldName (s : String) : Bool :=
  !s.toList.isEmpty && s.toList.length ≤ maxName && s.toList.all isNameChar

/-- A field name in the form it is kept. -/
def fieldName (s : String) : String := s.map Char.toLower

/-- Whether a text may be the value of a field: no control but the tab. -/
def isFieldValue (s : String) : Bool :=
  s.toList.all fun c => (0x20 ≤ c.toNat && c.toNat ≠ 0x7F) || c == '\t'

/-- Whether a value reads as text: visible ASCII, blanks and tabs only. -/
def isPlainValue (s : String) : Bool :=
  s.toList.all fun c => (0x20 ≤ c.toNat && c.toNat < 0x7F) || c == '\t'

/-! ## Fields -/

/-- The fields of a message, in order. -/
abbrev Headers := List (String × String)

namespace Headers

/-- The values of a field, in order. -/
def values (h : Headers) (name : String) : List String :=
  (h.filter (·.1 = fieldName name)).map (·.2)

/-- The first value of a field. -/
def get? (h : Headers) (name : String) : Option String := (h.values name).head?

/-- The first value of a field, if it reads as text. -/
def plain? (h : Headers) (name : String) : Option String := (h.get? name).filter isPlainValue

/-- The fields without those of some names. -/
def without (h : Headers) (names : List String) : Headers := h.filter fun f => f.1 ∉ names

/-- The fields that stay are those of other names, in their order. -/
@[simp] theorem mem_without {h : Headers} {names : List String} {f : String × String} :
    f ∈ h.without names ↔ f ∈ h ∧ f.1 ∉ names := by
  simp [without]

/-- A field of another name keeps all its values. -/
theorem values_without {h : Headers} {names : List String} {name : String}
    (hn : fieldName name ∉ names) : (h.without names).values name = h.values name := by
  simp only [values, without, List.filter_filter]
  congr 1
  apply List.filter_congr
  intro f _
  by_cases hf : f.1 = fieldName name <;> simp [hf, hn]

/-- A removed field has no values. -/
theorem values_without_of_mem {h : Headers} {names : List String} {name : String}
    (hn : fieldName name ∈ names) : (h.without names).values name = [] := by
  simp only [values, without, List.filter_filter, List.map_eq_nil_iff, List.filter_eq_nil_iff]
  intro f _
  by_cases hf : f.1 = fieldName name <;> simp [hf, hn]

end Headers

end Switchyard.Http
