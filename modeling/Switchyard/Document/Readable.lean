/-
Reading typed values from documents.

`Readable` says what a format offers to a reader.  Records are read field by field in the order of the
document, so that of several faults the first one counts.  A record may be written as a list of its
fields, and a record of one of several kinds as a list that starts with the kind.
-/
import Switchyard.Document.Content
import Switchyard.Document.Fault

namespace Switchyard

/-! ## What a format offers -/

/-- The key of a field. -/
inductive FieldKey where
  | name (s : String)
  /-- A key that is no text; a number is the place of the field in its record. -/
  | other (c : Content)
  | fault (f : Fault)

/-- The items of a list, and what is wrong after the last one. -/
structure Row (δ : Type) where
  items : List δ
  /-- The fault met by asking for another item. -/
  more : Option Fault := none
  /-- The fault met by asking for the end. -/
  stop : Option Fault := none
  /-- The fault of items that nobody asks for. -/
  excess : Fault := .mismatched

/-- The members of a record, and what is wrong after the last one. -/
structure Table (δ : Type) where
  members : List (FieldKey × δ)
  more : Option Fault := none

/-- What a record is written as. -/
inductive Shape (δ : Type) where
  | named (t : Table δ)
  | listed (r : Row δ)

/-- A format that typed values can be read from. -/
class Readable (δ : Type) where
  text : δ → Except Fault String
  natural : δ → Except Fault Nat
  flag : δ → Except Fault Bool
  /-- The value, unless it is given as missing. -/
  present : δ → Except Fault (Option δ)
  list : δ → Except Fault (Row δ)
  /-- The fields of a record. -/
  record : δ → Except Fault (Shape δ)
  /-- The fields of a record whose kind is one of them. -/
  tagged : δ → Except Fault (Shape δ)
  /-- Passes over a value. -/
  skip : δ → Except Fault Unit
  /-- The value without its format. -/
  content : δ → Except Fault Content

namespace Readable

variable {δ ρ α : Type} [Readable δ]

/-- Refuses what does not pass a test. -/
def require (x : Option α) : Except Fault α :=
  match x with
  | some a => .ok a
  | none => .error .mismatched

/-- The fault that ends a reading, if there is one. -/
def endWith : Option Fault → Except Fault Unit
  | none => .ok ()
  | some f => .error f

/-- A natural number below a bound. -/
def below (bound : Nat) (d : δ) : Except Fault Nat :=
  (natural d).bind fun n => if n < bound then .ok n else .error .mismatched

/-- A value that may be missing. -/
def optional (read : δ → Except Fault α) (d : δ) : Except Fault (Option α) :=
  (present d).bind fun
    | some d => (read d).map some
    | none => .ok none

/-- All items of a list. -/
def listOf (read : δ → Except Fault α) (d : δ) : Except Fault (List α) := do
  let row ← list d
  let values ← row.items.mapM read
  endWith row.more
  return values

/-! ## Records -/

/-- A field of a record: how its value is put into the record. -/
structure Field (δ ρ : Type) where
  name : String
  required : Bool := false
  read : δ → ρ → Except Fault ρ

/-- A field whose value is read and then put into the record. -/
def Field.of (name : String) (read : δ → Except Fault α) (put : α → ρ → ρ) : Field δ ρ :=
  { name, read := fun d r => (read d).map fun a => put a r }

/-- The same field, which must be given. -/
def Field.needed (f : Field δ ρ) : Field δ ρ := { f with required := true }

/-- The field that a key names. -/
def find (fields : List (Field δ ρ)) : FieldKey → Except Fault (Option (Field δ ρ))
  | .name s => .ok (fields.find? (·.name = s))
  | .other (.natural n) => .ok fields[n]?
  | .other _ => .error .mismatched
  | .fault f => .error f

/-- Reads members in order; a field may come once, and unknown members are passed over. -/
def readMembers (fields : List (Field δ ρ)) : List (FieldKey × δ) → List String → ρ →
    Except Fault (List String × ρ)
  | [], seen, r => .ok (seen, r)
  | (key, d) :: rest, seen, r => do
    match ← find fields key with
    | none =>
      skip d
      readMembers fields rest seen r
    | some field =>
      if field.name ∈ seen then throw .mismatched
      let r ← field.read d r
      readMembers fields rest (field.name :: seen) r

/-- Reads items as the fields in order. -/
def readItems : List (Field δ ρ) → List δ → ρ → Except Fault (List δ × List (Field δ ρ) × ρ)
  | [], items, r => .ok (items, [], r)
  | fields, [], r => .ok ([], fields, r)
  | field :: fields, d :: items, r => do
    let r ← field.read d r
    readItems fields items r

/-- Refuses a record without a field it must have. -/
def requireFields (missing : List (Field δ ρ)) : Except Fault Unit :=
  if missing.any (·.required) then .error .mismatched else .ok ()

/-- Reads a record; fields that are not given stay as they are in `blank`. -/
def readShape (fields : List (Field δ ρ)) (blank : ρ) : Shape δ → Except Fault ρ
  | .named table => do
    let (seen, r) ← readMembers fields table.members [] blank
    endWith table.more
    requireFields (fields.filter (·.name ∉ seen))
    return r
  | .listed row => do
    let (items, missing, r) ← readItems fields row.items blank
    if !items.isEmpty then throw row.excess
    if missing.isEmpty then endWith row.stop
    else
      endWith row.more
      requireFields missing
    return r

/-- Reads a record. -/
def recordOf (fields : List (Field δ ρ)) (blank : ρ) (d : δ) : Except Fault ρ :=
  (record d).bind (readShape fields blank)

/-! ## Records of several kinds -/

/-- Splits members into the kind and the others. -/
def splitTag (tag : String) (kinds : List String) : List (FieldKey × δ) → Option String →
    Except Fault (Option String × List (Content × Content))
  | [], kind => .ok (kind, [])
  | (key, d) :: rest, kind => do
    match key with
    | .fault f => throw f
    | .other c =>
      let value ← content d
      let (kind, members) ← splitTag tag kinds rest kind
      return (kind, (c, value) :: members)
    | .name s =>
      if s = tag then
        if kind.isSome then throw .mismatched
        let named ← text d
        let found ← require (kinds.find? (· = named))
        splitTag tag kinds rest (some found)
      else
        let value ← content d
        let (kind, members) ← splitTag tag kinds rest kind
        return (kind, (.text s, value) :: members)

/-- The kind of a record and the record without it. -/
def readKind (tag : String) (kinds : List String) (d : δ) : Except Fault (String × Content) := do
  match ← tagged d with
  | .named table =>
    let (kind, members) ← splitTag tag kinds table.members none
    endWith table.more
    return (← require kind, .record members)
  | .listed row =>
    match row.items with
    | [] =>
      endWith row.more
      throw .mismatched
    | first :: rest =>
      let named ← text first
      let kind ← require (kinds.find? (· = named))
      let items ← rest.mapM content
      endWith row.more
      return (kind, .list items)

end Readable

/-! ## Documents without their format -/

/-- The key that a document makes. -/
def Content.fieldKey : Content → FieldKey
  | .text s => .name s
  | c => .other c

/-- Reads what is left of a record of a kind without fields: any members, but no items. -/
def Content.bare : Content → Except Fault Unit
  | .record _ | .list [] => .ok ()
  | _ => .error .mismatched

instance : Readable Content where
  text
    | .text s => .ok s
    | _ => .error .mismatched
  natural
    | .natural n => .ok n
    | .negative 0 => .ok 0
    | _ => .error .mismatched
  flag
    | .flag b => .ok b
    | _ => .error .mismatched
  present
    | .null => .ok none
    | d => .ok (some d)
  list
    | .list items => .ok { items }
    | _ => .error .mismatched
  record
    | .list items => .ok (.listed { items })
    | .record members => .ok (.named { members := members.map fun m => (m.1.fieldKey, m.2) })
    | _ => .error .mismatched
  tagged
    | .list items => .ok (.listed { items })
    | .record members => .ok (.named { members := members.map fun m => (m.1.fieldKey, m.2) })
    | _ => .error .mismatched
  skip _ := .ok ()
  content d := .ok d

end Switchyard
