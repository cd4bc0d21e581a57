import DeliveryRouting.Json.Reader
import DeliveryRouting.Json.Value

/-! # JSON: forms

A form says how values of one kind are written. It reads them from a text, so that the first fault
in the order of the text is the one that is reported, and it describes them in a schema. Forms are
built from those of numbers and texts by lists, optional values, records and choices.

A record is written as an object, whose fields may stand in any order, or as a list of its fields
in their own order. A field may have a fallback, which stands for it when it is left out; an
optional field may be left out of an object. A closed record refuses fields it does not know, an
open one skips them. -/

namespace DeliveryRouting.Json

/-- How values of one kind are written. -/
structure Form where
  read : Reader Value
  /-- what stands for the value if its field is left out -/
  missing? : Option Value
  /-- the keywords of its schema -/
  keywords : List (String × Value)
  /-- the schemas that its own refers to -/
  definitions : List (String × Value)

/-- A field of a record. -/
structure Field where
  name : String
  form : Form
  fallback? : Option Value := none
  note? : Option String := none

/-- The fields of a record. -/
structure Record where
  name : String
  closed : Bool
  fields : List Field

namespace Form

/-- Read a number, if one comes next. -/
def readNumber (expected : String) (accept : Reader.Number → Reader Value) : Reader Value := do
  match ← Reader.peek? with
  | some c =>
    if c = '-' || c.isDigit then accept (← Reader.number) else Reader.mismatch expected
  | none => Reader.mismatch expected

/-- A whole number in 64 bits with sign. -/
def integer : Form where
  read := readNumber "i64" fun
    | .natural n =>
      if n < 0x8000000000000000 then return .int n else throw (.data (.wrongValue (.integer n) "i64"))
    | .negative n => return .int n
    | .float x => throw (.data (.wrongType (.float x) "i64"))
  missing? := none
  keywords := [("type", .text "integer"), ("format", .text "int64")]
  definitions := []

/-- A whole number in 64 bits without sign. -/
def size : Form where
  read := readNumber "usize" fun
    | .natural n => return .int n
    | .negative n => throw (.data (.wrongValue (.integer n) "usize"))
    | .float x => throw (.data (.wrongType (.float x) "usize"))
  missing? := none
  keywords := [("type", .text "integer"), ("format", .text "uint"), ("minimum", .int 0)]
  definitions := []

/-- A number. -/
def number : Form where
  read := readNumber "f64" fun
    | .natural n => return .float (UInt64.ofNat n).toFloat
    | .negative n => return .float (-(UInt64.ofNat n.natAbs).toFloat)
    | .float x => return .float x
  missing? := none
  keywords := [("type", .text "number"), ("format", .text "double")]
  definitions := []

/-- A text. -/
def text : Form where
  read := do
    if (← Reader.peek?) == some '"' then return .text (← Reader.text)
    else Reader.mismatch "a string"
  missing? := none
  keywords := [("type", .text "string")]
  definitions := []

/-- Null or a value of the form. -/
def optional (form : Form) : Form where
  read := do
    if (← Reader.peek?) == some 'n' then
      Reader.word "null".toList
      return .null
    else form.read
  missing? := some .null
  keywords := form.keywords.map fun (key, value) =>
    if key = "type" then (key, .list [value, .text "null"]) else (key, value)
  definitions := form.definitions

/-- A list of values of the form. -/
def list (form : Form) : Form where
  read := do
    if (← Reader.peek?) == some '[' then
      Reader.drop
      let items ← Reader.items form.read (← Reader.left) true
      Reader.closeList
      return .list items
    else Reader.mismatch "a sequence"
  missing? := none
  keywords := [("type", .text "array"), ("items", .record form.keywords)]
  definitions := form.definitions

/-! ### Choices -/

/-- The name of a variant. -/
def readVariant (names : List String) : Reader String := do
  if (← Reader.peek?) == some '"' then
    let name ← Reader.text
    if names.contains name then return name
    else throw (.data (.unknownVariant name names))
  else Reader.mismatch "variant identifier"

/-- The name of a variant alone, or an object with that name and a content. -/
def readChoice (names : List String) (alone content : String → Reader Value) : Reader Value := do
  match ← Reader.peek? with
  | some '"' => alone (← readVariant names)
  | some '\x7b' =>
    Reader.drop
    let name ← readVariant names
    Reader.colon
    let value ← content name
    match ← Reader.peek? with
    | some '\x7d' =>
      Reader.drop
      return value
    | some _ => throw (.breach .expectedValue)
    | none => throw (.endsIn .object)
  | some _ => throw (.breach .expectedValue)
  | none => throw (.endsIn .value)

/-- One of several names, each perhaps with a note. -/
def oneOf (name : String) (variants : List (String × Option String)) : Form where
  read := readChoice (variants.map Prod.fst) (fun v => return .text v) fun v => do
    if (← Reader.peek?) == some 'n' then
      Reader.word "null".toList
      return .text v
    else Reader.mismatch "unit"
  missing? := none
  keywords := [("$ref", .text ("#/$defs/" ++ name))]
  definitions := [(name, .record [("oneOf", .list (variants.map fun (v, note?) =>
    .record ((note?.map fun note => ("description", Value.text note)).toList ++
      [("type", .text "string"), ("const", .text v)])))])]

end Form

/-! ### Records -/

namespace Record

/-- The number of fields in words. -/
def count (r : Record) : String :=
  let n := r.fields.length
  s!"{n} element" ++ if n = 1 then "" else "s"

/-- The fields from a list of them in their own order, the first of which has index `i`. -/
def readItems (expected : String) : (i : Nat) → List Field → Reader (List (String × Value))
  | _, [] => return []
  | i, f :: rest => do
    let value ←
      if ← Reader.hasItem (i == 0) then f.form.read
      else match f.fallback? with
        | some value => pure value
        | none => throw (.data (.wrongLength i expected))
    return (f.name, value) :: (← readItems expected (i + 1) rest)

/-- The members of an object, those found so far in front. -/
def readMembers (r : Record) :
    (steps : Nat) → List (String × Value) → (first : Bool) → Reader (List (String × Value))
  | 0, _, _ => throw (.endsIn .object)
  | steps + 1, found, first => do
    if ← Reader.hasMember first then
      let name ← Reader.text
      match r.fields.find? (·.name == name) with
      | some f =>
        if (found.lookup name).isSome then throw (.data (.duplicateField name))
        Reader.colon
        let value ← f.form.read
        readMembers r steps (found ++ [(name, value)]) false
      | none =>
        if r.closed then throw (.data (.unknownField name (r.fields.map Field.name)))
        Reader.colon
        Reader.skip
        readMembers r steps found false
    else
      Reader.drop
      return found

/-- A field from the members of an object. -/
def complete (found : List (String × Value)) (f : Field) : Reader (String × Value) :=
  match (found.lookup f.name).or (f.fallback?.or f.form.missing?) with
  | some value => return (f.name, value)
  | none => throw (.data (.missingField f.name))

/-- A record, which is called `expected` where it is not found. -/
def read (r : Record) (expected : String) : Reader Value := do
  match ← Reader.peek? with
  | some '[' =>
    Reader.drop
    let fields ← readItems (expected ++ " with " ++ r.count) 0 r.fields
    Reader.closeList
    return .record fields
  | some '\x7b' =>
    Reader.drop
    let found ← r.readMembers (← Reader.left) [] true
    return .record (← r.fields.mapM (complete found))
  | _ => Reader.mismatch expected

/-- The keywords of a field's schema. -/
def property (f : Field) : String × Value :=
  (f.name, .record ((f.note?.map fun note => ("description", Value.text note)).toList ++
    f.form.keywords ++ (f.fallback?.map fun value => ("default", value)).toList))

/-- The fields that may not be left out. -/
def required (r : Record) : List Value :=
  (r.fields.filter fun f => f.fallback?.isNone && f.form.missing?.isNone).map fun f => .text f.name

/-- The keywords of the schema of a record. -/
def keywords (r : Record) : List (String × Value) :=
  [("type", .text "object"), ("properties", .record (r.fields.map property))] ++
    (if r.closed then [("additionalProperties", .bool false)] else []) ++
    [("required", .list r.required)]

/-- The schemas that the fields refer to, each once. -/
def definitions (r : Record) : List (String × Value) :=
  (r.fields.flatMap fun f => f.form.definitions).foldl (fun known d =>
    if (known.lookup d.1).isSome then known else known ++ [d]) []

/-- The dialect that the schemas are written in. -/
def dialect : String := "https:" ++ "//json-schema.org/draft/2020-12/schema"

/-- The schema of a record, with all that it refers to. -/
def schema (r : Record) : Value :=
  .record ([("$schema", .text dialect), ("title", .text r.name)] ++ r.keywords ++
    (if r.definitions.isEmpty then [] else [("$defs", .record r.definitions)]))

end Record

namespace Form

/-- A record. -/
def record (r : Record) : Form where
  read := r.read ("struct " ++ r.name)
  missing? := none
  keywords := [("$ref", .text ("#/$defs/" ++ r.name))]
  definitions := (r.name, .record r.keywords) :: r.definitions

/-- One of several records, written as an object with the key of the record. The name of a record
is what it is called within the choice. -/
def tagged (name : String) (variants : List (String × Record)) : Form where
  read := readChoice (variants.map Prod.fst)
    (fun _ => throw (.data (.wrongType .unitVariant "struct variant")))
    fun key => match variants.lookup key with
      | some r => do
        return .record [(key, ← r.read ("struct variant " ++ name ++ "::" ++ r.name))]
      | none => throw (.breach .expectedValue)
  missing? := none
  keywords := [("$ref", .text ("#/$defs/" ++ name))]
  definitions := variants.flatMap fun (_, r) => r.definitions

/-- The value of a text that holds nothing else. -/
def readText (form : Form) (text : String) : Except Fault Value := do
  let read : Reader Value := do
    let value ← form.read
    Reader.finish
    return value
  return (← read.run text.toList).1

end Form

end DeliveryRouting.Json
