import ActivityLog.Descriptor
import ActivityLog.Descriptor.Reference
import ActivityLog.Text.LowerCase
import ActivityLog.Text.Utf8

/-!
# Descriptors as documents

Descriptors and field configurations are written as dictionaries. `descriptor` and `config` read them: they list
everything that is wrong, in the order of the fields. How a function is found is a parameter, a step in a monad of the
caller's choice; where it fails over a bad value that is one more issue (`reported?`), and any other failure ends the
reading at once. `Source.toValue`, `Descriptor.toValue` and `FieldConfig.toValue` write the dictionaries.
-/

namespace ActivityLog.Document

/-- What a value is read as, or what is wrong with it. -/
abbrev Checked (α : Type) := Except (List Issue) α

/-- How the function is found that a value is or refers to. -/
abbrev Resolver (m : Type → Type) := Value → m (Option FieldFunction)

/-- One issue. -/
def issue {α : Type} (kind message : String) (place : List Place := []) : Checked α :=
  .error [⟨kind, place, message⟩]

/-- Two results; the issues of both are kept. -/
def Checked.both {α β γ : Type} (f : α → β → γ) : Checked α → Checked β → Checked γ
  | .ok a, .ok b => .ok (f a b)
  | .error i, .ok _ => .error i
  | .ok _, .error j => .error j
  | .error i, .error j => .error (i ++ j)

/-- A result with its issues seen from outside. -/
def Checked.within {α : Type} (outer : List Place) : Checked α → Checked α
  | .ok a => .ok a
  | .error issues => .error (issues.map (·.within outer))

/-- What may be left out of a dictionary. -/
def Checked.optional {α : Type} (entries : List (String × Value)) (name : String) (default : α)
    (read : Value → Checked α) : Checked α :=
  match entries.lookup name with
  | some v => (read v).within [.name name]
  | none => .ok default

section Combining

variable {m : Type → Type} [Monad m]

/-- Two readings, one after the other. -/
def both {α β γ : Type} (f : α → β → γ) (first : m (Checked α)) (second : m (Checked β)) : m (Checked γ) := do
  let a ← first
  let b ← second
  return Checked.both f a b

/-- A reading with its issues seen from outside. -/
def within {α : Type} (outer : List Place) (r : m (Checked α)) : m (Checked α) := do return Checked.within outer (← r)

/-- A reading with its result changed. -/
def mapResult {α β : Type} (f : α → β) (r : m (Checked α)) : m (Checked β) := do return (← r).map f

/-- Readings in order. -/
def sequence {α : Type} : List (m (Checked α)) → m (Checked (List α))
  | [] => pure (.ok [])
  | r :: rest => both List.cons r (sequence rest)

end Combining

/-! ## Plain values -/

/-- A text that is none: bytes that spell no text, or half a pair where it may not be. -/
def notUnicode {α : Type} : Checked α :=
  issue "string_unicode" "Input should be a valid string, unable to parse raw data as a unicode string"

/-- A text; bytes are read as UTF-8. -/
def text : Value → Checked String
  | .text s => .ok s
  | .bytes b =>
    match Utf8.decode b with
    | .ok s => .ok s
    | .error _ => notUnicode
  | _ => issue "string_type" "Input should be a valid string"

/-- A text that is not empty and has no halves of pairs. -/
def nonEmptyText (v : Value) : Checked String :=
  (text v).bind fun s =>
    if Text.hasHalves s then notUnicode
    else if s.isEmpty then issue "string_too_short" "String should have at least 1 character"
    else .ok s

/-- The truth value that a word stands for, in any case. -/
def truthWord? (word : String) : Option Bool :=
  let w := Text.lower word
  if ["0", "off", "f", "false", "n", "no"].contains w then some false
  else if ["1", "on", "t", "true", "y", "yes"].contains w then some true
  else none

/-- A word or number that is no truth value. -/
def badTruth : Checked Bool :=
  issue "bool_parsing" "Input should be a valid boolean, unable to interpret input"

/-- A value that is no truth value at all. -/
def noTruth : Checked Bool := issue "bool_type" "Input should be a valid boolean"

/-- A truth value from a whole number of 64 bits. -/
def truthNumber (n : Int) : Checked Bool :=
  if n = 0 then .ok false
  else if n = 1 then .ok true
  else if -Value.bound64 ≤ n ∧ n < Value.bound64 then badTruth
  else noTruth

/-- A truth value: itself, one of twelve words, 0 or 1. The least number of 64 bits does not count when it is written
with a fraction. -/
def truth : Value → Checked Bool
  | .bool b => .ok b
  | .int n => truthNumber n
  | .float x =>
    match x.toInt? with
    | some n => if n = -Value.bound64 then noTruth else truthNumber n
    | none => noTruth
  | .text s =>
    if Text.hasHalves s then notUnicode
    else match truthWord? s with
      | some b => .ok b
      | none => badTruth
  | .bytes b =>
    match Utf8.decode b with
    | .ok s => match truthWord? s with
      | some b => .ok b
      | none => badTruth
    | .error _ => badTruth
  | _ => noTruth

/-! ## Failures while reading -/

/-- A text as messages show it: each byte of half a pair is replaced. -/
def legible (s : String) : String := Text.replaceHalves (List.replicate 3 '\uFFFD') s

/-- The kinds of faults that say that a value is bad. -/
def valueFaults : List String :=
  ["ValueError", "UnicodeError", "UnicodeDecodeError", "UnicodeEncodeError", "UnicodeTranslateError"]

/-- What is reported of a value whose check fails in this way, if anything: that it is bad, that an assertion does not
hold, or what else is wrong with it. -/
def reported? : Failure → Option (List Issue)
  | .fault kind text =>
    if valueFaults.contains kind.name then some [⟨"value_error", [], "Value error, " ++ legible text⟩]
    else if kind.name = "AssertionError" then some [⟨"assertion_error", [], "Assertion failed, " ++ legible text⟩]
    else none
  | .configuration _ => none
  | .invalid _ issues => some issues

section Values

variable {m : Type → Type} [Monad m]

/-- A value that must be there. -/
def required {α : Type} (entries : List (String × Value)) (name : String) (read : Value → m (Checked α)) :
    m (Checked α) :=
  match entries.lookup name with
  | some v => within [.name name] (read v)
  | none => pure (issue "missing" "Field required" [.name name])

/-- A value that may be left out. -/
def optional {α : Type} (entries : List (String × Value)) (name : String) (default : α) (read : Value → m (Checked α)) :
    m (Checked α) :=
  match entries.lookup name with
  | some v => within [.name name] (read v)
  | none => pure (.ok default)

/-- A function or a reference to one. -/
def function [MonadExceptOf Failure m] (resolve : Resolver m) (v : Value) : m (Checked (Option FieldFunction)) :=
  tryCatch (do return .ok (← resolve v)) fun f =>
    match reported? f with
    | some issues => return .error issues
    | none => throw f

end Values

/-! ## Sources -/

/-- The kinds of sources. -/
inductive SourceKind where
  | header | fixed | field | self | time | special
  deriving DecidableEq, Repr

namespace SourceKind

/-- All kinds, in the order of messages. -/
def all : List SourceKind := [.header, .fixed, .field, .self, .time, .special]

/-- The tag of a kind. -/
def tag : SourceKind → String
  | .header => "header"
  | .fixed => "static"
  | .field => "field"
  | .self => "self"
  | .time => "time"
  | .special => "special"

/-- The model of a kind. -/
def model : SourceKind → String
  | .header => "HeaderSource"
  | .fixed => "StaticSource"
  | .field => "FieldSource"
  | .self => "SelfSource"
  | .time => "TimeSource"
  | .special => "SpecialSource"

/-- The kind that a tag names. -/
def ofTag? (v : Value) : Option SourceKind :=
  match v with
  | .text s => all.find? fun k => k.tag == s
  | _ => none

theorem ofTag?_tag (k : SourceKind) : ofTag? (.text k.tag) = some k := by
  cases k <;> decide

end SourceKind

section Reading

variable {m : Type → Type} [Monad m] [MonadExceptOf Failure m]

/-- The fields of a source of a known kind. -/
def sourceFields (resolve : Resolver m) (kind : SourceKind) (entries : List (String × Value)) : m (Checked Source) :=
  match kind with
  | .header => mapResult Source.header (required entries "name" (pure ∘ text))
  | .fixed => pure (.ok (.fixed ((entries.lookup "value").getD .null)))
  | .field => mapResult Source.field (required entries "name" (pure ∘ text))
  | .self => mapResult Source.self (required entries "name" (pure ∘ text))
  | .time =>
    both Source.time (optional entries "pre" none (function resolve)) (optional entries "post" none (function resolve))
  | .special => pure (.ok .special)

/-- A source: a dictionary whose `type` names its kind. -/
def source (resolve : Resolver m) (v : Value) : m (Checked Source) :=
  let tag? : Option (Option Value) := match v with
    | .dict entries => some (entries.lookup "type")
    | .object _ attributes => some (attributes.lookup "type")
    | .function (.script _) => some none
    | _ => none
  match tag? with
  | none =>
    pure (issue "model_attributes_type" "Input should be a valid dictionary or object to extract fields from")
  | some none => pure (issue "union_tag_not_found" "Unable to extract tag using discriminator 'type'")
  | some (some tag) =>
    match SourceKind.ofTag? tag with
    | none =>
      pure (issue "union_tag_invalid" ("Input tag '" ++ legible tag.display ++
        "' found using 'type' does not match any of the expected tags: " ++
        ", ".intercalate (SourceKind.all.map fun k => "'" ++ k.tag ++ "'")))
    | some kind =>
      within [.name kind.tag] (match v with
        | .dict entries => sourceFields resolve kind entries
        | _ => pure (issue "model_type" ("Input should be a valid dictionary or instance of " ++ kind.model)))

/-! ## Descriptors -/

/-- The model name of descriptors. -/
def descriptorModel : String := "FieldDescriptor"

/-- The model name of field configurations. -/
def configModel : String := "FieldConfig"

/-- A descriptor. -/
def descriptor (resolve : Resolver m) (v : Value) : m (Checked Descriptor) :=
  match v with
  | .dict entries =>
    let name := required entries "name" (pure ∘ nonEmptyText)
    let source := required entries "source" (source resolve)
    let mandatory := optional entries "mandatory" false (pure ∘ truth)
    let default := (entries.lookup "default").getD .null
    let fallback := optional entries "fallback" none (function resolve)
    both (fun (n, s) (m, f) => ⟨n, s, m, default, f⟩) (both Prod.mk name source) (both Prod.mk mandatory fallback)
  | _ => pure (issue "model_type" ("Input should be a valid dictionary or instance of " ++ descriptorModel))

/-- A list of descriptors. -/
def descriptors (resolve : Resolver m) (v : Value) : m (Checked (List Descriptor)) :=
  match v with
  | .list items =>
    sequence ((items.zipIdx).map fun (item, i) => within [.index i] (descriptor resolve item))
  | _ => pure (issue "tuple_type" "Input should be a valid tuple")

/-- A field configuration. -/
def config (resolve : Resolver m) (v : Value) : m (Checked FieldConfig) :=
  match v with
  | .dict entries =>
    both FieldConfig.mk (optional entries "pre" [] (descriptors resolve))
      (optional entries "post" [] (descriptors resolve))
  | _ => pure (issue "model_type" ("Input should be a valid dictionary or instance of " ++ configModel))

/-- The result of a reading; issues become a failure. -/
def orThrow {α : Type} (failure : List Issue → Failure) (r : m (Checked α)) : m α := do
  match ← r with
  | .error issues => throw (failure issues)
  | .ok a => return a

/-- The result of a reading; issues become a failure of the named model. -/
def orFail {α : Type} (model : String) (r : m (Checked α)) : m α := orThrow (.invalid model) r

end Reading

end ActivityLog.Document

namespace ActivityLog

section Reading

variable {m : Type → Type} [Monad m] [MonadExceptOf Failure m]

/-- Reads a descriptor. -/
def Descriptor.ofValue (resolve : Document.Resolver m) (v : Value) : m Descriptor :=
  Document.orFail Document.descriptorModel (Document.descriptor resolve v)

/-- Reads a field configuration. -/
def FieldConfig.ofValue (resolve : Document.Resolver m) (v : Value) : m FieldConfig :=
  Document.orFail Document.configModel (Document.config resolve v)

end Reading

/-- A function, or nothing, as a value. -/
def Value.ofFunction? : Option FieldFunction → Value
  | some f => .function f
  | none => .null

/-- The dictionary of a source. -/
def Source.toValue (s : Source) : Value :=
  .dict (("type", .text s.tag) :: match s with
    | .header name => [("name", .text name)]
    | .fixed value => [("value", value)]
    | .field name => [("name", .text name)]
    | .self name => [("name", .text name)]
    | .time pre post => [("pre", .ofFunction? pre), ("post", .ofFunction? post)]
    | .special => [])

/-- The dictionary of a descriptor. -/
def Descriptor.toValue (d : Descriptor) : Value :=
  .dict [("name", .text d.name), ("source", d.source.toValue), ("mandatory", .bool d.mandatory),
    ("default", d.default), ("fallback", .ofFunction? d.fallback)]

/-- The dictionary of a field configuration. -/
def FieldConfig.toValue (c : FieldConfig) : Value :=
  .dict [("pre", .list (c.pre.map (·.toValue))), ("post", .list (c.post.map (·.toValue)))]

end ActivityLog
