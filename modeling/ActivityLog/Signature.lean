import ActivityLog.Failure

/-!
# Signatures

The parameters of a function that arguments can be given for, by place or by name. `Signature.check` decides whether a
call fits and how it fails if it does not: names come first, in their order, then the number of arguments, then what
is missing. A call that gives every required parameter by place and no names fits (`check_required`).
-/

namespace ActivityLog

/-- The parameters of a function. A method's own object is the first of them. -/
structure Signature where
  required : List String
  optional : List String := []
  /-- Whether further arguments by place are taken. -/
  more : Bool := false
  /-- Whether further names are taken. -/
  moreNames : Bool := false

namespace Signature

/-- The parameters that can be given by place, in order. -/
def parameters (s : Signature) : List String := s.required ++ s.optional

/-- A number of things, with the word for them. -/
def counted (n : Nat) (word : String) : String := toString n ++ " " ++ word ++ (if n = 1 then "" else "s")

/-- Names in quotes, the last one after an "and". -/
def listed : List String → String
  | [] => ""
  | [a] => Text.quoted a
  | [a, b] => Text.quoted a ++ " and " ++ Text.quoted b
  | names => ", ".intercalate (names.dropLast.map Text.quoted) ++ ", and " ++ Text.quoted (names.getLastD "")

/-- The fault of a name among a call's arguments, when so many arguments are given by place. -/
def nameFault (s : Signature) (given : Nat) (name : String) : Option String :=
  if (s.parameters.take given).contains name then some ("got multiple values for argument '" ++ name ++ "'")
  else if s.parameters.contains name || s.moreNames then none
  else some ("got an unexpected keyword argument '" ++ name ++ "'")

/-- The wording of too many arguments. -/
def excess (s : Signature) (given : Nat) : String :=
  let takes := if s.optional.isEmpty then counted s.required.length "positional argument"
    else "from " ++ toString s.required.length ++ " to " ++ toString s.parameters.length ++ " positional arguments"
  "takes " ++ takes ++ " but " ++ toString given ++ (if given = 1 then " was" else " were") ++ " given"

/-- The required parameters that a call leaves open. -/
def missing (s : Signature) (given : Nat) (names : List String) : List String :=
  (s.required.drop given).filter fun p => !names.contains p

/-- What is wrong with a call, if anything. -/
def fault (s : Signature) (given : Nat) (names : List String) : Option String :=
  match names.findSome? (s.nameFault given) with
  | some text => some text
  | none =>
    if Nat.blt s.parameters.length given && !s.more then some (s.excess given)
    else match s.missing given names with
      | [] => none
      | absent => some ("missing " ++ counted absent.length "required positional argument" ++ ": " ++ listed absent)

/-- Fails if a call of the function does not fit: so many arguments by place, then some by name. -/
def check (s : Signature) (function : String) (given : Nat) (names : List String) : Except Failure Unit :=
  match s.fault given names with
  | none => .ok ()
  | some text => .error (.fault .type (function ++ "() " ++ text))

theorem check_required (s : Signature) (function : String) :
    s.check function s.required.length [] = .ok () := by
  have h : ¬ s.required.length + s.optional.length < s.required.length := by omega
  simp [check, fault, missing, parameters, h]

end Signature

/-- Fails if a field has the name of a parameter that is given already. Every other name is taken. -/
def refuseParameters (function : String) (parameters : List String) (names : List String) : Except Failure Unit :=
  ({ required := parameters, moreNames := true } : Signature).check function parameters.length names

end ActivityLog
