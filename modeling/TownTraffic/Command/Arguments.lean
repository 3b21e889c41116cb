import TownTraffic.Text.Natural

/-!
# Arguments of a command

A command is told what to do by options: flags, which stand alone, and options with a value, which
follows as an argument of its own or is attached. An option may have long names, `--name`, and a
letter, `-n`; letters of flags may be run together.

A value that follows as an argument of its own is looked at when the next option is met, or at the
end. If what is met instead is no option, that is what is wrong with the arguments.

* **`Choice`** — one option; **`Complaint`** — what may be wrong with arguments.
* **`Reading`** — arguments of which some have been read; **`Reading.take`** reads one more.
* **`Choice.readAll`** — reads all arguments.
-/

namespace TownTraffic.Command

/-- Why arguments are not followed. -/
inductive Complaint where
  /-- The user wants to know how to use the command. -/
  | help
  /-- The user wants to know which command this is. -/
  | version
  /-- An argument is neither an option nor the value of one. -/
  | unknown
  /-- An option needs a value. -/
  | valueMissing
  /-- A value is not of the kind that the option needs. -/
  | valueUnfit
  /-- An option is given twice. -/
  | repeated
  /-- A flag is given a value. -/
  | valueNeedless
deriving Repr, DecidableEq

/-- What an option does to the settings of a command. -/
inductive Effect (σ : Type) where
  /-- A flag changes them. -/
  | flag (change : σ → σ)
  /-- A value changes them, if it is fit. -/
  | value (change : String → Except Complaint (σ → σ))
  /-- Breaks off. -/
  | stop (complaint : Complaint)

/-- An option. -/
structure Choice (σ : Type) where
  /-- Its long names, the first of which tells it from other options. -/
  names : List String
  letter : Option Char
  effect : Effect σ

/-- An option that still needs its value, or whose value has not been looked at. -/
inductive Pending (σ : Type) where
  | nothing
  | awaits (option : Choice σ)
  | holds (option : Choice σ) (value : String)

/-- Arguments of which some have been read. -/
structure Reading (σ : Type) where
  settings : σ
  /-- The names of the options that have been given. -/
  given : List (List String)
  pending : Pending σ
  /-- Whether all further arguments are values. -/
  valuesOnly : Bool

namespace Reading

variable {σ : Type}

/-- Before any argument. -/
def start (settings : σ) : Reading σ := ⟨settings, [], .nothing, false⟩

/-- Notes that an option is given. -/
def note (r : Reading σ) (option : Choice σ) : Except Complaint (Reading σ) :=
  if option.names ∈ r.given then .error .repeated
  else .ok { r with given := option.names :: r.given }

/-- Follows an option with its value. -/
def follow (r : Reading σ) (option : Choice σ) (value : String) : Except Complaint (Reading σ) := do
  let r ← r.note option
  match option.effect with
  | .value change => return { r with settings := (← change value) r.settings }
  | _ => return r

/-- Looks at the value of an option before another one is read. -/
def resolve (r : Reading σ) : Except Complaint (Reading σ) :=
  match r.pending with
  | .nothing => .ok r
  | .awaits _ => .error .valueMissing
  | .holds option value => { r with pending := .nothing }.follow option value

/-- Reads an option, maybe with an attached value. -/
def takeChoice (r : Reading σ) (option : Choice σ) (attached : Option String) :
    Except Complaint (Reading σ) :=
  match option.effect, attached with
  | .value _, some value => do (← r.resolve).follow option value
  | .value _, none => do return { ← r.resolve with pending := .awaits option }
  | _, some _ => .error .valueNeedless
  | .flag change, none => do
    let r ← (← r.resolve).note option
    return { r with settings := change r.settings }
  | .stop complaint, none => do
    let _ ← r.resolve
    .error complaint

/-- The option with a long name. -/
def named? (options : List (Choice σ)) (name : String) : Option (Choice σ) :=
  options.find? (·.names.contains name)

/-- The option with a letter. -/
def lettered? (options : List (Choice σ)) (letter : Char) : Option (Choice σ) :=
  options.find? (·.letter == some letter)

/-- Reads a long option, from behind its hyphens. -/
def takeLong (options : List (Choice σ)) (r : Reading σ) (s : List Char) :
    Except Complaint (Reading σ) :=
  let name := String.ofList (s.takeWhile (· != '='))
  let attached := match s.dropWhile (· != '=') with
    | [] => none
    | _ :: value => some (String.ofList value)
  match named? options name with
  | some option => r.takeChoice option attached
  | none => .error .unknown

/-- Reads letters, from behind the hyphen. What follows the letter of an option with a value is the
value. -/
def takeLetters (options : List (Choice σ)) : Reading σ → List Char → Except Complaint (Reading σ)
  | r, [] => .ok r
  | r, c :: rest =>
    match lettered? options c with
    | none => .error .unknown
    | some option =>
      match option.effect, rest with
      | .value _, [] => r.takeChoice option none
      | .value _, '=' :: value => r.takeChoice option (some (.ofList value))
      | .value _, value => r.takeChoice option (some (.ofList value))
      | _, rest => do takeLetters options (← r.takeChoice option none) rest

/-- Reads an argument that is no option: the value of the option before, if that needs one. -/
def takeValue (r : Reading σ) (value : String) : Except Complaint (Reading σ) :=
  match r.pending with
  | .awaits option => .ok { r with pending := .holds option value }
  | _ => .error .unknown

/-- Reads one argument. -/
def take (options : List (Choice σ)) (r : Reading σ) (argument : String) :
    Except Complaint (Reading σ) :=
  if r.valuesOnly then .error .unknown
  else
    match argument.toList with
    | ['-', '-'] => .ok { r with valuesOnly := true }
    | '-' :: '-' :: s => takeLong options r s
    -- A hyphen on its own is a value.
    | '-' :: c :: s => takeLetters options r (c :: s)
    | _ => r.takeValue argument

end Reading

/-- Reads all arguments of a command with certain options, whose settings are `settings` at
first. -/
def readAll {σ : Type} (options : List (Choice σ)) (settings : σ) (arguments : List String) :
    Except Complaint σ := do
  let r ← arguments.foldlM (Reading.take options) (.start settings)
  return (← r.resolve).settings

/-! ## Options of common kinds -/

section

variable {σ : Type}

/-- The options that every command has. -/
def common : List (Choice σ) :=
  [⟨["help"], some 'h', .stop .help⟩, ⟨["version"], some 'V', .stop .version⟩]

/-- An option whose value is any text. -/
def textual (set : String → σ → σ) : Effect σ := .value fun value => .ok (set value)

/-- An option whose value is read by `read`. -/
def parsed {β ε : Type} (read : String → Except ε β) (set : β → σ → σ) : Effect σ :=
  .value fun value =>
    match read value with
    | .ok x => .ok (set x)
    | .error _ => .error .valueUnfit

/-- An option whose value is a natural number below a bound. -/
def counted (bound : Nat) (set : Nat → σ → σ) : Effect σ :=
  parsed (fun value => Text.natural bound value.toList) set

/-- An option whose value is a natural number below a bound, and may be zero with a minus sign. -/
def signed (bound : Nat) (set : Nat → σ → σ) : Effect σ :=
  parsed (fun value =>
    match value.toList with
    | '-' :: c :: s =>
      if (c :: s).all (· == '0') then .ok 0 else .error Text.NaturalFault.strayCharacter
    | s => Text.natural bound s) set

/-- An option whose value is the path of something. -/
def located (set : String → σ → σ) : Effect σ :=
  .value fun value => if value.isEmpty then .error .valueMissing else .ok (set value)

end

end TownTraffic.Command
