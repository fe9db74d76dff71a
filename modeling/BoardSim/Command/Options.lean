import BoardSim.Command.Value

/-!
# Command line options

Settings take a value, in the same word after `=` or as the next word; switches take none. Short
names can be strung together. What a setting is given as its next word is checked only when the
next option or the end of the line is reached, so a word that is no option at all is reported
before a bad value.
-/

namespace BoardSim.Command

structure Options where
  board : Option String := none
  ticks : UInt64 := 1000
  trace : Bool := false
  canTrace : Bool := false
  /-- Frames to put on CAN bus 0 after start-up. -/
  inject : List Can.Frame := []
  /-- The reading of the temperature probe. -/
  probe : UInt16 := 0x6A4
  /-- Where the final state is written to. -/
  snapshot : Option String := none
  json : Bool := false
deriving DecidableEq

inductive UsageError where
  | unknownArgument
  | missingValue
  | badValue
  /-- A switch, or a setting that can have one value, is given twice. -/
  | repeated
  /-- A switch is given a value. -/
  | unexpectedValue
  | help
  | version
deriving DecidableEq

inductive Setting where
  | board
  | ticks
  | inject
  | probe
  | snapshot
deriving DecidableEq

inductive Switch where
  | trace
  | canTrace
  | json
  | help
  | version
deriving DecidableEq

inductive Name where
  | setting (s : Setting)
  | switch (s : Switch)
deriving DecidableEq

namespace Name

def ofLong? : String → Option Name
  | "board" => some (.setting .board)
  | "ticks" => some (.setting .ticks)
  | "inject" => some (.setting .inject)
  | "probe" => some (.setting .probe)
  | "snapshot" => some (.setting .snapshot)
  | "trace" => some (.switch .trace)
  | "can-trace" => some (.switch .canTrace)
  | "json" => some (.switch .json)
  | "help" => some (.switch .help)
  | "version" => some (.switch .version)
  | _ => none

def ofShort? : Char → Option Name
  | 'b' => some (.setting .board)
  | 'n' => some (.setting .ticks)
  | 't' => some (.switch .trace)
  | 'h' => some (.switch .help)
  | 'V' => some (.switch .version)
  | _ => none

end Name

/-- A path is any text but the empty one. -/
def pathOf (value : String) : Except UsageError String :=
  if value.isEmpty then .error .missingValue else .ok value

/-- A value with a syntax of its own. -/
def checked {α ε : Type} (value : Except ε α) : Except UsageError α :=
  value.mapError fun _ => .badValue

namespace Options

def set (o : Options) (s : Setting) (value : String) : Except UsageError Options :=
  match s with
  | .board => do pure { o with board := some (← pathOf value) }
  | .ticks => do
    let n ← checked (Text.unsigned 10 UInt64.size value.toList)
    pure { o with ticks := UInt64.ofNat n }
  | .inject => do pure { o with inject := o.inject ++ [← checked (frameOf value.toList)] }
  | .probe => do pure { o with probe := ← checked (wordOf value.toList) }
  | .snapshot => do pure { o with snapshot := some (← pathOf value) }

def turnOn (o : Options) : Switch → Except UsageError Options
  | .trace => .ok { o with trace := true }
  | .canTrace => .ok { o with canTrace := true }
  | .json => .ok { o with json := true }
  | .help => .error .help
  | .version => .error .version

end Options

/-- The options of the words read so far. -/
structure Reading where
  options : Options := {}
  given : List Name := []
  /-- A setting whose value has not been checked, or has not been read. -/
  pending : Option (Setting × Option String) := none

namespace Reading

/-- Note that a name is given. Only frames can be given more than once. -/
def give (r : Reading) (name : Name) : Except UsageError Reading :=
  if name ≠ .setting .inject ∧ name ∈ r.given then .error .repeated
  else .ok { r with given := name :: r.given }

def assign (r : Reading) (s : Setting) (value : String) : Except UsageError Reading := do
  let r ← r.give (.setting s)
  let options ← r.options.set s value
  pure { r with options }

def settle (r : Reading) : Except UsageError Reading :=
  match r.pending with
  | none => .ok r
  | some (_, none) => .error .missingValue
  | some (s, some value) => ({ r with pending := none }).assign s value

def turnOn (r : Reading) (s : Switch) : Except UsageError Reading := do
  let r ← (← r.settle).give (.switch s)
  let options ← r.options.turnOn s
  pure { r with options }

/-- A setting, with its value if that is in the same word. -/
def setting (r : Reading) (s : Setting) (value : Option String) : Except UsageError Reading := do
  let r ← r.settle
  match value with
  | some value => r.assign s value
  | none => pure { r with pending := some (s, none) }

/-- A word that is no option: the value of the setting before it. -/
def plain (r : Reading) (word : String) : Except UsageError Reading :=
  match r.pending with
  | some (s, none) => .ok { r with pending := some (s, some word) }
  | _ => .error .unknownArgument

/-- The text after an equals sign. -/
def attached? : List Char → Option String
  | '=' :: value => some (String.ofList value)
  | _ => none

/-- A word of long form, after its two dashes. -/
def long (r : Reading) (body : List Char) : Except UsageError Reading :=
  let value := attached? (body.dropWhile (· ≠ '='))
  match Name.ofLong? (String.ofList (body.takeWhile (· ≠ '='))), value with
  | none, _ => .error .unknownArgument
  | some (.setting s), value => r.setting s value
  | some (.switch s), none => r.turnOn s
  | some (.switch _), some _ => .error .unexpectedValue

/-- The value of a setting in the rest of a word of short form. -/
def rest? : List Char → Option String
  | [] => none
  | '=' :: value => some (String.ofList value)
  | value => some (String.ofList value)

/-- A word of short form, after its dash. -/
def short (r : Reading) : List Char → Except UsageError Reading
  | [] => .ok r
  | c :: more =>
    match Name.ofShort? c with
    | none => .error .unknownArgument
    | some (.setting s) => r.setting s (rest? more)
    | some (.switch s) => do (← r.turnOn s).short more

def word (r : Reading) (word : String) : Except UsageError Reading :=
  match word.toList with
  | '-' :: '-' :: body => r.long body
  | '-' :: c :: more => r.short (c :: more)
  | _ => r.plain word

end Reading

def Options.ofWords (words : List String) : Except UsageError Options :=
  go {} words
where
  go (r : Reading) : List String → Except UsageError Options
    | [] => r.settle.map (·.options)
    | "--" :: rest => if rest.isEmpty then r.settle.map (·.options) else .error .unknownArgument
    | word :: rest => do go (← r.word word) rest

end BoardSim.Command
