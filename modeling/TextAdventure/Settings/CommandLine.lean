import TextAdventure.Settings.Settings

/-!
# The command line

Options may come in any order and each once.  A short option can share its dash with others; a
value follows its option as the next word, after an equals sign, or right after the letter.  A
word that begins with a dash is no value, and neither is an empty one.  Help and version end the
reading of the words where they stand.
-/

set_option autoImplicit false

namespace TextAdventure

structure Options where
  development : Bool := false
  verbose : Bool := false
  config? : Option String := none
  dataDirectory? : Option String := none
  saveDirectory? : Option String := none
deriving DecidableEq

/-- What a command line asks for. -/
inductive Invocation where
  | play (options : Options)
  | help
  | version
  | misuse
deriving DecidableEq

/-- The options that take no value. -/
inductive Switch where
  | development
  | verbose
  | help
  | version

/-- The options that take a value. -/
inductive Valued where
  | config
  | dataDirectory
  | saveDirectory

namespace Options

/-- The options with a value set, unless it is set already or the value is empty. -/
def set? (o : Options) (setting : Valued) (value : String) : Option Options :=
  if value.isEmpty then none
  else
    match setting with
    | .config => if o.config?.isSome then none else some { o with config? := some value }
    | .dataDirectory =>
        if o.dataDirectory?.isSome then none else some { o with dataDirectory? := some value }
    | .saveDirectory =>
        if o.saveDirectory?.isSome then none else some { o with saveDirectory? := some value }

end Options

namespace Invocation

def longSwitch? : String → Option Switch
  | "development" => some .development
  | "verbose" => some .verbose
  | "help" => some .help
  | "version" => some .version
  | _ => none

def longValued? : String → Option Valued
  | "config" => some .config
  | "data-dir" => some .dataDirectory
  | "save-dir" => some .saveDirectory
  | _ => none

def shortSwitch? : Char → Option Switch
  | 'd' => some .development
  | 'v' => some .verbose
  | 'h' => some .help
  | 'V' => some .version
  | _ => none

/-- What a switch makes of the options: more options, or the end of the reading. -/
def turn (o : Options) : Switch → Except Invocation Options
  | .development => if o.development then .error misuse else .ok { o with development := true }
  | .verbose => if o.verbose then .error misuse else .ok { o with verbose := true }
  | .help => .error help
  | .version => .error version

def set (o : Options) (setting : Valued) (value : String) : Except Invocation Options :=
  match o.set? setting value with
  | some o => .ok o
  | none => .error misuse

/-- Whether a word can be the value of the option before it. -/
def isValue (word : String) : Bool :=
  word = "-" || word.toList.head? ≠ some '-'

/-- What one word has made of the options; a setting may still wait for its value. -/
structure Progress where
  options : Options
  waiting? : Option Valued := none

/-- The letters after a single dash. -/
def letters (o : Options) : List Char → Except Invocation Progress
  | [] => .ok { options := o }
  | 'c' :: [] => .ok { options := o, waiting? := some .config }
  | 'c' :: '=' :: value => do return { options := ← set o .config (String.ofList value) }
  | 'c' :: value => do return { options := ← set o .config (String.ofList value) }
  | c :: rest =>
      match shortSwitch? c with
      | some switch => do letters (← turn o switch) rest
      | none => .error misuse

/-- A word after two dashes. -/
def long (o : Options) (word : List Char) : Except Invocation Progress :=
  let name := String.ofList (word.takeWhile (· != '='))
  match word.dropWhile (· != '='), longSwitch? name, longValued? name with
  | [], some switch, _ => do return { options := ← turn o switch }
  | [], none, some setting => .ok { options := o, waiting? := some setting }
  | _ :: value, none, some setting => do return { options := ← set o setting (String.ofList value) }
  | _, _, _ => .error misuse

/-- One word where no value is waited for. -/
def word (o : Options) (w : String) : Except Invocation Progress :=
  match w.toList with
  | '-' :: '-' :: rest => long o rest
  | '-' :: c :: rest => letters o (c :: rest)
  | _ => .error misuse

/-- The rest of a command line. -/
def readFrom (p : Progress) : List String → Invocation
  | [] => if p.waiting?.isSome then misuse else play p.options
  | w :: rest =>
      match p.waiting? with
      | some setting =>
          if isValue w then
            match set p.options setting w with
            | .ok o => readFrom { options := o } rest
            | .error result => result
          else misuse
      | none =>
          if w = "--" then (if rest.isEmpty then play p.options else misuse)
          else
            match word p.options w with
            | .ok p => readFrom p rest
            | .error result => result

/-- What a command line asks for. -/
def ofArguments (arguments : List String) : Invocation :=
  readFrom { options := {} } arguments

end Invocation

namespace Options

/-- The settings of a command line: those of the settings file, overridden by the options. -/
def settings (o : Options) (t : FileTable) : Settings :=
  let s := Settings.load t (o.config?.getD Settings.defaultFile)
  { s with
    development := s.development || o.development
    directories :=
      ⟨o.dataDirectory?.getD s.directories.data, o.saveDirectory?.getD s.directories.save⟩ }

end Options

end TextAdventure
